import Mathlib.Data.List.Forall2

/-!
# Computations that may fail

When a mapped computation and one over a whole list succeed or fail.
-/

namespace Except

variable {α β ε : Type}

theorem map_eq_ok_iff {x : Except ε α} {f : α → β} {b : β} :
    x.map f = .ok b ↔ ∃ a, x = .ok a ∧ f a = b := by
  cases x with
  | error e =>
      constructor
      · intro h
        cases h
      · rintro ⟨_, h, -⟩
        cases h
  | ok a =>
      constructor
      · intro h
        cases h
        exact ⟨a, rfl, rfl⟩
      · rintro ⟨_, h, rfl⟩
        cases h
        rfl

theorem map_eq_error_iff {x : Except ε α} {f : α → β} {e : ε} :
    x.map f = .error e ↔ x = .error e := by
  cases x with
  | error e' =>
      constructor
      · intro h
        cases h
        rfl
      · intro h
        cases h
        rfl
  | ok a =>
      constructor
      · intro h
        cases h
      · intro h
        cases h

theorem eq_ok_of_toOption {x : Except ε α} {a : α} (h : x.toOption = some a) : x = .ok a := by
  cases x with
  | error e => cases h
  | ok b =>
      cases h
      rfl

theorem exists_error_of_toOption {x : Except ε α} (h : x.toOption = none) :
    ∃ e, x = .error e := by
  cases x with
  | error e => exact ⟨e, rfl⟩
  | ok a => cases h

theorem mapM_eq_ok_iff {f : α → Except ε β} {xs : List α} {ys : List β} :
    xs.mapM f = .ok ys ↔ List.Forall₂ (fun x y => f x = .ok y) xs ys := by
  induction xs generalizing ys with
  | nil =>
      rw [List.mapM_nil, List.forall₂_nil_left_iff]
      constructor
      · intro h
        cases h
        rfl
      · rintro rfl
        rfl
  | cons x xs ih =>
      rw [List.mapM_cons, List.forall₂_cons_left_iff]
      cases hx : f x with
      | error e =>
          constructor
          · intro h
            cases h
          · rintro ⟨_, _, h, -⟩
            cases h
      | ok y =>
          cases hxs : xs.mapM f with
          | error e =>
              constructor
              · intro h
                cases h
              · rintro ⟨_, zs, -, h, -⟩
                rw [ih.mpr h] at hxs
                cases hxs
          | ok zs =>
              constructor
              · intro h
                cases h
                exact ⟨y, zs, rfl, ih.mp hxs, rfl⟩
              · rintro ⟨_, zs', h, hzs', rfl⟩
                cases h
                rw [ih.mpr hzs'] at hxs
                cases hxs
                rfl

/-- The failure of a whole list is that of the first member that fails. -/
theorem mapM_eq_error_iff {f : α → Except ε β} {xs : List α} {e : ε} :
    xs.mapM f = .error e ↔
      ∃ before x after, xs = before ++ x :: after ∧ (∀ y ∈ before, ∃ b, f y = .ok b) ∧
        f x = .error e := by
  induction xs with
  | nil =>
      constructor
      · intro h
        cases h
      · rintro ⟨before, x, after, h, -⟩
        exact absurd h.symm (List.append_ne_nil_of_right_ne_nil before (List.cons_ne_nil x after))
  | cons x xs ih =>
      rw [List.mapM_cons]
      cases hx : f x with
      | error e' =>
          constructor
          · intro h
            cases h
            exact ⟨[], x, xs, rfl, fun y hy => absurd hy List.not_mem_nil, hx⟩
          · rintro ⟨before, y, after, h, hbefore, hy⟩
            cases before with
            | nil =>
                cases h
                rw [hx] at hy
                cases hy
                rfl
            | cons z before =>
                cases h
                obtain ⟨b, hb⟩ := hbefore x (List.mem_cons_self ..)
                rw [hx] at hb
                cases hb
      | ok b =>
          have htail : ((do let bs ← xs.mapM f; pure (b :: bs)) = Except.error e) ↔
              xs.mapM f = .error e := by
            cases xs.mapM f with
            | error e' => exact Iff.rfl
            | ok bs =>
                constructor
                · intro h
                  cases h
                · intro h
                  cases h
          refine htail.trans (ih.trans ?_)
          constructor
          · rintro ⟨before, y, after, rfl, hbefore, hy⟩
            refine ⟨x :: before, y, after, rfl, ?_, hy⟩
            intro z hz
            rcases List.mem_cons.mp hz with rfl | hz
            · exact ⟨b, hx⟩
            · exact hbefore z hz
          · rintro ⟨before, y, after, h, hbefore, hy⟩
            cases before with
            | nil =>
                cases h
                rw [hx] at hy
                cases hy
            | cons z before =>
                cases h
                exact ⟨before, y, after, rfl,
                  fun z hz => hbefore z (List.mem_cons_of_mem _ hz), hy⟩

theorem exists_mapM_eq_ok_iff {f : α → Except ε β} {xs : List α} :
    (∃ ys, xs.mapM f = .ok ys) ↔ ∀ x ∈ xs, ∃ y, f x = .ok y := by
  constructor
  · rintro ⟨ys, h⟩ x hx
    have hall := mapM_eq_ok_iff.mp h
    clear h
    induction hall with
    | nil => cases hx
    | cons hy _ ih =>
        rcases List.mem_cons.mp hx with rfl | hx
        · exact ⟨_, hy⟩
        · exact ih hx
  · intro h
    cases hread : xs.mapM f with
    | ok ys => exact ⟨ys, rfl⟩
    | error e =>
        obtain ⟨before, x, after, rfl, -, he⟩ := mapM_eq_error_iff.mp hread
        obtain ⟨y, hy⟩ := h x (by simp)
        cases he.symm.trans hy

theorem mapM_congr_of_map {f : α → Except ε β} {xs ys : List α} (h : xs.map f = ys.map f) :
    xs.mapM f = ys.mapM f := by
  have hmap : ∀ zs : List α, zs.mapM f = (zs.map f).mapM id := fun zs => by rw [List.mapM_map]; rfl
  rw [hmap, hmap, h]

end Except
