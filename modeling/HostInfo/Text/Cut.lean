/-!
# Cutting a text

The parts of a text around a mark: before and after its first or its last occurrence.
-/

namespace HostInfo.Text

/-- What follows `mark`, if the text starts with it. -/
def stripStart? (mark s : List Char) : Option (List Char) :=
  if mark.isPrefixOf s then some (s.drop mark.length) else none

/-- What stands before and after the first `c`. -/
def cutFirst? (c : Char) : List Char → Option (List Char × List Char)
  | [] => none
  | d :: s => if d = c then some ([], s) else (cutFirst? c s).map fun (a, b) => (d :: a, b)

/-- What stands before and after the last occurrence of `mark`. -/
def cutLast? (mark : List Char) : List Char → Option (List Char × List Char)
  | [] => none
  | c :: s =>
    match cutLast? mark s with
    | some (a, b) => some (c :: a, b)
    | none => (stripStart? mark (c :: s)).map fun rest => ([], rest)

theorem cutFirst_eq_some {c : Char} {s a b : List Char} (h : cutFirst? c s = some (a, b)) :
    s = a ++ c :: b ∧ c ∉ a := by
  induction s generalizing a with
  | nil => simp [cutFirst?] at h
  | cons d s ih =>
    by_cases hd : d = c
    · simp [cutFirst?, hd] at h
      obtain ⟨rfl, rfl⟩ := h
      simp [hd]
    · simp only [cutFirst?, hd, ↓reduceIte, Option.map_eq_some_iff, Prod.mk.injEq,
        Prod.exists] at h
      obtain ⟨a', b', h', rfl, rfl⟩ := h
      obtain ⟨rfl, hmem⟩ := ih h'
      exact ⟨rfl, by simp [hmem, Ne.symm hd]⟩

end HostInfo.Text
