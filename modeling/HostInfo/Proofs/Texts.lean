import Mathlib.Data.List.DropRight
import HostInfo.Text.Blank
import HostInfo.Text.Fields
import HostInfo.Text.Cut

/-!
# Texts put together and taken apart

What cutting, trimming and parting into fields or lines find in a text that was put together from
parts. Each is the other way round of an operation on texts: a mark, blanks at the end, one space
between two words, a line feed behind each line.
-/

namespace HostInfo.Text

/-! ## Cutting around a mark -/

theorem stripStart_append (mark s : List Char) : stripStart? mark (mark ++ s) = some s := by
  simp [stripStart?]

theorem stripStart_eq_some {mark s rest : List Char} (h : stripStart? mark s = some rest) :
    s = mark ++ rest := by
  unfold stripStart? at h
  split at h
  · rename_i hp
    obtain ⟨t, rfl⟩ := List.isPrefixOf_iff_prefix.mp hp
    simpa using h
  · simp at h

theorem stripStart_eq_none_iff {mark s : List Char} :
    stripStart? mark s = none ↔ ¬ mark <+: s := by
  constructor
  · rintro h ⟨rest, rfl⟩
    rw [stripStart_append] at h
    cases h
  · intro h
    rw [Option.eq_none_iff_forall_ne_some]
    intro rest hrest
    exact h ⟨rest, (stripStart_eq_some hrest).symm⟩

theorem cutFirst_append {c : Char} {a : List Char} (h : c ∉ a) (b : List Char) :
    cutFirst? c (a ++ c :: b) = some (a, b) := by
  induction a with
  | nil => simp [cutFirst?]
  | cons d a ih =>
      rw [List.mem_cons, not_or] at h
      rw [List.cons_append, cutFirst?, if_neg (Ne.symm h.1), ih h.2]
      rfl

theorem cutFirst_eq_none_iff {c : Char} {s : List Char} : cutFirst? c s = none ↔ c ∉ s := by
  constructor
  · intro h hc
    obtain ⟨a, b, rfl, ha⟩ := List.eq_append_cons_of_mem hc
    rw [cutFirst_append ha] at h
    cases h
  · intro h
    rw [Option.eq_none_iff_forall_ne_some]
    rintro ⟨a, b⟩ hcut
    obtain ⟨rfl, -⟩ := cutFirst_eq_some hcut
    exact h (by simp)

theorem cutLast_eq_none_iff {mark s : List Char} (hmark : mark ≠ []) :
    cutLast? mark s = none ↔ ¬ mark <:+: s := by
  induction s with
  | nil => simp [cutLast?, hmark]
  | cons d s ih =>
      rw [List.infix_cons_iff, not_or, ← stripStart_eq_none_iff, ← ih, cutLast?]
      cases cutLast? mark s with
      | none => simp
      | some p => simp

/-- A mark that starts with another character than all that stands in front is behind it. -/
theorem infix_of_infix_append {m : Char} {mark a b : List Char} (hm : m ∉ a)
    (h : m :: mark <:+: a ++ b) : m :: mark <:+: b := by
  induction a with
  | nil => exact h
  | cons d a ih =>
      rw [List.mem_cons, not_or] at hm
      rcases List.infix_cons_iff.mp h with hprefix | hinfix
      · exact absurd (List.cons_prefix_cons.mp hprefix).1 hm.1
      · exact ih hm.2 hinfix

/-- The mark that is found is one behind which there is no other. -/
theorem cutLast_eq_some_iff {m : Char} {mark s a b : List Char} (hm : m ∉ mark) :
    cutLast? (m :: mark) s = some (a, b) ↔ s = a ++ (m :: mark ++ b) ∧ ¬ m :: mark <:+: b := by
  induction s generalizing a b with
  | nil => simp [cutLast?]
  | cons d s ih =>
      rw [cutLast?]
      cases hcut : cutLast? (m :: mark) s with
      | some p =>
          obtain ⟨a', b'⟩ := p
          obtain ⟨rfl, hlast⟩ := ih.mp hcut
          constructor
          · intro h
            cases h
            exact ⟨rfl, hlast⟩
          · rintro ⟨hs, hb⟩
            cases a with
            | nil =>
                obtain ⟨-, htail⟩ := List.cons.inj hs
                -- the mark that was found in the rest would then be one in `b`
                have hinfix : m :: mark <:+: mark ++ b := ⟨a', b', by simpa using htail⟩
                exact absurd (infix_of_infix_append hm hinfix) hb
            | cons e a =>
                obtain ⟨rfl, htail⟩ := List.cons.inj hs
                have hsame := ih.mpr ⟨htail, hb⟩
                rw [hcut] at hsame
                cases hsame
                rfl
      | none =>
          have hnot := (cutLast_eq_none_iff (List.cons_ne_nil m mark)).mp hcut
          constructor
          · intro h
            obtain ⟨rest, hrest, heq⟩ := Option.map_eq_some_iff.mp h
            cases heq
            have hs := stripStart_eq_some hrest
            refine ⟨hs, ?_⟩
            intro hb
            obtain ⟨-, htail⟩ := List.cons.inj hs
            exact hnot (htail ▸ hb.trans (List.suffix_append mark b).isInfix)
          · rintro ⟨hs, -⟩
            cases a with
            | nil =>
                rw [List.nil_append] at hs
                rw [hs, stripStart_append]
                rfl
            | cons e a =>
                obtain ⟨-, htail⟩ := List.cons.inj hs
                exact absurd (htail ▸ ⟨a, b, by simp⟩) hnot

/-- Whatever stands in front, the mark that the rest has no first character of is the last. -/
theorem cutLast_append {m : Char} {mark b : List Char} (hm : m ∉ mark) (hb : m ∉ b)
    (a : List Char) : cutLast? (m :: mark) (a ++ (m :: mark ++ b)) = some (a, b) :=
  (cutLast_eq_some_iff hm).mpr ⟨rfl, fun h => hb (h.subset (List.mem_cons_self ..))⟩

/-! ## Trimming -/

theorem trimEnd_eq_rdropWhile : trimEnd = List.rdropWhile isBlank := rfl

theorem trimEnd_concat_blank {c : Char} (h : isBlank c) (s : List Char) :
    trimEnd (s ++ [c]) = trimEnd s := by
  rw [trimEnd_eq_rdropWhile]
  exact List.rdropWhile_concat_pos _ _ _ h

theorem trimEnd_concat {c : Char} (h : isBlank c = false) (s : List Char) :
    trimEnd (s ++ [c]) = s ++ [c] := by
  rw [trimEnd_eq_rdropWhile]
  exact List.rdropWhile_concat_neg _ _ _ (by simp [h])

theorem trimEnd_append {w : List Char} (hne : w ≠ []) (h : ∀ c ∈ w, isBlank c = false)
    (s : List Char) : trimEnd (s ++ w) = s ++ w := by
  induction w using List.reverseRecOn with
  | nil => exact absurd rfl hne
  | append_singleton w c _ =>
      rw [← List.append_assoc]
      exact trimEnd_concat (h c (by simp)) (s ++ w)

/-- Of what is put behind a text that does not end in a blank, trimming leaves a front part. -/
theorem exists_trimEnd_append {s : List Char} (h : trimEnd s = s) (extra : List Char) :
    ∃ kept, kept <+: extra ∧ trimEnd (s ++ extra) = s ++ kept := by
  induction extra using List.reverseRecOn with
  | nil => exact ⟨[], List.prefix_rfl, by rw [List.append_nil, h]⟩
  | append_singleton extra c ih =>
      rw [← List.append_assoc]
      cases hc : isBlank c with
      | true =>
          obtain ⟨kept, hkept, htrim⟩ := ih
          refine ⟨kept, hkept.trans (List.prefix_append extra [c]), ?_⟩
          rw [trimEnd_concat_blank hc, htrim]
      | false => exact ⟨extra ++ [c], List.prefix_rfl, by rw [trimEnd_concat hc, List.append_assoc]⟩

theorem trimEnd_trimEnd (s : List Char) : trimEnd (trimEnd s) = trimEnd s :=
  List.rdropWhile_idempotent isBlank s

theorem mem_intercalate {c : Char} {ws : List (List Char)}
    (h : c ∈ [' '].intercalate ws) :
    c = ' ' ∨ ∃ w ∈ ws, c ∈ w := by
  induction ws with
  | nil => simp at h
  | cons w ws ih =>
      cases ws with
      | nil =>
          rw [List.intercalate_singleton] at h
          exact Or.inr ⟨w, List.mem_cons_self .., h⟩
      | cons v ws =>
          simp only [List.intercalate_cons_cons, List.mem_append, List.mem_singleton] at h
          rcases h with (h | h) | h
          · exact Or.inr ⟨w, List.mem_cons_self .., h⟩
          · exact Or.inl h
          · rcases ih h with h | ⟨u, hu, hc⟩
            · exact Or.inl h
            · exact Or.inr ⟨u, List.mem_cons_of_mem _ hu, hc⟩

/-- Words with one space between them end where the last word does. -/
theorem trimEnd_intercalate {ws : List (List Char)} (hne : ws ≠ [])
    (h : ∀ w ∈ ws, w ≠ [] ∧ ∀ c ∈ w, isBlank c = false) (s : List Char) :
    trimEnd (s ++ [' '].intercalate ws) = s ++ [' '].intercalate ws := by
  induction ws generalizing s with
  | nil => exact absurd rfl hne
  | cons w ws ih =>
      cases ws with
      | nil =>
          obtain ⟨hw, hblank⟩ := h w (List.mem_cons_self ..)
          rw [List.intercalate_singleton]
          exact trimEnd_append hw hblank s
      | cons v ws =>
          rw [List.intercalate_cons_cons, ← List.append_assoc]
          exact ih (by simp) (fun u hu => h u (List.mem_cons_of_mem _ hu)) _

theorem trimStart_eq_self {s : List Char} (h : ∀ c ∈ s, isBlank c = false) : trimStart s = s := by
  cases s with
  | nil => rfl
  | cons c s => exact List.dropWhile_cons_of_neg (by simp [h c (List.mem_cons_self ..)])

theorem trim_eq_self {s : List Char} (h : ∀ c ∈ s, isBlank c = false) : trim s = s := by
  cases s with
  | nil => rfl
  | cons c s =>
      have hend : trimEnd (c :: s) = c :: s := trimEnd_append (by simp) h []
      rw [trim, hend, trimStart_eq_self h]

theorem mem_of_mem_trim {s : List Char} {c : Char} (h : c ∈ trim s) : c ∈ s := by
  have hend : c ∈ trimEnd s := (List.dropWhile_suffix isBlank).subset h
  rw [trimEnd_eq_rdropWhile] at hend
  exact (List.rdropWhile_prefix isBlank s).subset hend

theorem isBlank_getLast_trim {s : List Char} {c : Char} (h : (trim s).getLast? = some c) :
    isBlank c = false := by
  obtain ⟨front, hfront⟩ := List.getLast?_eq_some_iff.mp h
  obtain ⟨blanks, hblanks⟩ : trim s <:+ trimEnd s := List.dropWhile_suffix isBlank
  have hend : List.rdropWhile isBlank s = blanks ++ front ++ [c] := by
    rw [← trimEnd_eq_rdropWhile, ← hblanks, hfront, List.append_assoc]
  have hlast := List.rdropWhile_last_not isBlank s (by simp [hend])
  simpa [hend] using hlast

/-! ## Fields -/

/-- What can be a field: at least one character, none of which parts fields. -/
def IsField (w : List Char) : Prop := w ≠ [] ∧ ∀ c ∈ w, isFieldBlank c = false

theorem fields_of_isField {w : List Char} (h : IsField w) : fields w = [w] := by
  rw [fields, List.splitOnP_eq_singleton h.2]
  simp [h.1]

theorem fields_append_blank {c : Char} (hc : isFieldBlank c) (s t : List Char) :
    fields (s ++ c :: t) = fields s ++ fields t := by
  rw [fields, List.splitOnP_append_cons s t hc, List.filter_append]
  rfl

/-- A text that does not start with a blank starts with its first field. -/
theorem exists_fields_cons {c : Char} (hc : isFieldBlank c = false) (s : List Char) :
    ∃ w rest, fields (c :: s) = (c :: w) :: rest := by
  obtain ⟨w, pieces, hs⟩ := List.exists_cons_of_ne_nil (List.splitOnP_ne_nil isFieldBlank s)
  refine ⟨w, pieces.filter (· ≠ []), ?_⟩
  rw [fields, List.splitOnP_cons_eq_if_modifyHead, hs]
  simp [hc]

theorem fields_withoutReturn (l : List Char) : fields (withoutReturn l) = fields l := by
  unfold withoutReturn
  split
  · next h =>
      obtain ⟨front, rfl⟩ := List.getLast?_eq_some_iff.mp h
      have hnil : fields [] = [] := rfl
      rw [List.dropLast_concat, fields_append_blank (by decide), hnil, List.append_nil]
  · rfl

/-- Words with one space between them are read back. -/
theorem fields_intercalate {ws : List (List Char)} (h : ∀ w ∈ ws, IsField w) :
    fields ([' '].intercalate ws) = ws := by
  induction ws with
  | nil => rfl
  | cons w ws ih =>
      have hw : fields w = [w] := fields_of_isField (h w (List.mem_cons_self ..))
      have hws : ∀ v ∈ ws, IsField v := fun v hv => h v (List.mem_cons_of_mem _ hv)
      cases ws with
      | nil => rw [List.intercalate_singleton, hw]
      | cons v ws =>
          rw [List.intercalate_cons_cons, List.append_assoc, List.singleton_append,
            fields_append_blank (by decide), hw, ih hws]
          rfl

/-! ## Lines -/

/-- What can be a line: no line feed is in it, and no carriage return at its end. -/
def IsLine (l : List Char) : Prop := '\n' ∉ l ∧ l.getLast? ≠ some '\r'

theorem isLine_nil : IsLine [] := ⟨by decide, by decide⟩

theorem IsLine.append {a b : List Char} (ha : '\n' ∉ a) (hne : b ≠ []) (hb : IsLine b) :
    IsLine (a ++ b) := by
  constructor
  · rw [List.mem_append, not_or]
    exact ⟨ha, hb.1⟩
  · rw [List.getLast?_append_of_ne_nil a hne]
    exact hb.2

theorem isLine_append {a b : List Char} (ha : IsLine a) (hb : IsLine b) : IsLine (a ++ b) := by
  by_cases hb' : b = []
  · rwa [hb', List.append_nil]
  · exact IsLine.append ha.1 hb' hb

theorem no_blank_of_all {s : List Char} (h : s.all (!isBlank ·)) :
    ∀ c ∈ s, isBlank c = false := by
  simpa using h

theorem isLine_of_no_blank {s : List Char} (h : ∀ c ∈ s, isBlank c = false) : IsLine s := by
  constructor
  · intro hfeed
    exact absurd (h _ hfeed) (by decide)
  · intro hreturn
    exact absurd (h _ (List.mem_of_getLast? hreturn)) (by decide)

theorem isLine_intercalate {ws : List (List Char)} (h : ∀ w ∈ ws, IsField w) :
    IsLine ([' '].intercalate ws) := by
  have hblank : ∀ c, isFieldBlank c = true → c ≠ ' ' → c ∉ [' '].intercalate ws := by
    intro c hc hspace hmem
    rcases mem_intercalate hmem with rfl | ⟨w, hw, hcw⟩
    · exact hspace rfl
    · rw [(h w hw).2 c hcw] at hc
      cases hc
  refine ⟨hblank '\n' (by decide) (by decide), ?_⟩
  intro hlast
  exact hblank '\r' (by decide) (by decide) (List.mem_of_getLast? hlast)

theorem lines_cons {l : List Char} (h : '\n' ∉ l) (s : List Char) :
    lines (l ++ '\n' :: s) = withoutReturn l :: lines s := by
  have hne := List.splitOn_ne_nil '\n' s
  rw [lines, List.splitOn_append_cons_self_of_not_mem h, List.dropLast_cons_of_ne_nil hne,
    List.getLast?_cons_of_ne_nil hne]
  rfl

theorem lines_of_not_mem {l : List Char} (hne : l ≠ []) (h : '\n' ∉ l) : lines l = [l] := by
  rw [lines, List.splitOn_eq_singleton h]
  simp [hne]

/-- Lines with a line feed behind each are read back, and what follows them is read as well. -/
theorem lines_flatMap_append {ls : List (List Char)} (h : ∀ l ∈ ls, IsLine l) (s : List Char) :
    lines (ls.flatMap (· ++ ['\n']) ++ s) = ls ++ lines s := by
  induction ls with
  | nil => rfl
  | cons l ls ih =>
      obtain ⟨hfeed, hreturn⟩ := h l (List.mem_cons_self ..)
      have hl : withoutReturn l = l := if_neg hreturn
      rw [List.flatMap_cons, List.append_assoc, List.append_assoc, List.singleton_append,
        lines_cons hfeed, hl, ih fun l' hl' => h l' (List.mem_cons_of_mem _ hl')]
      rfl

theorem lines_flatMap {ls : List (List Char)} (h : ∀ l ∈ ls, IsLine l) :
    lines (ls.flatMap (· ++ ['\n'])) = ls := by
  have hlines := lines_flatMap_append h []
  have hnil : lines [] = [] := rfl
  rwa [List.append_nil, hnil, List.append_nil] at hlines

/-- In front of a line feed every piece is a line. -/
theorem lines_append_feed (s t : List Char) :
    lines (s ++ '\n' :: t) = (s.splitOn '\n').map withoutReturn ++ lines t := by
  have hne := List.splitOn_ne_nil '\n' t
  have hsplit : (s ++ '\n' :: t).splitOn '\n' = s.splitOn '\n' ++ t.splitOn '\n' :=
    List.splitOnP_append_cons s t (by decide)
  rw [lines, hsplit, List.dropLast_append_of_ne_nil hne, List.getLast?_append_of_ne_nil _ hne,
    List.map_append, List.append_assoc]
  rfl

theorem lines_append {s : List Char} (h : s.getLast? = some '\n') (t : List Char) :
    lines (s ++ t) = lines s ++ lines t := by
  obtain ⟨front, rfl⟩ := List.getLast?_eq_some_iff.mp h
  have hnil : lines [] = [] := rfl
  rw [List.append_assoc, List.singleton_append, lines_append_feed, lines_append_feed, hnil,
    List.append_nil]

theorem not_mem_of_mem_splitOn {c : Char} {s l : List Char} (h : l ∈ s.splitOn c) : c ∉ l := by
  induction s generalizing l with
  | nil =>
      rw [List.splitOn_nil, List.mem_singleton] at h
      rw [h]
      exact List.not_mem_nil
  | cons d s ih =>
      rw [List.splitOn_cons_eq_if_modifyHead] at h
      obtain ⟨first, rest, hs⟩ := List.exists_cons_of_ne_nil (List.splitOn_ne_nil c s)
      rw [hs] at h ih
      split at h
      · rcases List.mem_cons.mp h with rfl | h
        · exact List.not_mem_nil
        · exact ih h
      · rename_i hd
        rcases List.mem_cons.mp h with rfl | h
        · rw [List.mem_cons, not_or]
          exact ⟨fun hc => hd (beq_iff_eq.mpr hc.symm), ih (List.mem_cons_self ..)⟩
        · exact ih (List.mem_cons_of_mem _ h)

theorem not_mem_of_mem_lines {s l : List Char} (h : l ∈ lines s) : '\n' ∉ l := by
  rcases List.mem_append.mp h with h | h
  · obtain ⟨piece, hpiece, rfl⟩ := List.mem_map.mp h
    have hfree := not_mem_of_mem_splitOn (List.dropLast_subset _ hpiece)
    unfold withoutReturn
    split
    · exact fun hmem => hfree (List.dropLast_subset _ hmem)
    · exact hfree
  · have hpiece := (List.mem_filter.mp h).1
    rw [Option.mem_toList] at hpiece
    exact not_mem_of_mem_splitOn (List.mem_of_getLast? hpiece)

end HostInfo.Text
