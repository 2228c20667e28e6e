import HostInfo.Proofs.Cpu.Ticks
import HostInfo.Proofs.NumeralForms
import HostInfo.Proofs.Numerals

/-!
# Lines of counters

Which lines the reader of the counters looks at, said by the first word of a line: it ends the
counters, it is about a single core, or it is skipped. Printed counters are read back, whatever was
printed for all cores together, for the time spent waiting and behind the counters.
-/

namespace HostInfo.Cpu.Ticks

open Numeral

/-- The line has a word in front that does not start with `cpu`. -/
def Stops (line : List Char) : Prop :=
  ∃ word rest, Text.fields line = word :: rest ∧ ¬ "cpu".toList <+: word

/-- The first word of the line is `cpu` with an ASCII digit behind it. -/
def OfCore (line : List Char) : Prop :=
  ∃ c id rest, Text.fields line = ("cpu".toList ++ c :: id) :: rest ∧ '0' ≤ c ∧ c ≤ '9'

/-! ## Lines that count -/

theorem key?_eq {line word : List Char} {rest : List (List Char)}
    (h : Text.fields line = word :: rest) : key? line = Text.stripStart? "cpu".toList word := by
  rw [key?, h, List.head?_cons, Option.bind_some]

theorem isCounterLine_eq_false_iff {line : List Char} :
    isCounterLine line = false ↔ Stops line := by
  cases hline : Text.fields line with
  | nil =>
      constructor
      · intro h
        rw [isCounterLine, hline] at h
        cases h
      · rintro ⟨word, rest, h, -⟩
        rw [hline] at h
        cases h
  | cons word rest =>
      rw [isCounterLine, key?_eq hline, hline, List.isEmpty_cons, Bool.false_or,
        Option.isSome_eq_false_iff, Option.isNone_iff_eq_none, Text.stripStart_eq_none_iff]
      constructor
      · intro h
        exact ⟨word, rest, hline, h⟩
      · rintro ⟨word', rest', h, hnot⟩
        cases hline.symm.trans h
        exact hnot

theorem isCounterLine_of_not_stops {line : List Char} (h : ¬ Stops line) :
    isCounterLine line = true := by
  rwa [← isCounterLine_eq_false_iff, Bool.not_eq_false] at h

theorem isCoreLine_iff {line : List Char} : isCoreLine line = true ↔ OfCore line := by
  constructor
  · intro h
    cases hline : Text.fields line with
    | nil =>
        rw [isCoreLine, key?, hline] at h
        cases h
    | cons word rest =>
        rw [isCoreLine, key?_eq hline] at h
        split at h
        · next c id hkey =>
            obtain rfl := Text.stripStart_eq_some hkey
            exact ⟨c, id, rest, hline, isDigit_iff.mp h⟩
        · cases h
  · rintro ⟨c, id, rest, hline, hdigit⟩
    rw [isCoreLine, key?_eq hline, Text.stripStart_append]
    exact isDigit_iff.mpr hdigit

instance : DecidablePred Stops := fun _ => decidable_of_iff _ isCounterLine_eq_false_iff

instance : DecidablePred OfCore := fun _ => decidable_of_iff _ isCoreLine_iff

theorem stops_congr {line line' : List Char}
    (h : (Text.fields line).head? = (Text.fields line').head?) : Stops line ↔ Stops line' := by
  have hstops : ∀ l : List Char, Stops l ↔
      ∃ word, (Text.fields l).head? = some word ∧ ¬ "cpu".toList <+: word := by
    intro l
    simp only [Stops, List.head?_eq_some_iff]
    constructor
    · rintro ⟨word, rest, hl, hnot⟩
      exact ⟨word, ⟨rest, hl⟩, hnot⟩
    · rintro ⟨word, ⟨rest, hl⟩, hnot⟩
      exact ⟨word, rest, hl, hnot⟩
  rw [hstops, hstops, h]

theorem ofCore_congr {line line' : List Char}
    (h : (Text.fields line).head? = (Text.fields line').head?) : OfCore line ↔ OfCore line' := by
  rw [← isCoreLine_iff, ← isCoreLine_iff, isCoreLine, isCoreLine, key?, key?, h]

/-! ## The lines of single cores -/

/-- The lines about single cores among these, up to the first line that ends the counters. -/
def coresIn (lines : List (List Char)) : List (List Char) :=
  (lines.takeWhile isCounterLine).filter isCoreLine

theorem coreLines_eq_coresIn (text : String) :
    coreLines text = coresIn (Text.lines text.toList) := rfl

theorem ofText_eq (text : String) :
    ofText text = (coresIn (Text.lines text.toList)).mapM scan.runOn := rfl

section Lines

variable {line : List Char} (lines : List (List Char))

theorem coresIn_cons_of_stops (h : Stops line) : coresIn (line :: lines) = [] := by
  rw [coresIn, List.takeWhile_cons, isCounterLine_eq_false_iff.mpr h]
  rfl

theorem coresIn_cons_of_skipped (hgoes : ¬ Stops line) (hcore : ¬ OfCore line) :
    coresIn (line :: lines) = coresIn lines := by
  rw [coresIn, List.takeWhile_cons, isCounterLine_of_not_stops hgoes, if_pos rfl,
    List.filter_cons_of_neg (isCoreLine_iff.not.mpr hcore)]
  rfl

theorem OfCore.not_stops (h : OfCore line) : ¬ Stops line := by
  obtain ⟨c, id, rest, hline, -⟩ := h
  rintro ⟨word, rest', hline', hnot⟩
  cases hline.symm.trans hline'
  exact hnot (List.prefix_append ..)

theorem coresIn_cons_of_core (h : OfCore line) :
    coresIn (line :: lines) = line :: coresIn lines := by
  rw [coresIn, List.takeWhile_cons, isCounterLine_of_not_stops h.not_stops, if_pos rfl,
    List.filter_cons_of_pos (isCoreLine_iff.mpr h)]
  rfl

end Lines

theorem coresIn_append_of_cores {ls : List (List Char)} (h : ∀ l ∈ ls, OfCore l)
    (lines : List (List Char)) : coresIn (ls ++ lines) = ls ++ coresIn lines := by
  induction ls with
  | nil => rfl
  | cons l ls ih =>
      rw [List.cons_append, coresIn_cons_of_core _ (h l (List.mem_cons_self ..)),
        ih fun l' hl' => h l' (List.mem_cons_of_mem _ hl')]
      rfl

/-! ## Printed counters -/

/-- The line of a core, with the time that it waited for devices. -/
def printedLine (t : Ticks) (waiting : UInt64) : String :=
  " ".intercalate
    ["cpu" ++ toString t.core, toString t.user, toString t.nice, toString t.system,
     toString t.idle, toString waiting, toString t.irq]

/-- One line for each core. -/
def printedLines (records : List (Ticks × UInt64)) : String :=
  String.join (records.map fun (t, waiting) => printedLine t waiting ++ "\n")

/-- The line of all cores together, one line for each core, and a line that ends the counters. -/
def printedText (aggregate after : String) (records : List (Ticks × UInt64)) : String :=
  "cpu " ++ aggregate ++ "\n" ++ printedLines records ++ "intr" ++ after

section Printed

variable (t : Ticks) (waiting : UInt64)

/-- The fields of a printed line. -/
def printedFields : List (List Char) :=
  ("cpu".toList ++ digits t.core.toNat) ::
    [t.user, t.nice, t.system, t.idle, waiting, t.irq].map (digits ·.toNat)

theorem isField_of_mem_printedFields {w : List Char} (h : w ∈ printedFields t waiting) :
    Text.IsField w := by
  rcases List.mem_cons.mp h with rfl | h
  · refine ⟨List.cons_ne_nil _ _, ?_⟩
    intro c hc
    rcases List.mem_append.mp hc with hc | hc
    · have hletter : c = 'c' ∨ c = 'p' ∨ c = 'u' := by simpa using hc
      rcases hletter with rfl | rfl | rfl <;> decide
    · exact (isField_digits _).2 c hc
  · obtain ⟨n, -, rfl⟩ := List.mem_map.mp h
    exact isField_digits _

theorem toList_printedLine :
    (printedLine t waiting).toList = [' '].intercalate (printedFields t waiting) := by
  rw [printedLine, String.toList_intercalate]
  simp only [List.map_cons, List.map_nil, String.toList_append, toList_toString_uint32,
    toList_toString_uint64]
  rfl

theorem fields_printedLine :
    Text.fields (printedLine t waiting).toList = printedFields t waiting := by
  rw [toList_printedLine]
  exact Text.fields_intercalate fun w hw => isField_of_mem_printedFields t waiting hw

theorem isLine_printedLine : Text.IsLine (printedLine t waiting).toList := by
  rw [toList_printedLine]
  exact Text.isLine_intercalate fun w hw => isField_of_mem_printedFields t waiting hw

theorem ofCore_printedLine : OfCore (printedLine t waiting).toList := by
  obtain ⟨c, id, hdigits⟩ := List.exists_cons_of_ne_nil (digits_ne_nil t.core.toNat)
  have hc : c.isDigit := isDigit_of_mem_digits (hdigits ▸ List.mem_cons_self ..)
  refine ⟨c, id, (printedFields t waiting).tail, ?_, isDigit_iff.mp hc⟩
  rw [fields_printedLine, printedFields, hdigits, List.tail_cons]

theorem givenBy_printedLine : GivenBy (printedLine t waiting).toList t := by
  constructor
  · exact ⟨_, by rw [fields_printedLine]; rfl, uint32_digits t.core⟩
  · rw [fields_printedLine]; exact uint64_digits t.user
  · rw [fields_printedLine]; exact uint64_digits t.nice
  · rw [fields_printedLine]; exact uint64_digits t.system
  · rw [fields_printedLine]; exact uint64_digits t.idle
  · exact ⟨waiting, by rw [fields_printedLine]; exact uint64_digits waiting⟩
  · rw [fields_printedLine]; exact uint64_digits t.irq

end Printed

theorem stops_of_intr (s : List Char) : Stops ("intr".toList ++ s) := by
  obtain ⟨w, rest, h⟩ :=
    Text.exists_fields_cons (c := 'i') (by decide) ("ntr".toList ++ s)
  refine ⟨'i' :: w, rest, h, ?_⟩
  intro hprefix
  exact absurd (List.cons_prefix_cons.mp hprefix).1 (by decide)

theorem coresIn_lines_intr (s : List Char) : coresIn (Text.lines ("intr".toList ++ s)) = [] := by
  by_cases h : '\n' ∈ s
  · obtain ⟨a, b, rfl, ha⟩ := List.eq_append_cons_of_mem h
    have hfree : '\n' ∉ "intr".toList ++ a := by simp [ha]
    have hstops : Stops (Text.withoutReturn ("intr".toList ++ a)) :=
      (stops_congr (by rw [Text.fields_withoutReturn])).mpr (stops_of_intr a)
    rw [← List.append_assoc, Text.lines_cons hfree, coresIn_cons_of_stops _ hstops]
  · have hfree : '\n' ∉ "intr".toList ++ s := by simp [h]
    rw [Text.lines_of_not_mem (by simp) hfree, coresIn_cons_of_stops _ (stops_of_intr s)]

/-- The line of all cores together is skipped, whatever stands behind its key. -/
theorem coresIn_aggregate (aggregate : List Char) (lines : List (List Char)) :
    coresIn (Text.withoutReturn ("cpu ".toList ++ aggregate) :: lines) = coresIn lines := by
  have hfields : Text.fields (Text.withoutReturn ("cpu ".toList ++ aggregate)) =
      "cpu".toList :: Text.fields aggregate := by
    have hspace : "cpu ".toList ++ aggregate = "cpu".toList ++ ' ' :: aggregate := rfl
    rw [Text.fields_withoutReturn, hspace, Text.fields_append_blank (by decide)]
    rfl
  refine coresIn_cons_of_skipped _ ?_ ?_
  · rintro ⟨word, rest, h, hnot⟩
    cases hfields.symm.trans h
    exact hnot List.prefix_rfl
  · rintro ⟨c, id, rest, h, -⟩
    have hkey := (List.cons.inj (hfields.symm.trans h)).1
    have hlength := congrArg List.length hkey
    simp at hlength

theorem coresIn_printedLines (records : List (Ticks × UInt64)) (s : List Char) :
    coresIn (Text.lines ((printedLines records).toList ++ s)) =
      (records.map fun (t, waiting) => (printedLine t waiting).toList) ++
        coresIn (Text.lines s) := by
  have hlines : ∀ l ∈ records.map fun (t, waiting) => (printedLine t waiting).toList,
      Text.IsLine l ∧ OfCore l := by
    intro l hl
    obtain ⟨⟨t, waiting⟩, -, rfl⟩ := List.mem_map.mp hl
    exact ⟨isLine_printedLine t waiting, ofCore_printedLine t waiting⟩
  have htext : (printedLines records).toList =
      (records.map fun (t, waiting) => (printedLine t waiting).toList).flatMap (· ++ ['\n']) := by
    rw [printedLines]
    simp only [String.toList_append, String.toList_join, List.flatMap_map]
    rfl
  rw [htext, Text.lines_flatMap_append fun l hl => (hlines l hl).1,
    coresIn_append_of_cores fun l hl => (hlines l hl).2]

theorem ofText_of_printed {text : String} {records : List (Ticks × UInt64)}
    (h : coresIn (Text.lines text.toList) =
      records.map fun (t, waiting) => (printedLine t waiting).toList) :
    ofText text = .ok (records.map Prod.fst) := by
  rw [ofText_eq_ok_iff, coreLines_eq_coresIn, h, List.forall₂_map_left_iff,
    List.forall₂_map_right_iff, List.forall₂_same]
  rintro ⟨t, waiting⟩ -
  exact givenBy_printedLine t waiting

theorem ofText_printedLines (records : List (Ticks × UInt64)) :
    ofText (printedLines records) = .ok (records.map Prod.fst) := by
  refine ofText_of_printed ?_
  have hcores := coresIn_printedLines records []
  have hnil : coresIn (Text.lines []) = [] := rfl
  rwa [List.append_nil, hnil, List.append_nil] at hcores

theorem ofText_printedText {aggregate : String} (h : '\n' ∉ aggregate.toList) (after : String)
    (records : List (Ticks × UInt64)) :
    ofText (printedText aggregate after records) = .ok (records.map Prod.fst) := by
  have hfree : '\n' ∉ "cpu ".toList ++ aggregate.toList := by simp [h]
  have htext : (printedText aggregate after records).toList =
      ("cpu ".toList ++ aggregate.toList) ++ '\n' ::
        ((printedLines records).toList ++ ("intr".toList ++ after.toList)) := by
    rw [printedText]
    simp only [String.toList_append, List.append_assoc]
    rfl
  refine ofText_of_printed ?_
  rw [htext, Text.lines_cons hfree, coresIn_aggregate, coresIn_printedLines, coresIn_lines_intr,
    List.append_nil]

end HostInfo.Cpu.Ticks
