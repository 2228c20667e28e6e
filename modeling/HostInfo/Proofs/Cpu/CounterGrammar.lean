import HostInfo.Proofs.Cpu.CounterLines
import HostInfo.Proofs.FieldForms

/-!
# The grammar of the counters

What a line about a single core must look like, said without the reader. The reader accepts exactly
the texts whose scanned lines about single cores are all well formed, and gives one record for each
of them. Otherwise it complains of the first malformed one. Whatever else stands in the text makes
no difference.
-/

namespace HostInfo.Cpu.Ticks

open FieldScan Numeral

/-! ## What a line of a core says -/

/-- The columns behind the key. -/
def format : Format :=
  ["user", "nice", "system", "idle", "iowait", "irq"].map (·, .number .uint64)

/-- The key ends in the number of a core, and all columns are there. -/
def WellFormed (line : List Char) : Prop :=
  ∃ id fields, Text.fields line = ("cpu".toList ++ id) :: fields ∧
    (∃ core, Width.uint32.Reads id core) ∧ Follows format fields

/-- The counters stand in the columns of their names. -/
structure Values (fields : List (List Char)) (t : Ticks) : Prop where
  user : Holds format fields "user" t.user.toNat
  nice : Holds format fields "nice" t.nice.toNat
  system : Holds format fields "system" t.system.toNat
  idle : Holds format fields "idle" t.idle.toNat
  irq : Holds format fields "irq" t.irq.toNat

/-- The line is well formed, and these are the counters it gives. -/
def Gives (line : List Char) (t : Ticks) : Prop :=
  ∃ id fields, Text.fields line = ("cpu".toList ++ id) :: fields ∧
    Width.uint32.Reads id t.core.toNat ∧ Follows format fields ∧ Values fields t

/-- What is wrong with the line: its key, or else the first column at fault. -/
inductive Malformed (line : List Char) : String → Prop
  | key {id : List Char} {fields : List (List Char)}
      (hline : Text.fields line = ("cpu".toList ++ id) :: fields)
      (h : ∀ core, ¬ Width.uint32.Reads id core) :
      Malformed line ("invalid cpu key: '" ++ String.ofList ("cpu".toList ++ id) ++ "'")
  | column {id : List Char} {fields : List (List Char)} {core : Int} {m : String}
      (hline : Text.fields line = ("cpu".toList ++ id) :: fields)
      (hcore : Width.uint32.Reads id core) (h : FirstFault format fields m) : Malformed line m

theorem columns_format : format.columns = columns := rfl

theorem nodup_format : (format.map Prod.fst).Nodup := by decide +kernel

theorem columnsRead_iff {fields : List (List Char)} {t : Ticks} :
    ColumnsRead fields t ↔ Values fields t := by
  have huint64 := fun s a => @uint64?_eq_some_iff s a
  constructor
  · intro h
    constructor
    · exact (holds_iff_bind (i := 0) huint64 nodup_format rfl).mpr h.user
    · exact (holds_iff_bind (i := 1) huint64 nodup_format rfl).mpr h.nice
    · exact (holds_iff_bind (i := 2) huint64 nodup_format rfl).mpr h.system
    · exact (holds_iff_bind (i := 3) huint64 nodup_format rfl).mpr h.idle
    · exact (holds_iff_bind (i := 5) huint64 nodup_format rfl).mpr h.irq
  · intro h
    constructor
    · exact (holds_iff_bind (i := 0) huint64 nodup_format rfl).mp h.user
    · exact (holds_iff_bind (i := 1) huint64 nodup_format rfl).mp h.nice
    · exact (holds_iff_bind (i := 2) huint64 nodup_format rfl).mp h.system
    · exact (holds_iff_bind (i := 3) huint64 nodup_format rfl).mp h.idle
    · exact (holds_iff_bind (i := 5) huint64 nodup_format rfl).mp h.irq

theorem runOn_eq_ok_iff_gives {line : List Char} {t : Ticks} :
    scan.runOn line = .ok t ↔ Gives line t := by
  rw [runOn_eq_ok_iff_columns, Gives]
  simp only [uint32?_eq_some_iff, ← columns_format, fault_columns_eq_none_iff, columnsRead_iff]

theorem exists_runOn_iff {line : List Char} :
    (∃ t, scan.runOn line = .ok t) ↔ WellFormed line := by
  constructor
  · rintro ⟨t, ht⟩
    obtain ⟨id, fields, hline, hcore, hfollows, -⟩ := runOn_eq_ok_iff_gives.mp ht
    exact ⟨id, fields, hline, ⟨_, hcore⟩, hfollows⟩
  · rintro ⟨id, fields, hline, ⟨_, hcore⟩, hfollows⟩
    obtain ⟨core, hid⟩ := exists_uint32_of_reads hcore
    rw [← fault_columns_eq_none_iff, columns_format] at hfollows
    obtain ⟨t, ht, -⟩ := (covers_scanColumns core).exists_value hfollows
    exact ⟨t, by rw [runOn_of_key hline hid, ht]⟩

theorem runOn_eq_error_iff {line id : List Char} {fields : List (List Char)}
    (hline : Text.fields line = ("cpu".toList ++ id) :: fields) {m : String} :
    (∃ e, scan.runOn line = .error e ∧ e.message = m) ↔ Malformed line m := by
  have hbind : (Text.stripStart? "cpu".toList ("cpu".toList ++ id)).bind uint32? = uint32? id := by
    rw [Text.stripStart_append, Option.bind_some]
  cases hid : uint32? id with
  | none =>
      have hnot := not_exists_reads_iff.mpr hid
      rw [runOn_of_badKey hline (hbind.trans hid)]
      constructor
      · rintro ⟨e, he, rfl⟩
        cases he
        exact .key hline hnot
      · intro h
        cases h with
        | key hline' _ =>
            cases hline.symm.trans hline'
            exact ⟨_, rfl, rfl⟩
        | column hline' hcore _ =>
            cases hline.symm.trans hline'
            exact absurd hcore (hnot _)
  | some core =>
      have hreads := uint32?_eq_some_iff.mp hid
      rw [runOn_of_key hline hid]
      simp only [(covers_scanColumns core).value_eq_error_iff]
      rw [← columns_format, fault_columns_eq_some_iff]
      constructor
      · intro h
        exact .column hline hreads h
      · intro h
        cases h with
        | key hline' hnot =>
            cases hline.symm.trans hline'
            exact absurd hreads (hnot _)
        | column hline' _ h =>
            cases hline.symm.trans hline'
            exact h

theorem ColumnsRead.of_take {fields fields' : List (List Char)} {t : Ticks}
    (h : ColumnsRead fields t) (htake : fields.take 6 = fields'.take 6) :
    ColumnsRead fields' t := by
  have hsame : ∀ i, i < 6 → fields[i]? = fields'[i]? := fun i hi => getElem?_of_take htake hi
  constructor
  · rw [← hsame 0 (by decide)]; exact h.user
  · rw [← hsame 1 (by decide)]; exact h.nice
  · rw [← hsame 2 (by decide)]; exact h.system
  · rw [← hsame 3 (by decide)]; exact h.idle
  · rw [← hsame 5 (by decide)]; exact h.irq

/-- The counters depend on the key and the columns of the format only. -/
theorem runOn_congr {line line' : List Char}
    (h : (Text.fields line).take 7 = (Text.fields line').take 7) :
    scan.runOn line = scan.runOn line' := by
  cases hline : Text.fields line with
  | nil =>
      rw [hline, List.take_nil, eq_comm, List.take_eq_nil_iff] at h
      have hline' := h.resolve_left (by decide)
      rw [runOn_eq, runOn_eq, hline, hline']
  | cons key fields =>
      cases hline' : Text.fields line' with
      | nil =>
          rw [hline, hline'] at h
          cases h
      | cons key' fields' =>
          rw [hline, hline'] at h
          obtain ⟨rfl, htake⟩ := List.cons.inj h
          cases hkey : (Text.stripStart? "cpu".toList key).bind uint32? with
          | none => rw [runOn_of_badKey hline hkey, runOn_of_badKey hline' hkey]
          | some core =>
              obtain ⟨id, hid, hcore⟩ := Option.bind_eq_some_iff.mp hkey
              obtain rfl := Text.stripStart_eq_some hid
              rw [runOn_of_key hline hcore, runOn_of_key hline' hcore]
              refine (covers_scanColumns core).value_congr unique_scanColumns ?_ htake
              rintro _ _ t hsame ⟨ht, hreads⟩
              exact ⟨ht, hreads.of_take hsame⟩

/-! ## What makes no difference -/

/-- What the lines at the end give decides what they give behind others. -/
theorem map_coresIn_append {lines lines' : List (List Char)}
    (h : (coresIn lines).map scan.runOn = (coresIn lines').map scan.runOn)
    (before : List (List Char)) :
    (coresIn (before ++ lines)).map scan.runOn = (coresIn (before ++ lines')).map scan.runOn := by
  induction before with
  | nil => exact h
  | cons l before ih =>
      rw [List.cons_append, List.cons_append]
      by_cases hstops : Stops l
      · rw [coresIn_cons_of_stops _ hstops, coresIn_cons_of_stops _ hstops]
      · by_cases hcore : OfCore l
        · rw [coresIn_cons_of_core _ hcore, coresIn_cons_of_core _ hcore, List.map_cons,
            List.map_cons, ih]
        · rw [coresIn_cons_of_skipped _ hstops hcore, coresIn_cons_of_skipped _ hstops hcore, ih]

/-- Changes to the lines of a text that do not touch a key or a column of a scanned core. -/
inductive Immaterial : List (List Char) → List (List Char) → Prop
  | skipped {before after : List (List Char)} {line : List Char} (hgoes : ¬ Stops line)
      (hcore : ¬ OfCore line) : Immaterial (before ++ line :: after) (before ++ after)
  | columns {before after : List (List Char)} {line line' : List Char}
      (h : (Text.fields line).take 7 = (Text.fields line').take 7) :
      Immaterial (before ++ line :: after) (before ++ line' :: after)
  | behind {before after after' : List (List Char)} {line : List Char} (h : Stops line) :
      Immaterial (before ++ line :: after) (before ++ line :: after')

theorem head?_of_take {line line' : List Char}
    (h : (Text.fields line).take 7 = (Text.fields line').take 7) :
    (Text.fields line).head? = (Text.fields line').head? := by
  rw [List.head?_eq_getElem?, List.head?_eq_getElem?]
  exact getElem?_of_take h (by decide)

theorem Immaterial.map_runOn {lines lines' : List (List Char)} (h : Immaterial lines lines') :
    (coresIn lines).map scan.runOn = (coresIn lines').map scan.runOn := by
  cases h with
  | skipped hgoes hcore =>
      refine map_coresIn_append ?_ _
      rw [coresIn_cons_of_skipped _ hgoes hcore]
  | @columns before after line line' htake =>
      refine map_coresIn_append ?_ _
      have hstops := stops_congr (head?_of_take htake)
      have hcores := ofCore_congr (head?_of_take htake)
      by_cases hgoes : Stops line
      · rw [coresIn_cons_of_stops _ hgoes, coresIn_cons_of_stops _ (hstops.mp hgoes)]
      · by_cases hcore : OfCore line
        · rw [coresIn_cons_of_core _ hcore, coresIn_cons_of_core _ (hcores.mp hcore),
            List.map_cons, List.map_cons, runOn_congr htake]
        · rw [coresIn_cons_of_skipped _ hgoes hcore,
            coresIn_cons_of_skipped _ (hstops.not.mp hgoes) (hcores.not.mp hcore)]
  | behind hstops =>
      refine map_coresIn_append ?_ _
      rw [coresIn_cons_of_stops _ hstops, coresIn_cons_of_stops _ hstops]

theorem ofText_of_immaterial {text other : String}
    (h : Immaterial (Text.lines text.toList) (Text.lines other.toList)) :
    ofText other = ofText text := by
  rw [ofText_eq, ofText_eq, Except.mapM_congr_of_map h.map_runOn]

/-! ## What the reader says of a text -/

/-- The lines before the first one that stops the scan. -/
def scanned (text : String) : List (List Char) :=
  (Text.lines text.toList).takeWhile (¬ Stops ·)

theorem coreLines_eq (text : String) : coreLines text = (scanned text).filter (OfCore ·) := by
  have hcounter : isCounterLine = fun line => decide (¬ Stops line) := by
    funext line
    rw [Bool.eq_iff_iff, decide_eq_true_iff, ← isCounterLine_eq_false_iff, Bool.not_eq_false]
  have hcore : isCoreLine = fun line => decide (OfCore line) := by
    funext line
    rw [Bool.eq_iff_iff, decide_eq_true_iff, isCoreLine_iff]
  rw [coreLines, scanned, hcounter, hcore]

theorem ofText_eq_mapM (text : String) :
    ofText text = ((scanned text).filter (OfCore ·)).mapM scan.runOn := by
  rw [← coreLines_eq]
  rfl

theorem ofText_eq_ok_iff_gives {text : String} {ticks : List Ticks} :
    ofText text = .ok ticks ↔ List.Forall₂ Gives ((scanned text).filter (OfCore ·)) ticks := by
  rw [ofText_eq_mapM, Except.mapM_eq_ok_iff]
  simp only [runOn_eq_ok_iff_gives]

/-- The complaint about the first line that is not well formed. -/
def FirstMalformed (lines : List (List Char)) (m : String) : Prop :=
  ∃ before line after, lines = before ++ line :: after ∧ (∀ l ∈ before, WellFormed l) ∧
    Malformed line m

theorem ofText_eq_error_iff {text m : String} :
    (∃ e, ofText text = .error e ∧ e.message = m) ↔
      FirstMalformed ((scanned text).filter (OfCore ·)) m := by
  have hmalformed : ∀ {line}, line ∈ (scanned text).filter (OfCore ·) →
      ((∃ e, scan.runOn line = .error e ∧ e.message = m) ↔ Malformed line m) := by
    intro line hline
    obtain ⟨c, id, rest, hfields, -⟩ : OfCore line := by simpa using (List.mem_filter.mp hline).2
    exact runOn_eq_error_iff hfields
  simp only [ofText_eq_mapM, Except.mapM_eq_error_iff, exists_runOn_iff]
  constructor
  · rintro ⟨e, ⟨before, line, after, hlines, hbefore, he⟩, hm⟩
    have hline : line ∈ (scanned text).filter (OfCore ·) := by simp [hlines]
    exact ⟨before, line, after, hlines, hbefore, (hmalformed hline).mp ⟨e, he, hm⟩⟩
  · rintro ⟨before, line, after, hlines, hbefore, hfault⟩
    have hline : line ∈ (scanned text).filter (OfCore ·) := by simp [hlines]
    obtain ⟨e, he, hm⟩ := (hmalformed hline).mpr hfault
    exact ⟨e, ⟨before, line, after, hlines, hbefore, he⟩, hm⟩

theorem exists_ofText_iff {text : String} :
    (∃ ticks, ofText text = .ok ticks) ↔
      ∀ line ∈ (scanned text).filter (OfCore ·), WellFormed line := by
  simp only [ofText_eq_mapM, Except.exists_mapM_eq_ok_iff, exists_runOn_iff]

/-- **The reader of counters accepts exactly its grammar.** A text is accepted if every scanned line
about a single core is well formed, and gives what these lines give, one record for each and in
their order. Any other text is refused with the first malformed one of them. Lines of other
processor keys, columns behind the sixth and lines behind the one that stops the scan make no
difference. Printed counters are read back, whatever was printed for all cores together, for the
time spent waiting and behind the counters. -/
theorem counters_grammar (text : String) :
    ((∃ ticks, ofText text = .ok ticks) ↔
      ∀ line ∈ (scanned text).filter (OfCore ·), WellFormed line) ∧
    (∀ ticks, ofText text = .ok ticks ↔
      List.Forall₂ Gives ((scanned text).filter (OfCore ·)) ticks) ∧
    (∀ m, (∃ e, ofText text = .error e ∧ e.message = m) ↔
      FirstMalformed ((scanned text).filter (OfCore ·)) m) ∧
    (∀ other : String, Immaterial (Text.lines text.toList) (Text.lines other.toList) →
      ofText other = ofText text) ∧
    ∀ (records : List (Ticks × UInt64)) (aggregate after : String), '\n' ∉ aggregate.toList →
      ofText (printedText aggregate after records) = .ok (records.map Prod.fst) := by
  refine ⟨exists_ofText_iff, fun ticks => ofText_eq_ok_iff_gives,
    fun m => ofText_eq_error_iff, fun other h => ofText_of_immaterial h, ?_⟩
  intro records aggregate after haggregate
  exact ofText_printedText haggregate after records

/-- Lines of every kind, two about the same core among others that are skipped. -/
def tangledCounters : String :=
  "\n" ++
  "cpu  1 x\r\n" ++
  "cpu7 1 2 3 4 5 6 7 -\n" ++
  "cpufreq 3\n" ++
  "cpu007\t+1 02 0 0 0 0\n" ++
  "intr 1\n"

/-- A core that is listed too late, a number of a core that is too great, but behind a column that
is missing, and a printed core with the greatest number. -/
theorem counters_grammar_tangled :
    let late := tangledCounters ++ "cpu1 x\n"
    let short := "cpu0 1 2\n" ++ "cpu4294967296 0 0 0 0 0 0\n"
    let last : Ticks := ⟨4294967295, 1, 2, 3, 4, 5⟩
    List.Forall₂ Gives ((scanned tangledCounters).filter (OfCore ·))
      [⟨7, 1, 2, 3, 4, 6⟩, ⟨7, 1, 2, 0, 0, 0⟩] ∧
    (Immaterial (Text.lines tangledCounters.toList) (Text.lines late.toList) ∧
      ofText late = ofText tangledCounters) ∧
    FirstMalformed ((scanned short).filter (OfCore ·)) "missing field system" ∧
    '\n' ∉ " 1 x\r".toList ∧
    ofText (printedText " 1 x\r" " 1\ncpu1 x" [(last, 6)]) = .ok [last] := by
  intro late short last
  obtain ⟨-, hgives, -, himmaterial, hprinted⟩ := counters_grammar tangledCounters
  obtain ⟨-, -, hfault, -⟩ := counters_grammar short
  obtain ⟨before, hlines, hlate⟩ : ∃ before,
      Text.lines tangledCounters.toList = before ++ "intr 1".toList :: [] ∧
      Text.lines late.toList = before ++ "intr 1".toList :: ["cpu1 x".toList] :=
    ⟨(Text.lines tangledCounters.toList).take 5, by decide +kernel, by decide +kernel⟩
  have hbehind : Immaterial (Text.lines tangledCounters.toList) (Text.lines late.toList) := by
    rw [hlines, hlate]
    exact .behind (stops_of_intr " 1".toList)
  have haggregate : '\n' ∉ " 1 x\r".toList := by decide
  refine ⟨(hgives _).mp (by decide +kernel), ⟨hbehind, himmaterial late hbehind⟩, ?_,
    haggregate, hprinted [(last, 6)] _ _ haggregate⟩
  exact (hfault _).mp ⟨.missingField "system", by decide +kernel, by decide⟩

end HostInfo.Cpu.Ticks

