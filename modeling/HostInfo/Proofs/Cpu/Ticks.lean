import HostInfo.Cpu.Ticks
import HostInfo.Proofs.Except
import HostInfo.Proofs.FieldScans
import HostInfo.Proofs.Texts

/-!
# Counters line by line

The counters are accepted exactly if every line about a single core gives its counters, and they
are then what those lines give, one for each line and in their order. What a line gives is said
column by column.
-/

namespace HostInfo.Cpu.Ticks

open FieldScan Numeral

/-- The lines about single cores, in order, up to the first line that ends the counters. -/
def coreLines (text : String) : List (List Char) :=
  ((Text.lines text.toList).takeWhile isCounterLine).filter isCoreLine

/-- The six columns behind the key of a core. -/
def columns : List Column :=
  ["user", "nice", "system", "idle", "iowait", "irq"].map (column · uint64?)

/-- The line gives these counters: each stands in the column of its name. -/
structure GivenBy (line : List Char) (t : Ticks) : Prop where
  core : ∃ id, (Text.fields line)[0]? = some ("cpu".toList ++ id) ∧ uint32? id = some t.core
  user : (Text.fields line)[1]?.bind uint64? = some t.user
  nice : (Text.fields line)[2]?.bind uint64? = some t.nice
  system : (Text.fields line)[3]?.bind uint64? = some t.system
  idle : (Text.fields line)[4]?.bind uint64? = some t.idle
  waiting : ∃ w, (Text.fields line)[5]?.bind uint64? = some w
  irq : (Text.fields line)[6]?.bind uint64? = some t.irq

theorem runOn_of_key {line id : List Char} {rest : List (List Char)} {core : UInt32}
    (hline : Text.fields line = ("cpu".toList ++ id) :: rest) (hcore : uint32? id = some core) :
    scan.runOn line = (scanColumns core rest).map Prod.fst := by
  have hkey : (Text.stripStart? "cpu".toList ("cpu".toList ++ id)).bind uint32? = some core := by
    rw [Text.stripStart_append, Option.bind_some, hcore]
  rw [runOn_eq, hline, scan, next_bind_cons, hkey]

theorem runOn_of_badKey {line key : List Char} {rest : List (List Char)}
    (hline : Text.fields line = key :: rest)
    (hkey : (Text.stripStart? "cpu".toList key).bind uint32? = none) :
    scan.runOn line = .error (.badCoreKey (String.ofList key)) := by
  rw [runOn_eq, hline, scan, next_bind_cons, hkey]
  rfl

/-- Columns that read as these counters. The fifth is none of them. -/
structure ColumnsRead (fields : List (List Char)) (t : Ticks) : Prop where
  user : fields[0]?.bind uint64? = some t.user
  nice : fields[1]?.bind uint64? = some t.nice
  system : fields[2]?.bind uint64? = some t.system
  idle : fields[3]?.bind uint64? = some t.idle
  irq : fields[5]?.bind uint64? = some t.irq

theorem covers_scanColumns (core : UInt32) :
    Covers (scanColumns core) columns fun fields t => t.core = core ∧ ColumnsRead fields t := by
  have h := (covers_read "user" uint64?).bind fun user =>
    (covers_read "nice" uint64?).bind fun nice =>
    (covers_read "system" uint64?).bind fun system =>
    (covers_read "idle" uint64?).bind fun idle =>
    (covers_skip uint64? ["iowait"]).bind fun _ =>
    (covers_read "irq" uint64?).bind fun irq =>
    covers_pure (Ticks.mk core user nice system idle irq)
  refine h.imp ?_
  rintro fields _ ⟨user, huser, nice, hnice, system, hsystem, idle, hidle, -, -, irq, hirq, rfl⟩
  simp only [List.drop_drop, List.head?_drop, List.length_cons, List.length_map, List.length_nil]
    at hnice hsystem hidle hirq
  exact ⟨rfl, List.head?_eq_getElem? ▸ huser, hnice, hsystem, hidle, hirq⟩

theorem unique_scanColumns {core : UInt32} (fields : List (List Char)) (a b : Ticks)
    (ha : a.core = core ∧ ColumnsRead fields a) (hb : b.core = core ∧ ColumnsRead fields b) :
    a = b := by
  obtain ⟨hcore, ha⟩ := ha
  obtain ⟨hcore', hb⟩ := hb
  have huser := ha.user.symm.trans hb.user
  have hnice := ha.nice.symm.trans hb.nice
  have hsystem := ha.system.symm.trans hb.system
  have hidle := ha.idle.symm.trans hb.idle
  have hirq := ha.irq.symm.trans hb.irq
  cases a
  cases b
  simp_all

theorem runOn_eq_ok_iff_columns {line : List Char} {t : Ticks} :
    scan.runOn line = .ok t ↔
      ∃ id rest, Text.fields line = ("cpu".toList ++ id) :: rest ∧ uint32? id = some t.core ∧
        fault? columns rest = none ∧ ColumnsRead rest t := by
  constructor
  · intro h
    cases hline : Text.fields line with
    | nil =>
        rw [runOn_eq, hline] at h
        cases h
    | cons key rest =>
        cases hkey : (Text.stripStart? "cpu".toList key).bind uint32? with
        | none =>
            rw [runOn_of_badKey hline hkey] at h
            cases h
        | some core =>
            obtain ⟨id, hid, hcore⟩ := Option.bind_eq_some_iff.mp hkey
            obtain rfl := Text.stripStart_eq_some hid
            rw [runOn_of_key hline hcore,
              (covers_scanColumns core).value_eq_ok_iff unique_scanColumns] at h
            obtain ⟨hnone, rfl, hreads⟩ := h
            exact ⟨id, rest, rfl, hcore, hnone, hreads⟩
  · rintro ⟨id, rest, hline, hcore, hnone, hreads⟩
    rw [runOn_of_key hline hcore,
      (covers_scanColumns t.core).value_eq_ok_iff unique_scanColumns]
    exact ⟨hnone, rfl, hreads⟩

theorem givenBy_iff_columns {line : List Char} {t : Ticks} :
    GivenBy line t ↔
      ∃ id rest, Text.fields line = ("cpu".toList ++ id) :: rest ∧ uint32? id = some t.core ∧
        fault? columns rest = none ∧ ColumnsRead rest t := by
  constructor
  · rintro ⟨⟨id, hid, hcore⟩, huser, hnice, hsystem, hidle, ⟨w, hwaiting⟩, hirq⟩
    obtain ⟨rest, hline⟩ : ∃ rest, Text.fields line = ("cpu".toList ++ id) :: rest := by
      obtain ⟨rest, hline⟩ := List.head?_eq_some_iff.mp (List.head?_eq_getElem?.trans hid)
      exact ⟨rest, hline⟩
    rw [hline] at huser hnice hsystem hidle hwaiting hirq
    refine ⟨id, rest, hline, hcore, fault_eq_none_iff.mpr ?_, huser, hnice, hsystem, hidle, hirq⟩
    rintro (_ | _ | _ | _ | _ | _ | i) c hc
    · cases hc; exact accepts_of_bind huser
    · cases hc; exact accepts_of_bind hnice
    · cases hc; exact accepts_of_bind hsystem
    · cases hc; exact accepts_of_bind hidle
    · cases hc; exact accepts_of_bind hwaiting
    · cases hc; exact accepts_of_bind hirq
    · cases hc
  · rintro ⟨id, rest, hline, hcore, hnone, hreads⟩
    -- the fifth column reads, but nothing of it is kept in the counters
    obtain ⟨field, hfield, haccepts⟩ := fault_eq_none_iff.mp hnone 4 _ rfl
    obtain ⟨w, hw⟩ := Option.isSome_iff_exists.mp haccepts
    have hwaiting : rest[4]?.bind uint64? = some w := by rw [hfield]; exact hw
    constructor
    · exact ⟨id, by rw [hline]; rfl, hcore⟩
    · rw [hline]; exact hreads.user
    · rw [hline]; exact hreads.nice
    · rw [hline]; exact hreads.system
    · rw [hline]; exact hreads.idle
    · rw [hline]; exact ⟨w, hwaiting⟩
    · rw [hline]; exact hreads.irq

theorem runOn_eq_ok_iff {line : List Char} {t : Ticks} :
    scan.runOn line = .ok t ↔ GivenBy line t :=
  runOn_eq_ok_iff_columns.trans givenBy_iff_columns.symm

/-! ## All lines -/

theorem ofText_eq_ok_iff {text : String} {ticks : List Ticks} :
    ofText text = .ok ticks ↔ List.Forall₂ GivenBy (coreLines text) ticks := by
  rw [ofText, Except.mapM_eq_ok_iff]
  simp only [runOn_eq_ok_iff]
  rfl

end HostInfo.Cpu.Ticks
