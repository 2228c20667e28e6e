import Mathlib.Data.List.Basic
import HostInfo.Proofs.Numerals
import HostInfo.Proofs.Texts
import HostInfo.Report

/-!
# Reports line by line

The report on the cores has one line for each record, in their order. The label of a line is its
position: a line has no other label.
-/

namespace HostInfo

/-! ## Texts on one line -/

namespace Text

theorem newline_not_mem_toString (n : Nat) : '\n' ∉ (toString n).toList := by
  rw [Numeral.toList_toString_nat]
  exact Numeral.not_mem_digits (by decide) n

theorem newline_not_mem_padStart {s : String} (h : '\n' ∉ s.toList) (width : Nat) :
    '\n' ∉ (padStart width s).toList := by
  simp [padStart, h]

end Text

namespace Duration

theorem newline_not_mem_ofSeconds (style : Style) (n : Nat) :
    '\n' ∉ (ofSeconds style n).toList := by
  have hdigits : ∀ k, '\n' ∉ Nat.toDigits 10 k := Numeral.not_mem_digits (by decide)
  unfold ofSeconds
  cases style with
  | compact => split_ifs <;> simp [hdigits]
  | detail => split_ifs <;> simp [hdigits]

theorem newline_not_mem_millisText (ms : UInt64) : '\n' ∉ (millisText ms).toList := by
  unfold millisText text
  split_ifs
  · decide
  · exact newline_not_mem_ofSeconds _ _
  · have hms : '\n' ∉ (toString ms).toList := Text.newline_not_mem_toString ms.toNat
    simp [hms]

end Duration

namespace Report

/-! ## Dates -/

theorem exists_uptime {now : Int} {up : Binary64} (h : up < 0 ∨ (bootTime? now up).isSome)
    (age : Binary64) : ∃ text, uptime now up age = some text := by
  unfold uptime
  split
  · exact ⟨_, rfl⟩
  · next hknown =>
      obtain ⟨start, hstart⟩ := Option.isSome_iff_exists.mp (h.resolve_left hknown)
      rw [hstart]
      exact ⟨_, rfl⟩

/-! ## The line of a core -/

/-- The speed and the times of a core as they are shown. -/
def figures (r : Cpu.Record) : String :=
  let time (ms : UInt64) := Text.padStart 7 (Duration.millisText ms)
  Text.padStart 5 (toString r.speed) ++ " MHz  user " ++ time r.times.user ++
    " nice " ++ time r.times.nice ++ " sys " ++ time r.times.system ++
    " idle " ++ time r.times.idle ++ " irq " ++ time r.times.irq

/-- What stands behind the number of a core. -/
def afterNumber (index : Nat) (r : Cpu.Record) : List Char :=
  List.replicate (3 - (Numeral.digits index).length) ' ' ++ (' ' :: (figures r).toList) ++
    ' ' :: ' ' :: r.model.toList

/-- The line of the core at position `index`. -/
def cpuLine (index : Nat) (r : Cpu.Record) : List Char :=
  "cpu".toList ++ (Numeral.digits index ++ afterNumber index r)

/-- The line starts with the label of the core of this number. -/
def Labelled (n : Nat) (l : List Char) : Prop :=
  ∃ rest, l = "cpu".toList ++ (Numeral.digits n ++ ' ' :: rest)

theorem toList_padEnd (width : Nat) (s : String) :
    (Text.padEnd width s).toList = s.toList ++ List.replicate (width - s.toList.length) ' ' := by
  rw [Text.padEnd, String.toList_append, String.toList_ofList, String.length_toList]

theorem cpu_eq (index : Nat) (r : Cpu.Record) :
    cpu index r =
      "cpu" ++ Text.padEnd 3 (toString index) ++ " " ++ figures r ++ "  " ++ r.model ++ "\n" := by
  unfold cpu figures
  simp only [String.append_assoc]

theorem toList_cpu (index : Nat) (r : Cpu.Record) :
    (cpu index r).toList = cpuLine index r ++ ['\n'] := by
  have hone : " ".toList = [' '] := rfl
  have htwo : "  ".toList = [' ', ' '] := rfl
  have hfeed : "\n".toList = ['\n'] := rfl
  rw [cpu_eq]
  simp only [String.toList_append, toList_padEnd, Numeral.toList_toString_nat, hone, htwo, hfeed,
    cpuLine, afterNumber, List.append_assoc, List.cons_append, List.nil_append]

theorem afterNumber_eq (index : Nat) (r : Cpu.Record) :
    ∃ rest, afterNumber index r = ' ' :: rest := by
  unfold afterNumber
  cases 3 - (Numeral.digits index).length with
  | zero => exact ⟨_, rfl⟩
  | succ k => exact ⟨_, rfl⟩

theorem labelled_cpuLine (index : Nat) (r : Cpu.Record) : Labelled index (cpuLine index r) := by
  obtain ⟨rest, hrest⟩ := afterNumber_eq index r
  exact ⟨rest, by rw [cpuLine, hrest]⟩

/-- A line has one label only. -/
theorem Labelled.unique {m n : Nat} {l : List Char} (hm : Labelled m l) (hn : Labelled n l) :
    m = n := by
  obtain ⟨a, rfl⟩ := hm
  obtain ⟨b, hb⟩ := hn
  have hcut := congrArg (Text.cutFirst? ' ') (List.append_cancel_left hb)
  have hblank : ∀ k, ' ' ∉ Numeral.digits k := Numeral.not_mem_digits (by decide)
  rw [Text.cutFirst_append (hblank m), Text.cutFirst_append (hblank n), Option.some_inj,
    Prod.mk.injEq] at hcut
  have hread := Numeral.unsigned_digits m
  rw [hcut.1, Numeral.unsigned_digits n] at hread
  exact (Option.some_inj.mp hread).symm

theorem cpuLine_eq_iff {index : Nat} {r r' : Cpu.Record} (h : r.model = r'.model) :
    cpuLine index r = cpuLine index r' ↔ figures r = figures r' := by
  unfold cpuLine afterNumber
  rw [h, List.append_cancel_left_eq, List.append_cancel_left_eq, List.append_cancel_right_eq,
    List.append_cancel_left_eq, List.cons.injEq, String.toList_inj]
  simp

/-! ## The whole report -/

theorem newline_not_mem_figures (r : Cpu.Record) : '\n' ∉ (figures r).toList := by
  have htime : ∀ ms, '\n' ∉ (Text.padStart 7 (Duration.millisText ms)).toList := fun ms =>
    Text.newline_not_mem_padStart (Duration.newline_not_mem_millisText ms) 7
  have hspeed : '\n' ∉ (Text.padStart 5 (toString r.speed)).toList :=
    Text.newline_not_mem_padStart (Text.newline_not_mem_toString r.speed.toNat) 5
  simp [figures, htime, hspeed]

theorem isLine_cpuLine (index : Nat) {r : Cpu.Record} (h : Text.IsLine r.model.toList) :
    Text.IsLine (cpuLine index r) := by
  have hmodel : Text.IsLine (' ' :: ' ' :: r.model.toList) := by
    cases hchars : r.model.toList with
    | nil => exact ⟨by decide, by decide⟩
    | cons c s =>
        rw [hchars] at h
        exact Text.IsLine.append (a := [' ', ' ']) (by decide) (by simp) h
  have hnumber : '\n' ∉ Numeral.digits index := Numeral.not_mem_digits (by decide) index
  have hfront : '\n' ∉ "cpu".toList ++ (Numeral.digits index ++
      (List.replicate (3 - (Numeral.digits index).length) ' ' ++ ' ' :: (figures r).toList)) := by
    simp [hnumber, newline_not_mem_figures]
  have hline := hmodel.append hfront (by simp)
  simpa [cpuLine, afterNumber] using hline

/-- The report has one line for each record, whatever is shown in it. -/
theorem lines_cpus {records : List Cpu.Record}
    (h : ∀ r ∈ records, Text.IsLine r.model.toList) :
    Text.lines (cpus records).toList = records.mapIdx cpuLine := by
  have hlines : (records.mapIdx cpu).map String.toList =
      (records.mapIdx cpuLine).map (· ++ ['\n']) := by
    apply List.ext_getElem?
    intro i
    cases hi : records[i]? with
    | none => simp [hi]
    | some r => simp [hi, toList_cpu]
  rw [cpus, String.toList_join, List.flatMap_def, hlines, ← List.flatMap_def]
  refine Text.lines_flatMap ?_
  intro l hl
  obtain ⟨index, hindex, rfl⟩ := List.mem_mapIdx.mp hl
  exact isLine_cpuLine index (h _ (List.getElem_mem hindex))

end Report

end HostInfo
