import Mathlib.Logic.Function.Basic
import HostInfo.Proofs.Cpu.Cores
import HostInfo.Proofs.Cpu.CounterLines

/-!
# Cores without counters

Where the counters cannot be had, the cores of the list are reported as if each of them had a line
of counters that are all zero. So it makes no difference what stands in a garbled file: the lines
before the malformed one count no more than that line itself.
-/

namespace HostInfo

/-- The same files, but for one that holds this text. -/
def Files.withText (files : Files) (path : Path) (text : String) : Files :=
  { files with readText := Function.update files.readText path (.ok text) }

namespace Files

variable (files : Files) {path other : Path} (text : String)

theorem readText_withText : (files.withText path text).readText path = .ok text :=
  Function.update_self ..

theorem readText_withText_of_ne (h : other ≠ path) :
    (files.withText path text).readText other = files.readText other :=
  Function.update_of_ne h ..

end Files

/-! ## The paths of the sources -/

theorem Utf8.encode_append (s t : String) : encode (s ++ t) = encode s ++ encode t := by
  rw [encode, String.toList_append, List.flatMap_append]
  rfl

/-- A path ends the way the name ends that was put behind it. -/
theorem Path.getLast?_join {relative : String} {b : UInt8}
    (h : (Utf8.encode relative).getLast? = some b) (p : Path) :
    (p.join relative).bytes.getLast? = some b := by
  unfold join
  split
  · simp [List.getLast?_append, h]
  · simp [List.getLast?_append, List.getLast?_cons, h]

namespace Cpu

open Numeral

variable {roots : Roots} {files : Files} {os : Os}

theorem infoPath_ne_countersPath : roots.infoPath ≠ roots.countersPath := by
  intro h
  have hinfo : roots.infoPath.bytes.getLast? = some 111 :=
    Path.getLast?_join (by decide) roots.proc
  have hcounters : roots.countersPath.bytes.getLast? = some 116 :=
    Path.getLast?_join (by decide) roots.proc
  rw [h, hcounters] at hinfo
  exact absurd hinfo (by decide)

theorem frequencyPath_ne_countersPath (core : UInt32) :
    roots.frequencyPath core ≠ roots.countersPath := by
  intro h
  have hfrequency : (roots.frequencyPath core).bytes.getLast? = some 113 := by
    refine Path.getLast?_join ?_ roots.sys
    have hname : (Utf8.encode "/cpufreq/cpuinfo_max_freq").getLast? = some 113 := by decide
    rw [Utf8.encode_append, List.getLast?_append, hname]
    rfl
  have hcounters : roots.countersPath.bytes.getLast? = some 116 :=
    Path.getLast?_join (by decide) roots.proc
  rw [h, hcounters] at hfrequency
  exact absurd hfrequency (by decide)

/-! ## Counters of cores that have not spent any time -/

/-- The line of a core that has not spent any time. -/
def idleLine (core : Nat) : String := "cpu" ++ toString core ++ " 0 0 0 0 0 0"

/-- The lines of the cores from zero on, as many as are asked for. -/
def idleText (n : Nat) : String := String.join ((List.range n).map (idleLine · ++ "\n"))

theorem idleLine_eq {core : Nat} (h : core < 2 ^ 32) :
    idleLine core = Ticks.printedLine (Ticks.zero (UInt32.ofNat core)) 0 := by
  have hzero : digits (0 : UInt64).toNat = ['0'] := by decide
  have hzeros : " 0 0 0 0 0 0".toList = ' ' :: [' '].intercalate (List.replicate 6 ['0']) := by
    decide
  rw [← String.toList_inj, Ticks.toList_printedLine, Ticks.printedFields, Ticks.zero,
    UInt32.toNat_ofNat_of_lt' h, idleLine, String.toList_append, String.toList_append,
    toList_toString_nat, hzeros]
  simp only [List.map_cons, List.map_nil, hzero, List.intercalate_cons_cons, List.append_assoc]
  rfl

/-- Lines of zeros are printed counters, of which nothing was spent. -/
theorem idleText_eq {n : Nat} (h : n ≤ 2 ^ 32) :
    idleText n = Ticks.printedLines
      ((List.range n).map fun core => (Ticks.zero (UInt32.ofNat core), 0)) := by
  have hlines : (List.range n).map (idleLine · ++ "\n") =
      (List.range n).map fun core =>
        Ticks.printedLine (Ticks.zero (UInt32.ofNat core)) 0 ++ "\n" := by
    refine List.map_congr_left ?_
    intro core hcore
    rw [idleLine_eq (Nat.lt_of_lt_of_le (List.mem_range.mp hcore) h)]
  rw [idleText, Ticks.printedLines, List.map_map, hlines]
  rfl

theorem ofText_idleText {n : Nat} (h : n ≤ 2 ^ 32) :
    Ticks.ofText (idleText n) =
      .ok ((List.range n).map fun core => Ticks.zero (UInt32.ofNat core)) := by
  rw [idleText_eq h, Ticks.ofText_printedLines, List.map_map]
  rfl

/-! ## The query -/

/-- The list of processors can be read and has this many model lines. -/
def CoresListed (roots : Roots) (files : Files) (n : Nat) : Prop :=
  ∃ text, files.readText roots.infoPath = .ok text ∧
    (Text.lines text.toList).countP Info.isModelLine = n

/-- The first cores, none of which has spent any time. -/
def idle (n : Nat) : List Ticks := (List.range n).map fun core => Ticks.zero (UInt32.ofNat core)

theorem CoresListed.cores_info {n : Nat} (h : CoresListed roots files n) :
    (info roots files).cores = n := by
  obtain ⟨text, hread, hcount⟩ := h
  rw [info_of_ok hread, Info.cores_ofText, hcount]

theorem CoresListed.withText {n : Nat} (h : CoresListed roots files n) (text : String) :
    CoresListed roots (files.withText roots.countersPath text) n := by
  unfold CoresListed
  rwa [Files.readText_withText_of_ne _ _ infoPath_ne_countersPath]

theorem CoresListed.cores_info_ne_zero {n : Nat} (h : CoresListed roots files n) (hpos : 0 < n) :
    (info roots files).cores ≠ 0 := by
  rw [h.cores_info]
  exact Nat.ne_of_gt hpos

theorem CoresListed.idleCores_info {n : Nat} (h : CoresListed roots files n) (hlt : n < 2 ^ 32) :
    idleCores (info roots files) = idle n := by
  rw [idleCores, h.cores_info, UInt32.toNat_ofNat_of_lt' hlt]
  rfl

/-- The list stands in for counters that cannot be had. -/
theorem cores_of_countersFail {n : Nat} {cause : SystemError}
    (hfail : CountersFail roots files cause) (hlisted : CoresListed roots files n) (hpos : 0 < n)
    (hlt : n < 2 ^ 32) : cores (info roots files) roots files = .ok (idle n) := by
  rw [cores, readCounters_eq_error_iff.mpr hfail, ← hlisted.idleCores_info hlt]
  exact if_neg (hlisted.cores_info_ne_zero hpos)

theorem cores_withText {text : String} {ticks : List Ticks} (h : Ticks.ofText text = .ok ticks)
    (info : Info) : cores info roots (files.withText roots.countersPath text) = .ok ticks := by
  rw [cores, readCounters_of_ok (Files.readText_withText ..), h]
  rfl

theorem countersFail_withText {text : String} {e : FormatError} (h : Ticks.ofText text = .error e) :
    CountersFail roots (files.withText roots.countersPath text)
      (.custom .invalidData e.describe) :=
  .inr ⟨text, e, Files.readText_withText .., h, rfl⟩

/-- The text of the counters counts for the cores that there are, and for nothing else. -/
theorem query_withText {text : String}
    (h : cores (info roots files) roots files =
      cores (info roots (files.withText roots.countersPath text)) roots
        (files.withText roots.countersPath text)) :
    query roots files os = query roots (files.withText roots.countersPath text) os := by
  refine query_congr ?_ h ?_
  · rw [Files.readText_withText_of_ne _ _ infoPath_ne_countersPath]
  · intro ticks _ t _
    rw [Files.readText_withText_of_ne _ _ (frequencyPath_ne_countersPath t.core)]

theorem ofTicks_zero (rate : UInt64) (core : UInt32) :
    Times.ofTicks rate (Ticks.zero core) = ⟨0, 0, 0, 0, 0⟩ := by
  have hzero : millis 0 rate = 0 := by
    have hproduct : saturated ((0 : UInt64).toNat * 1000) = 0 := by decide
    rw [millis, hproduct, UInt64.zero_div]
  simp only [Times.ofTicks, Ticks.zero, hzero]

/-- **The cores of the list answer for counters that cannot be had.** The query then answers as if
there was a line of zeros for each core of the list, its failures included. It answers so whatever
garbled text stands there, and no time is reported for any of the cores. -/
theorem fallback_as_idle (roots : Roots) (files : Files) (os : Os) {n : Nat} {cause : SystemError}
    (hlisted : CoresListed roots files n) (hpos : 0 < n) (hlt : n < 2 ^ 32)
    (hfail : CountersFail roots files cause) :
    query roots files os = query roots (files.withText roots.countersPath (idleText n)) os ∧
    (∀ text e, Ticks.ofText text = .error e →
      query roots (files.withText roots.countersPath text) os = query roots files os) ∧
    ∀ records, query roots files os = .ok records →
      records.length = n ∧ ∀ r ∈ records, r.times = ⟨0, 0, 0, 0, 0⟩ := by
  have hcores := cores_of_countersFail hfail hlisted hpos hlt
  refine ⟨?_, ?_, ?_⟩
  · refine query_withText ?_
    rw [hcores, cores_withText (ofText_idleText (Nat.le_of_lt hlt))]
    rfl
  · intro text e hgarbled
    refine (query_withText ?_).symm
    rw [hcores, cores_of_countersFail (countersFail_withText hgarbled) (hlisted.withText text) hpos
      hlt]
  · intro records hok
    rw [query_of_list (readCounters_eq_error_iff.mpr hfail) (hlisted.cores_info_ne_zero hpos),
      hlisted.idleCores_info hlt, Except.map_eq_ok_iff] at hok
    obtain ⟨rate, -, rfl⟩ := hok
    constructor
    · simp [idle]
    · intro r hr
      obtain ⟨t, ht, rfl⟩ := List.mem_map.mp hr
      obtain ⟨core, -, rfl⟩ := List.mem_map.mp ht
      exact ofTicks_zero rate (UInt32.ofNat core)

/-! ## A host with a garbled line -/

/-- Two cores, the first of which has a speed. -/
def pairList : String :=
  "model name\t: First\n" ++
  "cpu MHz\t\t: 2400.75\n" ++
  "model name\t: Second\n"

/-- The line of the second core breaks off. -/
def brokenCounters : String :=
  "cpu0 1 2 3 4 5 6\n" ++
  "cpu1 7 8\n"

def brokenHost : Fixture :=
  Fixture.empty
    |>.addText (.ofString "/proc/cpuinfo") pairList
    |>.addText (.ofString "/proc/stat") brokenCounters
    |>.addFrequency 1 3600999

theorem fallback_as_idle_broken :
    query Platform.defaultRoots brokenHost.files Simulated.standard.answers =
      query Platform.defaultRoots
        (brokenHost.files.withText Platform.defaultRoots.countersPath
          ("cpu0 0 0 0 0 0 0\n" ++ "cpu1 0 0 0 0 0 0\n"))
        Simulated.standard.answers ∧
    query Platform.defaultRoots
        (brokenHost.files.withText Platform.defaultRoots.countersPath "cpu1x 1 2 3 4 5 6")
        Simulated.standard.answers =
      query Platform.defaultRoots brokenHost.files Simulated.standard.answers := by
  have hlisted : CoresListed Platform.defaultRoots brokenHost.files 2 :=
    ⟨pairList, by rfl, by decide +kernel⟩
  obtain ⟨e, he⟩ := Except.exists_error_of_toOption
    (x := Ticks.ofText brokenCounters) (by decide +kernel)
  have hfail : CountersFail Platform.defaultRoots brokenHost.files
      (.custom .invalidData e.describe) :=
    .inr ⟨brokenCounters, e, by rfl, he, rfl⟩
  have hlines : idleText 2 = "cpu0 0 0 0 0 0 0\n" ++ "cpu1 0 0 0 0 0 0\n" := by decide +kernel
  obtain ⟨e', hkey⟩ := Except.exists_error_of_toOption
    (x := Ticks.ofText "cpu1x 1 2 3 4 5 6") (by decide +kernel)
  obtain ⟨hidle, hgarbled, -⟩ := fallback_as_idle Platform.defaultRoots brokenHost.files
    Simulated.standard.answers hlisted (by decide) (by decide) hfail
  exact ⟨hlines ▸ hidle, hgarbled _ e' hkey⟩

end Cpu

end HostInfo
