import Mathlib.Data.List.Nodup
import Mathlib.Data.List.Perm.Subperm
import HostInfo.Proofs.Cpu.Cores
import HostInfo.Proofs.Reports

/-!
# Labels of the cores

In the report a core is labelled with its position, while the counters and the frequency file are
those of the number on its own line. The labels are right exactly if the numbers are those from
zero on, each of them once, and a core that stands in the place of another shows the same figures.
A gap between the numbers makes some label wrong.
-/

namespace HostInfo.Cpu

variable {roots : Roots} {files : Files}

/-- Every line with the label of a core is the line of a core that is listed under this number. -/
def LabelsRight (roots : Roots) (files : Files) (rate : UInt64) (ticks : List Ticks)
    (report : String) : Prop :=
  ∀ l ∈ Text.lines report.toList, ∀ n, Report.Labelled n l →
    ∃ t ∈ ticks, t.core.toNat = n ∧
      l = Report.cpuLine n (recordFor roots files rate t)

/-- The numbers of the cores as they are listed. -/
def numbers (ticks : List Ticks) : List Nat := ticks.map (·.core.toNat)

/-! ## Lines of the report -/

theorem isLine_listedModel : Text.IsLine (listedModel roots files).toList := by
  unfold listedModel
  cases files.readText (roots.proc.join "cpuinfo") with
  | error e => exact Text.isLine_nil
  | ok text => exact Info.isLine_firstModel text

theorem lines_cpus_records (rate : UInt64) (ticks : List Ticks) :
    Text.lines (Report.cpus (ticks.map (recordFor roots files rate))).toList =
      (ticks.map (recordFor roots files rate)).mapIdx Report.cpuLine := by
  refine Report.lines_cpus ?_
  intro r hr
  obtain ⟨t, -, rfl⟩ := List.mem_map.mp hr
  change Text.IsLine (info roots files).model.toList
  rw [model_info]
  exact isLine_listedModel

theorem cpuLine_recordFor_eq_iff {index : Nat} {rate : UInt64} {t u : Ticks} :
    Report.cpuLine index (recordFor roots files rate t) =
        Report.cpuLine index (recordFor roots files rate u) ↔
      Report.figures (recordFor roots files rate t) =
        Report.figures (recordFor roots files rate u) := by
  have hmodel : (recordFor roots files rate t).model = (recordFor roots files rate u).model := rfl
  exact Report.cpuLine_eq_iff hmodel

/-- Each place has to be taken by a core that shows what the core of that number shows. -/
theorem labelsRight_iff_getElem {rate : UInt64} {ticks : List Ticks} :
    LabelsRight roots files rate ticks
        (Report.cpus (ticks.map (recordFor roots files rate))) ↔
      ∀ i u, ticks[i]? = some u → ∃ t ∈ ticks, t.core.toNat = i ∧
        Report.figures (recordFor roots files rate u) =
          Report.figures (recordFor roots files rate t) := by
  unfold LabelsRight
  rw [lines_cpus_records]
  constructor
  · intro h i u hu
    obtain ⟨hi, rfl⟩ := List.getElem?_eq_some_iff.mp hu
    have hmem : Report.cpuLine i (recordFor roots files rate ticks[i]) ∈
        (ticks.map (recordFor roots files rate)).mapIdx Report.cpuLine :=
      List.mem_mapIdx.mpr ⟨i, by simpa using hi, by simp⟩
    obtain ⟨t, ht, hcore, hline⟩ := h _ hmem i (Report.labelled_cpuLine ..)
    exact ⟨t, ht, hcore, cpuLine_recordFor_eq_iff.mp hline⟩
  · intro h l hl n hn
    obtain ⟨i, hi, rfl⟩ := List.mem_mapIdx.mp hl
    rw [List.length_map] at hi
    obtain rfl := hn.unique (Report.labelled_cpuLine ..)
    obtain ⟨t, ht, hcore, hfigures⟩ := h n ticks[n] (List.getElem?_eq_getElem hi)
    refine ⟨t, ht, hcore, ?_⟩
    rw [List.getElem_map]
    exact cpuLine_recordFor_eq_iff.mpr hfigures

/-! ## Numbers and places -/

/-- As many numbers as there are places, and a number for each place: none is left over. -/
theorem perm_range_of_forall_mem {ns : List Nat} (h : ∀ i < ns.length, i ∈ ns) :
    ns.Perm (List.range ns.length) := by
  have hsub : (List.range ns.length).Subperm ns :=
    List.subperm_of_subset List.nodup_range fun i hi => h i (List.mem_range.mp hi)
  exact (hsub.perm_of_length_le (by simp)).symm

theorem core_injOn {ticks : List Ticks} (h : (numbers ticks).Perm (List.range ticks.length))
    {t u : Ticks} (ht : t ∈ ticks) (hu : u ∈ ticks) (heq : t.core.toNat = u.core.toNat) :
    t = u := by
  have hnodup : (numbers ticks).Nodup := h.nodup_iff.mpr List.nodup_range
  exact List.inj_on_of_nodup_map hnodup ht hu heq

theorem labelsRight_iff_perm {rate : UInt64} {ticks : List Ticks} :
    LabelsRight roots files rate ticks
        (Report.cpus (ticks.map (recordFor roots files rate))) ↔
      (numbers ticks).Perm (List.range ticks.length) ∧
      ∀ t ∈ ticks, ∀ u, ticks[t.core.toNat]? = some u →
        Report.figures (recordFor roots files rate u) =
          Report.figures (recordFor roots files rate t) := by
  rw [labelsRight_iff_getElem]
  constructor
  · intro h
    -- every place is a number, and there are no more numbers than places
    have hperm : (numbers ticks).Perm (List.range ticks.length) := by
      have hlength : (numbers ticks).length = ticks.length := List.length_map ..
      rw [← hlength]
      apply perm_range_of_forall_mem
      intro i hi
      rw [hlength] at hi
      obtain ⟨t, ht, hcore, -⟩ := h i ticks[i] (List.getElem?_eq_getElem hi)
      exact List.mem_map.mpr ⟨t, ht, hcore⟩
    refine ⟨hperm, ?_⟩
    intro t ht u hu
    obtain ⟨t', ht', hcore, hfigures⟩ := h _ u hu
    rw [core_injOn hperm ht ht' hcore.symm]
    exact hfigures
  · rintro ⟨hperm, hplace⟩ i u hu
    have hi : i ∈ numbers ticks := by
      rw [hperm.mem_iff, List.mem_range]
      exact (List.getElem?_eq_some_iff.mp hu).1
    obtain ⟨t, ht, rfl⟩ := List.mem_map.mp hi
    exact ⟨t, ht, rfl, hplace t ht u hu⟩

/-- Numbers in ascending order from zero on are the places. -/
theorem labelsRight_of_ascending {rate : UInt64} {ticks : List Ticks}
    (h : numbers ticks = List.range ticks.length) :
    LabelsRight roots files rate ticks
      (Report.cpus (ticks.map (recordFor roots files rate))) := by
  refine labelsRight_iff_perm.mpr ⟨by rw [h], ?_⟩
  intro t ht u hu
  obtain ⟨i, hi, rfl⟩ := List.mem_iff_getElem.mp ht
  have hplace : ticks[i].core.toNat = i := by
    have hnumber : (numbers ticks)[i]? = some ticks[i].core.toNat := by simp [numbers, hi]
    rw [h, List.getElem?_range hi] at hnumber
    exact (Option.some_inj.mp hnumber).symm
  rw [hplace, List.getElem?_eq_getElem hi] at hu
  cases hu
  rfl

/-- Where no two cores show the same, the numbers have to be the places. -/
theorem labelsRight_iff_ascending {rate : UInt64} {ticks : List Ticks}
    (h : ∀ t ∈ ticks, ∀ u ∈ ticks, Report.figures (recordFor roots files rate t) =
      Report.figures (recordFor roots files rate u) → t.core = u.core) :
    LabelsRight roots files rate ticks
        (Report.cpus (ticks.map (recordFor roots files rate))) ↔
      numbers ticks = List.range ticks.length := by
  constructor
  · intro hright
    apply List.ext_getElem
    · simp [numbers]
    · intro i hi _
      have hticks : i < ticks.length := by simpa [numbers] using hi
      obtain ⟨t, ht, hcore, hfigures⟩ :=
        labelsRight_iff_getElem.mp hright i ticks[i] (List.getElem?_eq_getElem hticks)
      have hsame : ticks[i].core = t.core := h _ (List.getElem_mem hticks) t ht hfigures
      have hnumber : (numbers ticks)[i] = ticks[i].core.toNat := by simp [numbers]
      rw [hnumber, hsame, hcore, List.getElem_range]
  · exact labelsRight_of_ascending

/-! ## Hosts -/

/-- **The labels are right exactly if nobody can tell numbers from places.** With accepted counters
every label of the report names the core it is about if and only if the numbers listed are those
from zero on, each of them once, and the core in the place of another shows the same figures. -/
theorem labels_right_iff {roots : Roots} {files : Files} {os : Os} {text : String}
    {ticks : List Ticks} {rate : UInt64} (hread : files.readText roots.countersPath = .ok text)
    (hticks : Ticks.ofText text = .ok ticks) (hrate : os.clockTicks = .ok rate) :
    ∃ records, query roots files os = .ok records ∧
      (LabelsRight roots files rate ticks (Report.cpus records) ↔
        (numbers ticks).Perm (List.range ticks.length) ∧
        ∀ t ∈ ticks, ∀ u, ticks[t.core.toNat]? = some u →
          Report.figures (recordFor roots files rate u) =
            Report.figures (recordFor roots files rate t)) :=
  ⟨_, query_of_accepted hread hticks hrate, labelsRight_iff_perm⟩

/-- A host of which only these counters can be read. -/
def countersHost (counters : String) : Fixture :=
  Fixture.empty.addText (.ofString "/proc/stat") counters

/-- Two cores out of place that nobody can tell apart. -/
def swappedCounters : String :=
  "cpu1 1 2 3 4 5 6\n" ++
  "cpu0 1 2 3 4 5 6\n"

theorem labels_right_swapped :
    ∃ records,
      query Platform.defaultRoots (countersHost swappedCounters).files
        Simulated.standard.answers = .ok records ∧
      LabelsRight Platform.defaultRoots (countersHost swappedCounters).files 100
        [⟨1, 1, 2, 3, 4, 6⟩, ⟨0, 1, 2, 3, 4, 6⟩] (Report.cpus records) := by
  have hread : (countersHost swappedCounters).files.readText Platform.defaultRoots.countersPath =
      .ok swappedCounters := by
    rfl
  have hticks : Ticks.ofText swappedCounters =
      .ok [⟨1, 1, 2, 3, 4, 6⟩, ⟨0, 1, 2, 3, 4, 6⟩] :=
    Except.eq_ok_of_toOption (by decide +kernel)
  have hrate : Simulated.standard.answers.clockTicks = .ok 100 := by rfl
  obtain ⟨records, hquery, hiff⟩ := labels_right_iff hread hticks hrate
  refine ⟨records, hquery, hiff.mpr ⟨by decide, ?_⟩⟩
  intro t ht u hu
  rcases List.mem_pair.mp ht with rfl | rfl
  · cases hu
    rfl
  · cases hu
    rfl

/-- The second core is missing. -/
def gapCounters : String :=
  "cpu0 1 2 3 4 5 6\n" ++
  "cpu2 7 8 9 10 11 12\n"

theorem labels_wrong_with_gap :
    ∃ ticks records,
      (countersHost gapCounters).files.readText Platform.defaultRoots.countersPath =
        .ok gapCounters ∧
      Ticks.ofText gapCounters = .ok ticks ∧
      query Platform.defaultRoots (countersHost gapCounters).files
        Simulated.standard.answers = .ok records ∧
      ¬ LabelsRight Platform.defaultRoots (countersHost gapCounters).files 100 ticks
        (Report.cpus records) := by
  have hread : (countersHost gapCounters).files.readText Platform.defaultRoots.countersPath =
      .ok gapCounters := by
    rfl
  have hticks : Ticks.ofText gapCounters = .ok [⟨0, 1, 2, 3, 4, 6⟩, ⟨2, 7, 8, 9, 10, 12⟩] :=
    Except.eq_ok_of_toOption (by decide +kernel)
  have hrate : Simulated.standard.answers.clockTicks = .ok 100 := by rfl
  refine ⟨_, _, hread, hticks, query_of_accepted hread hticks hrate, ?_⟩
  -- the second line has the label of a core that is not there
  intro h
  exact absurd (labelsRight_iff_perm.mp h).1 (by decide)

end HostInfo.Cpu
