import HostInfo.Files.Fixture
import HostInfo.Os.Simulated
import HostInfo.Platform
import HostInfo.Proofs.Cpu.Info
import HostInfo.Proofs.Cpu.Ticks

/-!
# One record for each core

With accepted counters there is one record for each line about a core, in the order of the lines:
its times are the converted counters of that line, its speed the highest frequency in the file of
the core the line names or else the listed speed, its model the first one listed. The query fails
only where the counters cannot be had and no core is listed, or where the clock rate is not known.
-/

namespace HostInfo.Cpu

variable {roots : Roots} {files : Files} {os : Os}

/-! ## Where the sources stand -/

namespace Roots

theorem infoPath_eq (roots : Roots) : roots.infoPath = roots.proc.join "cpuinfo" := rfl

theorem countersPath_eq (roots : Roots) : roots.countersPath = roots.proc.join "stat" := rfl

theorem frequencyPath_eq (roots : Roots) (core : UInt32) :
    roots.frequencyPath core = roots.sys.join
      ("devices/system/cpu/cpu" ++ toString core ++ "/cpufreq/cpuinfo_max_freq") := rfl

end Roots

/-! ## What the sources say -/

/-- The counters cannot be had: the file is not read, or what it holds is garbled. -/
def CountersFail (roots : Roots) (files : Files) (cause : SystemError) : Prop :=
  files.readText (roots.proc.join "stat") = .error cause ∨
  ∃ text e, files.readText (roots.proc.join "stat") = .ok text ∧ Ticks.ofText text = .error e ∧
    cause = .custom .invalidData e.describe

/-- No core is listed: the list is not read, or it has no model line. -/
def NoCoreListed (roots : Roots) (files : Files) : Prop :=
  ∀ text, files.readText (roots.proc.join "cpuinfo") = .ok text →
    ∀ line ∈ Text.lines text.toList, Info.isModelLine line = false

/-- The model on the first model line of the list, if it is read and has one. -/
def listedModel (roots : Roots) (files : Files) : String :=
  match files.readText (roots.proc.join "cpuinfo") with
  | .ok text => Info.firstModel (Text.lines text.toList)
  | .error _ => ""

/-- The clock speed in the list, if it is read. -/
def listedSpeed (roots : Roots) (files : Files) : UInt32 :=
  match files.readText (roots.proc.join "cpuinfo") with
  | .ok text => (Info.ofText text).speed
  | .error _ => 0

/-- The whole MHz of a text that is a number of kHz, where 32 bits hold them. -/
def wholeMegahertz? (text : String) : Option UInt32 :=
  (Numeral.uint64? (Text.trim text.toList)).bind fun kilohertz =>
    if kilohertz.toNat / 1000 < 2 ^ 32 then some (UInt32.ofNat (kilohertz.toNat / 1000)) else none

/-- The whole MHz in the frequency file of a core, if it is read and holds that many. -/
def ownSpeed? (roots : Roots) (files : Files) (core : UInt32) : Option UInt32 :=
  match files.readText (roots.sys.join
      ("devices/system/cpu/cpu" ++ toString core ++ "/cpufreq/cpuinfo_max_freq")) with
  | .ok text => wholeMegahertz? text
  | .error _ => none

theorem toOption_megahertz (text : String) : (megahertz text).toOption = wholeMegahertz? text := by
  simp only [megahertz, wholeMegahertz?]
  cases Numeral.uint64? (Text.trim text.toList) with
  | none => rfl
  | some kilohertz =>
      simp only [Option.bind_some]
      split
      · exact congrArg some (UInt32.ofNatLT_eq_ofNat ..)
      · rfl

/-- The record is that of the core the line is about. -/
def RecordOf (roots : Roots) (files : Files) (rate : UInt64) (line : List Char) (r : Record) :
    Prop :=
  ∃ t, Ticks.GivenBy line t ∧
    r.model = listedModel roots files ∧
    r.speed = (ownSpeed? roots files t.core).getD (listedSpeed roots files) ∧
    r.times = { user := millis t.user rate, nice := millis t.nice rate,
                system := millis t.system rate, idle := millis t.idle rate,
                irq := millis t.irq rate }

theorem readCounters_of_ok {text : String} (h : files.readText roots.countersPath = .ok text) :
    readCounters roots files =
      (Ticks.ofText text).mapError fun e => .custom .invalidData e.describe := by
  rw [readCounters, h]
  rfl

theorem readCounters_of_error {cause : SystemError}
    (h : files.readText roots.countersPath = .error cause) :
    readCounters roots files = .error cause := by
  rw [readCounters, h]
  rfl

theorem readCounters_eq_error_iff {cause : SystemError} :
    readCounters roots files = .error cause ↔ CountersFail roots files cause := by
  rw [CountersFail, ← Roots.countersPath_eq]
  cases hread : files.readText roots.countersPath with
  | error cause' =>
      rw [readCounters_of_error hread]
      constructor
      · intro h
        cases h
        exact Or.inl rfl
      · rintro (h | ⟨_, _, h, -⟩)
        · cases h
          rfl
        · cases h
  | ok text =>
      rw [readCounters_of_ok hread]
      constructor
      · intro h
        cases hticks : Ticks.ofText text with
        | error e =>
            rw [hticks] at h
            cases h
            exact Or.inr ⟨text, e, rfl, hticks, rfl⟩
        | ok ticks =>
            rw [hticks] at h
            cases h
      · rintro (h | ⟨_, e, h, hticks, rfl⟩)
        · cases h
        · cases h
          rw [hticks]
          rfl

theorem readCounters_eq_ok_iff {ticks : List Ticks} :
    readCounters roots files = .ok ticks ↔
      ∃ text, files.readText roots.countersPath = .ok text ∧ Ticks.ofText text = .ok ticks := by
  cases hread : files.readText roots.countersPath with
  | error cause => simp [readCounters_of_error hread]
  | ok text =>
      rw [readCounters_of_ok hread]
      cases hticks : Ticks.ofText text <;> simp [Except.mapError, hticks]

theorem info_of_ok {text : String} (h : files.readText roots.infoPath = .ok text) :
    info roots files = Info.ofText text := by
  simp only [info, readInfo, h]
  rfl

theorem info_of_error {e : SystemError} (h : files.readText roots.infoPath = .error e) :
    info roots files = .unknown := by
  simp only [info, readInfo, h]
  rfl

theorem cores_info_eq_zero_iff : (info roots files).cores = 0 ↔ NoCoreListed roots files := by
  rw [NoCoreListed, ← Roots.infoPath_eq]
  cases h : files.readText roots.infoPath with
  | error e =>
      rw [info_of_error h]
      constructor
      · intro _ text hok
        cases hok
      · intro _
        rfl
  | ok text =>
      rw [info_of_ok h, Info.cores_ofText, List.countP_eq_zero]
      constructor
      · intro hnone text' hok line hline
        cases hok
        exact Bool.eq_false_iff.mpr (hnone line hline)
      · intro hnone line hline
        exact Bool.eq_false_iff.mp (hnone text rfl line hline)

theorem model_info : (info roots files).model = listedModel roots files := by
  rw [listedModel, ← Roots.infoPath_eq]
  cases h : files.readText roots.infoPath with
  | error e => rw [info_of_error h]; rfl
  | ok text => rw [info_of_ok h, Info.model_ofText]

theorem speed_info : (info roots files).speed = listedSpeed roots files := by
  rw [listedSpeed, ← Roots.infoPath_eq]
  cases h : files.readText roots.infoPath with
  | error e => rw [info_of_error h]; rfl
  | ok text => rw [info_of_ok h]

theorem speed_eq (roots : Roots) (files : Files) (core : UInt32) :
    speed (info roots files) roots files core =
      (ownSpeed? roots files core).getD (listedSpeed roots files) := by
  rw [speed, speed_info, ownSpeed?, ← Roots.frequencyPath_eq]
  cases hread : files.readText (roots.frequencyPath core) with
  | error e =>
      have h : readFrequency roots files core = .error (.unreadable e) := by
        rw [readFrequency, hread]
        rfl
      rw [h]
      rfl
  | ok text =>
      have h : readFrequency roots files core = (megahertz text).mapError .garbled := by
        rw [readFrequency, hread]
        rfl
      rw [h]
      dsimp only
      rw [← toOption_megahertz]
      cases megahertz text <;> rfl

/-- The record that is made of the counters of a core. -/
def recordFor (roots : Roots) (files : Files) (rate : UInt64) (t : Ticks) : Record :=
  record (info roots files) roots files rate t

theorem recordOf_recordFor {line : List Char} {t : Ticks} (h : Ticks.GivenBy line t)
    (rate : UInt64) : RecordOf roots files rate line (recordFor roots files rate t) :=
  ⟨t, h, model_info, speed_eq roots files t.core, rfl⟩

/-! ## The query -/

theorem query_of_counters {ticks : List Ticks} (h : readCounters roots files = .ok ticks) :
    query roots files os =
      os.clockTicks.map fun rate => ticks.map (recordFor roots files rate) := by
  simp only [query, cores, h]
  rfl

theorem query_of_list {cause : SystemError} (h : readCounters roots files = .error cause)
    (hlisted : (info roots files).cores ≠ 0) :
    query roots files os =
      os.clockTicks.map fun rate =>
        (idleCores (info roots files)).map (recordFor roots files rate) := by
  simp only [query, cores, h, if_neg hlisted]
  rfl

theorem query_of_neither {cause : SystemError} (h : readCounters roots files = .error cause)
    (hnone : (info roots files).cores = 0) :
    query roots files os = .error (.read roots.countersPath cause) := by
  simp only [query, cores, h, if_pos hnone]
  rfl

/-- The failure of the counters counts only where no core is listed, and then it comes first. -/
theorem query_eq_error_iff {e : Failure} :
    query roots files os = .error e ↔
      (∃ cause, CountersFail roots files cause ∧ NoCoreListed roots files ∧
        e = .read roots.countersPath cause) ∨
      (¬ ((∃ cause, CountersFail roots files cause) ∧ NoCoreListed roots files) ∧
        os.clockTicks = .error e) := by
  simp only [← readCounters_eq_error_iff, ← cores_info_eq_zero_iff]
  cases hcounters : readCounters roots files with
  | ok ticks =>
      -- with counters only the rate can be missing
      rw [query_of_counters hcounters, Except.map_eq_error_iff]
      constructor
      · intro h
        exact Or.inr ⟨nofun, h⟩
      · rintro (⟨_, h, -⟩ | ⟨-, h⟩)
        · cases h
        · exact h
  | error cause =>
      by_cases hnone : (info roots files).cores = 0
      · rw [query_of_neither hcounters hnone]
        constructor
        · intro h
          cases h
          exact Or.inl ⟨cause, rfl, hnone, rfl⟩
        · rintro (⟨_, h, -, rfl⟩ | ⟨h, -⟩)
          · cases h
            rfl
          · exact absurd ⟨⟨cause, rfl⟩, hnone⟩ h
      · rw [query_of_list hcounters hnone, Except.map_eq_error_iff]
        constructor
        · intro h
          exact Or.inr ⟨fun h => hnone h.2, h⟩
        · rintro (⟨_, -, h, -⟩ | ⟨-, h⟩)
          · exact absurd h hnone
          · exact h

theorem query_of_accepted {text : String} {ticks : List Ticks} {rate : UInt64}
    (hread : files.readText roots.countersPath = .ok text) (hticks : Ticks.ofText text = .ok ticks)
    (hrate : os.clockTicks = .ok rate) :
    query roots files os = .ok (ticks.map (recordFor roots files rate)) := by
  have hcounters : readCounters roots files = .ok ticks := by
    rw [readCounters_of_ok hread, hticks]
    rfl
  rw [query_of_counters hcounters, hrate]
  rfl

/-! ## Two hosts -/

theorem info_congr {files' : Files}
    (h : files.readText roots.infoPath = files'.readText roots.infoPath) :
    info roots files = info roots files' := by
  simp only [info, readInfo, h]

theorem speed_congr {files' : Files} {core : UInt32}
    (h : files.readText (roots.frequencyPath core) = files'.readText (roots.frequencyPath core))
    (info : Info) : speed info roots files core = speed info roots files' core := by
  simp only [speed, readFrequency, h]

/-- The query depends on the list, on the cores there are, and on the frequency files of these. -/
theorem query_congr {files' : Files}
    (hinfo : files.readText roots.infoPath = files'.readText roots.infoPath)
    (hcores : cores (info roots files) roots files = cores (info roots files') roots files')
    (hspeed : ∀ ticks, cores (info roots files) roots files = .ok ticks → ∀ t ∈ ticks,
      files.readText (roots.frequencyPath t.core) = files'.readText (roots.frequencyPath t.core)) :
    query roots files os = query roots files' os := by
  simp only [query]
  rw [← hcores, ← info_congr hinfo]
  cases hok : cores (info roots files) roots files with
  | error e => rfl
  | ok ticks =>
      have hrecords : ∀ rate, ticks.map (record (info roots files) roots files rate) =
          ticks.map (record (info roots files) roots files' rate) := by
        intro rate
        refine List.map_congr_left fun t ht => ?_
        unfold record
        rw [speed_congr (hspeed ticks hok t ht)]
      cases os.clockTicks with
      | error e => rfl
      | ok rate => exact congrArg Except.ok (hrecords rate)

/-! ## The sources together -/

/-- **The sources are merged core by core.** Accepted counters give one record for each line about
a core, in the order of the lines. The query fails exactly if the counters cannot be had and no
core is listed, or if the clock rate is not known; the first of these is the one reported where
both hold, and it is a failure to read the file of the counters also where that file is garbled. -/
theorem cores_merged (roots : Roots) (files : Files) (os : Os) :
    (∀ (text : String) (ticks : List Ticks) (rate : UInt64),
      files.readText (roots.proc.join "stat") = .ok text → Ticks.ofText text = .ok ticks →
      os.clockTicks = .ok rate →
      ∃ records, query roots files os = .ok records ∧
        List.Forall₂ (RecordOf roots files rate) (Ticks.coreLines text) records) ∧
    ((∃ e, query roots files os = .error e) ↔
      ((∃ cause, CountersFail roots files cause) ∧ NoCoreListed roots files) ∨
      ∃ e, os.clockTicks = .error e) ∧
    (∀ cause, CountersFail roots files cause → NoCoreListed roots files →
      query roots files os = .error (.read (roots.proc.join "stat") cause)) ∧
    ∀ e, query roots files os = .error e →
      (e.kind = .io ∧ ∃ cause, CountersFail roots files cause ∧ NoCoreListed roots files ∧
        e = .read (roots.proc.join "stat") cause) ∨
      os.clockTicks = .error e := by
  refine ⟨?_, ?_, ?_, ?_⟩
  · intro text ticks rate hread hticks hrate
    refine ⟨_, query_of_accepted hread hticks hrate, ?_⟩
    rw [List.forall₂_map_right_iff]
    exact (Ticks.ofText_eq_ok_iff.mp hticks).imp fun _ _ h => recordOf_recordFor h rate
  · simp only [query_eq_error_iff]
    constructor
    · rintro ⟨e, ⟨cause, hfail, hnone, -⟩ | ⟨-, h⟩⟩
      · exact Or.inl ⟨⟨cause, hfail⟩, hnone⟩
      · exact Or.inr ⟨e, h⟩
    · intro h
      by_cases hneither : (∃ cause, CountersFail roots files cause) ∧ NoCoreListed roots files
      · obtain ⟨⟨cause, hfail⟩, hnone⟩ := hneither
        exact ⟨_, Or.inl ⟨cause, hfail, hnone, rfl⟩⟩
      · obtain ⟨e, he⟩ := h.resolve_left hneither
        exact ⟨e, Or.inr ⟨hneither, he⟩⟩
  · intro cause hfail hnone
    exact query_eq_error_iff.mpr (Or.inl ⟨cause, hfail, hnone, rfl⟩)
  · intro e h
    rcases query_eq_error_iff.mp h with ⟨cause, hfail, hnone, rfl⟩ | ⟨-, h⟩
    · exact Or.inl ⟨rfl, cause, hfail, hnone, rfl⟩
    · exact Or.inr h

/-! ## A host with gaps between its cores -/

/-- A core is missing, and one is there twice. -/
def sparseCounters : String :=
  "cpu  550 0 110 2340 15 4\n" ++
  "cpu0 100 0 20 880 5 1\n" ++
  "cpu2 400 0 80 520 5 3\n" ++
  "cpu2 50 0 10 940 5 0\n" ++
  "ctxt 500000\n"

/-- A host of which only these counters and one frequency can be read. -/
def sparseHost : Fixture :=
  Fixture.empty
    |>.addText (.ofString "/proc/stat") sparseCounters
    |>.addFrequency 2 3600999

theorem cores_merged_sparse :
    (∃ records,
      query Platform.defaultRoots sparseHost.files Simulated.standard.answers = .ok records ∧
      List.Forall₂ (RecordOf Platform.defaultRoots sparseHost.files 100)
        (Ticks.coreLines sparseCounters) records) ∧
    query Platform.defaultRoots Fixture.empty.files Simulated.standard.answers =
      .error (.read Platform.defaultRoots.countersPath
        (Fixture.missing "file" Platform.defaultRoots.countersPath)) := by
  constructor
  · have hticks : Ticks.ofText sparseCounters =
        .ok [⟨0, 100, 0, 20, 880, 1⟩, ⟨2, 400, 0, 80, 520, 3⟩, ⟨2, 50, 0, 10, 940, 0⟩] :=
      Except.eq_ok_of_toOption (by decide +kernel)
    exact (cores_merged Platform.defaultRoots sparseHost.files Simulated.standard.answers).1
      sparseCounters _ 100 (by rfl) hticks (by rfl)
  · refine (cores_merged Platform.defaultRoots Fixture.empty.files Simulated.standard.answers).2.2.1
      (Fixture.missing "file" Platform.defaultRoots.countersPath) ?_ ?_
    · exact Or.inl rfl
    · intro text h
      cases h

end HostInfo.Cpu
