import HostInfo.Proofs.Confinement
import HostInfo.Proofs.Cpu.FrequencyPath

/-!
# The file of a highest frequency and its core

Adding the file of a highest frequency changes the speed of the records of its core, and removing
it gives them the listed speed. No other core looks at that file and neither does another query, so
everything else that is reported stays as it is.
-/

namespace HostInfo

/-! ## Files that differ for one core -/

/-- The files answer alike at all places that are looked at, but for the frequency file of one
core. -/
structure Files.AlikeBut (roots : Cpu.Roots) (core : UInt32) (f g : Files) : Prop where
  info : f.readText roots.infoPath = g.readText roots.infoPath
  counters : f.readText roots.countersPath = g.readText roots.countersPath
  status : f.readText (roots.proc.join "self/stat") = g.readText (roots.proc.join "self/stat")
  link : f.readLink (roots.proc.join "self/exe") = g.readLink (roots.proc.join "self/exe")
  frequency : ∀ other, other ≠ core →
    f.readText (roots.frequencyPath other) = g.readText (roots.frequencyPath other)

theorem Files.AlikeBut.trans {roots : Cpu.Roots} {core : UInt32} {f g k : Files}
    (hfg : f.AlikeBut roots core g) (hgk : g.AlikeBut roots core k) : f.AlikeBut roots core k where
  info := hfg.info.trans hgk.info
  counters := hfg.counters.trans hgk.counters
  status := hfg.status.trans hgk.status
  link := hfg.link.trans hgk.link
  frequency other hother := (hfg.frequency other hother).trans (hgk.frequency other hother)

namespace Fixture

variable {roots : Cpu.Roots} {core : UInt32} {f g : Fixture}

/-- A change at the path of a frequency file is seen for its core only. -/
theorem alikeBut
    (htexts : ∀ q : Path, q.components ≠ (roots.frequencyPath core).components →
      f.readText q = g.readText q)
    (hlinks : f.readLink = g.readLink) : f.files.AlikeBut roots core g.files where
  info := htexts _ (Cpu.components_ne_frequencyPath ⟨by decide, by decide⟩ rfl (by decide) _ _)
  counters := htexts _ (Cpu.components_ne_frequencyPath ⟨by decide, by decide⟩ rfl (by decide) _ _)
  status := htexts _ (Cpu.components_ne_frequencyPath ⟨by decide, by decide⟩ rfl (by decide) _ _)
  link := congrFun hlinks _
  frequency other hother :=
    htexts _ fun hsame => hother (Cpu.eq_of_components_frequencyPath hsame)

variable (f) {path : Path} (h : path.components = (roots.frequencyPath core).components)
include h

theorem alikeBut_addText (text : String) :
    f.files.AlikeBut roots core (f.addText path text).files := by
  refine alikeBut ?_ rfl
  intro q hq
  exact (readText_addText_of_ne f (fun hsame => hq (hsame.trans h)) text).symm

theorem alikeBut_removeText : f.files.AlikeBut roots core (f.removeText path).files := by
  refine alikeBut ?_ rfl
  intro q hq
  exact (readText_removeText_of_ne f (fun hsame => hq (hsame.trans h))).symm

end Fixture

namespace Cpu

variable {roots : Roots} {f g : Files} {core : UInt32}

/-- The numbers of the cores that there is a record for, in the order of the records. -/
def coreNumbers (roots : Roots) (files : Files) : List UInt32 :=
  match cores (info roots files) roots files with
  | .ok ticks => ticks.map Ticks.core
  | .error _ => []

/-- The records with another speed where the number beside them is that of the core. -/
def retuned (numbers : List UInt32) (core speed : UInt32) (records : List Record) : List Record :=
  List.zipWith (fun number r => if number = core then { r with speed } else r) numbers records

theorem retuned_nil (numbers : List UInt32) (core speed : UInt32) :
    retuned numbers core speed [] = [] := List.zipWith_nil_right

theorem query_of_cores {os : Os} {ticks : List Ticks}
    (h : cores (info roots f) roots f = .ok ticks) :
    query roots f os = os.clockTicks.map fun rate => ticks.map (recordFor roots f rate) := by
  simp only [query, h]
  rfl

theorem query_of_no_cores {os : Os} {e : Failure}
    (h : cores (info roots f) roots f = .error e) : query roots f os = .error e := by
  simp only [query, h]
  rfl

/-- Each record has the speed of the core whose number is beside it. -/
theorem forall₂_coreNumbers {os : Os} {records : List Record}
    (h : query roots f os = .ok records) :
    List.Forall₂ (fun number r => r.speed = (ownSpeed? roots f number).getD (listedSpeed roots f))
      (coreNumbers roots f) records := by
  unfold coreNumbers
  cases hcores : cores (info roots f) roots f with
  | error e =>
      rw [query_of_no_cores hcores] at h
      cases h
  | ok ticks =>
      rw [query_of_cores hcores] at h
      obtain ⟨rate, -, rfl⟩ := Except.map_eq_ok_iff.mp h
      rw [List.forall₂_map_left_iff, List.forall₂_map_right_iff, List.forall₂_same]
      exact fun t _ => speed_eq roots f t.core

theorem cores_of_alikeBut (h : f.AlikeBut roots core g) :
    cores (info roots g) roots g = cores (info roots f) roots f := by
  simp only [cores, ← info_congr h.info, ← readCounters_congr h.counters]

theorem listedSpeed_of_alikeBut (h : f.AlikeBut roots core g) :
    listedSpeed roots g = listedSpeed roots f := by
  rw [listedSpeed, listedSpeed, ← Roots.infoPath_eq, h.info]

/-- The record of another core is the same, that of the core itself has its own speed. -/
theorem recordFor_of_alikeBut (h : f.AlikeBut roots core g) (rate : UInt64) (t : Ticks) :
    recordFor roots g rate t =
      if t.core = core then
        { recordFor roots f rate t with
          speed := (ownSpeed? roots g core).getD (listedSpeed roots f) }
      else recordFor roots f rate t := by
  have hinfo := info_congr h.info
  split
  · next hcore =>
      rw [recordFor, record, speed_eq, listedSpeed_of_alikeBut h, hcore, ← hinfo]
      rfl
  · next hcore =>
      rw [recordFor, recordFor, record, record, ← hinfo, speed_congr (h.frequency t.core hcore)]

theorem query_of_alikeBut (h : f.AlikeBut roots core g) (os : Os) :
    query roots g os = (query roots f os).map
      (retuned (coreNumbers roots f) core
        ((ownSpeed? roots g core).getD (listedSpeed roots f))) := by
  unfold coreNumbers
  cases hcores : cores (info roots f) roots f with
  | error e =>
      rw [query_of_no_cores hcores, query_of_no_cores ((cores_of_alikeBut h).trans hcores)]
      rfl
  | ok ticks =>
      rw [query_of_cores hcores, query_of_cores ((cores_of_alikeBut h).trans hcores)]
      -- numbers and records come from the same counters, so they keep step
      have hrecords : ∀ rate, ticks.map (recordFor roots g rate) =
          retuned (ticks.map Ticks.core) core
            ((ownSpeed? roots g core).getD (listedSpeed roots f))
            (ticks.map (recordFor roots f rate)) := by
        intro rate
        rw [retuned, List.zipWith_map, List.zipWith_self]
        exact List.map_congr_left fun t _ => recordFor_of_alikeBut h rate t
      cases os.clockTicks with
      | error e => rfl
      | ok rate => exact congrArg Except.ok (hrecords rate)

/-! ## What the file of a core says -/

/-- The whole MHz of a frequency, where they fit; else the listed speed. -/
def speedAt (kilohertz : UInt64) (listed : UInt32) : UInt32 :=
  if kilohertz.toNat / 1000 < 2 ^ 32 then UInt32.ofNat (kilohertz.toNat / 1000) else listed

theorem trim_printed (kilohertz : UInt64) :
    Text.trim (toString kilohertz ++ "\n").toList = Numeral.digits kilohertz.toNat := by
  have hblank : ∀ c ∈ Numeral.digits kilohertz.toNat, Text.isBlank c = false :=
    fun _ => Numeral.isBlank_eq_false_of_mem_digits
  have htrim := Text.trim_eq_self hblank
  rw [Text.trim] at htrim
  rw [String.toList_append, Numeral.toList_toString_uint64, Text.trim]
  exact (congrArg Text.trimStart (Text.trimEnd_concat_blank (by decide) _)).trans htrim

theorem getD_wholeMegahertz_printed (kilohertz : UInt64) (listed : UInt32) :
    (wholeMegahertz? (toString kilohertz ++ "\n")).getD listed = speedAt kilohertz listed := by
  rw [wholeMegahertz?, trim_printed, Numeral.uint64_digits, Option.bind_some, speedAt]
  split <;> rfl

end Cpu

/-! ## All that is reported -/

namespace Platform

variable (p : Platform) (host host' : Host)

/-- A platform answers on two hosts alike, but for the speed of the records of one core. -/
structure Retuned (core speed : UInt32) : Prop where
  numbers : Cpu.coreNumbers p.roots host'.files = Cpu.coreNumbers p.roots host.files
  cpus : p.cpus host' =
    (p.cpus host).map (Cpu.retuned (Cpu.coreNumbers p.roots host.files) core speed)
  processMemory : p.processMemory host' = p.processMemory host
  executable : ∀ capacity, p.executable host' capacity = p.executable host capacity
  freeMemory : p.freeMemory host' = p.freeMemory host
  totalMemory : p.totalMemory host' = p.totalMemory host
  uptime : p.uptime host' = p.uptime host
  processAge : ∀ session, p.processAge host' session = p.processAge host session
  load : p.load host' = p.load host
  interfaces : p.interfaces host' = p.interfaces host
  snapshot : ∀ session, Snapshot.capture p host' session =
    { Snapshot.capture p host session with
      cpus := Cpu.retuned (Cpu.coreNumbers p.roots host.files) core speed
        (Snapshot.capture p host session).cpus }

variable {p}

theorem capture_of_cpus_map {f g : Files} {os : Os} {change : List Cpu.Record → List Cpu.Record}
    (hnil : change [] = []) (hcpus : p.cpus ⟨g, os⟩ = (p.cpus ⟨f, os⟩).map change)
    (hmemory : p.processMemory ⟨g, os⟩ = p.processMemory ⟨f, os⟩)
    (hexecutable : ∀ capacity, p.executable ⟨g, os⟩ capacity = p.executable ⟨f, os⟩ capacity)
    (session : Session) :
    Snapshot.capture p ⟨g, os⟩ session =
      { Snapshot.capture p ⟨f, os⟩ session with
        cpus := change (Snapshot.capture p ⟨f, os⟩ session).cpus } := by
  simp only [Snapshot.capture, hcpus, hmemory, hexecutable]
  cases p.cpus ⟨f, os⟩ with
  | error e =>
      have hempty :
          change ((.error e : Except Failure (List Cpu.Record)).toOption.getD []) = [] := hnil
      rw [hempty]
      rfl
  | ok records => rfl

theorem retuned_of_alikeBut {core : UInt32} {f g : Files} (h : f.AlikeBut p.roots core g)
    (os : Os) :
    p.Retuned ⟨f, os⟩ ⟨g, os⟩ core
      ((Cpu.ownSpeed? p.roots g core).getD (Cpu.listedSpeed p.roots f)) := by
  have hcpus := Cpu.query_of_alikeBut h os
  have hmemory : p.processMemory ⟨g, os⟩ = p.processMemory ⟨f, os⟩ :=
    (ProcessMemory.query_congr h.status os).symm
  have hexecutable : ∀ capacity, p.executable ⟨g, os⟩ capacity = p.executable ⟨f, os⟩ capacity :=
    fun capacity => (Executable.query_congr h.link capacity).symm
  exact {
    numbers := by
      simp only [Cpu.coreNumbers, Cpu.cores_of_alikeBut h]
    cpus := hcpus
    processMemory := hmemory
    executable := hexecutable
    freeMemory := rfl
    totalMemory := rfl
    uptime := rfl
    processAge := fun _ => rfl
    load := rfl
    interfaces := rfl
    snapshot := capture_of_cpus_map (Cpu.retuned_nil _ _ _) hcpus hmemory hexecutable }

/-! ## The file of a core in a fixture -/

variable {roots : Cpu.Roots}

/-- The path of the file that a fixture is given for a core. -/
theorem frequencyFile_eq (core : UInt32) :
    Path.ofString
        ("/sys/devices/system/cpu/cpu" ++ toString core ++ "/cpufreq/cpuinfo_max_freq") =
      (Path.ofString "/sys").join (Cpu.frequencyName core) := by
  have hname : "/sys/devices/system/cpu/cpu" ++ toString core ++ "/cpufreq/cpuinfo_max_freq" =
      "/sys/" ++ Cpu.frequencyName core := by
    have hfront : "/sys/devices/system/cpu/cpu" = "/sys/" ++ "devices/system/cpu/cpu" := by
      decide +kernel
    unfold Cpu.frequencyName
    rw [hfront, String.append_assoc, String.append_assoc, String.append_assoc]
  have hroot : Utf8.encode "/sys/" = Utf8.encode "/sys" ++ [Path.slash] := by decide +kernel
  rw [hname, Path.join, if_neg (by decide), Path.ofString, Utf8.encode_append, hroot,
    List.append_assoc]
  rfl

/-- It is the one that is looked at for the core. -/
theorem components_frequencyFile
    (hsys : roots.sys.components = (Path.ofString "/sys").components) (core : UInt32) :
    ((Path.ofString "/sys").join (Cpu.frequencyName core)).components =
      (roots.frequencyPath core).components := by
  rw [Cpu.components_frequencyPath, hsys]
  exact Path.components_join (Cpu.isBelow_frequencyName core) _

theorem addFrequency_eq (f : Fixture) (core : UInt32) (kilohertz : UInt64) :
    f.addFrequency core kilohertz =
      f.addText ((Path.ofString "/sys").join (Cpu.frequencyName core))
        (toString kilohertz ++ "\n") := by
  rw [← frequencyFile_eq]
  rfl

theorem speed_addFrequency (hsys : roots.sys.components = (Path.ofString "/sys").components)
    (f : Fixture) (core : UInt32) (kilohertz : UInt64) (listed : UInt32) :
    (Cpu.ownSpeed? roots (f.addFrequency core kilohertz).files core).getD listed =
      Cpu.speedAt kilohertz listed := by
  have hread : (f.addFrequency core kilohertz).files.readText (roots.frequencyPath core) =
      .ok (toString kilohertz ++ "\n") := by
    rw [addFrequency_eq]
    exact Fixture.readText_addText f (components_frequencyFile hsys core).symm _
  rw [Cpu.ownSpeed?, ← Cpu.Roots.frequencyPath_eq, hread]
  exact Cpu.getD_wholeMegahertz_printed kilohertz listed

theorem ownSpeed?_removeText (f : Fixture) {q : Path} {core : UInt32}
    (h : q.components = (roots.frequencyPath core).components) :
    Cpu.ownSpeed? roots (f.removeText q).files core = none := by
  have hread : (f.removeText q).files.readText (roots.frequencyPath core) = .error _ :=
    Fixture.readText_removeText f h.symm
  rw [Cpu.ownSpeed?, ← Cpu.Roots.frequencyPath_eq, hread]

/-- **The file of a highest frequency concerns its core alone.** Each record has the speed of one
core. Adding the file of a core to a fixture, where `/sys` is the root of the devices in any
spelling, gives the records of that core its speed, or the listed one where the speed does not fit,
and removing the file again gives them the listed speed. Nothing else that a platform reports
changes, failures and the numbers of the cores included. -/
theorem frequency_of_one_core (p : Platform)
    (hsys : p.roots.sys.components = (Path.ofString "/sys").components) (f : Fixture) (os : Os)
    (core : UInt32) (kilohertz : UInt64) :
    (∀ records, p.cpus ⟨f.files, os⟩ = .ok records →
      List.Forall₂
        (fun number r => r.speed =
          (Cpu.ownSpeed? p.roots f.files number).getD (Cpu.listedSpeed p.roots f.files))
        (Cpu.coreNumbers p.roots f.files) records) ∧
    p.Retuned ⟨f.files, os⟩ ⟨(f.addFrequency core kilohertz).files, os⟩ core
      (Cpu.speedAt kilohertz (Cpu.listedSpeed p.roots f.files)) ∧
    ∀ file : Path, file.components = (p.roots.frequencyPath core).components →
      p.Retuned ⟨f.files, os⟩ ⟨((f.addFrequency core kilohertz).removeText file).files, os⟩ core
        (Cpu.listedSpeed p.roots f.files) := by
  have hadded : f.files.AlikeBut p.roots core (f.addFrequency core kilohertz).files := by
    rw [addFrequency_eq]
    exact f.alikeBut_addText (components_frequencyFile hsys core) _
  refine ⟨fun _ => Cpu.forall₂_coreNumbers, ?_, ?_⟩
  · have hspeed := retuned_of_alikeBut hadded os
    rwa [speed_addFrequency hsys] at hspeed
  · intro file h
    have hremoved := hadded.trans ((f.addFrequency core kilohertz).alikeBut_removeText h)
    have hspeed := retuned_of_alikeBut hremoved os
    rwa [ownSpeed?_removeText _ h] at hspeed

/-! ## A host whose cores have numbers alike -/

/-- The number of one core starts, and that of another ends, with the number of a third, which is
there twice. -/
def alikeCounters : String :=
  "cpu  10 0 0 20 0 0\n" ++
  "cpu1 1 2 3 4 5 6\n" ++
  "cpu10 1 2 3 4 5 6\n" ++
  "cpu21 1 2 3 4 5 6\n" ++
  "cpu1 7 8 9 10 11 12\n"

/-- One of them has a frequency of its own. -/
def alikeHost : Fixture :=
  Fixture.empty
    |>.addText (.ofString "/proc/cpuinfo") "model name\t: First\ncpu MHz\t\t: 800.75\n"
    |>.addText (.ofString "/proc/stat") alikeCounters
    |>.addFrequency 10 2000000

/-- A platform that spells the roots in its own way. -/
def roundabout : Platform := ⟨⟨.ofString "/proc", .ofString "//sys/./"⟩, .status⟩

theorem frequency_of_one_core_alike :
    roundabout.Retuned ⟨alikeHost.files, Simulated.standard.answers⟩
      ⟨(alikeHost.addFrequency 1 3600999).files, Simulated.standard.answers⟩ 1 3600 ∧
    roundabout.Retuned ⟨alikeHost.files, Simulated.standard.answers⟩
      ⟨(alikeHost.addFrequency 1 4294967296000).files, Simulated.standard.answers⟩ 1 800 ∧
    roundabout.Retuned ⟨alikeHost.files, Simulated.standard.answers⟩
      ⟨((alikeHost.addFrequency 10 5).removeText
        (.ofString "/sys/devices/system/cpu//cpu10/cpufreq/cpuinfo_max_freq")).files,
        Simulated.standard.answers⟩ 10 800 ∧
    Cpu.coreNumbers roundabout.roots alikeHost.files = [1, 10, 21, 1] := by
  have hsys : roundabout.roots.sys.components = (Path.ofString "/sys").components := by
    decide +kernel
  have hlisted : Cpu.listedSpeed roundabout.roots alikeHost.files = 800 := by decide +kernel
  have hadded := fun kilohertz => (frequency_of_one_core roundabout hsys alikeHost
    Simulated.standard.answers 1 kilohertz).2.1
  have hremoved := (frequency_of_one_core roundabout hsys alikeHost
    Simulated.standard.answers 10 5).2.2
    (.ofString "/sys/devices/system/cpu//cpu10/cpufreq/cpuinfo_max_freq") (by decide +kernel)
  rw [hlisted] at hadded hremoved
  exact ⟨hadded 3600999, hadded 4294967296000, hremoved, by decide +kernel⟩

end Platform

end HostInfo
