import HostInfo.Proofs.Cpu.Cores
import HostInfo.Snapshot

/-!
# What the queries see of the files

A platform looks at its files below its two roots only: at three texts and one link, and at the
frequency files of the cores that there are. Which cores these are is said by two of the texts, so
the places looked at are known only from what stands there. Two hosts whose files answer alike at
these places cannot be told apart by any query, whatever else their files hold.
-/

namespace HostInfo

/-- The core is one of those reported: it is listed by the counters, or else one of as many as the
list of processors has, counted from zero. -/
inductive Cpu.Enumerated (roots : Roots) (files : Files) (core : UInt32) : Prop where
  | counted {text : String} {ticks : List Ticks}
      (read : files.readText (roots.proc.join "stat") = .ok text)
      (accepted : Ticks.ofText text = .ok ticks) (mem : core ∈ ticks.map Ticks.core)
  | listed {cause : SystemError} (fails : CountersFail roots files cause)
      (lt : core < UInt32.ofNat (info roots files).cores)

/-- The files answer alike at all places below the roots that are looked at. -/
structure Files.Alike (roots : Cpu.Roots) (f g : Files) : Prop where
  info : f.readText (roots.proc.join "cpuinfo") = g.readText (roots.proc.join "cpuinfo")
  counters : f.readText (roots.proc.join "stat") = g.readText (roots.proc.join "stat")
  status : f.readText (roots.proc.join "self/stat") = g.readText (roots.proc.join "self/stat")
  link : f.readLink (roots.proc.join "self/exe") = g.readLink (roots.proc.join "self/exe")
  frequency : ∀ core, Cpu.Enumerated roots f core →
    f.readText (roots.sys.join
      ("devices/system/cpu/cpu" ++ toString core ++ "/cpufreq/cpuinfo_max_freq")) =
    g.readText (roots.sys.join
      ("devices/system/cpu/cpu" ++ toString core ++ "/cpufreq/cpuinfo_max_freq"))

/-! ## Cores -/

namespace Cpu

variable {roots : Roots} {f g : Files}

theorem readCounters_congr (h : f.readText roots.countersPath = g.readText roots.countersPath) :
    readCounters roots f = readCounters roots g := by
  rw [readCounters, readCounters, h]

theorem mem_idleCores {info : Info} {t : Ticks} (h : t ∈ idleCores info) :
    t.core < UInt32.ofNat info.cores := by
  obtain ⟨core, hcore, rfl⟩ := List.mem_map.mp h
  rw [List.mem_range] at hcore
  have hlt : core < 2 ^ 32 := Nat.lt_trans hcore (UInt32.toNat_lt _)
  rw [UInt32.lt_iff_toNat_lt, Ticks.zero, UInt32.toNat_ofNat_of_lt' hlt]
  exact hcore

/-- The cores that the query goes through are the ones said to be there. -/
theorem enumerated_of_mem {ticks : List Ticks} (h : cores (info roots f) roots f = .ok ticks)
    {t : Ticks} (ht : t ∈ ticks) : Enumerated roots f t.core := by
  unfold cores at h
  cases hcounters : readCounters roots f with
  | error cause =>
      rw [hcounters] at h
      dsimp only at h
      split at h
      · cases h
      · cases h
        exact .listed (readCounters_eq_error_iff.mp hcounters) (mem_idleCores ht)
  | ok _ =>
      rw [hcounters] at h
      cases h
      obtain ⟨text, hread, haccepted⟩ := readCounters_eq_ok_iff.mp hcounters
      exact .counted hread haccepted (List.mem_map_of_mem ht)

theorem query_congr_of_alike (h : f.Alike roots g) (os : Os) :
    query roots f os = query roots g os := by
  refine query_congr h.info ?_ ?_
  · simp only [cores, ← info_congr h.info, readCounters_congr h.counters]
  · intro ticks hok t ht
    exact h.frequency t.core (enumerated_of_mem hok ht)

end Cpu

/-! ## The other queries -/

theorem ProcessMemory.query_congr {proc : Path} {f g : Files}
    (h : f.readText (proc.join "self/stat") = g.readText (proc.join "self/stat")) (os : Os) :
    query proc f os = query proc g os := by
  simp only [query, h]

theorem Executable.query_congr {proc : Path} {f g : Files}
    (h : f.readLink (proc.join "self/exe") = g.readLink (proc.join "self/exe")) (capacity : Nat) :
    query proc f capacity = query proc g capacity := by
  simp only [query, h]

namespace Platform

/-- **Nothing outside the roots is seen.** On two hosts with the same system, whose files answer
alike where a platform looks below its roots, every query of that platform and every snapshot are
the same, failures included. -/
theorem confined_to_roots (p : Platform) {f g : Files} (h : f.Alike p.roots g) (os : Os)
    (session : Session) :
    p.processMemory ⟨f, os⟩ = p.processMemory ⟨g, os⟩ ∧
    p.cpus ⟨f, os⟩ = p.cpus ⟨g, os⟩ ∧
    p.freeMemory ⟨f, os⟩ = p.freeMemory ⟨g, os⟩ ∧
    p.totalMemory ⟨f, os⟩ = p.totalMemory ⟨g, os⟩ ∧
    p.uptime ⟨f, os⟩ = p.uptime ⟨g, os⟩ ∧
    p.load ⟨f, os⟩ = p.load ⟨g, os⟩ ∧
    p.processAge ⟨f, os⟩ session = p.processAge ⟨g, os⟩ session ∧
    (∀ capacity, p.executable ⟨f, os⟩ capacity = p.executable ⟨g, os⟩ capacity) ∧
    p.interfaces ⟨f, os⟩ = p.interfaces ⟨g, os⟩ ∧
    Snapshot.capture p ⟨f, os⟩ session = Snapshot.capture p ⟨g, os⟩ session := by
  have hmemory : p.processMemory ⟨f, os⟩ = p.processMemory ⟨g, os⟩ :=
    ProcessMemory.query_congr h.status os
  have hcpus : p.cpus ⟨f, os⟩ = p.cpus ⟨g, os⟩ := Cpu.query_congr_of_alike h os
  have hexecutable : ∀ capacity, p.executable ⟨f, os⟩ capacity = p.executable ⟨g, os⟩ capacity :=
    Executable.query_congr h.link
  refine ⟨hmemory, hcpus, rfl, rfl, rfl, rfl, rfl, hexecutable, rfl, ?_⟩
  simp only [Snapshot.capture, hmemory, hcpus, hexecutable]
  rfl

/-! ## A host among others -/

/-- The roots of a host whose files stand below a directory. -/
def guestRoots : Cpu.Roots := ⟨.ofString "/host/proc", .ofString "/host/sys"⟩

/-- The counters of that host: one core. -/
def guestCounters : String := "cpu1 1 2 3 4 5 6\n"

/-- The files of that host. -/
def guest : Files := (Fixture.empty.addText (guestRoots.proc.join "stat") guestCounters).files

/-- The same host where every other path, too, is that of a file and of a link. -/
def guestAmongOthers : Files where
  readText path :=
    if path ∈ [guestRoots.proc.join "cpuinfo", guestRoots.proc.join "stat",
      guestRoots.proc.join "self/stat",
      guestRoots.sys.join "devices/system/cpu/cpu1/cpufreq/cpuinfo_max_freq"] then
      guest.readText path
    else .ok "cpu0 9 9 9 9 9 9\n"
  readLink path :=
    if path = guestRoots.proc.join "self/exe" then guest.readLink path
    else .ok (.ofString "/bin/outer")

theorem enumerated_guest {core : UInt32} (h : Cpu.Enumerated guestRoots guest core) : core = 1 := by
  have hread : guest.readText (guestRoots.proc.join "stat") = .ok guestCounters := by rfl
  have hticks : Cpu.Ticks.ofText guestCounters = .ok [⟨1, 1, 2, 3, 4, 6⟩] :=
    Except.eq_ok_of_toOption (by decide +kernel)
  cases h with
  | counted hread' haccepted hmem =>
      rw [hread] at hread'
      cases hread'
      rw [hticks] at haccepted
      cases haccepted
      exact List.mem_singleton.mp hmem
  | listed hfails _ =>
      rw [← Cpu.readCounters_eq_error_iff, Cpu.readCounters_of_ok hread, hticks] at hfails
      cases hfails

theorem alike_guest : guest.Alike guestRoots guestAmongOthers where
  info := by simp [guestAmongOthers]
  counters := by simp [guestAmongOthers]
  status := by simp [guestAmongOthers]
  link := by simp [guestAmongOthers]
  frequency core h := by
    have hname : "devices/system/cpu/cpu" ++ toString (1 : UInt32) ++ "/cpufreq/cpuinfo_max_freq" =
        "devices/system/cpu/cpu1/cpufreq/cpuinfo_max_freq" := by decide +kernel
    rw [enumerated_guest h, hname]
    simp [guestAmongOthers]

theorem confined_to_roots_guest :
    Platform.cpus ⟨guestRoots, .status⟩ ⟨guest, Simulated.standard.answers⟩ =
      Platform.cpus ⟨guestRoots, .status⟩ ⟨guestAmongOthers, Simulated.standard.answers⟩ ∧
    Snapshot.capture ⟨guestRoots, .status⟩ ⟨guest, Simulated.standard.answers⟩ .fresh =
      Snapshot.capture ⟨guestRoots, .status⟩
        ⟨guestAmongOthers, Simulated.standard.answers⟩ .fresh := by
  obtain ⟨-, hcpus, -, -, -, -, -, -, -, hsnapshot⟩ :=
    confined_to_roots ⟨guestRoots, .status⟩ alike_guest Simulated.standard.answers .fresh
  exact ⟨hcpus, hsnapshot⟩

end Platform

end HostInfo
