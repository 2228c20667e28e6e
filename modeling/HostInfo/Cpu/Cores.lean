import HostInfo.Cpu.Frequency
import HostInfo.Cpu.Info
import HostInfo.Cpu.Record
import HostInfo.Files.Basic
import HostInfo.Os.Basic

/-!
# The cores of the host

Three sources are merged: the list of processors, the tick counters and one frequency file for
each core. The counters say which cores there are. Without counters the list of processors says
how many there are, and their times are zero; without either there is no answer.
-/

namespace HostInfo.Cpu

/-- The two roots below which the files stand. -/
structure Roots where
  proc : Path
  sys : Path
deriving DecidableEq, Repr

namespace Roots

def infoPath (roots : Roots) : Path := roots.proc.join "cpuinfo"

def countersPath (roots : Roots) : Path := roots.proc.join "stat"

def frequencyPath (roots : Roots) (core : UInt32) : Path :=
  roots.sys.join ("devices/system/cpu/cpu" ++ toString core ++ "/cpufreq/cpuinfo_max_freq")

end Roots

/-! ## The sources -/

/-- The list of processors, or why it cannot be read. -/
def readInfo (roots : Roots) (files : Files) : Except SystemError Info :=
  (files.readText roots.infoPath).map Info.ofText

/-- The list of processors; nothing is known where there is none. -/
def info (roots : Roots) (files : Files) : Info :=
  match readInfo roots files with
  | .ok info => info
  | .error _ => .unknown

/-- The counters. A text that is none of counters counts as unreadable. -/
def readCounters (roots : Roots) (files : Files) : Except SystemError (List Ticks) := do
  let text ← files.readText roots.countersPath
  (Ticks.ofText text).mapError fun e => .custom .invalidData e.describe

/-- Why a core has no highest frequency. -/
inductive NoFrequency where
  | unreadable (cause : SystemError)
  | garbled (cause : FormatError)
deriving DecidableEq, Repr

/-- The highest frequency of a core, in MHz. -/
def readFrequency (roots : Roots) (files : Files) (core : UInt32) : Except NoFrequency UInt32 := do
  let text ← (files.readText (roots.frequencyPath core)).mapError .unreadable
  (megahertz text).mapError .garbled

/-! ## The cores -/

/-- As many cores as the list of processors has, none of which has spent any time. Their number
is one of 32 bits. -/
def idleCores (info : Info) : List Ticks :=
  (List.range (UInt32.ofNat info.cores).toNat).map fun core => Ticks.zero (UInt32.ofNat core)

/-- The counters of each core that there is. -/
def cores (info : Info) (roots : Roots) (files : Files) : Except Failure (List Ticks) :=
  match readCounters roots files with
  | .ok ticks => .ok ticks
  | .error cause =>
    if info.cores = 0 then .error (.read roots.countersPath cause) else .ok (idleCores info)

/-- Its own highest frequency, or else the clock speed from the list of processors. -/
def speed (info : Info) (roots : Roots) (files : Files) (core : UInt32) : UInt32 :=
  match readFrequency roots files core with
  | .ok mhz => mhz
  | .error _ => info.speed

def record (info : Info) (roots : Roots) (files : Files) (rate : UInt64) (ticks : Ticks) :
    Record where
  model := info.model
  speed := speed info roots files ticks.core
  times := .ofTicks rate ticks

/-- One record for each core, in the order of the counters. -/
def query (roots : Roots) (files : Files) (os : Os) : Except Failure (List Record) := do
  let info := info roots files
  let cores ← cores info roots files
  let rate ← os.clockTicks
  return cores.map (record info roots files rate)

end HostInfo.Cpu
