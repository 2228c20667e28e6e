import HostInfo.Clock
import HostInfo.Cpu.Cores
import HostInfo.Executable
import HostInfo.Load
import HostInfo.Memory
import HostInfo.Session

/-!
# Platforms

A platform knows where the system's files stand and which clock the uptime is read from; both are
settled when it is attached to the system. Every query looks at the host anew.
-/

namespace HostInfo

/-- What there is to look at: the files and the answers of the system. -/
structure Host where
  files : Files
  os : Os

structure Platform where
  roots : Cpu.Roots
  source : UptimeSource
deriving DecidableEq, Repr

namespace Platform

/-- The roots on a Linux system. -/
def defaultRoots : Cpu.Roots := ⟨.ofString "/proc", .ofString "/sys"⟩

/-- Settles the clock and records the start of the process if it is not recorded yet. -/
def attach (roots : Cpu.Roots) (os : Os) (session : Session) : Platform × Session :=
  let source := UptimeSource.detect os
  (⟨roots, source⟩, session.recordStart (source.uptime os))

/-! ## Queries -/

def processMemory (p : Platform) (host : Host) : Except Failure ProcessMemory :=
  ProcessMemory.query p.roots.proc host.files host.os

def cpus (p : Platform) (host : Host) : Except Failure (List Cpu.Record) :=
  Cpu.query p.roots host.files host.os

def freeMemory (_ : Platform) (host : Host) : Except Failure Binary64 := SystemMemory.free host.os

def totalMemory (_ : Platform) (host : Host) : Except Failure Binary64 :=
  SystemMemory.total host.os

/-- Seconds since the start of the system; negative if they are not known. -/
def uptime (p : Platform) (host : Host) : Binary64 := p.source.uptime host.os

/-- Seconds since the start of the process; never negative if both readings are known, also where
the clock went back in between. -/
def processAge (p : Platform) (host : Host) (session : Session) : Binary64 :=
  let now := p.uptime host
  match session.start with
  | some start => if 0 ≤ start ∧ 0 ≤ now then max (now - start) 0 else unknownUptime
  | none => unknownUptime

def load (_ : Platform) (host : Host) : Except Failure Load := do
  let status ← host.os.status
  return .ofUnits status.load.1 status.load.2.1 status.load.2.2

def executable (p : Platform) (host : Host) (capacity : Nat) : Except Failure String :=
  Executable.query p.roots.proc host.files capacity

def interfaces (_ : Platform) (host : Host) : Except Failure Interface.Table :=
  host.os.interfaces.map Interface.group

end Platform

end HostInfo
