import HostInfo.Os.Basic

/-!
# A simulated system

A system with given answers. A facility without a value is missing, and single calls can be made
to fail. Every name that the process is given is kept.
-/

namespace HostInfo

/-- A call that is made to fail, or the clock rate that is made to be zero. -/
inductive Fault where
  | pageSize
  | clockTicks
  | physicalPages
  | availablePages
  | status
  | rename
  | interfaces
  | zeroClockTicks
deriving DecidableEq, Repr

structure Simulated where
  pageSize : UInt64
  /-- Zero where the rate is not known. -/
  clockTicks : UInt64
  physicalPages : UInt64
  availablePages : UInt64
  monotonic : Option Instant
  status : Option SystemStatus
  interfaces : Option (List Interface.Record)
  /-- Whether the process can be renamed at all. -/
  renames : Bool
  faults : List Fault
  /-- The names given to the process, oldest first. -/
  applied : List String

namespace Simulated

def standard : Simulated where
  pageSize := 4096
  clockTicks := 100
  physicalPages := 4194304
  availablePages := 1048576
  monotonic := some ⟨12345, 670000000⟩
  status := some ⟨12345, 65536, 32768, 16384⟩
  interfaces := some []
  renames := true
  faults := []
  applied := []

/-- Interfaces as they often are: a loopback and an Ethernet interface, a record of the link
layer and an interface that is up but not running. -/
def typicalRecords : List Interface.Record :=
  let running : Interface.Flags := ⟨true, false, true⟩
  let loopback : Interface.Flags := ⟨true, true, true⟩
  [⟨"lo", loopback, some .link⟩,
   ⟨"lo", loopback, some (.v4 ⟨#v[127, 0, 0, 1]⟩)⟩,
   ⟨"eth0", running, some (.v4 ⟨#v[192, 168, 1, 20]⟩)⟩,
   ⟨"docker0", ⟨true, false, false⟩, some (.v4 ⟨#v[172, 17, 0, 1]⟩)⟩,
   ⟨"lo", loopback, some (.v6 ⟨#v[0, 0, 0, 0, 0, 0, 0, 1]⟩)⟩,
   ⟨"eth0", running, some (.v6 ⟨#v[0xfe80, 0, 0, 0, 0, 0, 0, 1]⟩)⟩]

def typical : Simulated := { standard with interfaces := some typicalRecords }

/-- An answer, unless the call is made to fail. -/
def guarded {α : Type} (s : Simulated) (fault : Fault) (call : String)
    (answer : Except Failure α) : Except Failure α :=
  if fault ∈ s.faults then .error (.call call .invalidArgument) else answer

/-- The value of a facility, or the failure of the call where there is none. -/
def provided {α : Type} (call : String) : Option α → Except Failure α
  | some a => .ok a
  | none => .error (.call call (.bare .unsupported))

def answers (s : Simulated) : Os where
  pageSize := s.guarded .pageSize "sysconf(_SC_PAGESIZE)" (.ok s.pageSize)
  clockTicks := s.guarded .clockTicks "sysconf(_SC_CLK_TCK)" <|
    if .zeroClockTicks ∈ s.faults then .ok 0
    else provided "sysconf(_SC_CLK_TCK)" (if s.clockTicks = 0 then none else some s.clockTicks)
  physicalPages := s.guarded .physicalPages "sysconf(_SC_PHYS_PAGES)" (.ok s.physicalPages)
  availablePages := s.guarded .availablePages "sysconf(_SC_AVPHYS_PAGES)" (.ok s.availablePages)
  monotonic := provided "clock_gettime(CLOCK_MONOTONIC)" s.monotonic
  status := s.guarded .status "sysinfo" (provided "sysinfo" s.status)
  interfaces := s.guarded .interfaces "getifaddrs" <|
    match s.interfaces with
    | some records => .ok records
    | none => .error (.unsupported "interface enumeration")

/-- Renames the process and keeps the name. -/
def rename (name : String) (s : Simulated) : Except Failure Simulated :=
  s.guarded .rename "prctl(PR_SET_NAME)" <|
    if s.renames then .ok { s with applied := s.applied ++ [name] }
    else .error (.unsupported "setting the process title")

instance : OperatingSystem Simulated := ⟨answers, rename⟩

end Simulated

end HostInfo
