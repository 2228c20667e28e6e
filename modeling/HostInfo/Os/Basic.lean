import HostInfo.Failure
import HostInfo.Interface.Group

/-!
# What the operating system answers

The facilities that are not files: sizes and counts, two clocks, the load, the list of interface
addresses, and the name under which the system knows the process. Every query can fail. Renaming
the process is the only one that changes the system.
-/

namespace HostInfo

/-- A reading of a clock. -/
structure Instant where
  seconds : UInt64
  nanoseconds : UInt32
deriving DecidableEq, Repr

/-- What the system counts since it started. -/
structure SystemStatus where
  /-- Seconds since the start. -/
  uptime : UInt64
  /-- Mean loads over one, five and fifteen minutes, in units of 2 ^ -16. -/
  load : UInt64 × UInt64 × UInt64
deriving DecidableEq, Repr

/-- The answers of the system at one moment. -/
structure Os where
  /-- Size of a page of memory, in bytes. -/
  pageSize : Except Failure UInt64
  /-- Clock ticks per second. -/
  clockTicks : Except Failure UInt64
  physicalPages : Except Failure UInt64
  availablePages : Except Failure UInt64
  monotonic : Except Failure Instant
  status : Except Failure SystemStatus
  interfaces : Except Failure (List Interface.Record)

/-- A system whose states are of type `σ`. -/
class OperatingSystem (σ : Type) where
  answers : σ → Os
  rename : String → σ → Except Failure σ

end HostInfo
