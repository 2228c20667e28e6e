import HostInfo.Binary64.Bits
import HostInfo.Os.Basic

/-!
# Uptime

The seconds since the system started, read from one of two clocks. Which clock is used is settled
once, the finer one first.
-/

namespace HostInfo

/-- The clock from which the uptime is read. -/
inductive UptimeSource where
  | monotonic
  /-- Whole seconds, as the system counts them. -/
  | status
  | unavailable
deriving DecidableEq, Repr

/-- A clock reading in seconds. -/
def Instant.toBinary64 (t : Instant) : Binary64 :=
  Binary64.ofNat t.seconds.toNat + Binary64.ofNat t.nanoseconds.toNat / 1000000000

/-- What stands for an uptime that is not known. -/
def unknownUptime : Binary64 := -1

namespace UptimeSource

def name : UptimeSource → String
  | .monotonic => "Monotonic"
  | .status => "Sysinfo"
  | .unavailable => "Unavailable"

/-- The first clock that can be read. -/
def detect (os : Os) : UptimeSource :=
  if os.monotonic.isOk then .monotonic
  else if os.status.isOk then .status
  else .unavailable

/-- What the clock shows now, if it can be read. -/
def reading? (os : Os) : UptimeSource → Option Binary64
  | .monotonic => os.monotonic.toOption.map Instant.toBinary64
  | .status => os.status.toOption.map fun s => Binary64.ofNat s.uptime.toNat
  | .unavailable => none

def uptime (source : UptimeSource) (os : Os) : Binary64 :=
  (source.reading? os).getD unknownUptime

end UptimeSource

end HostInfo
