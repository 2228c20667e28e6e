import HostInfo.Cpu.Ticks
import HostInfo.Json.Basic

/-!
# What is reported about a core

Model, clock speed and the time spent, in milliseconds. Sums and products that do not fit 64 bits
stay at the greatest number.
-/

namespace HostInfo

/-- The greatest 64-bit number where `n` does not fit. -/
def saturated (n : Nat) : UInt64 := UInt64.ofNat (min n (2 ^ 64 - 1))

namespace Cpu

structure Times where
  user : UInt64
  nice : UInt64
  system : UInt64
  idle : UInt64
  irq : UInt64
deriving DecidableEq, Repr

structure Record where
  model : String
  /-- Clock speed in whole MHz. -/
  speed : UInt32
  times : Times
deriving DecidableEq, Repr

/-- Ticks at `rate` ticks a second in milliseconds; a rate of zero counts as one. -/
def millis (ticks rate : UInt64) : UInt64 :=
  saturated (ticks.toNat * 1000) / max rate 1

namespace Times

def addSaturated (a b : UInt64) : UInt64 := saturated (a.toNat + b.toNat)

/-- All the time spent. -/
def total (t : Times) : UInt64 :=
  [t.nice, t.system, t.idle, t.irq].foldl addSaturated t.user

def ofTicks (rate : UInt64) (t : Ticks) : Times :=
  { user := millis t.user rate, nice := millis t.nice rate, system := millis t.system rate,
    idle := millis t.idle rate, irq := millis t.irq rate }

def toJson (t : Times) : Json :=
  .object [("user", .natural t.user.toNat), ("nice", .natural t.nice.toNat),
    ("sys", .natural t.system.toNat), ("idle", .natural t.idle.toNat),
    ("irq", .natural t.irq.toNat)]

end Times

def Record.toJson (r : Record) : Json :=
  .object [("model", .string r.model), ("speed", .natural r.speed.toNat),
    ("times", r.times.toJson)]

end Cpu

end HostInfo
