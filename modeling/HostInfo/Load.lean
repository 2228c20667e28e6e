import HostInfo.Binary64.Fixed
import HostInfo.Json.Basic

/-!
# Load averages

The mean number of runnable tasks over the last one, five and fifteen minutes. The system counts
them in units of 2 ^ -16.
-/

namespace HostInfo

structure Load where
  one : Binary64
  five : Binary64
  fifteen : Binary64
deriving DecidableEq

namespace Load

/-- From the system's units. -/
def ofUnits (one five fifteen : UInt64) : Load :=
  let scaled (n : UInt64) := Binary64.ofNat n.toNat / 65536
  ⟨scaled one, scaled five, scaled fifteen⟩

def toJson (l : Load) : Json :=
  .object [("load1", .number l.one), ("load5", .number l.five), ("load15", .number l.fifteen)]

/-- The three averages without names. -/
def toJsonArray (l : Load) : Json :=
  .array [.number l.one, .number l.five, .number l.fifteen]

def text (l : Load) : String :=
  "load average: " ++ l.one.fixed 2 ++ ", " ++ l.five.fixed 2 ++ ", " ++ l.fifteen.fixed 2

end Load

end HostInfo
