import HostInfo.Os.Basic

/-!
# The running system

A system that has been asked already: its answers are fixed. It takes any name for the process
that has no NUL in it, as names end there.
-/

namespace HostInfo

structure Kernel where
  os : Os
  /-- The last name given to the process. -/
  name : Option String

namespace Kernel

/-- The number of bytes before the first NUL. -/
def nulPosition? (s : String) : Option Nat := (Utf8.encode s).idxOf? 0

def rename (name : String) (k : Kernel) : Except Failure Kernel :=
  match nulPosition? name with
  | none => .ok { k with name := some name }
  | some n =>
    .error (.format "process title" ("nul byte found in provided data at position: " ++ toString n))

instance : OperatingSystem Kernel := ⟨Kernel.os, rename⟩

end Kernel

end HostInfo
