import HostInfo.Binary64.Basic

/-!
# JSON values

A value as it is written: the members of an object have an order, whole numbers are kept apart
from binary64 numbers, and negative whole numbers do not occur.
-/

namespace HostInfo

inductive Json where
  | null
  | bool (b : Bool)
  | natural (n : Nat)
  | number (x : Binary64)
  | string (s : String)
  | array (items : List Json)
  | object (members : List (String × Json))

namespace Json

/-- A value that may be missing. -/
def optional {α : Type} (f : α → Json) : Option α → Json
  | none => null
  | some a => f a

end Json

end HostInfo
