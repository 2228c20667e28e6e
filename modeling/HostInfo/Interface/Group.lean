import HostInfo.Interface.Address
import HostInfo.Interface.Table

/-!
# Grouping addresses by interface

The system lists one record for each address of each interface. Kept are the records of
interfaces that are up and running and that have an address other than one of the link layer.
-/

namespace HostInfo.Interface

/-- The state of an interface. -/
structure Flags where
  up : Bool
  loopback : Bool
  running : Bool
deriving DecidableEq, Repr

/-- Bits 0, 3 and 6 of a word; the other bits mean nothing here. -/
def Flags.ofWord (w : UInt32) : Flags :=
  { up := w.toNat.testBit 0, loopback := w.toNat.testBit 3, running := w.toNat.testBit 6 }

/-- One record of the system's list. -/
structure Record where
  name : String
  flags : Flags
  /-- Missing where no address is assigned. -/
  address : Option Address
deriving DecidableEq

/-- Text and family of an address; one of the link layer has none. -/
def Address.shown? : Address → Option (String × Family)
  | .v4 a => some (String.ofList a.chars, .ipv4)
  | .v6 a => some (String.ofList a.chars, .ipv6)
  | .link => none
  | .other _ => some (unknownAddress, .unknown)

/-- The entry of a record that is kept, with its name. -/
def Record.entry? (r : Record) : Option (String × Entry) :=
  if r.flags.up ∧ r.flags.running then
    (r.address.bind Address.shown?).map fun (text, family) =>
      (r.name, ⟨text, family, r.flags.loopback⟩)
  else none

/-- The table of the kept records. -/
def group (records : List Record) : Table := .ofList (records.filterMap Record.entry?)

end HostInfo.Interface
