import HostInfo.Json.Basic

/-!
# Tables of interfaces

A table holds the addresses of each interface in the order in which they were added. The
interfaces stand in the order in which their first address was added.
-/

namespace HostInfo.Interface

inductive Family where
  | ipv4
  | ipv6
  | unknown
deriving DecidableEq, Repr

def Family.name : Family → String
  | .ipv4 => "IPv4"
  | .ipv6 => "IPv6"
  | .unknown => "<unknown>"

def Family.ofName? : String → Option Family
  | "IPv4" => some .ipv4
  | "IPv6" => some .ipv6
  | "<unknown>" => some .unknown
  | _ => none

/-- One address of an interface. -/
structure Entry where
  address : String
  family : Family
  /-- Whether the interface is only reached from the host itself. -/
  internal : Bool
deriving DecidableEq, Repr

/-- What stands for an address of an unknown family. -/
def unknownAddress : String := "<unknown sa family>"

structure Table where
  rows : List (String × List Entry)
deriving DecidableEq, Repr

namespace Table

def empty : Table := ⟨[]⟩

/-- Adds an entry to the row of its name, or a new row at the end. -/
def pushRow (name : String) (entry : Entry) : List (String × List Entry) → List (String × List Entry)
  | [] => [(name, [entry])]
  | (n, entries) :: rows =>
    if n = name then (n, entries ++ [entry]) :: rows
    else (n, entries) :: pushRow name entry rows

def push (table : Table) (name : String) (entry : Entry) : Table :=
  ⟨pushRow name entry table.rows⟩

/-- The table to which the entries are added one after the other. -/
def ofList (entries : List (String × Entry)) : Table :=
  entries.foldl (fun table (name, entry) => table.push name entry) empty

def get? (table : Table) (name : String) : Option (List Entry) :=
  table.rows.lookup name

def names (table : Table) : List String := table.rows.map Prod.fst

def size (table : Table) : Nat := table.rows.length

def isEmpty (table : Table) : Bool := table.rows.isEmpty

end Table

/-! ## As JSON -/

def Entry.toJson (e : Entry) : Json :=
  .object [("address", .string e.address), ("family", .string e.family.name),
    ("internal", .bool e.internal)]

/-- An object with a member for each interface. -/
def Table.toJson (table : Table) : Json :=
  .object (table.rows.map fun (name, entries) => (name, .array (entries.map Entry.toJson)))

def Entry.ofJson? : Json → Option Entry
  | .object [("address", .string address), ("family", .string family),
      ("internal", .bool internal)] =>
    (Family.ofName? family).map fun family => ⟨address, family, internal⟩
  | _ => none

def Table.rowOfJson? : String × Json → Option (String × List Entry)
  | (name, .array items) => (items.mapM Entry.ofJson?).map fun entries => (name, entries)
  | _ => none

def Table.ofJson? : Json → Option Table
  | .object members => (members.mapM rowOfJson?).map Table.mk
  | _ => none

end HostInfo.Interface
