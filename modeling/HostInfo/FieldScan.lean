import HostInfo.FormatError
import HostInfo.Numeral
import HostInfo.Text.Fields

/-!
# Reading fields in order

A positional format is read field by field. Each field has a name, and the scan stops at the
first field that is missing or does not read.
-/

namespace HostInfo

/-- A scan takes fields off the front of those that are left. -/
abbrev FieldScan := StateT (List (List Char)) (Except FormatError)

namespace FieldScan

/-- Takes the next field as it stands. -/
def next (name : String) : FieldScan (List Char)
  | [] => .error (.missingField name)
  | field :: rest => .ok (field, rest)

/-- Takes the next field and reads it. -/
def read {α : Type} (name : String) (value? : List Char → Option α) : FieldScan α
  | [] => .error (.missingField name)
  | field :: rest =>
    match value? field with
    | some a => .ok (a, rest)
    | none => .error (.badField name (String.ofList field))

/-- Takes one field for each name; all must read, and none is kept. -/
def skip {α : Type} (value? : List Char → Option α) : List String → FieldScan Unit
  | [] => pure ()
  | name :: names => do
    let _ ← read name value?
    skip value? names

def uint64 (name : String) : FieldScan UInt64 := read name Numeral.uint64?

def int32 (name : String) : FieldScan Int32 := read name Numeral.int32?

def int64 (name : String) : FieldScan Int64 := read name Numeral.int64?

/-- The character of a text that has no other. -/
def single? : List Char → Option Char
  | [c] => some c
  | _ => none

/-- A field of exactly one character. -/
def character (name : String) : FieldScan Char := read name single?

/-- Runs a scan over the fields of a text. What is left over is ignored. -/
def runOn {α : Type} (scan : FieldScan α) (s : List Char) : Except FormatError α :=
  scan.run' (Text.fields s)

end FieldScan

end HostInfo
