import HostInfo.Json.Basic
import HostInfo.Json.Number

/-!
# JSON text

Two layouts of one value: compact, without any blank, and indented by two spaces a level with
empty arrays and objects closed on the spot. In a string the quote, the backslash and the
characters below the space are escaped, all others stand as they are.
-/

namespace HostInfo.Json

/-! ## Strings -/

def hexDigit (n : Nat) : Char := Nat.digitChar n

def escape (c : Char) : List Char :=
  if c = '"' then ['\\', '"']
  else if c = '\\' then ['\\', '\\']
  else if c = '\x08' then ['\\', 'b']
  else if c = '\x0c' then ['\\', 'f']
  else if c = '\n' then ['\\', 'n']
  else if c = '\r' then ['\\', 'r']
  else if c = '\t' then ['\\', 't']
  else if c < ' ' then
    ['\\', 'u', '0', '0', hexDigit (c.toNat / 16), hexDigit (c.toNat % 16)]
  else [c]

def quote (s : String) : List Char := '"' :: s.toList.flatMap escape ++ ['"']

/-! ## Compact -/

mutual

def compact : Json → List Char
  | .null => "null".toList
  | .bool b => (if b then "true" else "false").toList
  | .natural n => Numeral.digits n
  | .number x => numberText x
  | .string s => quote s
  | .array items => '[' :: compactItems items ++ [']']
  | .object members => '{' :: compactMembers members ++ ['}']

def compactItems : List Json → List Char
  | [] => []
  | [item] => compact item
  | item :: items => compact item ++ ',' :: compactItems items

def compactMembers : List (String × Json) → List Char
  | [] => []
  | [(name, item)] => quote name ++ ':' :: compact item
  | (name, item) :: members => quote name ++ ':' :: compact item ++ ',' :: compactMembers members

end

/-! ## Indented -/

/-- A line end and the blanks before the first character of a line. -/
def newLine (level : Nat) : List Char := '\n' :: List.replicate (2 * level) ' '

mutual

def indented (level : Nat) : Json → List Char
  | .array [] => ['[', ']']
  | .object [] => ['{', '}']
  | .array items => '[' :: indentedItems (level + 1) items ++ newLine level ++ [']']
  | .object members => '{' :: indentedMembers (level + 1) members ++ newLine level ++ ['}']
  | .null => compact .null
  | .bool b => compact (.bool b)
  | .natural n => compact (.natural n)
  | .number x => compact (.number x)
  | .string s => compact (.string s)

def indentedItems (level : Nat) : List Json → List Char
  | [] => []
  | [item] => newLine level ++ indented level item
  | item :: items =>
    newLine level ++ indented level item ++ ',' :: indentedItems level items

def indentedMembers (level : Nat) : List (String × Json) → List Char
  | [] => []
  | [(name, item)] => newLine level ++ quote name ++ ':' :: ' ' :: indented level item
  | (name, item) :: members =>
    newLine level ++ quote name ++ ':' :: ' ' :: indented level item ++
      ',' :: indentedMembers level members

end

/-- The compact text. -/
def text (j : Json) : String := String.ofList j.compact

/-- The indented text. -/
def prettyText (j : Json) : String := String.ofList (j.indented 0)

end HostInfo.Json
