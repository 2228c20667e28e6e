import HostInfo.Binary64.Reader
import HostInfo.Json.Basic
import HostInfo.Text.Cut

/-!
# Reading JSON

One value with blanks allowed between its parts, and nothing but blanks behind it. The members of
an object keep their order, and a name that occurs twice is kept twice. A number made of digits
alone is a whole number, any other is a binary64 number. In a string an escaped code unit that is
half of a pair must be followed by the other half.
-/

namespace HostInfo.Json

def isBlank (c : Char) : Bool := c = ' ' || c = '\t' || c = '\n' || c = '\r'

def skipBlanks (s : List Char) : List Char := s.dropWhile isBlank

/-! ## Strings -/

/-- The code unit of four hexadecimal digits. -/
def codeUnit? (a b c d : Char) : Option Nat := Numeral.hex? [a, b, c, d]

/-- The character of a code unit that is no half of a pair. -/
def single? (n : Nat) : Option Char :=
  if h : n.isValidChar then some (Char.ofNatAux n h) else none

def isFirstHalf (n : Nat) : Bool := 0xd800 ≤ n && n < 0xdc00

/-- The character of two halves. -/
def pair? (first second : Nat) : Option Char :=
  if 0xdc00 ≤ second ∧ second < 0xe000 then
    single? (0x10000 + (first - 0xd800) * 0x400 + (second - 0xdc00))
  else none

/-- The character that a letter or mark after a backslash stands for. -/
def escaped? : Char → Option Char
  | '"' => some '"'
  | '\\' => some '\\'
  | '/' => some '/'
  | 'b' => some '\x08'
  | 'f' => some '\x0c'
  | 'n' => some '\n'
  | 'r' => some '\r'
  | 't' => some '\t'
  | _ => none

/-- The characters up to the closing quote, and what follows it. -/
def characters? : List Char → Option (List Char × List Char)
  | [] => none
  | '"' :: rest => some ([], rest)
  | '\\' :: 'u' :: a :: b :: c :: d :: rest =>
    match codeUnit? a b c d with
    | none => none
    | some n =>
      if isFirstHalf n then
        match rest with
        | '\\' :: 'u' :: e :: f :: g :: h :: rest =>
          follow ((codeUnit? e f g h).bind (pair? n)) (characters? rest)
        | _ => none
      else follow (single? n) (characters? rest)
  | '\\' :: c :: rest => follow (escaped? c) (characters? rest)
  | c :: rest => if c = '\\' ∨ c < ' ' then none else follow (some c) (characters? rest)
where
  /-- One more character in front. -/
  follow (c : Option Char) (read : Option (List Char × List Char)) :
      Option (List Char × List Char) := do
    let c ← c
    let (cs, rest) ← read
    return (c :: cs, rest)

/-! ## Numbers -/

def isNumberChar (c : Char) : Bool :=
  c.isDigit || c = '-' || c = '+' || c = '.' || c = 'e' || c = 'E'

/-- A part before the point has no leading zero, and a point stands between digits. -/
def isNumber (s : List Char) : Bool :=
  let unsigned := match s with
    | '-' :: s => s
    | s => s
  let before := unsigned.takeWhile Char.isDigit
  let pointOk := match unsigned.dropWhile Char.isDigit with
    | '.' :: c :: _ => c.isDigit
    | '.' :: [] => false
    | _ => true
  before ≠ [] && (before = ['0'] || before.head? ≠ some '0') && pointOk

def ofNumeral? (s : List Char) : Option Json :=
  if isNumber s then
    match Numeral.natural? s with
    | some n => some (.natural n)
    | none => (Binary64.ofChars? s).map .number
  else none

/-! ## Values -/

/-- What follows `c` and the blanks in front of it. -/
def skipMark? (c : Char) (s : List Char) : Option (List Char) :=
  Text.stripStart? [c] (skipBlanks s)

/-- A name and the colon behind it. -/
def name? (s : List Char) : Option (String × List Char) := do
  let rest ← skipMark? '"' s
  let (name, rest) ← characters? rest
  let rest ← skipMark? ':' rest
  return (String.ofList name, rest)

mutual

/-- Reads one value from the front. A step into a value or past an item uses up one unit of fuel. -/
def value? : Nat → List Char → Option (Json × List Char)
  | 0, _ => none
  | fuel + 1, s =>
    match skipBlanks s with
    | 'n' :: rest => (Text.stripStart? "ull".toList rest).map (.null, ·)
    | 't' :: rest => (Text.stripStart? "rue".toList rest).map (.bool true, ·)
    | 'f' :: rest => (Text.stripStart? "alse".toList rest).map (.bool false, ·)
    | '"' :: rest => (characters? rest).map fun (cs, rest) => (.string (String.ofList cs), rest)
    | '[' :: rest =>
      match skipMark? ']' rest with
      | some rest => some (.array [], rest)
      | none => (items? fuel rest).map fun (items, rest) => (.array items, rest)
    | '\x7b' :: rest =>
      match skipMark? '\x7d' rest with
      | some rest => some (.object [], rest)
      | none => (members? fuel rest).map fun (members, rest) => (.object members, rest)
    | s => (ofNumeral? (s.takeWhile isNumberChar)).map (·, s.dropWhile isNumberChar)

/-- One or more values with commas between them, up to the bracket that closes them. -/
def items? : Nat → List Char → Option (List Json × List Char)
  | 0, _ => none
  | fuel + 1, s => do
    let (item, rest) ← value? fuel s
    match skipMark? ',' rest with
    | some rest =>
      let (items, rest) ← items? fuel rest
      return (item :: items, rest)
    | none => return ([item], ← skipMark? ']' rest)

/-- One or more members with commas between them, up to the brace that closes them. -/
def members? : Nat → List Char → Option (List (String × Json) × List Char)
  | 0, _ => none
  | fuel + 1, s => do
    let (name, rest) ← name? s
    let (item, rest) ← value? fuel rest
    match skipMark? ',' rest with
    | some rest =>
      let (members, rest) ← members? fuel rest
      return ((name, item) :: members, rest)
    | none => return ([(name, item)], ← skipMark? '\x7d' rest)

end

/-- Reads a whole text. A value needs no more fuel than it has characters. -/
def ofChars? (s : List Char) : Option Json :=
  match value? s.length s with
  | some (j, rest) => if skipBlanks rest = [] then some j else none
  | none => none

def ofText? (text : String) : Option Json := ofChars? text.toList

end HostInfo.Json
