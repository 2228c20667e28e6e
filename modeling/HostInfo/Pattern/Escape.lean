import HostInfo.Numeral
import HostInfo.Text.Blank

/-!
# Escapes and free blanks

A backslash gives the character behind it another meaning. Where blanks are free, they can stand
between any two parts of a pattern, also between the digits of a code point, and so can comments;
the character right behind a backslash is always meant as it is.
-/

namespace HostInfo.Pattern

/-! ## Free blanks -/

/-- What follows the blanks at the front. `inComment` says that a comment has begun. -/
def skipFree (inComment : Bool) : List Char → List Char
  | [] => []
  | c :: rest =>
    if inComment then skipFree (c ≠ '\n') rest
    else if Text.isBlank c then skipFree false rest
    else if c = '#' then skipFree true rest
    else c :: rest

/-- What follows blanks and comments, if they are free. -/
def skip (free : Bool) (s : List Char) : List Char := if free then skipFree false s else s

/-! ## Escapes -/

/-- What an escape stands for. -/
inductive Escaped where
  /-- A character. If it is written with two hexadecimal digits, it is meant as a byte where
  patterns are about bytes. -/
  | char (point : Nat) (asByte : Bool)
  /-- The start or the end of the text. -/
  | edge
  /-- The edge of a word, or its absence. -/
  | wordEdge
  /-- Digits, blanks or word characters, or all others. -/
  | shorthand (negated : Bool)
deriving DecidableEq, Repr

/-- The number of hexadecimal digits that a letter behind the backslash asks for. -/
def digitCount? : Char → Option Nat
  | 'x' => some 2
  | 'u' => some 4
  | 'U' => some 8
  | _ => none

/-- The meaning of a letter behind the backslash. Classes that are named by a property have no
meaning, as there are no tables of properties. -/
def letter? : Char → Option Escaped
  | 'a' => some (.char 7 false)
  | 't' => some (.char 9 false)
  | 'n' => some (.char 10 false)
  | 'v' => some (.char 11 false)
  | 'f' => some (.char 12 false)
  | 'r' => some (.char 13 false)
  | 'A' | 'z' => some .edge
  | 'b' | 'B' => some .wordEdge
  | 'd' | 's' | 'w' => some (.shorthand false)
  | 'D' | 'S' | 'W' => some (.shorthand true)
  | _ => none

/-- The meaning of a character behind the backslash: angle brackets are the edges of a word, and
all other ASCII marks stand for themselves. -/
def meaning? (c : Char) : Option Escaped :=
  if c.isAlphanum then letter? c
  else if c = '<' ∨ c = '>' then some .wordEdge
  else if c.toNat < 128 then some (.char c.toNat false)
  else none

/-- A number of hexadecimal digits, which continue the number `start`. -/
def hexDigits? (free : Bool) : Nat → Nat → List Char → Option (Nat × List Char)
  | 0, start, s => some (start, s)
  | n + 1, start, s =>
    match skip free s with
    | [] => none
    | c :: rest =>
      match Numeral.hexDigit? c with
      | some d => hexDigits? free n (start * 16 + d) rest
      | none => none

/-- Reads what follows a backslash. -/
def escape? (free : Bool) : List Char → Option (Escaped × List Char)
  | [] => none
  | c :: rest =>
    match digitCount? c with
    | some n =>
      match hexDigits? free n 0 rest with
      | some (point, rest) =>
        if point.isValidChar then some (.char point (c = 'x'), rest) else none
      | none => none
    | none => (meaning? c).map (·, rest)

end HostInfo.Pattern
