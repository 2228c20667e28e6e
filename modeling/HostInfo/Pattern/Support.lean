import HostInfo.Pattern.Reader

/-!
# Which patterns can be matched

Texts are matched without tables of Unicode. While a pattern is about characters, it can thus ask
neither for letters in both cases nor for digits, blanks and word characters, nor for the edge of
a word. While it is about bytes, it can do so, but must not match a part of a character:
nothing that it asks for by itself lies outside ASCII. A character that is written out stands for
all of its bytes.
-/

namespace HostInfo.Pattern

/-- The first code point outside ASCII. -/
def asciiEnd : Nat := 128

namespace CharSet

mutual

def isSupported (m : Mode) : CharSet → Bool
  | .nothing => true
  | .char point => if m.unicode then !m.caseless else point < asciiEnd
  | .range _ last => if m.unicode then !m.caseless else last < asciiEnd
  | .named negated => if m.unicode then !m.caseless else !negated
  | .shorthand negated => !m.unicode && !negated
  | .union members => areSupported m members
  | .bracketed negated body => (m.unicode || !negated) && body.isSupported m
  | .operation left right => left.isSupported m && right.isSupported m

def areSupported (m : Mode) : List CharSet → Bool
  | [] => true
  | s :: rest => s.isSupported m && areSupported m rest

end

end CharSet

/-- The edge of a word is left to `isUnicodeWordEdge`. -/
def Leaf.isSupported (m : Mode) : Leaf → Bool
  | .char point asByte =>
    if m.unicode then !m.caseless else !asByte || point < asciiEnd
  | .anyChar => m.unicode
  | .edge | .wordEdge => true
  | .shorthand negated => !m.unicode && !negated
  | .set members => members.isSupported m

def Leaf.isUnicodeWordEdge (m : Mode) : Leaf → Bool
  | .wordEdge => m.unicode
  | _ => false

/-- Why a text cannot be matched. -/
inductive Fault where
  /-- It is no pattern, or asks for what is not supported. -/
  | unsupported
  | unicodeWordEdge
deriving DecidableEq, Repr

def Fault.message : Fault → String
  | .unsupported => "error building NFA"
  | .unicodeWordEdge =>
    "unsupported regex feature for DFAs: cannot build DFAs for regexes with Unicode word " ++
      "boundaries; switch to ASCII word boundaries, or heuristically enable Unicode word " ++
      "boundaries or use a different regex engine"

/-- Why a text cannot be matched, if so. The edge of a word is noticed last. -/
def fault? (s : List Char) : Option Fault :=
  match ofChars? s with
  | none => some .unsupported
  | some p =>
    let leaves := p.leaves .standard
    if ¬ leaves.all fun (m, l) => l.isSupported m then some .unsupported
    else if leaves.any fun (m, l) => l.isUnicodeWordEdge m then some .unicodeWordEdge
    else none

end HostInfo.Pattern
