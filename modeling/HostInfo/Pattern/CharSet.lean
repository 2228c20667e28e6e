import HostInfo.Pattern.Escape

/-!
# Sets of characters

A set stands in brackets. It has characters, ranges, classes and further sets as members, and
its members can be combined with others by the operators `&&`, `--` and `~~`, which bind alike
and to the left. Which of the operators stands there, and which class is named, makes no
difference to the form.
-/

namespace HostInfo.Pattern

inductive CharSet where
  | nothing
  | char (point : Nat)
  | range (first last : Nat)
  /-- A class of ASCII characters by its name. -/
  | named (negated : Bool)
  /-- Digits, blanks or word characters, or all others. -/
  | shorthand (negated : Bool)
  | union (members : List CharSet)
  | bracketed (negated : Bool) (body : CharSet)
  | operation (left right : CharSet)
deriving Repr

namespace CharSet

/-- All members together; a single one needs no union. -/
def ofMembers : List CharSet → CharSet
  | [] => .nothing
  | [s] => s
  | members => .union members

mutual

/-- How deeply sets are nested in a set. -/
def depth : CharSet → Nat
  | .union members => depthOfAll members + 1
  | .bracketed _ body => body.depth + 1
  | .operation left right => max left.depth right.depth + 1
  | _ => 0

def depthOfAll : List CharSet → Nat
  | [] => 0
  | s :: rest => max s.depth (depthOfAll rest)

end

/-! ## Members -/

/-- One end of a range. -/
def item? (free : Bool) : List Char → Option (Escaped × List Char)
  | [] => none
  | '\\' :: rest => escape? free rest
  | c :: rest => some (.char c.toNat false, rest)

def ofEscaped? : Escaped → Option CharSet
  | .char point _ => some (.char point)
  | .shorthand negated => some (.shorthand negated)
  | _ => none

/-- A range must not run backwards. -/
def range? : Escaped → Escaped → Option CharSet
  | .char first _, .char last _ => if first ≤ last then some (.range first last) else none
  | _, _ => none

/-- The next character that is not blank, one number sign being passed over. -/
def peek? (free : Bool) (s : List Char) : Option Char :=
  if free then
    match s.dropWhile Text.isBlank with
    | '#' :: rest => (rest.dropWhile Text.isBlank).head?
    | rest => rest.head?
  else s.head?

/-- Reads a character, a class or a range. A hyphen makes no range in front of a closing bracket
or another hyphen. -/
def member? (free : Bool) (s : List Char) : Option (CharSet × List Char) :=
  match item? free s with
  | none => none
  | some (first, rest) =>
    match skip free rest with
    | '-' :: after =>
      if peek? free after = some ']' ∨ peek? free after = some '-' then
        (ofEscaped? first).map (·, rest)
      else
        match item? free (skip free after) with
        | some (last, after) => (range? first last).map (·, after)
        | none => none
    | _ => (ofEscaped? first).map (·, rest)

/-- The names of classes. -/
def names : List String :=
  ["alnum", "alpha", "ascii", "blank", "cntrl", "digit", "graph", "lower", "print", "punct",
   "space", "upper", "word", "xdigit"]

/-- A caret at the front negates. -/
def caret : List Char → Bool × List Char
  | '^' :: rest => (true, rest)
  | s => (false, s)

/-- Reads a class by its name, which stands between colons, given what follows its bracket. -/
def named? : List Char → Option (CharSet × List Char)
  | ':' :: rest =>
    let (negated, rest) := caret rest
    let name := rest.takeWhile (· ≠ ':')
    match rest.drop name.length with
    | ':' :: ']' :: after =>
      if String.ofList name ∈ names then some (.named negated, after) else none
    | _ => none
  | _ => none

/-! ## Sets -/

/-- Where a member stands: at the front, behind hyphens at the front, or further on. A hyphen at
the front is a member, and so is a closing bracket if nothing stands before it. -/
inductive Place where
  | front
  | behindHyphen
  | inside
deriving DecidableEq, Repr

/-- What stands in front of an operator together with what follows it, last member first. -/
def combine : Option CharSet → List CharSet → CharSet
  | none, members => ofMembers members.reverse
  | some left, members => .operation left (ofMembers members.reverse)

/-- Reads a set up to its closing bracket. `left` stands in front of the last operator, and
`members` behind it, last member first. -/
def body? (free : Bool) :
    Nat → Place → Option CharSet → List CharSet → List Char → Option (CharSet × List Char)
  | 0, _, _, _, _ => none
  | fuel + 1, place, left, members, s =>
    match skip free s with
    | [] => none
    | ']' :: rest =>
      if place = .front then body? free fuel .inside left (.char ']'.toNat :: members) rest
      else some (combine left members, rest)
    | '[' :: rest =>
      match named? rest with
      | some (member, rest) => body? free fuel .inside left (member :: members) rest
      | none =>
        let (negated, rest) := caret (skip free rest)
        match body? free fuel .front none [] rest with
        | some (body, rest) =>
          body? free fuel .inside left (.bracketed negated body :: members) rest
        | none => none
    | '&' :: '&' :: rest => body? free fuel .inside (some (combine left members)) [] rest
    | '~' :: '~' :: rest => body? free fuel .inside (some (combine left members)) [] rest
    | '-' :: rest =>
      if place ≠ .inside then
        body? free fuel .behindHyphen left (.char '-'.toNat :: members) rest
      else
        match rest with
        | '-' :: rest => body? free fuel .inside (some (combine left members)) [] rest
        | _ =>
          match member? free ('-' :: rest) with
          | some (member, rest) => body? free fuel .inside left (member :: members) rest
          | none => none
    | s =>
      match member? free s with
      | some (member, rest) => body? free fuel .inside left (member :: members) rest
      | none => none

/-- Reads a set, given what follows its bracket. -/
def read? (free : Bool) (s : List Char) : Option (CharSet × List Char) :=
  let (negated, rest) := caret (skip free s)
  (body? free (rest.length + 1) .front none [] rest).map fun (body, rest) =>
    (.bracketed negated body, rest)

end CharSet

end HostInfo.Pattern
