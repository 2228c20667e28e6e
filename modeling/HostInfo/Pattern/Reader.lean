import HostInfo.Pattern.Basic
import HostInfo.Text.Alphanumeric

/-!
# Reading a pattern

Branches stand between bars, items side by side, and a mark behind an item repeats it. A brace is
refused, as no count of repetitions can be complete: what is read here has no closing brace.
-/

namespace HostInfo.Pattern

/-! ## Groups -/

/-- The letters of settings. -/
def settingMarks : List Char := ['i', 'm', 's', 'U', 'u', 'R', 'x']

/-- Whether a letter is switched on, or off behind a hyphen. -/
def setting? (s : List Char) (letter : Char) : Option Bool :=
  if letter ∈ s then some ('-' ∉ s.takeWhile (· ≠ letter)) else none

/-- Settings by their letters. None stands there twice, and something follows the hyphen. -/
def Settings.ofChars? (s : List Char) : Option Settings :=
  if (s.all fun c => c = '-' ∨ c ∈ settingMarks) ∧ s.Nodup ∧ s.getLast? ≠ some '-' then
    some ⟨setting? s 'i', setting? s 'u', setting? s 'x'⟩
  else none

/-- What the front of a group says. -/
inductive Opening where
  | group (change : Settings) (name : Option (List Char))
  /-- Settings for what follows, without a group. -/
  | settings (change : Settings)
deriving DecidableEq, Repr

def isNameStart (c : Char) : Bool := c = '_' || Text.isLetter c

def isNameChar (c : Char) : Bool :=
  c = '_' || c = '.' || c = '[' || c = ']' || Text.isAlphanumeric c

/-- Reads a name up to its closing angle bracket. -/
def name? (s : List Char) : Option (Opening × List Char) :=
  let name := s.takeWhile (· ≠ '>')
  match name, s.drop name.length with
  | c :: more, _ :: rest =>
    if isNameStart c ∧ more.all isNameChar then some (.group .unchanged (some name), rest) else none
  | _, _ => none

/-- Reads what the front of a group says, given what follows its bracket. -/
def opening? : List Char → Option (Opening × List Char)
  | '?' :: 'P' :: '<' :: rest => name? rest
  | '?' :: '<' :: rest => name? rest
  | '?' :: rest =>
    let marks := rest.takeWhile fun c => c ≠ ':' && c ≠ ')'
    match Settings.ofChars? marks, rest.drop marks.length with
    | some change, ':' :: rest => some (.group change none, rest)
    | some change, _ :: rest => if marks = [] then none else some (.settings change, rest)
    | _, _ => none
  | s => some (.group .unchanged none, s)

/-! ## Items -/

/-- Settings cannot be repeated. -/
def isRepeatable : Pattern → Bool
  | .settings _ => false
  | _ => true

/-- Repeats the last of some items, which comes first. -/
def repeatLast? : List Pattern → Option (List Pattern)
  | [] => none
  | p :: items => if isRepeatable p then some (.repeated p :: items) else none

/-- A question mark right behind a repetition belongs to it. -/
def afterRepetition : List Char → List Char
  | '?' :: rest => rest
  | s => s

/-- Reads a character, an escape or a set. -/
def leaf? (free : Bool) : List Char → Option (Leaf × List Char)
  | [] => none
  | '[' :: rest => (CharSet.read? free rest).map fun (members, rest) => (.set members, rest)
  | '\\' :: rest => (escape? free rest).map fun (e, rest) => (.ofEscaped e, rest)
  | '.' :: rest => some (.anyChar, rest)
  | '^' :: rest | '$' :: rest => some (.edge, rest)
  | '\x7b' :: _ => none
  | c :: rest => some (.char c.toNat false, rest)

/-! ## Branches -/

/-- What is known in the middle of a pattern. -/
structure Context where
  /-- Whether blanks are free. -/
  free : Bool
  /-- The names of the groups so far, which differ. -/
  names : List (List Char)
deriving DecidableEq, Repr

/-- The context inside a group; its name must be new. -/
def Context.enter? (context : Context) (change : Settings) : Option (List Char) → Option Context
  | none => some { context with free := change.free.getD context.free }
  | some name =>
    if name ∈ context.names then none
    else some ⟨change.free.getD context.free, name :: context.names⟩

/-- The branches of a group, the last one given by its items; both come last first. -/
def close (branches items : List Pattern) : Pattern :=
  ofBranches (ofItems items.reverse :: branches).reverse

/-- Reads branches up to a closing bracket or the end. `branches` and `items` have been read
before, last one first. -/
def branches? : Nat → Context → List Pattern → List Pattern → List Char →
    Option (Pattern × Context × List Char)
  | 0, _, _, _, _ => none
  | fuel + 1, context, branches, items, s =>
    match skip context.free s with
    | [] => some (close branches items, context, [])
    | ')' :: rest => some (close branches items, context, ')' :: rest)
    | '|' :: rest => branches? fuel context (ofItems items.reverse :: branches) [] rest
    | '(' :: rest =>
      match opening? (skip context.free rest) with
      | none => none
      | some (.settings change, rest) =>
        let context := { context with free := change.free.getD context.free }
        branches? fuel context branches (.settings change :: items) rest
      | some (.group change name, rest) =>
        match context.enter? change name with
        | none => none
        | some inner =>
          match branches? fuel inner [] [] rest with
          | some (p, inner, ')' :: rest) =>
            branches? fuel ⟨context.free, inner.names⟩ branches (.group change p :: items) rest
          | _ => none
    | c :: rest =>
      if c = '*' ∨ c = '+' ∨ c = '?' then
        match repeatLast? items with
        | some items => branches? fuel context branches items (afterRepetition rest)
        | none => none
      else
        match leaf? context.free (c :: rest) with
        | some (l, rest) => branches? fuel context branches (.leaf l :: items) rest
        | none => none

/-- Parts are nested at most this deeply. -/
def maxDepth : Nat := 250

/-- Reads a pattern. -/
def ofChars? (s : List Char) : Option Pattern :=
  match branches? (s.length + 1) ⟨false, []⟩ [] [] s with
  | some (p, _, []) => if p.depth ≤ maxDepth then some p else none
  | _ => none

end HostInfo.Pattern
