import HostInfo.Binary64.Reader
import HostInfo.Log.Event
import HostInfo.Numeral
import HostInfo.Pattern.Support
import HostInfo.Text.Alphanumeric
import HostInfo.Text.Blank
import HostInfo.Text.Bytes

/-!
# Directives

A directive gives a level to some targets. It is a level alone, a target alone, or both with an
equals sign in between; a target can be followed, in brackets, by the name of a span and by a
field in braces, with or without a value. The places of the marks are counted from the first
character that is not blank, but the parts are cut from the whole text, so that blanks in front
shift them, and blanks at the end belong to the level.
-/

namespace HostInfo.Log

structure Directive where
  /-- The start of the targets that are meant; all of them if it is missing. -/
  target : Option String
  span : Option String
  field : Option String
  /-- What the field is compared with. -/
  value : Option String
  /-- The least urgent level written, in terms of `Level.verbosity`; zero writes nothing. -/
  verbosity : Nat
deriving DecidableEq, Repr

/-- Why a text is no directive. -/
inductive DirectiveError where
  | malformed
  | badLevel
  /-- The value of a field is neither a number nor a pattern that can be matched. -/
  | badValue (fault : Pattern.Fault)
deriving DecidableEq, Repr

def DirectiveError.message : DirectiveError → String
  | .malformed => "invalid filter directive"
  | .badLevel =>
    "error parsing level filter: expected one of \"off\", \"error\", \"warn\", \"info\", " ++
      "\"debug\", \"trace\", or a number 0-5"
  | .badValue fault => "invalid field filter: " ++ fault.message

namespace Directive

/-- The directive for all events of a target. -/
def ofTarget (target : String) (verbosity : Nat) : Directive :=
  ⟨some target, none, none, none, verbosity⟩

/-! ## Reading -/

/-- A level by its name in any case or by its number. -/
def verbosity? (s : List Char) : Option Nat :=
  match Numeral.unsigned? s with
  | some n => if n ≤ Level.trace.verbosity then some n else none
  | none =>
    [("off", 0), ("error", 1), ("warn", 2), ("info", 3), ("debug", 4), ("trace", 5)].lookup
      (String.ofList (s.map Char.toLower))

/-- What a directive without a level writes: everything. -/
def everything : Nat := Level.trace.verbosity

def readVerbosity (s : List Char) : Except DirectiveError Nat :=
  if s = [] then .ok everything
  else
    match verbosity? s with
    | some v => .ok v
    | none => .error .badLevel

/-- The text between two places; a part that starts or ends inside a character is none. -/
def part (s : List Char) (start stop : Nat) : Except DirectiveError String :=
  match Text.bytesBetween? s start stop with
  | some p => .ok (String.ofList p)
  | none => .error .malformed

/-- Reads what follows a target or a bracket at a place: a level behind an equals sign. -/
def readLevel (s : List Char) (place : Nat) : List Char → Except DirectiveError Nat
  | [] => .ok everything
  | '=' :: _ =>
    match Text.bytesFrom? s (place + 1) with
    | some level => readVerbosity level
    | none => .error .malformed
  | _ => .error .malformed

/-- A value that is no number must be a pattern. It would be compared with the values of spans, of
which there are none here, so that only its form counts. -/
def valueFault? (value : List Char) : Option Pattern.Fault :=
  if (Numeral.signed? value).isSome ∨ (Binary64.ofChars? value).isSome then none
  else Pattern.fault? value

/-- Reads a field: a name, and a value up to the next equals sign. -/
def readField (text : String) : Except DirectiveError (String × Option String) :=
  match text.toList.splitOn '=' with
  | name :: value :: _ =>
    match valueFault? value with
    | none => .ok (String.ofList name, some (String.ofList value))
    | some fault => .error (.badValue fault)
  | _ => .ok (text, none)

/-- Reads what follows an opening bracket at a place. -/
def readScope (s : List Char) (target : Option String) (place : Nat) (rest : List Char) :
    Except DirectiveError Directive := do
  let name := rest.takeWhile fun c => c ≠ ']' && c ≠ '\x7b'
  let start := place + 1
  let stop := start + Text.byteSize name
  let span ← part s start stop
  match rest.drop name.length with
  | [] => throw .malformed
  | ']' :: rest =>
    return ⟨target, some span, none, none, ← readLevel s (stop + 1) rest⟩
  | _ :: rest =>
    let field := rest.takeWhile (· ≠ '\x7d')
    let fieldStart := stop + 1
    let fieldStop := fieldStart + Text.byteSize field
    if field = [] then throw .malformed
    match rest.drop field.length with
    | [] => throw .malformed
    | _ :: rest =>
      let (name, value) ← readField (← part s fieldStart fieldStop)
      match rest with
      | ']' :: rest =>
        return ⟨target, if span = "" then none else some span, some name, value,
          ← readLevel s (fieldStop + 2) rest⟩
      | _ => throw .malformed

/-- The characters that a directive can start with, brackets apart. -/
def isStart (c : Char) : Bool := c = '-' || c = ':' || c = '_' || Text.isAlphanumeric c

def ofChars (s : List Char) : Except DirectiveError Directive := do
  let trimmed := Text.trim s
  let word := trimmed.takeWhile fun c => c ≠ '=' && c ≠ '['
  let stop := Text.byteSize word
  if ¬ (word.head?.all isStart) then throw .malformed
  match trimmed.drop word.length with
  | '[' :: rest =>
    let target ← if word = [] then pure none else some <$> part s 0 stop
    readScope s target stop rest
  | rest =>
    if word = [] then throw .malformed
    if rest = [] then
      match verbosity? s with
      | some v => return ⟨none, none, none, none, v⟩
      | none => return ofTarget (String.ofList s) everything
    else return ofTarget (← part s 0 stop) (← readLevel s stop rest)

/-! ## Which events are meant -/

/-- Directives for spans of one name or fields of one value are not about events. -/
def isAboutEvents (d : Directive) : Bool := d.span.isNone && d.value.isNone

/-- Whether an event is of the target and has the field. -/
def covers (d : Directive) (e : Event) : Bool :=
  d.target.all (fun t => t.toList.isPrefixOf e.target.toList) &&
    d.field.all fun f => e.fieldNames.contains f

/-- The length of the target; a missing one is shorter than any. -/
def extent (d : Directive) : Nat :=
  match d.target with
  | none => 0
  | some t => t.utf8ByteSize + 1

/-- Directives with a longer target, and then those with a later field, are more specific. Two of
one length that cover the same event have the same target. -/
def isBelow (a b : Directive) : Bool :=
  a.extent < b.extent || (a.extent = b.extent &&
    match a.field, b.field with
    | none, some _ => true
    | some f, some g => decide (f < g)
    | _, none => false)

/-- Whether two directives are about the same events. -/
def sameScope (a b : Directive) : Bool := a.target = b.target && a.field = b.field

end Directive

end HostInfo.Log
