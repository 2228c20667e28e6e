import HostInfo.Log.Directive

/-!
# Which events are written

A filter is a list of directives, of which the most specific one that covers an event decides on
it. Directives can be given as text, parted by commas.
-/

namespace HostInfo.Log

structure Filter where
  directives : List Directive
deriving DecidableEq, Repr

namespace Filter

/-- Adds a directive instead of one about the same events. -/
def add (f : Filter) (d : Directive) : Filter :=
  ⟨f.directives.filter (fun old => !old.sameScope d) ++ [d]⟩

/-- The parts of a text that are not empty. -/
def parts (text : String) : List (List Char) := (text.toList.splitOn ',').filter (· ≠ [])

/-- The directives of a text; those that cannot be read are passed over. Without any, errors are
written. -/
def ofText (text : String) : Filter :=
  match (parts text).filterMap fun s => (Directive.ofChars s).toOption with
  | [] => ⟨[⟨none, none, none, none, Level.error.verbosity⟩]⟩
  | ds => (ds.filter Directive.isAboutEvents).foldl add ⟨[]⟩

/-- A line about each part of a text that cannot be read. -/
def complaints (text : String) : List String :=
  (parts text).filterMap fun s =>
    match Directive.ofChars s with
    | .ok _ => none
    | .error e => some ("ignoring `" ++ String.ofList s ++ "`: " ++ e.message)

/-- The most specific directive that covers an event. -/
def directive? (f : Filter) (e : Event) : Option Directive :=
  (f.directives.filter (·.covers e)).foldl
    (fun best d => match best with
      | some b => if b.isBelow d then some d else some b
      | none => some d)
    none

def admits (f : Filter) (e : Event) : Bool :=
  match f.directive? e with
  | some d => e.level.verbosity ≤ d.verbosity
  | none => false

end Filter

/-- The filter of a run: how much is written about the program itself depends on the options
alone, and `quiet` wins. -/
def filterFor (setting : String) (verbose : Nat) (quiet : Bool) : Filter :=
  let level : Level := if quiet then .error
    else match verbose with
      | 0 => .warn
      | 1 => .debug
      | _ => .trace
  ["platinfo", "platinfo_core"].foldl (fun f target => f.add (.ofTarget target level.verbosity))
    (Filter.ofText setting)

end HostInfo.Log
