import HostInfo.Pattern.CharSet

/-!
# Patterns

A pattern is a regular expression. Settings inside it change the mode in which what follows is
meant: up to the end of the group that they stand in, across the bars between its branches too.
`leaves` lists the parts without parts, each with the mode in which it is meant.
-/

namespace HostInfo

namespace Pattern

/-- Settings that are switched on or off; those that are missing stay as they are. Further
settings, such as how far a repetition reaches, have no bearing on the form. -/
structure Settings where
  /-- Letters stand for both of their cases. -/
  caseless : Option Bool
  /-- Patterns are about characters, not bytes. -/
  unicode : Option Bool
  /-- Blanks are free. -/
  free : Option Bool
deriving DecidableEq, Repr

def Settings.unchanged : Settings := ⟨none, none, none⟩

/-- The settings in force, as far as they give the parts another meaning. -/
structure Mode where
  caseless : Bool
  unicode : Bool
deriving DecidableEq, Repr

/-- The mode at the start of a pattern. -/
def Mode.standard : Mode := ⟨false, true⟩

def Mode.change (m : Mode) (s : Settings) : Mode :=
  ⟨s.caseless.getD m.caseless, s.unicode.getD m.unicode⟩

/-- A part without parts. -/
inductive Leaf where
  | char (point : Nat) (asByte : Bool)
  | anyChar
  /-- The start or the end of the text or a line. -/
  | edge
  /-- The edge of a word, or its absence. -/
  | wordEdge
  | shorthand (negated : Bool)
  | set (members : CharSet)
deriving Repr

def Leaf.ofEscaped : Escaped → Leaf
  | .char point asByte => .char point asByte
  | .edge => .edge
  | .wordEdge => .wordEdge
  | .shorthand negated => .shorthand negated

end Pattern

inductive Pattern where
  | empty
  | settings (change : Pattern.Settings)
  | leaf (l : Pattern.Leaf)
  | repeated (p : Pattern)
  | group (change : Pattern.Settings) (p : Pattern)
  | choice (branches : List Pattern)
  | sequence (items : List Pattern)
deriving Repr

namespace Pattern

/-- One item needs no sequence. -/
def ofItems : List Pattern → Pattern
  | [] => .empty
  | [p] => p
  | items => .sequence items

/-- One branch needs no choice. -/
def ofBranches : List Pattern → Pattern
  | [p] => p
  | branches => .choice branches

mutual

/-- How deeply parts are nested in a pattern. -/
def depth : Pattern → Nat
  | .leaf (.set members) => members.depth
  | .repeated p | .group _ p => p.depth + 1
  | .choice ps | .sequence ps => depthOfAll ps + 1
  | _ => 0

def depthOfAll : List Pattern → Nat
  | [] => 0
  | p :: rest => max p.depth (depthOfAll rest)

end

mutual

/-- The mode behind a pattern that starts in a mode. -/
def modeAfter (m : Mode) : Pattern → Mode
  | .settings change => m.change change
  | .repeated p => modeAfter m p
  | .choice ps | .sequence ps => modeAfterAll m ps
  | _ => m

def modeAfterAll (m : Mode) : List Pattern → Mode
  | [] => m
  | p :: rest => modeAfterAll (modeAfter m p) rest

end

mutual

/-- The parts without parts, in order, each with its mode. -/
def leaves (m : Mode) : Pattern → List (Mode × Leaf)
  | .leaf l => [(m, l)]
  | .repeated p => leaves m p
  | .group change p => leaves (m.change change) p
  | .choice ps | .sequence ps => leavesOfAll m ps
  | _ => []

def leavesOfAll (m : Mode) : List Pattern → List (Mode × Leaf)
  | [] => []
  | p :: rest => leaves m p ++ leavesOfAll (modeAfter m p) rest

end

end Pattern

end HostInfo
