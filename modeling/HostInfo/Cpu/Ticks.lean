import HostInfo.FieldScan
import HostInfo.Text.Cut

/-!
# Tick counters of the cores

The counters stand at the front of the statistics, one line for all cores together and one line
for each core. Reading stops at the first line that starts with another word.
-/

namespace HostInfo.Cpu

/-- What one core spent its time on, in clock ticks. -/
structure Ticks where
  core : UInt32
  user : UInt64
  nice : UInt64
  system : UInt64
  idle : UInt64
  irq : UInt64
deriving DecidableEq, Repr

namespace Ticks

/-- A core without any time spent. -/
def zero (core : UInt32) : Ticks := ⟨core, 0, 0, 0, 0, 0⟩

/-- What follows `cpu` in the first word of a line, if the line has a word that starts so. -/
def key? (line : List Char) : Option (List Char) :=
  (Text.fields line).head?.bind (Text.stripStart? "cpu".toList)

/-- Blank lines and lines about processors do not end the counters. -/
def isCounterLine (line : List Char) : Bool :=
  (Text.fields line).isEmpty || (key? line).isSome

/-- The lines about a single core, which have a digit after `cpu`. -/
def isCoreLine (line : List Char) : Bool :=
  match key? line with
  | some (c :: _) => c.isDigit
  | _ => false

/-- The columns behind the key. The one between idle and irq, the time spent waiting for devices,
is not kept. -/
def scanColumns (core : UInt32) : FieldScan Ticks := do
  let user ← .uint64 "user"
  let nice ← .uint64 "nice"
  let system ← .uint64 "system"
  let idle ← .uint64 "idle"
  .skip Numeral.uint64? ["iowait"]
  let irq ← .uint64 "irq"
  return { core, user, nice, system, idle, irq }

def scan : FieldScan Ticks := do
  let key ← .next "cpu key"
  match (Text.stripStart? "cpu".toList key).bind Numeral.uint32? with
  | none => throw (.badCoreKey (String.ofList key))
  | some core => scanColumns core

/-- The counters of each core, in the order of the lines. -/
def ofText (text : String) : Except FormatError (List Ticks) :=
  (((Text.lines text.toList).takeWhile isCounterLine).filter isCoreLine).mapM scan.runOn

end Ticks

end HostInfo.Cpu
