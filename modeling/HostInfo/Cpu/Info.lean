import HostInfo.Binary64.Reader
import HostInfo.Text.Blank
import HostInfo.Text.Cut
import HostInfo.Text.Fields

/-!
# Processor descriptions

The list of processors has a block of lines for each core. The number of cores is the number of
model lines; model and clock speed are those of the first core.
-/

namespace HostInfo.Cpu

structure Info where
  cores : Nat
  model : String
  /-- Clock speed of the first core in whole MHz. -/
  speed : UInt32
deriving DecidableEq, Repr

namespace Info

/-- What is known when there is no list of processors. -/
def unknown : Info := ⟨0, "", 0⟩

/-- The text after the first colon, without blanks around it. -/
def value (line : List Char) : List Char :=
  match Text.cutFirst? ':' line with
  | some (_, v) => Text.trim v
  | none => []

def isModelLine (line : List Char) : Bool := "model name".toList.isPrefixOf line

def isSpeedLine (line : List Char) : Bool := "cpu MHz".toList.isPrefixOf line

/-- Takes one more line into account. A speed that is no number is passed over. -/
def addLine (info : Info) (line : List Char) : Info :=
  if isModelLine line then
    if info.cores = 0 then { info with cores := 1, model := String.ofList (value line) }
    else { info with cores := info.cores + 1 }
  else if isSpeedLine line ∧ info.cores = 1 then
    match Binary64.ofChars? (value line) with
    | some x => { info with speed := x.toUInt32 }
    | none => info
  else info

def ofText (text : String) : Info := (Text.lines text.toList).foldl addLine unknown

end Info

end HostInfo.Cpu
