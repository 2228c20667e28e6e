import HostInfo.Binary64.Reader
import HostInfo.Os.Kernel
import HostInfo.Text.Cut
import HostInfo.Text.Fields

/-!
# Answers of the running system from its own texts

The kernel shows its page size and clock rate in the auxiliary vector of each process, and its
memory, uptime and load as texts. The list of interface addresses is not among them.
-/

namespace HostInfo.Kernel

/-- What the kernel shows. -/
structure Texts where
  /-- Pairs of a key and a value, eight bytes each, the lowest byte first. -/
  auxiliary : List UInt8
  /-- Lines with a name, a colon, and a number of KiB. -/
  memory : String
  /-- Seconds since the start, and more. -/
  uptime : String
  /-- Three mean loads, and more. -/
  load : String
  /-- The monotonic clock, in nanoseconds. -/
  nanoseconds : Nat

namespace Texts

def word (bytes : List UInt8) : Nat := bytes.foldr (fun b n => b.toNat + 256 * n) 0

/-- The words of a sequence of bytes; what does not fill a word is left out. -/
def words (bytes : List UInt8) : List Nat :=
  (List.range (bytes.length / 8)).map fun i => word ((bytes.drop (8 * i)).take 8)

/-- The value that follows a key at an even position. -/
def valueOf? (key : Nat) : List Nat → Option Nat
  | k :: v :: rest => if k = key then some v else valueOf? key rest
  | _ => none

def auxiliary? (t : Texts) (key : Nat) : Option UInt64 :=
  (valueOf? key (words t.auxiliary)).map Nat.toUInt64

def pageSize? (t : Texts) : Option UInt64 := t.auxiliary? 6

def clockTicks? (t : Texts) : Option UInt64 := t.auxiliary? 17

/-- An amount of memory by its name, in KiB. -/
def kibibytes? (t : Texts) (name : String) : Option Nat :=
  (Text.lines t.memory.toList).findSome? fun line =>
    (Text.stripStart? (name ++ ":").toList line).bind fun rest =>
      (Text.fields rest).head?.bind Numeral.natural?

def pages? (t : Texts) (name : String) : Option UInt64 := do
  let size ← t.pageSize?
  let kibibytes ← t.kibibytes? name
  return (kibibytes * 1024 / size.toNat).toUInt64

def numbers (text : String) : List Binary64 :=
  (Text.fields text.toList).filterMap Binary64.ofChars?

def status? (t : Texts) : Option SystemStatus :=
  let units (x : Binary64) : UInt64 := (x * 65536).toUInt64
  match numbers t.uptime, numbers t.load with
  | uptime :: _, one :: five :: fifteen :: _ =>
    some ⟨uptime.toUInt64, units one, units five, units fifteen⟩
  | _, _ => none

def provided {α : Type} (call : String) : Option α → Except Failure α
  | some a => .ok a
  | none => .error (.call call (.bare .unsupported))

def os (t : Texts) : Os where
  pageSize := provided "sysconf(_SC_PAGESIZE)" t.pageSize?
  clockTicks := provided "sysconf(_SC_CLK_TCK)" t.clockTicks?
  physicalPages := provided "sysconf(_SC_PHYS_PAGES)" (t.pages? "MemTotal")
  availablePages := provided "sysconf(_SC_AVPHYS_PAGES)" (t.pages? "MemFree")
  monotonic := .ok ⟨(t.nanoseconds / 1000000000).toUInt64,
    (t.nanoseconds % 1000000000).toUInt32⟩
  status := provided "sysinfo" t.status?
  interfaces := .error (.unsupported "interface enumeration")

end Texts

end HostInfo.Kernel
