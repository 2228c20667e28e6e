import HostInfo.Files.Basic
import HostInfo.Json.Basic
import HostInfo.Os.Basic
import HostInfo.StatLine

/-!
# Memory of the process and of the system

The process's own sizes come from its status line. The resident set is counted there in pages; a
product that does not fit 64 bits is an error. The system's sizes are binary64 numbers of bytes.
-/

namespace HostInfo

structure ProcessMemory where
  residentBytes : UInt64
  virtualBytes : UInt64
deriving DecidableEq, Repr

namespace ProcessMemory

def ofStatLine (stat : StatLine) (pageSize : UInt64) : Except Failure ProcessMemory :=
  let bytes := stat.residentPages.toNat * pageSize.toNat
  if h : bytes < UInt64.size then .ok ⟨UInt64.ofNatLT bytes h, stat.virtualBytes⟩
  else
    .error (.format "process stat"
      ("rss of " ++ toString stat.residentPages ++ " pages overflows"))

def toJson (m : ProcessMemory) : Json :=
  .object [("resident_bytes", .natural m.residentBytes.toNat),
    ("virtual_bytes", .natural m.virtualBytes.toNat)]

/-- The memory of the process itself. -/
def query (proc : Path) (files : Files) (os : Os) : Except Failure ProcessMemory := do
  let path := proc.join "self/stat"
  let text ← (files.readText path).mapError (.read path)
  let stat ← (StatLine.ofText text).mapError fun e => .format "process stat" e.message
  let pageSize ← os.pageSize
  ofStatLine stat pageSize

end ProcessMemory

namespace SystemMemory

/-- A number of pages in bytes. The pages are asked for before their size. -/
def bytes (pages size : Except Failure UInt64) : Except Failure Binary64 := do
  let pages ← pages
  let size ← size
  return Binary64.ofNat pages.toNat * Binary64.ofNat size.toNat

def free (os : Os) : Except Failure Binary64 := bytes os.availablePages os.pageSize

def total (os : Os) : Except Failure Binary64 := bytes os.physicalPages os.pageSize

end SystemMemory

end HostInfo
