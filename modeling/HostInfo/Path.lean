import HostInfo.Text.Quoted

/-!
# Paths

A path is a sequence of bytes, which need not be text. Two spellings name the same thing for a
fixture if they have the same components: repeated and final slashes do not count, nor does a
component `.` other than one at the start of a relative path. A component `..` is kept.
-/

namespace HostInfo

structure Path where
  bytes : List UInt8
deriving DecidableEq, Repr

namespace Path

def slash : UInt8 := 47

def dot : UInt8 := 46

def ofString (s : String) : Path := ⟨Utf8.encode s⟩

/-- The text of a path, with replacement characters where it is not text. -/
def display (p : Path) : String := Utf8.decodeLossy p.bytes

def quoted (p : Path) : String := Text.quoted p.bytes

def isAbsolute (p : Path) : Bool := p.bytes.head? = some slash

/-- The path of something below a directory. The empty path and one that ends with a slash need
no slash in between. -/
def join (p : Path) (relative : String) : Path :=
  if p.bytes = [] ∨ p.bytes.getLast? = some slash then ⟨p.bytes ++ Utf8.encode relative⟩
  else ⟨p.bytes ++ slash :: Utf8.encode relative⟩

/-- The parts between slashes that are not empty. -/
def names (p : Path) : List (List UInt8) := (p.bytes.splitOn slash).filter (· ≠ [])

inductive Component where
  | root
  | name (bytes : List UInt8)
deriving DecidableEq, Repr

def components (p : Path) : List Component :=
  let start := if p.isAbsolute then [.root]
    else if p.names.head? = some [dot] then [.name [dot]] else []
  start ++ (p.names.filter (· ≠ [dot])).map .name

end Path

end HostInfo
