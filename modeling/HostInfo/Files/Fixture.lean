import HostInfo.Files.Basic

/-!
# Fixtures

A fixture holds files and links by path, apart from each other and without directories. Paths
with the same components are one path. Adding what is there already replaces it.
-/

namespace HostInfo

structure Fixture where
  texts : List (List Path.Component × String)
  links : List (List Path.Component × Path)

namespace Fixture

def empty : Fixture := ⟨[], []⟩

/-- Puts a value under a key in place of the one that was there. -/
def insert {α : Type} (path : Path) (a : α) (entries : List (List Path.Component × α)) :
    List (List Path.Component × α) :=
  (path.components, a) :: entries.filter (·.1 ≠ path.components)

def addText (f : Fixture) (path : Path) (text : String) : Fixture :=
  { f with texts := insert path text f.texts }

def addLink (f : Fixture) (path target : Path) : Fixture :=
  { f with links := insert path target f.links }

/-- Removes a file; a missing one is no error. -/
def removeText (f : Fixture) (path : Path) : Fixture :=
  { f with texts := f.texts.filter (·.1 ≠ path.components) }

/-- Adds the file with the highest frequency of a core, in kHz. -/
def addFrequency (f : Fixture) (core : UInt32) (kilohertz : UInt64) : Fixture :=
  f.addText
    (.ofString ("/sys/devices/system/cpu/cpu" ++ toString core ++ "/cpufreq/cpuinfo_max_freq"))
    (toString kilohertz ++ "\n")

def missing (what : String) (path : Path) : SystemError :=
  .custom .notFound (what ++ " not found: " ++ path.quoted)

def readText (f : Fixture) (path : Path) : Except SystemError String :=
  match f.texts.lookup path.components with
  | some text => .ok text
  | none => .error (missing "file" path)

def readLink (f : Fixture) (path : Path) : Except SystemError Path :=
  match f.links.lookup path.components with
  | some target => .ok target
  | none => .error (missing "link" path)

def files (f : Fixture) : Files := ⟨f.readText, f.readLink⟩

end Fixture

end HostInfo
