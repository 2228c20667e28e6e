import HostInfo.Files.Basic

/-!
# Directory trees

A tree of directories, files and symbolic links, with a working directory from which relative
paths are followed. A path is walked name by name; links are replaced by their targets on the
way, at most forty of them.
-/

namespace HostInfo

inductive Node where
  | directory
  | file (bytes : List UInt8)
  | link (target : Path)
deriving DecidableEq

/-- Where a node is: the names from the root down. -/
abbrev Place := List (List UInt8)

structure Tree where
  /-- The nodes below the root. -/
  nodes : List (Place × Node)
  working : Place

namespace Tree

def node? (tree : Tree) (place : Place) : Option Node :=
  if place = [] then some .directory else tree.nodes.lookup place

/-- Puts a node at a place, instead of what is there. -/
def put (tree : Tree) (place : Place) (node : Node) : Tree :=
  { tree with nodes := (place, node) :: tree.nodes.filter (·.1 ≠ place) }

def delete (tree : Tree) (place : Place) : Tree :=
  { tree with nodes := tree.nodes.filter (·.1 ≠ place) }

/-! ## Walking a path -/

/-- Longest name and longest path, in bytes. -/
def longestName : Nat := 255

def longestPath : Nat := 4095

/-- The names to walk. A final slash asks for a directory, as a final dot does. -/
def steps (path : Path) : List (List UInt8) :=
  path.names ++ (if path.names ≠ [] ∧ path.bytes.getLast? = some Path.slash then [[Path.dot]] else [])

/-- Where a walk ends. -/
inductive Target where
  | found (place : Place) (node : Node)
  /-- The directory is there, but has nothing of the last name. -/
  | absent (place : Place)

/-- Walks from the directory `place`; `links` more links may be met. With `follow` a link at the
end is replaced by its target too. -/
def walk (tree : Tree) (follow : Bool) (links : Nat) (place : Place) :
    List (List UInt8) → Except SystemError Target
  | [] => .ok (.found place .directory)
  | name :: rest =>
    if name = [Path.dot] then tree.walk follow links place rest
    else if name = [Path.dot, Path.dot] then tree.walk follow links place.dropLast rest
    else if longestName < name.length then .error .nameTooLong
    else
      let next := place ++ [name]
      match tree.node? next with
      | none => if rest = [] then .ok (.absent next) else .error .noEntry
      | some .directory => tree.walk follow links next rest
      | some (.file bytes) =>
        if rest = [] then .ok (.found next (.file bytes)) else .error .notDirectory
      | some (.link target) =>
        if rest = [] ∧ !follow then .ok (.found next (.link target))
        else
          match links with
          | 0 => .error .tooManyLinks
          | links + 1 =>
            if target.bytes = [] then .error .noEntry
            else
              tree.walk follow links (if target.isAbsolute then [] else place)
                (steps target ++ rest)
termination_by names => (links, names.length)

/-- Where a path leads. -/
def locate (tree : Tree) (follow : Bool) (path : Path) : Except SystemError Target :=
  if path.bytes.contains 0 then .error .nulInPath
  else if path.bytes = [] then .error .noEntry
  else if longestPath < path.bytes.length then .error .nameTooLong
  else tree.walk follow 40 (if path.isAbsolute then [] else tree.working) (steps path)

/-! ## Reading -/

def readText (tree : Tree) (path : Path) : Except SystemError String := do
  match ← tree.locate true path with
  | .found _ (.file bytes) =>
    match Utf8.decode? bytes with
    | some text => .ok text
    | none => .error .notText
  | .found _ .directory => .error .isDirectory
  | .found _ (.link _) => .error .tooManyLinks
  | .absent _ => .error .noEntry

def readLink (tree : Tree) (path : Path) : Except SystemError Path := do
  match ← tree.locate false path with
  | .found _ (.link target) => .ok target
  | .found _ _ => .error .invalidArgument
  | .absent _ => .error .noEntry

def files (tree : Tree) : Files := ⟨tree.readText, tree.readLink⟩

/-! ## Changing -/

/-- Adds the directories on the way to `names` that are missing. -/
def makeDirectories (tree : Tree) (start : Place) (names : List (List UInt8)) : Tree :=
  (List.range names.length).foldl
    (fun tree n =>
      match tree.walk true 40 start (names.take (n + 1)) with
      | .ok (.absent place) => tree.put place .directory
      | _ => tree)
    tree

/-- Adds a directory and those it is in. -/
def addDirectory (tree : Tree) (path : Path) : Tree :=
  tree.makeDirectories (if path.isAbsolute then [] else tree.working) path.names

/-- Puts a node where the path leads, in directories that are made if need be. What cannot be
put there leaves the tree as it is. -/
def add (tree : Tree) (follow : Bool) (path : Path) (node : Node) : Tree :=
  let start := if path.isAbsolute then [] else tree.working
  let tree := tree.makeDirectories start path.names.dropLast
  match tree.locate follow path with
  | .ok (.absent place) => tree.put place node
  | .ok (.found _ .directory) => tree
  | .ok (.found place _) => tree.put place node
  | .error _ => tree

/-- Writes a file, through the links that lead to it. -/
def addFile (tree : Tree) (path : Path) (bytes : List UInt8) : Tree :=
  tree.add true path (.file bytes)

def addLink (tree : Tree) (path target : Path) : Tree := tree.add false path (.link target)

/-- Removes a file or a link, not what the link leads to. -/
def remove (tree : Tree) (path : Path) : Tree :=
  match tree.locate false path with
  | .ok (.found _ .directory) => tree
  | .ok (.found place _) => tree.delete place
  | _ => tree

/-- A tree with nothing but an empty working directory. -/
def empty (working : Path) : Tree :=
  let tree : Tree := ⟨[], working.names⟩
  tree.makeDirectories [] working.names

end Tree

end HostInfo
