import HostInfo.Failure
import HostInfo.Files.Basic

/-!
# The path of the executable

The target of a link names the executable. It is given as text, whole or not at all, and only if
it fits a buffer together with one byte that ends it.
-/

namespace HostInfo.Executable

/-- Room for the longest path and the byte at its end. -/
def defaultCapacity : Nat := 4097

def query (proc : Path) (files : Files) (capacity : Nat) : Except Failure String := do
  let path := proc.join "self/exe"
  let target ← (files.readLink path).mapError (.read path)
  let text := target.display
  if text = "" then
    throw (.read path (.custom .invalidData "link resolves to an empty path"))
  let size := text.utf8ByteSize
  if capacity - 1 < size then
    throw (.read path (.custom .invalidInput
      ("path of " ++ toString size ++ " bytes does not fit in a buffer of " ++ toString capacity)))
  return text

end HostInfo.Executable
