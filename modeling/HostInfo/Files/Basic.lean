import HostInfo.Path
import HostInfo.SystemError

/-!
# Files as they can be read

What the queries see of a file system: the text of each file and the target of each link, or the
reason why there is none.
-/

namespace HostInfo

structure Files where
  readText : Path → Except SystemError String
  readLink : Path → Except SystemError Path

namespace Files

/-- The same links, but no file can be opened any more. -/
def withoutDescriptors (files : Files) : Files :=
  { files with readText := fun _ => .error .tooManyOpenFiles }

end Files

end HostInfo
