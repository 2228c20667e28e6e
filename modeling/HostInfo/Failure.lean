import HostInfo.Path
import HostInfo.SystemError

/-!
# Failed queries

Why a query has no answer: a file or link could not be read, a call to the system failed, what
was read makes no sense, or the platform has no such facility.
-/

namespace HostInfo

inductive Failure where
  | read (path : Path) (cause : SystemError)
  | call (name : String) (cause : SystemError)
  | format (what detail : String)
  | unsupported (what : String)
deriving DecidableEq, Repr

namespace Failure

/-- The three sorts of failure that callers tell apart. -/
inductive Kind where
  | io
  | format
  | unsupported
deriving DecidableEq, Repr

def kind : Failure → Kind
  | .read .. => .io
  | .call .. => .io
  | .format .. => .format
  | .unsupported .. => .unsupported

def message : Failure → String
  | .read path cause => "failed to read " ++ path.display ++ ": " ++ cause.message
  | .call name cause => name ++ " failed: " ++ cause.message
  | .format what detail => "failed to parse " ++ what ++ ": " ++ detail
  | .unsupported what => what ++ " is not supported on this platform"

end Failure

end HostInfo
