import HostInfo.Binary64.Basic
import HostInfo.Os.Basic
import HostInfo.Title

/-!
# State of the running process

Two things last as long as the process: the uptime at which it first looked at the system, which
never changes once it is known, and the store of its title, which is made when it is first
needed.
-/

namespace HostInfo

structure Session where
  /-- The uptime read by the first platform that was attached. -/
  start : Option Binary64
  store : Option TitleStore
deriving DecidableEq

namespace Session

/-- A process that has done nothing yet. -/
def fresh : Session := ⟨none, none⟩

/-- Records the start, unless that was done before. -/
def recordStart (s : Session) (uptime : Binary64) : Session :=
  match s.start with
  | none => { s with start := some uptime }
  | some _ => s

/-- The title; without a store it is empty. -/
def title (s : Session) : String :=
  match s.store with
  | none => ""
  | some store => store.title

/-- Makes the store with its first title, unless there is one. -/
def setUpTitle (s : Session) (title : String) : Session :=
  match s.store with
  | none => { s with store := some ⟨title⟩ }
  | some _ => s

/-- Changes the title on a system in state `os`. A store with an empty title is made first if
there is none, and stays when the change fails. -/
def setTitle {σ : Type} [OperatingSystem σ] (s : Session) (title : String) (os : σ) :
    Except Failure Unit × Session × σ :=
  let store := s.store.getD ⟨""⟩
  match store.set OperatingSystem.rename title os with
  | .ok (store, os) => (.ok (), { s with store := some store }, os)
  | .error e => (.error e, { s with store := some store }, os)

end Session

end HostInfo
