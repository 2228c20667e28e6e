import HostInfo.Failure

/-!
# The title of the process

The title that the process shows, kept in step with the name that the system knows: the stored
title changes only after the system has taken the name.
-/

namespace HostInfo

structure TitleStore where
  title : String
deriving DecidableEq, Repr

/-- Renames the process on a system in state `os` and then stores the whole title. When the
system refuses, there is no new store and no new state. -/
def TitleStore.set {σ : Type} (rename : String → σ → Except Failure σ) (title : String)
    (store : TitleStore) (os : σ) : Except Failure (TitleStore × σ) :=
  match rename title os with
  | .ok os => .ok ({ store with title }, os)
  | .error e => .error e

end HostInfo
