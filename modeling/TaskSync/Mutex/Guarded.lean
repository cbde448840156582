import TaskSync.Mutex.Basic

/-!
# TaskSync — values behind a mutex

A value that only the owner of its mutex gets at. Behind a normal mutex the
owner has the value to itself; behind a recursive one the same task may hold
several guards at once.
-/

namespace TaskSync

/-- A value behind a mutex. -/
structure Guarded (α : Type) where
  mutex : Mutex
  value : α
deriving Repr

/-- A value behind a new mutex. -/
def Guarded.create {α : Type} (kind : MutexKind) (value : α) : Guarded α := ⟨.create kind, value⟩

end TaskSync
