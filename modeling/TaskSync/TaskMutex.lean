import TaskSync.WakerSet

/-!
# TaskSync — asynchronous mutex

A value behind a lock for asynchronous tasks. Whoever finds it locked leaves a
waker; releasing the lock calls all wakers, and they compete again. The kernel
has no part in it.
-/

namespace TaskSync

/-- A value behind an asynchronous lock. -/
structure TaskMutex (α : Type) where
  value : α
  locked : Bool
  wakers : WakerSet
deriving Repr

namespace TaskMutex

variable {α : Type}

def create (value : α) : TaskMutex α := ⟨value, false, .empty⟩

/-- One poll for the lock; the answer says whether it was obtained. -/
def pollLock (m : TaskMutex α) (waker : WakerId) : Outcome (TaskMutex α) Bool :=
  if m.locked then
    let (wakers, called) := m.wakers.register waker
    ⟨{ m with wakers }, called, false⟩
  else .still { m with locked := true } true

/-- Takes the lock if it is free and says whether it was. -/
def lockNow (m : TaskMutex α) : Outcome (TaskMutex α) Bool :=
  .still { m with locked := true } (!m.locked)

/-- Releases the lock and calls all wakers. -/
def release (m : TaskMutex α) : Outcome (TaskMutex α) Unit :=
  ⟨{ m with locked := false, wakers := .empty }, m.wakers.notices, ()⟩

end TaskMutex

end TaskSync
