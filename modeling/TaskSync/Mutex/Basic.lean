import TaskSync.Fault
import TaskSync.Waiting
import TaskSync.WaitList

/-!
# TaskSync — mutex

A lock owned by one task at a time. A **normal** mutex is taken once; a
**recursive** one may be taken again by its owner and has to be released as
often (`depth`). Releasing it for good wakes the longest waiting task, which
then competes for the lock like any other.

`TryLock` is the bounded attempt: it ends with the lock, or with the reason
why not. An owner that asks a normal mutex again is told at once that it would
wait for itself. Locking without a bound is built from it in
`TaskSync.Mutex.Lock`.
-/

namespace TaskSync

/-- How often the owner may take a mutex. -/
inductive MutexKind
  | normal
  | recursive
deriving DecidableEq, Repr

/-- Why a lock was not obtained. -/
inductive LockError
  | timeout
  /-- Somebody else has it, and the caller would not wait. -/
  | wouldBlock
  /-- The caller has it, and the mutex is normal. -/
  | deadlock
deriving DecidableEq, Repr

/-- A mutex and the tasks blocked on it. -/
structure Mutex where
  kind : MutexKind
  owner : Option TaskId
  /-- How often the owner has taken the mutex; 0 without an owner. -/
  depth : UInt32
  waiters : WaitList
deriving DecidableEq, Repr

/-- The request for the lock. -/
structure TryLock where
deriving DecidableEq, Repr

namespace Mutex

/-- A free mutex. -/
def create (kind : MutexKind) : Mutex := ⟨kind, none, 0, .empty⟩

def isLocked (m : Mutex) : Bool := m.owner.isSome

instance : Blocks TryLock Mutex (Except LockError Unit) where
  serve _ look m :=
    match m.owner with
    | none =>
      some (.still { m with owner := some look.task, depth := 1,
                            waiters := m.waiters.remove look.task } (.ok ()))
    | some owner =>
      if owner = look.task then
        match m.kind with
        | .recursive => some (.still { m with depth := m.depth + 1 } (.ok ()))
        | .normal => some (.still m (.error .deadlock))
      else none
  join _ task m := (m.waiters.register task).map fun waiters => { m with waiters }
  leave _ task m := { m with waiters := m.waiters.remove task }
  giveUp _ wait _ := .error (if wait = 0 then .wouldBlock else .timeout)

/-- Releases the mutex once. Only the owner may; for anybody else nothing
changes and the answer is the breach. -/
def unlock (m : Mutex) (task : TaskId) : Outcome Mutex (Except Fault Unit) :=
  if m.owner ≠ some task then .still m (.error .notOwner)
  else
    let depth := m.depth - 1
    if 0 < depth then .still { m with depth } (.ok ())
    else
      { object := { m with owner := none, depth, waiters := m.waiters.dropFirst }
        notices := m.waiters.firstNotice
        answer := .ok () }

/-- A mutex may go only when nobody holds it. -/
def checkDelete (m : Mutex) : Except Fault Unit :=
  if m.isLocked then .error .deletedWhileLocked else .ok ()

/-- The lock call made for recursive mutexes is for those only. -/
def checkRecursive (m : Mutex) : Except Fault Unit :=
  if m.kind = .recursive then .ok () else .error .recursiveLockOnNormal

end Mutex

end TaskSync
