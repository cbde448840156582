import TaskSync.Waiting
import TaskSync.WaitList
import TaskSync.WakerSet

/-!
# TaskSync — signals and watches

A signal holds the latest of a series of values; watches wait for it to
change. Whether a value is a change is decided by the type's own `==`, of
which nothing is assumed: a value may be different from itself.

A watch remembers the value it was last given and waits for one that differs
from it. It compares values and counts nothing: a value that changes and
changes back between two looks goes unseen.
-/

namespace TaskSync

/-- A shared value and those who wait for it to change. -/
structure Signal (α : Type) where
  value : α
  waiters : WaitList
  wakers : WakerSet
deriving Repr

/-- The request for a value that differs from the one seen last. -/
structure Change (α : Type) where
  seen : Option α
deriving Repr

/-- Whether `value` is news to somebody who saw `seen`. -/
def Change.isNews {α : Type} [BEq α] (c : Change α) (value : α) : Bool :=
  !(c.seen == some value)

namespace Signal

variable {α : Type} [BEq α]

def create (value : α) : Signal α := ⟨value, .empty, .empty⟩

/-- Writes a value. If it differs from the present one, it is stored and
everybody is woken: the wakers, then the waiting tasks. -/
def set (s : Signal α) (value : α) : Outcome (Signal α) Unit :=
  if s.value == value then .still s ()
  else ⟨⟨value, .empty, .empty⟩, s.wakers.notices ++ s.waiters.notices, ()⟩

/-- The value, if it is news to somebody who saw `seen`. -/
def changed? (s : Signal α) (seen : Option α) : Option α :=
  if (Change.mk seen).isNews s.value then some s.value else none

instance : Blocks (Change α) (Signal α) (Option α) where
  serve c look s :=
    if c.isNews s.value then
      some (.still { s with waiters := s.waiters.remove look.task } (some s.value))
    else none
  join _ task s := (s.waiters.register task).map fun waiters => { s with waiters }
  leave _ task s := { s with waiters := s.waiters.remove task }
  giveUp _ _ _ := none

/-- One poll of an asynchronous wait; `none` means that it is still pending. -/
def pollChange (s : Signal α) (c : Change α) (waker : WakerId) :
    Outcome (Signal α) (Option α) :=
  if c.isNews s.value then .still s (some s.value)
  else
    let (wakers, called) := s.wakers.register waker
    ⟨{ s with wakers }, called, none⟩

end Signal

end TaskSync
