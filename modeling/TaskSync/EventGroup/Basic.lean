import TaskSync.Fault
import TaskSync.WaitList

/-!
# TaskSync — event groups

A word of event bits; tasks wait until any or all of some bits are set. The
low 24 bits are events, the top byte is kept for control.

A `set` judges all waiting tasks at once, by the same value: each whose
condition holds has **fired** and keeps that value, whatever later happens to
the bits. The bits that the fired waiters want cleared are cleared after all
have been judged. A fired entry stays in the table until its task collects it.

Entries are taken out of the table by moving the last one into the gap, so
the table's order is not the order of arrival.
-/

namespace TaskSync

/-- A word of event bits. -/
abbrev EventBits := UInt32

/-- The bits that are events. -/
def eventMask : EventBits := 0x00FFFFFF

/-- Which of the wanted bits have to be set. -/
inductive WaitMode
  | any
  | all
deriving DecidableEq, Repr

/-- Whether `bits` satisfy the wish for `wanted`. -/
def WaitMode.holds : WaitMode → EventBits → EventBits → Bool
  | .any, bits, wanted => bits &&& wanted != 0
  | .all, bits, wanted => bits &&& wanted == wanted

/-- A list without the element at a position, the last one taking its place. -/
def swapRemove {α : Type} (l : List α) (i : Nat) : List α :=
  match l.getLast? with
  | none => []
  | some z => (l.set i z).dropLast

/-- What a task wants of an event group. -/
structure EventWish where
  wanted : EventBits
  mode : WaitMode
  /-- Clear the wanted bits when they have been seen. -/
  clear : Bool
deriving DecidableEq, Repr

/-- Whether the wish is satisfied by `bits`. -/
def EventWish.holds (w : EventWish) (bits : EventBits) : Bool := w.mode.holds bits w.wanted

/-- The bits that go when the wish is satisfied. -/
def EventWish.cleared (w : EventWish) : EventBits := if w.clear then w.wanted else 0

/-- An entry of the wait table. -/
structure EventWaiter where
  task : TaskId
  wish : EventWish
  /-- The value that satisfied the wish. -/
  fired : Option EventBits
deriving DecidableEq, Repr

/-- Whether an entry that has not fired yet is satisfied by `bits`. -/
def EventWaiter.fires (w : EventWaiter) (bits : EventBits) : Bool :=
  w.fired.isNone && w.wish.holds bits

/-- Event bits and the tasks that wait for them. -/
structure EventGroup where
  bits : EventBits
  waiters : List EventWaiter
deriving DecidableEq, Repr

/-- What one pass over the wait table comes to. -/
structure Sweep where
  waiters : List EventWaiter
  /-- The bits that the waiters fired by this pass want cleared. -/
  cleared : EventBits
  /-- The tasks fired by this pass, in table order. -/
  woken : List TaskId
deriving DecidableEq, Repr

/-- One pass over the wait table with the value `bits`. -/
def sweep (bits : EventBits) : List EventWaiter → Sweep
  | [] => ⟨[], 0, []⟩
  | w :: rest =>
    let s := sweep bits rest
    if w.fires bits then
      ⟨{ w with fired := some bits } :: s.waiters, w.wish.cleared ||| s.cleared, w.task :: s.woken⟩
    else { s with waiters := w :: s.waiters }

namespace EventGroup

/-- A group nobody waits for. -/
def create (initial : EventBits) : EventGroup := ⟨initial &&& eventMask, []⟩

/-- Only events may be set or waited for. -/
def checkBits (bits : EventBits) : Except Fault Unit :=
  if bits &&& ~~~eventMask = 0 then .ok () else .error .controlByte

/-- A wait has to be for some bit. -/
def checkWanted (wanted : EventBits) : Except Fault Unit :=
  if wanted ≠ 0 then .ok () else .error .emptyEventMask

/-- Sets bits and fires the waiters that this satisfies. The answer is the
value after the fired waiters' bits have been cleared. -/
def set (g : EventGroup) (bits : EventBits) : Outcome EventGroup EventBits :=
  let value := g.bits ||| (bits &&& eventMask)
  let s := sweep value g.waiters
  let left := value &&& ~~~s.cleared
  ⟨⟨left, s.waiters⟩, s.woken.map .task, left⟩

/-- Clears bits and answers the value before. -/
def clear (g : EventGroup) (bits : EventBits) : Outcome EventGroup EventBits :=
  .still { g with bits := g.bits &&& ~~~bits } g.bits

/-- Where a task stands in the wait table. -/
def position? (g : EventGroup) (task : TaskId) : Option Nat :=
  g.waiters.findIdx? (·.task == task)

/-- The entry of a task. -/
def entryOf? (g : EventGroup) (task : TaskId) : Option EventWaiter :=
  g.waiters.find? (·.task == task)

/-- Takes a task's entry out of the wait table. -/
def dismiss (g : EventGroup) (task : TaskId) : EventGroup :=
  match g.position? task with
  | none => g
  | some i => { g with waiters := swapRemove g.waiters i }

/-- Enters a task into the wait table; `none` if the table is full. -/
def enlist (g : EventGroup) (task : TaskId) (wish : EventWish) : Option EventGroup :=
  if g.waiters.length < WaitList.limit then
    some { g with waiters := g.waiters ++ [⟨task, wish, none⟩] }
  else none

end EventGroup

end TaskSync
