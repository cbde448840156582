import TaskSync.Machine.State
import TaskSync.Proofs.ByteStream.Runs
import TaskSync.Proofs.EventGroup.Roster
import TaskSync.Proofs.Queue.Wakeups

/-!
# TaskSync — registrations

A task that waits at an object is registered there: it is on one of the
object's wait lists, or in an event group's table and not yet fired
(`Object.registered`). A step **takes off** (`Outcome.TakesOff`) whom it wakes
if the tasks it wants woken are exactly those that have lost their registration,
each as often as it has lost one.

Each step that an interrupt handler can take on an object does so, and wakes
nobody when its answer is an error (`Outcome.Accounted`).
-/

namespace TaskSync

/-- The tasks registered at an object. -/
def Object.registered : Object → List TaskId
  | .queue q => q.receivers.tasks ++ q.senders.tasks
  | .stream s => s.receivers.tasks ++ s.senders.tasks
  | .events g => g.unfired
  | .signal s => s.waiters.tasks
  | x => (x.mutex?.map (·.waiters.tasks)).getD []

namespace Outcome

variable {σ ε α β : Type} [Stored σ] {x : σ}

/-- The tasks that the step wants woken are those that are registered no longer. -/
def TakesOff (x : σ) (o : Outcome σ α) : Prop :=
  (Stored.store x).registered.Perm (o.tasks ++ (Stored.store o.object).registered)

theorem takesOff_still (x : σ) (a : α) : (still x a).TakesOff x := .refl _

/-- A handler's step takes off whom it wakes, and an error wakes nobody. -/
structure Accounted (x : σ) (o : Outcome σ (Except ε α)) : Prop where
  takesOff : o.TakesOff x
  spares : ∀ e, o.answer = .error e → o.tasks = []

theorem accounted_still (x : σ) (a : Except ε α) : (still x a).Accounted x :=
  ⟨takesOff_still x a, fun _ _ => rfl⟩

/-- A step that succeeds has nothing to spare. -/
theorem TakesOff.accounted {o : Outcome σ β} (h : o.TakesOff x) (f : β → α) :
    (o.map fun b => (.ok (f b) : Except ε α)).Accounted x :=
  ⟨h, fun _ hError => by cases hError⟩

end Outcome

theorem WaitList.first_append_tail (l : WaitList) : l.first?.toList ++ l.tasks.tail = l.tasks := by
  unfold WaitList.first?
  cases l.tasks <;> rfl

-- ---------------------------------------------------------------------------
-- Queues
-- ---------------------------------------------------------------------------

namespace Queue

variable (q : Queue)

theorem takesOff_push (item : List UInt8) : (q.push item).TakesOff q := by
  have hReceivers := q.receivers.first_append_tail
  unfold Outcome.TakesOff
  rw [tasks_push]
  show (q.receivers.tasks ++ q.senders.tasks).Perm
    (q.receivers.first?.toList ++ (q.receivers.tasks.tail ++ q.senders.tasks))
  rw [← List.append_assoc, hReceivers]

theorem takesOff_pop : q.pop.TakesOff q := by
  have hSenders := q.senders.first_append_tail
  unfold Outcome.TakesOff
  rw [tasks_pop]
  show (q.receivers.tasks ++ q.senders.tasks).Perm
    (q.senders.first?.toList ++ (q.receivers.tasks ++ q.senders.tasks.tail))
  conv_lhs => rw [← hSenders]
  exact List.perm_append_comm_assoc _ _ _

theorem accounted_sendNow (item : List UInt8) : (q.sendNow item).Accounted q := by
  unfold sendNow
  cases q.checkSize item.length with
  | error e => exact Outcome.accounted_still q _
  | ok =>
    cases q.isFull with
    | true => exact Outcome.accounted_still q _
    | false => exact (q.takesOff_push item).accounted id

/-- Dropping an item tells nobody and takes nobody off. -/
theorem accounted_sendOverwriting (item : List UInt8) : (q.sendOverwriting item).Accounted q := by
  unfold sendOverwriting
  cases q.checkSize item.length with
  | error e => exact Outcome.accounted_still q _
  | ok =>
    cases q.isFull with
    | true =>
      have hPushed : (q.dropOldest.push item).TakesOff q := takesOff_push q.dropOldest item
      exact hPushed.accounted fun _ => true
    | false => exact (q.takesOff_push item).accounted fun _ => false

theorem accounted_receiveNow (size : Nat) : (q.receiveNow size).Accounted q := by
  unfold receiveNow
  cases q.checkSize size with
  | error e => exact Outcome.accounted_still q _
  | ok =>
    cases q.isEmpty with
    | true => exact Outcome.accounted_still q _
    | false => exact q.takesOff_pop.accounted id

end Queue

-- ---------------------------------------------------------------------------
-- Byte streams
-- ---------------------------------------------------------------------------

namespace ByteStream

variable (s : ByteStream)

theorem takesOff_wakeAtTrigger : s.wakeAtTrigger.TakesOff s := by
  rcases Nat.lt_or_ge s.available s.trigger with hLow | hReached
  · rw [wakeAtTrigger_of_low hLow]
    exact Outcome.takesOff_still s ()
  · have hReceivers := s.receivers.first_append_tail
    unfold Outcome.TakesOff
    rw [tasks_wakeAtTrigger_of_reached hReached, wakeAtTrigger_of_reached hReached]
    show (s.receivers.tasks ++ s.senders.tasks).Perm
      (s.receivers.first?.toList ++ (s.receivers.tasks.tail ++ s.senders.tasks))
    rw [← List.append_assoc, hReceivers]

theorem takesOff_put (data : List UInt8) : (s.put data).TakesOff s := by
  by_cases hZero : (s.ring.write data).2 = 0
  · rw [put_of_zero hZero]
    exact .refl _
  · rw [put_of_ne_zero hZero]
    exact takesOff_wakeAtTrigger { s with ring := (s.ring.write data).1 }

/-- A take that finds bytes wakes a receiver if the level is still reached, and all senders. -/
theorem accounted_take (room : Nat) : (s.take room).Accounted s := by
  cases hEmpty : s.ring.isEmpty with
  | true =>
    rw [take_of_isEmpty hEmpty]
    exact Outcome.accounted_still s _
  | false =>
    have hDrained := takesOff_wakeAtTrigger (s.drained room)
    unfold Outcome.TakesOff at hDrained
    have hBefore : (Stored.store s).registered =
        (Stored.store (s.drained room)).registered ++ s.senders.tasks := by
      show s.receivers.tasks ++ s.senders.tasks = (s.receivers.tasks ++ []) ++ s.senders.tasks
      rw [List.append_nil]
    refine ⟨?_, fun e hError => ?_⟩
    · unfold Outcome.TakesOff
      rw [tasks_take_of_not_isEmpty hEmpty, take_of_not_isEmpty hEmpty, hBefore]
      refine (hDrained.append_right _).trans ?_
      rw [List.append_assoc, List.append_assoc]
      exact List.perm_append_comm.append_left _
    · rw [take_of_not_isEmpty hEmpty] at hError
      cases hError

theorem accounted_sendNow (data : List UInt8) : (s.sendNow data).Accounted s := by
  unfold sendNow
  split
  · exact Outcome.accounted_still s _
  · split
    · exact Outcome.accounted_still s _
    · exact (s.takesOff_put data).accounted id

theorem accounted_receiveNow (room : Nat) : (s.receiveNow room).Accounted s := by
  unfold receiveNow
  split
  · exact Outcome.accounted_still s _
  · exact s.accounted_take room

end ByteStream

-- ---------------------------------------------------------------------------
-- Event groups and signals
-- ---------------------------------------------------------------------------

/-- One pass over the wait table fires the waiters whose tasks it wakes. -/
theorem unfired_sweep (bits : EventBits) (table : List EventWaiter) :
    ((table.filter (·.fired.isNone)).map (·.task)).Perm
      ((table.filter (·.fires bits)).map (·.task) ++
        (((table.map (·.fire bits)).filter (·.fired.isNone)).map (·.task))) := by
  induction table with
  | nil => exact .refl _
  | cons w rest ih =>
    by_cases hFires : w.fires bits = true
    · have hUnfired : w.fired.isNone = true := (Bool.and_eq_true_iff.mp hFires).1
      simpa [EventWaiter.fire, hFires, hUnfired] using ih
    · cases hUnfired : w.fired.isNone with
      | true =>
        have hKept := (ih.cons w.task).trans List.perm_middle.symm
        simpa [EventWaiter.fire, hFires, hUnfired] using hKept
      | false => simpa [EventWaiter.fire, hFires, hUnfired] using ih

/-- A set takes off the waiters that it fires. -/
theorem EventGroup.takesOff_set (g : EventGroup) (bits : EventBits) : (g.set bits).TakesOff g := by
  unfold Outcome.TakesOff
  rw [notified_set]
  show g.unfired.Perm (_ ++ (g.set bits).object.unfired)
  rw [unfired, unfired, waiters_set]
  exact unfired_sweep _ g.waiters

theorem Signal.takesOff_set (s : Signal Datum) (value : Datum) : (s.set value).TakesOff s := by
  unfold set
  split
  · exact Outcome.takesOff_still s ()
  · simp [Outcome.TakesOff, Outcome.tasks, Stored.store, Object.registered]

end TaskSync
