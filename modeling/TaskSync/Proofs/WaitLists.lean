import TaskSync.Proofs.ByteStream.Roster
import TaskSync.Proofs.EventGroup.Roster
import TaskSync.Proofs.Mutex.Roster
import TaskSync.Proofs.Queue.Roster
import TaskSync.Proofs.Runs.System
import TaskSync.Proofs.Signal.Roster

/-!
# TaskSync — all wait lists are in order

Queues, byte streams, mutexes, signals and event groups keep the tasks that wait
at them on wait lists, and each keeps its own in order. A system has any number of
them (`Part`), with the same tasks at all of them. Interrupt handlers and
asynchronous operations come in between; what is left out are tasks that are
given up in the middle of a call.

Main result:

* `booked_run` — so it is in every state of every run: a task is on one list at
  most, that of the call it is in, and a task that sleeps in a call is on its
  list, or has been called off it, or found no room on it (`System.Booked`).
-/

namespace TaskSync

/-- An object with wait lists that nobody has used yet. -/
inductive Part
  | queue (allocator : Allocator) (capacity itemSize : Nat) (q : Queue)
      (h : Queue.create allocator capacity itemSize = .ok q)
  | stream (allocator : Allocator) (capacity trigger : Nat) (s : ByteStream)
      (h : ByteStream.create allocator capacity trigger = .ok s)
  | mutex (checks : Bool) (kind : MutexKind)
  | signal {α : Type} [BEq α] (value : α)
  | events (initial : EventBits)

namespace Part

/-- The object with its protocol and its wait lists. -/
def station : Part → Station
  | queue _ _ _ q _ => ⟨_, _, _, _, _, Queue.protocol, Queue.roster, q⟩
  | stream _ _ _ s _ => ⟨_, _, _, _, _, ByteStream.protocol, ByteStream.roster, s⟩
  | mutex checks kind => ⟨_, _, _, _, _, Mutex.protocol checks, Mutex.roster, Mutex.create kind⟩
  | signal value => ⟨_, _, _, _, _, Signal.protocol, Signal.roster, Signal.unseen value⟩
  | events initial =>
    ⟨_, _, _, _, _, EventGroup.protocol, EventGroup.roster, EventGroup.create initial⟩

/-- Every object keeps its wait lists. -/
theorem kept (part : Part) : part.station.Kept := by
  cases part with
  | queue _ capacity itemSize q hCreate =>
    exact ⟨_, Queue.kept capacity itemSize, Queue.sound_fresh hCreate, Queue.lines_fresh hCreate⟩
  | stream _ capacity trigger s hCreate =>
    exact ⟨_, ByteStream.kept, ByteStream.tended_fresh hCreate⟩
  | mutex checks kind => exact ⟨_, Mutex.kept checks, Mutex.tended_fresh kind⟩
  | signal value => exact ⟨_, Signal.kept, Signal.lined_fresh value⟩
  | events initial => exact ⟨_, EventGroup.kept, EventGroup.table_fresh initial⟩

end Part

/-- The objects of a system. -/
abbrev stations {N : Type} (parts : N → Part) (n : N) : Station := (parts n).station

/-- In every state of every run all wait lists are in order. -/
theorem booked_run {N : Type} [DecidableEq N] (parts : N → Part)
    {moves : List (System.Move (stations parts))}
    (hPermits : Legal System.step System.Permits (System.after (stations parts) []) moves) :
    System.Booked moves :=
  System.booked_of_kept (fun n => (parts n).kept) hPermits

/-- A queue, and a mutex. -/
def inbox : Bool → Part
  | false => .queue .standard 2 1 _ rfl
  | true => .mutex true .normal

/-- Two tasks wait for an item and one for the mutex. An interrupt handler sends an item, and the
first receiver has not looked since. -/
def oneCalled : List (System.Move (stations inbox)) :=
  [⟨false, .start ⟨1⟩ 0 (Queue.Request.receive 1 waitForever)⟩,
    ⟨false, .start ⟨2⟩ 0 (Queue.Request.receive 1 5)⟩, ⟨true, .start ⟨3⟩ 0 Mutex.Request.lock⟩,
    ⟨true, .start ⟨4⟩ 1 Mutex.Request.lock⟩, ⟨false, .act (Queue.Act.sendNow [7])⟩]

theorem booked_run_oneCalled :
    Legal System.step System.Permits (System.after (stations inbox) []) oneCalled ∧
      System.Booked oneCalled ∧
      (System.after (stations inbox) oneCalled).listed false Side.receiving = [⟨2⟩] ∧
      (System.after (stations inbox) oneCalled).listed true () = [⟨4⟩] ∧
      ((System.after (stations inbox) oneCalled false).crew.asleep ⟨1⟩).isSome := by
  have hPermits :
      Legal System.step System.Permits (System.after (stations inbox) []) oneCalled := by
    refine ⟨?_, ?_, ?_, ?_, trivial, trivial⟩
    · exact fun n => by cases n <;> rfl
    · exact fun n => by cases n <;> rfl
    · exact fun n => by cases n <;> rfl
    · exact fun n => by cases n <;> rfl
  exact ⟨hPermits, booked_run inbox hPermits, rfl, rfl, rfl⟩

end TaskSync
