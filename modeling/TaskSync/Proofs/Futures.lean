import TaskSync.Proofs.ByteStream.Futures
import TaskSync.Proofs.Queue.Futures
import TaskSync.Proofs.Signal.Futures

/-!
# TaskSync — no asynchronous operation misses its wakeup

An executor relies on wakers: it polls an operation again when the waker of the
last poll has been called, and need not do so before. Nothing may be left lying
by that (`Executor.Prompt`), on a queue, on a byte stream and on a signal alike,
with as many operations as one likes: more than a set of wakers has room for,
several with one waker, some dropped while they are pending, and blocking
operations, interrupt handlers and tasks that are given up in between.

Main result:

* `prompt_run` — so it is in every state of every run.
-/

namespace TaskSync

/-- In every state of every run an operation that has been polled in vain and would be served by a
poll now has had the waker of the last poll called since. -/
theorem prompt_run :
    (∀ {allocator : Allocator} {capacity size : Nat} {q : Queue},
      Queue.create allocator capacity size = .ok q →
      ∀ moves : List (Executor.Move Queue.Request Queue.Act Queue.Future),
        ((Executor.fresh q).run Queue.protocol moves).Prompt Queue.protocol) ∧
    (∀ {allocator : Allocator} {capacity trigger : Nat} {s : ByteStream},
      ByteStream.create allocator capacity trigger = .ok s →
      ∀ moves : List (Executor.Move ByteStream.Request ByteStream.Act ByteStream.Future),
        ((Executor.fresh s).run ByteStream.protocol moves).Prompt ByteStream.protocol) ∧
    (∀ {α : Type} [BEq α] (value : α),
      ∀ moves : List (Executor.Move Signal.Request (Signal.Act α) (Signal.Future α)),
        ((Executor.fresh (Signal.unseen value)).run Signal.protocol moves).Prompt
          Signal.protocol) := by
  refine ⟨fun hCreate moves => ?_, fun hCreate moves => ?_, fun value moves => ?_⟩
  · exact (Queue.parking _ _).prompt (Queue.sound_fresh hCreate) moves
  · have hPoised := ByteStream.poised_run hCreate []
    obtain ⟨-, -, ring, -, rfl⟩ := ByteStream.created_of_ok hCreate
    exact ByteStream.parking.prompt ⟨hPoised, nofun⟩ moves
  · exact Signal.parking.prompt trivial moves

/-- Six receives wait with five wakers, so that the fifth waker displaces four. One of them is
dropped, and an item comes. -/
def sixReceives : List (Executor.Move Queue.Request Queue.Act Queue.Future) :=
  (List.range 6).map (.create · (.receive 1)) ++
    (List.range 6).map (fun i => .poll i ⟨min i 4⟩) ++
    [.drop 1, .other (.act (.sendNow [7]))]

/-- A receive waits for two bytes, and one comes. -/
def oneByte : List (Executor.Move ByteStream.Request ByteStream.Act ByteStream.Future) :=
  [.create 0 (.receive 4 false), .poll 0 ⟨1⟩, .other (.act (.sendNow [7]))]

/-- A watch is given the first value and waits for another. The value is set to what it was, and
then to something else. -/
def setTwice : List (Executor.Move Signal.Request (Signal.Act Nat) (Signal.Future Nat)) :=
  [.other (.act (.glance 0)), .create 0 ⟨0, none⟩, .poll 0 ⟨1⟩, .other (.act (.set 3)),
    .other (.act (.set 4))]

theorem prompt_run_sixReceives :
    (∃ q, Queue.create .standard 2 1 = .ok q ∧
      let e := (Executor.fresh q).run Queue.protocol sixReceives
      e.Prompt Queue.protocol ∧
        (List.range 6).map (fun f => (e.futures f).map fun p => (p.waker, p.called)) =
          [some (some ⟨0⟩, true), none, some (some ⟨2⟩, true), some (some ⟨3⟩, true),
            some (some ⟨4⟩, true), some (some ⟨4⟩, true)]) ∧
    (∃ s, ByteStream.create .standard 4 2 = .ok s ∧
      let e := (Executor.fresh s).run ByteStream.protocol oneByte
      e.Prompt ByteStream.protocol ∧ (e.futures 0).map (·.called) = some false) ∧
    let e := (Executor.fresh (Signal.unseen 3)).run Signal.protocol setTwice
    e.Prompt Signal.protocol ∧ (e.futures 0).map (·.called) = some true := by
  obtain ⟨hQueue, hStream, hSignal⟩ := prompt_run
  obtain ⟨q, hCreate⟩ : ∃ q, Queue.create .standard 2 1 = .ok q := ⟨_, rfl⟩
  obtain ⟨s, hCreate'⟩ : ∃ s, ByteStream.create .standard 4 2 = .ok s := ⟨_, rfl⟩
  refine ⟨⟨q, hCreate, hQueue hCreate _, ?_⟩, ⟨s, hCreate', hStream hCreate' _, ?_⟩,
    hSignal 3 _, rfl⟩
  · cases hCreate
    decide
  · cases hCreate'
    decide

end TaskSync
