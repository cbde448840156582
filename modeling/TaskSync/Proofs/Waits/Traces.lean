import TaskSync.Proofs.Waits.Benches
import TaskSync.Proofs.Waits.Buffers
import TaskSync.Proofs.EventGroup.Firing

/-!
# TaskSync — a wait that fails leaves no trace

A call that fails has, over all its attempts, done nothing but enter itself
among those who wait, as often as others took it out, and at its last attempt it
has taken itself out again. This is so for all blocking operations, and the buffer of
a receive is then as it was.

The object that an attempt finds may be any, since what the others do between
two attempts is up to them. There are two exceptions. The owner of a mutex who
asks for it again is refused without being taken off the wait list, and an event
group takes out one entry. In the states that runs lead to, the owner is not on
the list (`Mutex.Unlisted`) and nobody is in the table twice
(`EventGroup.Table`).

Main result:

* `Waiting.leaves_no_trace`
-/

namespace TaskSync

variable {t : TaskId}

-- ---------------------------------------------------------------------------
-- Wait lists
-- ---------------------------------------------------------------------------

/-- The tasks blocked in a send to a queue. -/
def Queue.senderBench : Bench Queue TaskId :=
  .ofList (·.senders) (fun q senders => { q with senders }) (fun _ => rfl) fun _ _ => rfl

/-- The tasks blocked in a receive from a queue. -/
def Queue.receiverBench : Bench Queue TaskId :=
  .ofList (·.receivers) (fun q receivers => { q with receivers }) (fun _ => rfl) fun _ _ => rfl

/-- The tasks blocked in a send to a stream. -/
def ByteStream.senderBench : Bench ByteStream TaskId :=
  .ofList (·.senders) (fun s senders => { s with senders }) (fun _ => rfl) fun _ _ => rfl

/-- The tasks blocked in a receive from a stream. -/
def ByteStream.receiverBench : Bench ByteStream TaskId :=
  .ofList (·.receivers) (fun s receivers => { s with receivers }) (fun _ => rfl) fun _ _ => rfl

/-- The tasks that wait for a signal to change. -/
def Signal.bench (α : Type) : Bench (Signal α) TaskId :=
  .ofList (·.waiters) (fun s waiters => { s with waiters }) (fun _ => rfl) fun _ _ => rfl

-- ---------------------------------------------------------------------------
-- Mutexes
-- ---------------------------------------------------------------------------

namespace Mutex

/-- The tasks blocked on a mutex. -/
def bench : Bench Mutex TaskId :=
  .ofList (·.waiters) (fun m waiters => { m with waiters }) (fun _ => rfl) fun _ _ => rfl

/-- A state that some run of a mutex leads to. -/
def Reachable (m : Mutex) : Prop :=
  ∃ (checks : Bool) (kind : MutexKind) (moves : List Move),
    (after checks (create kind) moves).object = m

/-- The owner is not among those who wait. -/
def Unlisted (m : Mutex) : Prop := ∀ t, m.owner = some t → t ∉ m.waiters.tasks

variable {checks : Bool} {m : Mutex} {r : Request} {o : Outcome Mutex (Round Call Deed)}

/-- A look does not bring the owner on the wait list. -/
theorem Turn.unlisted (hTurn : Turn checks t m r o) (h : Unlisted m) : Unlisted o.object := by
  cases hTurn with
  | taken =>
    rintro u ⟨⟩
    exact WaitList.not_mem_remove m.waiters t
  | deepened | deadlocked | faulted | selfBlocked | crowded | refused | heldOn => exact h
  | joined _ hBusy hReg =>
    rcases WaitList.register_cases hReg with ⟨rfl, -⟩ | ⟨rfl, -⟩
    · exact h
    · intro u hOwner hMem
      rcases List.mem_append.mp hMem with hMem | hMem
      · exact h u hOwner hMem
      · exact hBusy.2 (List.mem_singleton.mp hMem ▸ hOwner)
  | gaveUp | restarting => exact fun u hOwner hMem => h u hOwner (List.mem_of_mem_filter hMem)
  | handedOn => exact nofun

theorem unlisted_step {w : World} (h : Unlisted w.object) (mv : Move) :
    Unlisted (w.step (protocol checks) mv).object := by
  have hStepped := w.stepped_step (protocol checks) mv
  generalize w.step (protocol checks) mv = w' at hStepped ⊢
  cases hStepped with
  | idle | abandoned => exact h
  | started => exact (turn_start checks _ _ _ _).unlisted h
  | resumed => exact (turn_round checks _ _ _ _).unlisted h
  | @acted a => exact nomatch a

theorem unlisted_run (checks : Bool) (kind : MutexKind) (moves : List Move) :
    Unlisted (after checks (create kind) moves).object :=
  TaskSync.World.run_induction (I := fun w : World => Unlisted w.object)
    (fun _ mv _ h => unlisted_step h mv) nofun

theorem Reachable.unlisted (h : Reachable m) : Unlisted m := by
  obtain ⟨checks, kind, moves, rfl⟩ := h
  exact unlisted_run checks kind moves

/-- Who is refused owns the mutex, and is therefore not on its list. -/
theorem fits_bench : bench.Fits TryLock (failedWith fun _ => true) Reachable := by
  refine Bench.fits_ofList (fun _ _ _ => rfl) (fun _ _ _ => rfl) ?_
  intro r look m o hServe hFailed hReachable
  have hServed := served_serve r look m
  rw [hServe] at hServed
  cases hServed with
  | taken | deepened => cases hFailed
  | deadlocked hOwner => exact ⟨rfl, rfl, hReachable.unlisted _ hOwner⟩

end Mutex

-- ---------------------------------------------------------------------------
-- Event groups
-- ---------------------------------------------------------------------------

namespace EventGroup

/-- The wait table of an event group. -/
def bench : Bench EventGroup EventWaiter where
  task := (·.task)
  entries := (·.waiters)
  withEntries g waiters := { g with waiters }
  withEntries_entries _ := rfl
  entries_withEntries _ _ := rfl
  Alike := List.Perm
  alike_refl := .refl

/-- A state that some run of an event group leads to in which no task is given up in a call. -/
def Reachable (g : EventGroup) : Prop :=
  ∃ (initial : EventBits) (moves : List Move), (∀ t, .abandon t ∉ moves) ∧
    (after (create initial) moves).object = g

variable {g : EventGroup}

theorem Reachable.nodup (h : Reachable g) : g.tasks.Nodup := by
  obtain ⟨initial, moves, hKept, rfl⟩ := h
  exact (table_run (table_fresh initial) hKept).nodup

theorem has_bench : bench.Has t g ↔ t ∈ g.tasks := mem_tasks.symm

/-- Only the entry of the task goes. -/
theorem left_bench (hNodup : g.tasks.Nodup) : bench.Left t g (g.dismiss t) where
  eq := by
    show _ = (⟨g.bits, (g.dismiss t).waiters⟩ : EventGroup)
    rw [← bits_dismiss g t]
  others := by
    refine ((waiters_dismiss_perm hNodup).filter _).trans (.of_eq ?_)
    rw [List.filter_filter]
    exact List.filter_congr fun e _ => Bool.and_self _
  out := by
    rw [has_bench, ← entryOf?_eq_none_iff]
    exact entryOf?_dismiss_self hNodup

theorem fits_bench : bench.Fits EventWish (ranOut EventWish) Reachable where
  joins := by
    intro wish t g g' hJoined
    rw [join_eq] at hJoined
    split at hJoined
    · obtain rfl := Option.some.inj hJoined
      exact .stays
    · rename_i hOut
      obtain ⟨-, rfl⟩ := enlist_eq_some_iff.mp hJoined
      exact .enters (fun hHas => entryOf?_eq_none_iff.mp hOut (has_bench.mp hHas)) rfl
  leaves _ _ _ hReachable := left_bench hReachable.nodup
  refuses hServe hFailed _ := absurd hFailed (not_ranOut_of_serve hServe)

end EventGroup

-- ---------------------------------------------------------------------------
-- All blocking operations
-- ---------------------------------------------------------------------------

/-- A call that fails leaves no trace, in whatever state its object is when it fails, and in
whatever state of a run for a mutex and for an event group. A receive that fails, also from a
stream that is closed, leaves its buffer as it was; one that is served writes to the front of it
what it receives, as the copies of the ring do, and a machine hands it out so. -/
theorem Waiting.leaves_no_trace :
    Queue.senderBench.Clean Queue.Send (ranOut Queue.Send) (fun _ => True) ∧
      Queue.receiverBench.Clean Queue.Receive (ranOut Queue.Receive) (fun _ => True) ∧
      ByteStream.senderBench.Clean ByteStream.Send (ranOut ByteStream.Send) (fun _ => True) ∧
      ByteStream.receiverBench.Clean ByteStream.Receive (ranOut ByteStream.Receive)
        (fun _ => True) ∧
      Mutex.bench.Clean TryLock (failedWith fun _ => true) Mutex.Reachable ∧
      (∀ (α : Type) [BEq α],
        (Signal.bench α).Clean (Change α) (ranOut (Change α)) fun _ => True) ∧
      EventGroup.bench.Clean EventWish (ranOut EventWish) EventGroup.Reachable ∧
      KeepsBuffer Queue.ReceiveInto ∧ KeepsBuffer ByteStream.ReceiveInto ∧
      FillsBuffer Queue.ReceiveInto (fun _ => ()) (fun _ => ({} : Queue.Receive))
        (fun q out => out.size = q.itemSize) ∧
      FillsBuffer ByteStream.ReceiveInto List.length
        (fun out => (⟨out.size⟩ : ByteStream.Receive)) (fun _ _ => True) ∧
      (∀ (r : ByteRing) (out : Array UInt8), r.Fits → r.read? 2 out = some (r.readInto out)) ∧
      ∀ (s : Machine) (worker : Worker) (size : Nat) (answer : Except QueueError (List UInt8)),
        (∀ data, answer = .ok data → data.length ≤ size) →
        s.complete worker (.buffer size) (.ofExcept .queue .bytes answer) =
          (s, .answered (.ok (.received answer.isOk
            (bufferAfter (Array.replicate size blankByte) answer).toList))) := by
  refine ⟨?_, ?_, ?_, ?_, Mutex.fits_bench.clean, ?_, EventGroup.fits_bench.clean,
    Queue.spares_receiveInto.keepsBuffer, ByteStream.spares_receiveInto.keepsBuffer,
    Queue.fills_receiveInto.fillsBuffer, ByteStream.fills_receiveInto.fillsBuffer,
    fun _ out hFits => hFits.read?_eq_readInto out,
    fun s worker _ _ hRoom => s.complete_buffer worker hRoom⟩
  · exact Bench.clean_ofList (fun _ _ _ => rfl) fun _ _ _ => rfl
  · exact Bench.clean_ofList (fun _ _ _ => rfl) fun _ _ _ => rfl
  · exact Bench.clean_ofList (fun _ _ _ => rfl) fun _ _ _ => rfl
  · exact Bench.clean_ofList (fun _ _ _ => rfl) fun _ _ _ => rfl
  · exact fun α _ => Bench.clean_ofList (fun _ _ _ => rfl) fun _ _ _ => rfl

/-- The task is listed behind another, who is called off the list before its time is up while a
third comes on. -/
example :
    let held (waiters : List TaskId) : Mutex := ⟨.normal, some ⟨9⟩, 1, ⟨waiters⟩⟩
    let call : Waiting TryLock := .start {} 2 0
    (call.attempts ⟨1⟩ [⟨0, held [⟨7⟩]⟩, ⟨2, held [⟨1⟩, ⟨8⟩]⟩]).map
        (fun a => (a.outcome.object, a.outcome.answer)) =
      [(held [⟨7⟩, ⟨1⟩], .suspended { call with again := true } (some 2)),
        (held [⟨8⟩], .finished (.error .timeout))] := by
  decide

end TaskSync
