import TaskSync.Proofs.Runs.Machine
import TaskSync.Proofs.Signal.Runs
import TaskSync.Machine.Events

/-!
# TaskSync — signals and watches inside a machine

A machine has a signal and each of its watches at places of their own, and a
watch knows the place of its signal (`Signal.Shown`). It deals with the two by
their protocol: the signal becomes what the protocol says, and a watch that is
given a value is put back with it (`Signal.tell`).

* `Signal.perform_wait`, `Signal.round_at` — blocking waits.
* `Signal.perform_glance`, `Signal.poll_at` — looks in passing and asynchronous waits.
* `Signal.perform_set`, `Signal.perform_deferring` — sets, of tasks and of interrupt handlers.
-/

namespace TaskSync

namespace Signal

/-- A signal and one of its watches as a machine has them, at `r` and at `place`. -/
structure Shown (s : Machine) (r place : Ref) (watch : Nat) (x : Watched Datum) : Prop where
  signal : s.get? (Signal Datum) r = some x.signal
  watch : s.get? Watch place = some ⟨r, x.seen watch⟩

/-- The signal's part in a step. -/
def ofWatched {α β : Type} (o : Outcome (Watched α) β) : Outcome (Signal α) β :=
  ⟨o.object.signal, o.notices, o.answer⟩

/-- The machine after the watch of the signal at `r` was given a value, if it was. -/
def tell (s : Machine) (r place : Ref) : Option Datum → Machine
  | some value => s.put place (⟨r, some value⟩ : Watch)
  | none => s

/-- What a deed gave its watch. -/
def Deed.value? {α : Type} : Deed α → Option α
  | .waited _ _ _ answer | .glanced _ answer => answer
  | .polled _ value => some value
  | .set _ => none

/-- A call as the machine keeps it that has the signal at `r` and the watch at `place`. -/
def Call.at (r place : Ref) (k : Call Datum) : TaskSync.Call := .watch place r k.wait

/-- The result that a machine reports for a deed. -/
def Deed.result : Deed Datum → Result
  | .waited _ _ _ (some value) | .polled _ value => .ok (.datum value)
  | .waited _ _ _ none => .error .watchTimeout
  | .glanced _ answer => .ok (Machine.datumAnswer answer)
  | .set _ => .ok .done

variable {s : Machine} {r place : Ref} {id : Name} {watch : Nat} {x : Watched Datum}

-- ---------------------------------------------------------------------------
-- Waits
-- ---------------------------------------------------------------------------

/-- A round of a call in a machine is a look by the protocol. -/
theorem round_at {k : Call Datum} (hShown : Shown s r place k.watch x) (t : TaskId) :
    let o := protocol.resume k s.now t x
    s.round t (k.at r place) =
      (tell (s.settle r (ofWatched o)) r place (o.answer.deed?.bind Deed.value?),
        o.answer.map (Call.at r place) Deed.result) := by
  intro o
  have hOutcome : o = look k s.now t x := rfl
  rw [hOutcome, look, Call.at, Machine.round, hShown.signal]
  dsimp only
  generalize k.wait.round s.now t x.signal = o'
  obtain ⟨signal, notices, answer⟩ := o'
  cases answer with
  | suspended w limit => rfl
  | finished answer => cases answer <;> rfl

/-- A wait comes down to a call whose first round is the protocol's first look. -/
theorem perform_wait (hAt : s.named? Watch id = some (place, ⟨r, x.seen watch⟩)) (wait : Ticks)
    (t : TaskId) :
    ∃ k : Call Datum, s.performWatch id (.wait wait) = (s, .calling (k.at r place) .plain) ∧
      k.watch = watch ∧ protocol.start ⟨watch, wait⟩ s.now t x = protocol.resume k s.now t x :=
  ⟨(Request.mk watch wait).call s.now x, Machine.onObject_eq hAt _, rfl, rfl⟩

/-- A poll of an asynchronous wait is a step by the protocol. -/
theorem poll_at (hShown : Shown s r place watch x) (change : Option (Change Datum))
    (waker : WakerId) (worker : Worker) (name : Name) :
    let o := protocol.act (.poll watch change waker) x
    ∃ futures, (s.poll worker name waker (.watch place change)).1 =
      { (tell s r place (o.answer.bind Deed.value?)).settle r (ofWatched o) with futures } := by
  intro o
  have hOutcome : o = Act.perform x (.poll watch change waker) := rfl
  rw [hOutcome, Act.perform]
  simp only [Machine.poll, hShown.watch, hShown.signal]
  generalize x.signal.pollChange (change.getD ⟨x.seen watch⟩) waker = o'
  obtain ⟨signal, notices, answer⟩ := o'
  cases answer with
  | none => exact Machine.finishPoll_eq ..
  | some value => exact Machine.finishPoll_eq ..

/-- A look in passing is a step by the protocol. -/
theorem perform_glance (hAt : s.named? Watch id = some (place, ⟨r, x.seen watch⟩))
    (hShown : Shown s r place watch x) :
    ∃ d, (protocol.act (.glance watch) x).answer = some d ∧
      s.performWatch id .glance = (tell s r place d.value?).finish d.result := by
  show ∃ d, (Act.perform x (.glance watch)).answer = some d ∧ s.onObject Watch id _ = _
  rw [Machine.onObject_eq hAt, Act.perform, hShown.signal]
  dsimp only
  cases x.signal.changed? (x.seen watch) with
  | none => exact ⟨_, rfl, rfl⟩
  | some value => exact ⟨_, rfl, rfl⟩

-- ---------------------------------------------------------------------------
-- Sets
-- ---------------------------------------------------------------------------

/-- A set is a step by the protocol. -/
theorem perform_set (hAt : s.named? (Signal Datum) id = some (r, x.signal)) (value : Datum) :
    s.performSignal id (.set value) =
      (s.settle r (ofWatched (protocol.act (.set value) x))).finish (.ok .done) :=
  Machine.onObject_eq hAt _

/-- So is a set by an interrupt handler, with the wakes deferred. -/
theorem perform_deferring (hAt : s.named? (Signal Datum) id = some (r, x.signal)) (value : Datum) :
    (s.performSignal id (.setDeferring value)).1 =
      s.settleDeferring r (ofWatched (protocol.act (.set value) x)) :=
  congrArg Prod.fst (Machine.onObject_eq hAt _)

end Signal

end TaskSync
