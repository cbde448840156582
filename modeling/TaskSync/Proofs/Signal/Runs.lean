import TaskSync.Proofs.Runs.Rounds
import TaskSync.Proofs.Runs.World
import TaskSync.Signal

/-!
# TaskSync — runs of a signal

A signal in use together with the watches on it (`Signal.Watched`), and how the
two answer (`Signal.protocol`). A watch goes by its number; none of them has
been given a value at first. An operation that waits keeps what its watch had
seen when it began, and the watch is told the value that the operation ends with.

All that a look of a waiting task can come to is a `Turn`, all that a step that
does not wait can come to is a `Deal`. `Signal.turn_look` and `Signal.deal_act`
say so once for all proofs.

* `Signal.Lined.step` — who is on the wait list waits for another value than the
  present one, and a step keeps it so.
-/

namespace TaskSync

namespace Signal

/-- A signal and what the watches on it were last given. -/
structure Watched (α : Type) where
  signal : Signal α
  seen : Nat → Option α

/-- A wait for a value that is news to a watch. -/
structure Request where
  watch : Nat
  wait : Ticks

/-- A blocking call of a watch. -/
structure Call (α : Type) where
  watch : Nat
  wait : Waiting (Change α)

/-- A step on a signal that does not wait. -/
inductive Act (α : Type)
  /-- Of a task or of an interrupt handler. -/
  | set (value : α)
  | glance (watch : Nat)
  /-- A poll of an asynchronous wait; `change` from the second poll on. -/
  | poll (watch : Nat) (change : Option (Change α)) (waker : WakerId)

/-- An operation on a signal that has ended, with its answer. -/
inductive Deed (α : Type)
  /-- A blocking wait; `last` if the wait was over at the look that ended it. -/
  | waited (t : TaskId) (watch : Nat) (last : Bool) (answer : Option α)
  | glanced (watch : Nat) (answer : Option α)
  | polled (watch : Nat) (value : α)
  | set (value : α)

variable {α : Type}

/-- The watches after one of them was given a value. -/
def Watched.tell (x : Watched α) (watch : Nat) (value : α) : Watched α :=
  { x with seen := Function.update x.seen watch (some value) }

/-- The signal without a task among those that wait. -/
def without (s : Signal α) (t : TaskId) : Signal α := { s with waiters := s.waiters.remove t }

variable [BEq α]

/-- The next look of a call. -/
def look (k : Call α) (now : Ticks) (t : TaskId) (x : Watched α) :
    Outcome (Watched α) (Round (Call α) (Deed α)) :=
  let o := k.wait.round now t x.signal
  let left : Watched α := { x with signal := o.object }
  { object := match o.answer with
      | .finished (some value) => left.tell k.watch value
      | .finished none | .suspended .. => left
    notices := o.notices
    answer := o.answer.map (fun wait => ⟨k.watch, wait⟩)
      (.waited t k.watch (k.wait.isOver now)) }

/-- The call that an operation begins. -/
def Request.call (r : Request) (now : Ticks) (x : Watched α) : Call α :=
  ⟨r.watch, .start ⟨x.seen r.watch⟩ r.wait now⟩

/-- A step that does not wait. -/
def Act.perform (x : Watched α) : Act α → Outcome (Watched α) (Option (Deed α))
  | .set value =>
    let o := x.signal.set value
    ⟨{ x with signal := o.object }, o.notices, some (.set value)⟩
  | .glance watch =>
    match x.signal.changed? (x.seen watch) with
    | none => .still x (some (.glanced watch none))
    | some value => .still (x.tell watch value) (some (.glanced watch (some value)))
  | .poll watch change waker =>
    let o := x.signal.pollChange (change.getD ⟨x.seen watch⟩) waker
    let left : Watched α := { x with signal := o.object }
    match o.answer with
    | none => ⟨left, o.notices, none⟩
    | some value => ⟨left.tell watch value, o.notices, some (.polled watch value)⟩

/-- How a signal and its watches answer. -/
def protocol : Protocol (Watched α) Request (Call α) (Act α) (Deed α) where
  start r now t x := look (r.call now x) now t x
  resume k now t x := look k now t x
  act a x := a.perform x

/-- A new signal. -/
def unseen (value : α) : Watched α := ⟨create value, fun _ => none⟩

-- ---------------------------------------------------------------------------
-- What a look comes to
-- ---------------------------------------------------------------------------

/-- All that a look for a watch can come to for a task that waits for a change. -/
inductive Turn (t : TaskId) (x : Watched α) (watch : Nat) (c : Change α) :
    Outcome (Watched α) (Round (Call α) (Deed α)) → Prop
  | told {last : Bool} :
      c.isNews x.signal.value = true →
      Turn t x watch c
        (.still (Watched.tell { x with signal := x.signal.without t } watch x.signal.value)
          (.finished (.waited t watch last (some x.signal.value))))
  | joined {w : Waiting (Change α)} {limit : Option Ticks} {waiters : WaitList} :
      w.request = c → c.isNews x.signal.value = false →
      x.signal.waiters.register t = some waiters →
      Turn t x watch c (.still { x with signal := { x.signal with waiters } }
        (.suspended ⟨watch, w⟩ limit))
  /-- The wait list is full and the task not on it. -/
  | crowded {w : Waiting (Change α)} :
      w.request = c → c.isNews x.signal.value = false → t ∉ x.signal.waiters.tasks →
      WaitList.limit ≤ x.signal.waiters.size →
      Turn t x watch c (.still x (.suspended ⟨watch, w⟩ (some 1)))
  | gaveUp :
      c.isNews x.signal.value = false →
      Turn t x watch c (.still { x with signal := x.signal.without t }
        (.finished (.waited t watch true none)))

theorem turn_look (k : Call α) (now : Ticks) (t : TaskId) (x : Watched α) :
    Turn t x k.watch k.wait.request (look k now t x) := by
  have hComes := k.wait.comes_round now t x.signal
  rw [look]
  generalize k.wait.round now t x.signal = o at hComes
  cases hNews : k.wait.request.isNews x.signal.value with
  | true =>
    have hServe : Blocks.serve k.wait.request (k.wait.look now t) x.signal =
        some (.still (x.signal.without t) (some x.signal.value)) := if_pos hNews
    cases hComes with
    | served hServed =>
      obtain rfl := Option.some.inj (hServe.symm.trans hServed)
      exact .told hNews
    | joined hNone | crowded hNone | gaveUp hNone =>
      rw [hServe] at hNone
      cases hNone
  | false =>
    have hServe : Blocks.serve k.wait.request (k.wait.look now t) x.signal = none :=
      if_neg (Bool.eq_false_iff.mp hNews)
    cases hComes with
    | served hServed =>
      rw [hServe] at hServed
      cases hServed
    | joined _ _ hJoin =>
      obtain ⟨waiters, hReg, rfl⟩ := Option.map_eq_some_iff.mp hJoin
      exact .joined rfl hNews hReg
    | crowded _ _ hJoin =>
      have hOut := WaitList.register_eq_none_iff.mp (Option.map_eq_none_iff.mp hJoin)
      exact .crowded rfl hNews hOut.1 hOut.2
    | gaveUp _ hOver =>
      simp only [hOver]
      exact .gaveUp hNews

-- ---------------------------------------------------------------------------
-- What a step that does not wait comes to
-- ---------------------------------------------------------------------------

/-- All that a step that does not wait can come to. -/
inductive Deal (x : Watched α) : Act α → Outcome (Watched α) (Option (Deed α)) → Prop
  | kept {value : α} :
      (x.signal.value == value) = true → Deal x (.set value) (.still x (some (.set value)))
  | changed {value : α} :
      (x.signal.value == value) = false →
      Deal x (.set value) ⟨{ x with signal := ⟨value, .empty, .empty⟩ },
        x.signal.wakers.notices ++ x.signal.waiters.notices, some (.set value)⟩
  | noNews {watch : Nat} :
      (Change.mk (x.seen watch)).isNews x.signal.value = false →
      Deal x (.glance watch) (.still x (some (.glanced watch none)))
  | news {watch : Nat} :
      (Change.mk (x.seen watch)).isNews x.signal.value = true →
      Deal x (.glance watch) (.still (x.tell watch x.signal.value)
        (some (.glanced watch (some x.signal.value))))
  /-- A poll in vain; the wakers called to make room are no tasks. -/
  | pending {watch : Nat} {change : Option (Change α)} {waker : WakerId} {wakers : WakerSet}
      {called : List Notice} :
      (change.getD ⟨x.seen watch⟩).isNews x.signal.value = false →
      called.filterMap Notice.task? = [] → waker ∈ wakers.wakers →
      (∀ v ∈ x.signal.wakers.wakers, v ∈ wakers.wakers ∨ .waker v ∈ called) →
      Deal x (.poll watch change waker)
        ⟨{ x with signal := { x.signal with wakers } }, called, none⟩
  | polled {watch : Nat} {change : Option (Change α)} {waker : WakerId} :
      (change.getD ⟨x.seen watch⟩).isNews x.signal.value = true →
      Deal x (.poll watch change waker)
        (.still (x.tell watch x.signal.value) (some (.polled watch x.signal.value)))

theorem deal_act (a : Act α) (x : Watched α) : Deal x a (protocol.act a x) := by
  show Deal x a (a.perform x)
  cases a with
  | set value =>
    cases hSame : x.signal.value == value with
    | true =>
      have hSet : x.signal.set value = .still x.signal () := if_pos hSame
      rw [Act.perform, hSet]
      exact .kept hSame
    | false =>
      have hSet : x.signal.set value = ⟨⟨value, .empty, .empty⟩,
          x.signal.wakers.notices ++ x.signal.waiters.notices, ()⟩ :=
        if_neg (Bool.eq_false_iff.mp hSame)
      rw [Act.perform, hSet]
      exact .changed hSame
  | glance watch =>
    rw [Act.perform, changed?]
    cases hNews : (Change.mk (x.seen watch)).isNews x.signal.value with
    | true => exact .news hNews
    | false => exact .noNews hNews
  | poll watch change waker =>
    rw [Act.perform, pollChange]
    cases hNews : (change.getD ⟨x.seen watch⟩).isNews x.signal.value with
    | true => exact .polled hNews
    | false =>
      exact .pending hNews (x.signal.wakers.tasks_register waker)
        (x.signal.wakers.mem_register waker) fun _ => WakerSet.mem_or_called_of_register waker

-- ---------------------------------------------------------------------------
-- The wait list
-- ---------------------------------------------------------------------------

/-- A call to which the present value is no news. -/
def settled (s : Signal α) (k : Call α) : Bool := !k.wait.request.isNews s.value

/-- Who is on the wait list waits for another value than the present one. -/
def Lined (c : Crew (Call α)) (x : Watched α) : Prop := c.Line x.signal.settled x.signal.waiters

variable {c : Crew (Call α)} {x : Watched α} {t : TaskId}

theorem Lined.turn (h : Lined c x) {watch : Nat} {change : Change α}
    {o : Outcome (Watched α) (Round (Call α) (Deed α))} (hTurn : Turn t x watch change o) :
    Lined ((c.look t o.answer.sleep?).notify o.tasks) o.object := by
  cases hTurn with
  | told | gaveUp =>
    rw [Outcome.tasks_still, Crew.notify_nil]
    exact h.leave t none
  | @joined w limit waiters hRequest hNews hReg =>
    rw [Outcome.tasks_still, Crew.notify_nil]
    have hSettled : x.signal.settled ⟨watch, w⟩ = true := by rw [settled, hRequest, hNews]; rfl
    exact h.join hReg (s := ⟨⟨watch, w⟩, limit⟩) hSettled
  | crowded _ _ hOut =>
    rw [Outcome.tasks_still, Crew.notify_nil]
    exact h.pass hOut _

theorem Lined.deal (h : Lined c x) {a : Act α} {o : Outcome (Watched α) (Option (Deed α))}
    (hDeal : Deal x a o) : Lined (c.notify o.tasks) o.object := by
  cases hDeal with
  | kept | noNews | news | polled =>
    rw [Outcome.tasks_still, Crew.notify_nil]
    exact h
  | changed => exact .of_empty _ _
  | pending _ hCalled =>
    rw [Outcome.tasks, hCalled, Crew.notify_nil]
    exact h

theorem Lined.step {w : World (Watched α) (Call α) (Deed α)} (h : Lined w.crew w.object)
    {m : Move Request (Act α)} (hKept : ∀ t, m ≠ .abandon t) :
    Lined (w.step protocol m).crew (w.step protocol m).object := by
  have hStepped := w.stepped_step protocol m
  generalize w.step protocol m = w' at hStepped ⊢
  cases hStepped with
  | idle => exact h
  | @started t now r => exact h.turn (turn_look (r.call now w.object) now t w.object)
  | @resumed t now s => exact h.turn (turn_look s.call now t w.object)
  | @acted a => exact h.deal (deal_act a w.object)
  | @abandoned t => exact absurd rfl (hKept t)

theorem lined_fresh (value : α) : Lined (Crew.empty : Crew (Call α)) (unseen value) :=
  .of_empty _ _

end Signal

end TaskSync
