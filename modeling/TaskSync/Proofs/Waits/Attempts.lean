import TaskSync.Proofs.Runs.Rounds
import TaskSync.Proofs.Queue.Runs
import TaskSync.Proofs.ByteStream.Runs
import TaskSync.Proofs.EventGroup.Runs
import TaskSync.Proofs.Mutex.Runs
import TaskSync.Signal

/-!
# TaskSync — the attempts of a call

Between two rounds of a blocking call time goes by and others use the object.
None of this is up to the call, so what its rounds find is given from outside:
one `Glimpse` each, the time and the object as the others have left it. The
call goes on for as long as it is not finished (`Waiting.attempts`).

Whatever ends a suspension, a wake, the end of its limit or nothing at all,
only decides when the next glimpse is. A statement about all lists of glimpses
is therefore about every way in which suspensions may end.

* `Waiting.belongs_of_mem` — all attempts are for the same request and have the
  same deadline.
* `Waiting.eq_nil_of_finished` — the attempt that is answered is the last.

A call that gives up says so in its answer: no call that was served is answered
like that (`RunsOut`).
-/

namespace TaskSync

/-- What the tick counter shows at a time. -/
def Ticks.shown (time : Nat) : Ticks := UInt32.ofNat time

/-- What a round finds. -/
structure Glimpse (σ : Type) where
  time : Nat
  object : σ

/-- A round that a call has made. -/
structure Attempt (ρ σ α : Type) where
  /-- The call before the round. -/
  call : Waiting ρ
  found : Glimpse σ
  outcome : Outcome σ (Round (Waiting ρ) α)

namespace Waiting

variable {ρ σ α : Type} [Blocks ρ σ α]

/-- The next round of a call. -/
def attempt (w : Waiting ρ) (task : TaskId) (g : Glimpse σ) : Attempt ρ σ α :=
  ⟨w, g, w.round (.shown g.time) task g.object⟩

/-- The rounds of a call, one for each glimpse until it is finished. -/
def attempts (task : TaskId) : Waiting ρ → List (Glimpse σ) → List (Attempt ρ σ α)
  | _, [] => []
  | w, g :: later =>
    let a := w.attempt task g
    a :: match a.outcome.answer with
      | .finished _ => []
      | .suspended next _ => attempts task next later

/-- An attempt of a call that began as `w`. -/
structure Belongs (w : Waiting ρ) (task : TaskId) (glimpses : List (Glimpse σ))
    (a : Attempt ρ σ α) : Prop where
  request : a.call.request = w.request
  deadline : a.call.deadline = w.deadline
  found : a.found ∈ glimpses
  outcome : a.outcome = a.call.round (.shown a.found.time) task a.found.object

variable {w : Waiting ρ} {task : TaskId} {glimpses : List (Glimpse σ)} {a : Attempt ρ σ α}

/-- A call that is suspended remembers that it has looked, and is otherwise the same. -/
theorem eq_of_suspended {now : Ticks} {object : σ} {next : Waiting ρ} {limit : Option Ticks}
    (h : (w.round now task object).answer = .suspended next limit) :
    next = { w with again := true } := by
  have hComes := w.comes_round now task object
  generalize w.round now task object = o at hComes h
  cases hComes with
  | served | gaveUp => cases h
  | joined | crowded =>
    cases h
    rfl

theorem belongs_of_mem (h : a ∈ w.attempts task glimpses) : w.Belongs task glimpses a := by
  induction glimpses generalizing w with
  | nil => cases h
  | cons g later ih =>
    rcases List.mem_cons.mp h with rfl | hLater
    · exact ⟨rfl, rfl, List.mem_cons_self, rfl⟩
    cases hAnswer : (w.attempt task g).outcome.answer with
    | finished answer =>
      rw [hAnswer] at hLater
      cases hLater
    | suspended next limit =>
      rw [hAnswer] at hLater
      obtain rfl := eq_of_suspended hAnswer
      have hBelongs := ih hLater
      exact ⟨hBelongs.request, hBelongs.deadline, List.mem_cons_of_mem g hBelongs.found,
        hBelongs.outcome⟩

/-- All that an attempt can come to. -/
theorem Belongs.comes (h : w.Belongs task glimpses a) :
    a.call.Comes (.shown a.found.time) task a.found.object a.outcome := by
  rw [h.outcome]
  exact a.call.comes_round _ task a.found.object

/-- No attempt comes after the one that is answered. -/
theorem eq_nil_of_finished {earlier later : List (Attempt ρ σ α)} {answer : α}
    (h : w.attempts task glimpses = earlier ++ a :: later)
    (hFinished : a.outcome.answer = .finished answer) : later = [] := by
  induction glimpses generalizing w earlier with
  | nil => cases (List.append_eq_nil_iff.mp h.symm).2
  | cons g rest ih =>
    cases earlier with
    | nil =>
      obtain ⟨rfl, rfl⟩ := List.cons.inj h
      rw [hFinished]
    | cons first earlier =>
      obtain ⟨-, h⟩ := List.cons.inj h
      split at h
      · cases (List.append_eq_nil_iff.mp h.symm).2
      · exact ih h

/-- All attempts before another end in a suspension. -/
theorem suspended_of_mem {earlier later : List (Attempt ρ σ α)} {b : Attempt ρ σ α}
    (h : w.attempts task glimpses = earlier ++ b :: later) (hMem : a ∈ earlier) :
    ∃ limit, a.outcome.answer = .suspended { a.call with again := true } limit := by
  obtain ⟨before, between, rfl⟩ := List.append_of_mem hMem
  rw [List.append_assoc, List.cons_append] at h
  have hIn : a ∈ w.attempts task glimpses := by
    rw [h]
    exact List.mem_append_right before List.mem_cons_self
  cases hAnswer : a.outcome.answer with
  | finished answer => cases (List.append_eq_nil_iff.mp (eq_nil_of_finished h hAnswer)).2
  | suspended next limit =>
    rw [(belongs_of_mem hIn).outcome] at hAnswer
    rw [eq_of_suspended hAnswer]
    exact ⟨limit, rfl⟩

end Waiting

-- ---------------------------------------------------------------------------
-- The answers of those who give up
-- ---------------------------------------------------------------------------

/-- Which answers to requests `ρ` say that the wait has run out. -/
class RunsOut (ρ : Type) {σ α : outParam Type} [Blocks ρ σ α] where
  ranOut : α → Bool
  ranOut_serve : ∀ {r : ρ} {look : Look} {x : σ} {o : Outcome σ α},
    Blocks.serve r look x = some o → ranOut o.answer = false
  ranOut_giveUp : ∀ (r : ρ) (wait : Ticks) (x : σ), ranOut (Blocks.giveUp r wait x) = true

/-- Whether an answer to a request of a kind says that the wait has run out. -/
def ranOut (ρ : Type) {σ α : outParam Type} [Blocks ρ σ α] [h : RunsOut ρ] (answer : α) : Bool :=
  h.ranOut answer

/-- Who was served is not told that the wait has run out. -/
theorem not_ranOut_of_serve {ρ σ α : Type} [Blocks ρ σ α] [RunsOut ρ] {r : ρ} {look : Look} {x : σ}
    {o : Outcome σ α} (h : Blocks.serve r look x = some o) : ¬ ranOut ρ o.answer = true := by
  rw [ranOut, RunsOut.ranOut_serve h]
  exact nofun

/-- A queue asked for an item or a free slot refuses for want of time or because it is not to
wait. -/
def QueueError.ranOut : QueueError → Bool
  | .timeout | .full | .empty => true
  | .itemSize => false

def StreamError.ranOut : StreamError → Bool
  | .timeout | .full | .empty => true
  | .closed | .triggerLevel => false

/-- A task that would wait for itself is told so at once. -/
def LockError.ranOut : LockError → Bool
  | .timeout | .wouldBlock => true
  | .deadlock => false

/-- Whether a failure, if it is one, is of a kind. -/
def failedWith {ε α : Type} (kind : ε → Bool) : Except ε α → Bool
  | .ok _ => false
  | .error e => kind e

instance : RunsOut Queue.Send where
  ranOut := failedWith QueueError.ranOut
  ranOut_serve hServe := by
    obtain ⟨-, rfl⟩ := Queue.serve_send_eq_some_iff.mp hServe
    rfl
  ranOut_giveUp _ wait _ := by
    show QueueError.ranOut (if wait = 0 then .full else .timeout) = true
    split <;> rfl

instance : RunsOut Queue.Receive where
  ranOut := failedWith QueueError.ranOut
  ranOut_serve hServe := by
    obtain ⟨-, rfl⟩ := Queue.serve_receive_eq_some_iff.mp hServe
    rfl
  ranOut_giveUp _ wait _ := by
    show QueueError.ranOut (if wait = 0 then .empty else .timeout) = true
    split <;> rfl

instance : RunsOut ByteStream.Send where
  ranOut := failedWith StreamError.ranOut
  ranOut_serve {r look x o} hServe := by
    rcases ByteStream.serve_send_cases r look x with ⟨-, hLook⟩ | ⟨-, -, hLook⟩ | ⟨-, -, -, hLook⟩
    · obtain rfl := Option.some.inj (hLook.symm.trans hServe)
      rfl
    · obtain rfl := Option.some.inj (hLook.symm.trans hServe)
      rfl
    · cases hLook.symm.trans hServe
  ranOut_giveUp _ wait _ := by
    show StreamError.ranOut (if wait = 0 then .full else .timeout) = true
    split <;> rfl

instance : RunsOut ByteStream.Receive where
  ranOut := failedWith StreamError.ranOut
  ranOut_serve {r look x o} hServe := by
    rcases ByteStream.serve_receive_cases r look x with ⟨-, hLook⟩ | ⟨-, -, hLook⟩
    · obtain rfl := Option.some.inj (hLook.symm.trans hServe)
      rw [ByteStream.take]
      split <;> rfl
    · cases hLook.symm.trans hServe
  ranOut_giveUp _ wait _ := by
    show StreamError.ranOut (if wait = 0 then .empty else .timeout) = true
    split <;> rfl

instance : RunsOut TryLock where
  ranOut := failedWith LockError.ranOut
  ranOut_serve {r look x o} hServe := by
    have hServed := Mutex.served_serve r look x
    rw [hServe] at hServed
    cases hServed <;> rfl
  ranOut_giveUp _ wait _ := by
    show LockError.ranOut (if wait = 0 then .wouldBlock else .timeout) = true
    split <;> rfl

instance {α : Type} [BEq α] : RunsOut (Change α) where
  ranOut := Option.isNone
  ranOut_serve {c look x o} hServe := by
    have hLook : (if c.isNews x.value then _ else none) = some o := hServe
    split at hLook
    · obtain rfl := Option.some.inj hLook
      rfl
    · cases hLook
  ranOut_giveUp _ _ _ := rfl

instance : RunsOut EventWish where
  ranOut := failedWith fun _ => true
  ranOut_serve {wish look g o} hServe := by
    rw [EventGroup.serve_eq] at hServe
    split at hServe
    · obtain ⟨value, -, rfl⟩ := Option.map_eq_some_iff.mp hServe
      rfl
    · split at hServe
      · obtain rfl := Option.some.inj hServe
        rfl
      · cases hServe
  ranOut_giveUp _ _ _ := rfl

end TaskSync
