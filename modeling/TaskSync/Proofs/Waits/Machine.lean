import TaskSync.Proofs.Waits.Attempts
import TaskSync.Proofs.Runs.Machine

/-!
# TaskSync — attempts inside a machine

A machine has the object at a place and its own tick counter. A round of one of
its blocking calls is an attempt that finds what is there, and the limit with
which the attempt ends is the one for which the machine suspends the caller.

* `Machine.roundAt_attempt`, `Machine.lockWithin_attempt`,
  `Machine.watch_attempt` — a round is an attempt.
* `Machine.drive_of_suspended` — the caller is suspended for the limit of the
  attempt, and goes on with the call as the attempt left it.
-/

namespace TaskSync

namespace Machine

open Ticks (shown)

variable {s s₁ s₂ : Machine} {r : Ref} {t : TaskId} {time : Nat}

/-- A round of a call about a stored object is an attempt. -/
theorem roundAt_attempt {ρ σ α : Type} [Blocks ρ σ α] [Stored σ] {x : σ}
    (hAt : s.get? σ r = some x) (hNow : s.now = shown time) (w : Waiting ρ)
    (resume : Waiting ρ → Call) (result : α → Result) :
    s.roundAt t r w resume result =
      (s.settle r (w.attempt t ⟨time, x⟩).outcome,
        (w.attempt t ⟨time, x⟩).outcome.answer.map resume result) := by
  rw [roundAt_eq hAt, hNow]
  rfl

/-- So is a round of a bounded attempt at a mutex. -/
theorem lockWithin_attempt {m : Mutex} (hAt : s.mutexAt? r = some m) (hNow : s.now = shown time)
    (w : Waiting TryLock) :
    s.round t (.lockWithin r w) =
      (s.settleMutex r (w.attempt t ⟨time, m⟩).outcome,
        (w.attempt t ⟨time, m⟩).outcome.answer.map (.lockWithin r)
          (.ofExcept .lock fun _ => .done)) := by
  simp only [round, hAt, hNow, Waiting.attempt]
  generalize w.round (shown time) t m = o
  obtain ⟨object, notices, answer⟩ := o
  cases answer <;> rfl

/-- So is a round of a watch that waits; a watch that has run out of time remembers the value that
it saw last. -/
theorem watch_attempt {x : Signal Datum} (hAt : s.get? (Signal Datum) r = some x)
    (hNow : s.now = shown time) (place : Ref) (w : Waiting (Change Datum)) :
    let o := (w.attempt t ⟨time, x⟩).outcome
    (∀ next limit, o.answer = .suspended next limit →
      s.round t (.watch place r w) =
        (s.settle r o, .suspended (.watch place r next) limit)) ∧
    (o.answer = .finished none →
      s.round t (.watch place r w) = (s.settle r o, .finished (.error .watchTimeout))) := by
  intro o
  constructor
  · intro next limit hSuspended
    have hAnswer : (w.round (shown time) t x).answer = .suspended next limit := hSuspended
    simp only [round, hAt, hNow, hAnswer]
    rfl
  · intro hFinished
    have hAnswer : (w.round (shown time) t x).answer = .finished none := hFinished
    simp only [round, hAt, hNow, hAnswer]
    rfl

/-- A worker whose round ends in a suspension is suspended for just that limit. If the suspension
returns at once, the call is driven on. -/
theorem drive_of_suspended {worker : Worker} {call next : Call} {limit : Option Ticks}
    (hCaller : s.callerTask worker call = (s₁, t))
    (hRound : s₁.round t call = (s₂, .suspended next limit)) (permits : Nat) :
    s.drive worker call permits = ((s₂.suspend worker limit).1, .asleep next) ∨
      ∃ fewer, permits = fewer + 1 ∧ (s₂.suspend worker limit).2 = true ∧
        s.drive worker call permits = (s₂.suspend worker limit).1.drive worker next fewer := by
  rw [drive, hCaller]
  dsimp only
  rw [hRound]
  dsimp only
  cases hSuspend : s₂.suspend worker limit with
  | mk slept atOnce =>
    cases atOnce with
    | false => exact Or.inl rfl
    | true =>
      cases permits with
      | zero => exact Or.inl rfl
      | succ fewer => exact Or.inr ⟨fewer, rfl, rfl, rfl⟩

end Machine

end TaskSync
