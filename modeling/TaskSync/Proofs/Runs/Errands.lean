import TaskSync.Proofs.Runs.World

/-!
# TaskSync — what operations set out to do

An operation that has ended says in its deed what it did. What it was to do is
said by the move with which it looks at the object: by the request with which a
task begins, by the call with which the task goes on, or by the step that does
not wait. That is the **errand** of the move (`World.errand?`). An object says
once how its requests, calls and steps state their errands (`Errands`); a move
that nobody can make has none.

* `World.ended_step` — what is so of every look for an errand is so of every move.
-/

namespace TaskSync

/-- What an object's requests, calls and steps that do not wait are to do when the tick counter
shows so much. -/
structure Errands (ρ κ ι ε : Type) where
  ofRequest : Ticks → ρ → ε
  ofCall : Ticks → κ → ε
  ofAct : ι → ε

namespace World

variable {σ ρ κ ι δ ε : Type}

/-- What a move is to do, if it is a look at the object. -/
def errand? (E : Errands ρ κ ι ε) (w : World σ κ δ) : Move ρ ι → Option ε
  | .start t now r =>
    match w.crew.asleep t with
    | none => some (E.ofRequest now r)
    | some _ => none
  | .resume t now => (w.crew.asleep t).map fun s => E.ofCall now s.call
  | .act a => some (E.ofAct a)
  | .abandon _ => none

/-- What is so of the ends of all looks for an errand is so of the ends of all moves. -/
theorem ended_step {P : Protocol σ ρ κ ι δ} {E : Errands ρ κ ι ε} {w : World σ κ δ}
    {R : Option ε → Option δ → Prop} (hIdle : R none none)
    (hStart : ∀ t now r, w.crew.asleep t = none →
      R (some (E.ofRequest now r)) (P.start r now t w.object).answer.deed?)
    (hResume : ∀ t now s, w.crew.asleep t = some s →
      R (some (E.ofCall now s.call)) (P.resume s.call now t w.object).answer.deed?)
    (hAct : ∀ a, R (some (E.ofAct a)) (P.act a w.object).answer) (m : Move ρ ι) :
    ∃ ended, (w.step P m).log = w.logged ended ∧ R (w.errand? E m) ended := by
  cases m with
  | start t now r =>
    cases hAsleep : w.crew.asleep t with
    | none =>
      rw [step_start hAsleep, errand?, hAsleep]
      exact ⟨_, rfl, hStart t now r hAsleep⟩
    | some s =>
      rw [step_start_of_asleep hAsleep, errand?, hAsleep]
      exact ⟨none, w.logged_none.symm, hIdle⟩
  | resume t now =>
    cases hAsleep : w.crew.asleep t with
    | none =>
      rw [step_resume_of_awake hAsleep, errand?, hAsleep]
      exact ⟨none, w.logged_none.symm, hIdle⟩
    | some s =>
      rw [step_resume hAsleep, errand?, hAsleep]
      exact ⟨_, rfl, hResume t now s hAsleep⟩
  | act a => exact ⟨_, rfl, hAct a⟩
  | abandon t => exact ⟨none, w.logged_none.symm, hIdle⟩

end World

end TaskSync
