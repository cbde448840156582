import TaskSync.Proofs.Runs.History
import TaskSync.Proofs.Runs.World

/-!
# TaskSync — since when a task has been asleep

A run is a list of moves, so a point in time is a number of moves that have
been made. `World.asleepSince` is the last point at which a task was not asleep
in a call of some kind: if it is in one now, that is when it fell asleep in it.

* `World.asleepSince_concat` — the point stays as long as the task sleeps on.
* `World.asleepSince_lt`, `World.asleepSince_of_out` — who falls asleep with a
  move has been asleep for less long than whoever was so before.
-/

namespace TaskSync

namespace World

variable {σ ρ κ ι δ : Type}

/-- How many moves had been made when a task was last not asleep in a call of the kind `p`. -/
def asleepSince (P : Protocol σ ρ κ ι δ) (p : κ → Bool) (w : World σ κ δ)
    (moves : List (Move ρ ι)) (t : TaskId) : Nat :=
  Nat.findGreatest (fun n => (w.run P (moves.take n)).crew.isIn p t = false) moves.length

variable {P : Protocol σ ρ κ ι δ} {p q : κ → Bool} {w : World σ κ δ} {x : σ}
  {moves : List (Move ρ ι)} {m : Move ρ ι} {t : TaskId}

theorem isIn_fresh (p : κ → Bool) (t : TaskId) :
    (fresh x : World σ κ δ).crew.isIn p t = false := Crew.isIn_of_none rfl

theorem asleepSince_eq : w.asleepSince P p moves t =
    lastPoint (fun l => (w.run P l).crew.isIn p t = false) moves := rfl

theorem asleepSince_of_out (hOut : (w.run P moves).crew.isIn p t = false) :
    w.asleepSince P p moves t = moves.length := by
  rw [asleepSince_eq]
  exact lastPoint_of_now hOut

/-- When a task fell asleep it was not asleep, if it was not at first. -/
theorem isIn_asleepSince (hFirst : w.crew.isIn p t = false) :
    (w.run P (moves.take (w.asleepSince P p moves t))).crew.isIn p t = false := by
  rw [asleepSince_eq]
  exact lastPoint_spec (p := fun l => (w.run P l).crew.isIn p t = false) hFirst

/-- Afterwards it was. -/
theorem isIn_of_asleepSince_lt {n : Nat} (hLt : w.asleepSince P p moves t < n)
    (hLe : n ≤ moves.length) : (w.run P (moves.take n)).crew.isIn p t = true := by
  rw [asleepSince_eq] at hLt
  rw [← Bool.not_eq_false]
  exact not_of_lastPoint_lt hLt hLe

theorem asleepSince_lt (hFirst : w.crew.isIn p t = false)
    (hIn : (w.run P moves).crew.isIn p t = true) :
    w.asleepSince P p moves t < moves.length := by
  rw [← Bool.not_eq_false] at hIn
  rw [asleepSince_eq]
  exact lastPoint_lt hFirst hIn

/-- A task that sleeps on has been asleep since the same point. -/
theorem asleepSince_concat (hIn : (w.run P (moves ++ [m])).crew.isIn p t = true) :
    w.asleepSince P p (moves ++ [m]) t = w.asleepSince P p moves t := by
  rw [← Bool.not_eq_false] at hIn
  rw [asleepSince_eq, asleepSince_eq]
  exact lastPoint_concat hIn

/-- Who is asleep in a call of one kind since some point is asleep in one of a wider kind for no
less long. -/
theorem asleepSince_mono (hpq : ∀ k, p k = true → q k = true) :
    w.asleepSince P q moves t ≤ w.asleepSince P p moves t := by
  rw [asleepSince_eq, asleepSince_eq]
  apply lastPoint_mono
  intro l hOut
  rw [← Bool.not_eq_true] at hOut ⊢
  exact fun hIn => hOut (Crew.isIn_mono hpq hIn)

end World

end TaskSync
