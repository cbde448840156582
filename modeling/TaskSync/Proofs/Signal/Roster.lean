import TaskSync.Proofs.Runs.Roster
import TaskSync.Proofs.Signal.Runs

/-!
# TaskSync — who waits at a signal

A signal has one wait list (`Signal.roster`). A set that changes the value calls
everybody on it, and nothing else calls anybody.

* `Signal.kept` — a signal keeps its roster (`Roster.Kept`).
-/

namespace TaskSync

namespace Signal

variable {α : Type}

/-- The wait list of a signal. -/
def roster : Roster (Watched α) (Call α) :=
  .ofLists (fun _ => ()) (fun _ => true) fun x _ => x.signal.waiters

variable [BEq α] {c : Crew (Call α)} {x : Watched α} {t : TaskId} {watch : Nat} {change : Change α}

theorem Turn.passed {o : Outcome (Watched α) (Round (Call α) (Deed α))} (h : Lined c x)
    (hTurn : Turn t x watch change o) : roster.Passed (some t) x o := by
  refine .of_lines (fun _ => h.turn hTurn) ?_ fun _ => ?_
  · intro u hu
    cases hTurn with
    | told | joined | crowded | gaveUp =>
      rw [Outcome.tasks_still] at hu
      cases hu
  · cases hTurn with
    | told | gaveUp => exact .remove
    | joined _ _ hReg => exact .register hReg
    | crowded => exact .refl

theorem Turn.settled {o : Outcome (Watched α) (Round (Call α) (Deed α))}
    (hTurn : Turn t x watch change o) : roster.Settled t x o := by
  cases hTurn with
  | told | gaveUp => exact .of_none rfl
  | joined _ _ hReg =>
    rintro _ ⟨⟩ -
    exact Or.inl (WaitList.mem_of_register hReg).1
  | crowded _ _ hOut hFull =>
    rintro _ ⟨⟩ -
    exact Or.inr ⟨rfl, hOut, hFull⟩

theorem Deal.passed {a : Act α} {o : Outcome (Watched α) (Option (Deed α))} (h : Lined c x)
    (hDeal : Deal x a o) : roster.Passed none x o := by
  refine .of_lines (fun _ => h.deal hDeal) ?_ fun _ => ?_
  · intro u hu
    cases hDeal with
    | kept | noNews | news | polled =>
      rw [Outcome.tasks_still] at hu
      cases hu
    | pending _ hNone =>
      rw [Outcome.tasks, hNone] at hu
      cases hu
    | changed =>
      refine ⟨(Option.some_ne_none u).symm, (), ?_⟩
      simpa [Outcome.tasks] using hu
  · cases hDeal with
    | kept | noNews | news | polled | pending => exact .refl
    | changed =>
      refine .empty fun u hu => ?_
      simpa [Outcome.tasks] using hu

/-- A signal keeps its roster. -/
theorem kept : roster.Kept protocol fun w : World (Watched α) (Call α) (Deed α) =>
    Lined w.crew w.object where
  step _ _ h hKept := h.step hKept
  exact _ h := .of_lines (fun _ _ _ => rfl) fun _ => h
  starts w t now r h _ :=
    have hTurn := turn_look (r.call now w.object) now t w.object
    ⟨hTurn.passed h, hTurn.settled⟩
  resumes w t now s h _ :=
    have hTurn := turn_look s.call now t w.object
    ⟨hTurn.passed h, hTurn.settled⟩
  acts w a h := (deal_act a w.object).passed h

end Signal

end TaskSync
