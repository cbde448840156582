import TaskSync.Proofs.Mutex.Wakeups
import TaskSync.Proofs.Runs.Roster

/-!
# TaskSync — who waits at a mutex

A mutex has one wait list (`Mutex.roster`). Only a release for good calls
anybody: the longest waiter. A call that finds its own task to be the owner
waits for itself and is on no list; neither is a call of `lock` between two
attempts, which is about to look again.

* `Mutex.kept` — a mutex keeps its roster (`Roster.Kept`).
-/

namespace TaskSync

namespace Mutex

/-- The wait list of a mutex. -/
def roster : Roster Mutex Call :=
  .ofLists (fun _ => ()) Call.contends fun m _ => m.waiters

variable {checks : Bool} {w : World} {m : Mutex} {t : TaskId} {r : Request}
  {o : Outcome Mutex (Round Call Deed)}

theorem Turn.passed (h : Tended w) (hTurn : Turn checks t w.object r o)
    (hAwake : r = .unlock → w.crew.asleep t = none) : roster.Passed (some t) w.object o := by
  refine .of_lines (fun _ => (h.look hTurn hAwake).attended.line) ?_ fun _ => ?_
  · intro u hu
    obtain ⟨-, hOwner, hFirst⟩ := hTurn.called hu
    have hMem : u ∈ w.object.waiters.tasks := List.mem_of_mem_head? hFirst
    refine ⟨?_, (), hMem⟩
    -- who releases the mutex has it, and who waits has not
    rintro ⟨⟩
    exact h.located.busy t (h.attended.line.asleep t hMem) hOwner
  · cases hTurn with
    | taken | gaveUp | restarting => exact .remove
    | joined _ _ hReg => exact .register hReg
    | deepened | deadlocked | faulted | selfBlocked | crowded | refused | heldOn => exact .refl
    | handedOn =>
      rw [tasks_handedOn]
      exact .dropFirst fun _ hFirst => hFirst

theorem Turn.settled (hTurn : Turn checks t m r o) : roster.Settled t m o := by
  cases hTurn with
  | taken | deepened | deadlocked | faulted | gaveUp | refused | heldOn | handedOn =>
    exact .of_none rfl
  | selfBlocked | restarting =>
    rintro _ ⟨⟩ ⟨⟩
  | joined _ _ hReg =>
    rintro _ ⟨⟩ -
    exact Or.inl (WaitList.mem_of_register hReg).1
  | crowded _ _ hOut hFull =>
    rintro _ ⟨⟩ -
    exact Or.inr ⟨rfl, hOut, hFull⟩

/-- A mutex keeps its roster. -/
theorem kept (checks : Bool) : roster.Kept (protocol checks) Tended where
  step _ _ h hKept := h.step hKept
  exact _ h := .of_lines (fun _ _ _ => rfl) fun _ => h.attended.line
  starts w t now r h hAwake :=
    have hTurn := turn_start checks r now t w.object
    ⟨hTurn.passed h fun _ => hAwake, hTurn.settled⟩
  resumes w t now s h _ :=
    have hTurn := turn_round checks s.call now t w.object
    ⟨hTurn.passed h fun hUnlock => absurd hUnlock s.call.request_ne, hTurn.settled⟩
  acts _ a _ := nomatch a

end Mutex

end TaskSync
