import TaskSync.Proofs.Queue.Wakeups
import TaskSync.Proofs.Runs.Roster

/-!
# TaskSync — who waits at a queue

A queue keeps a wait list for each side (`Queue.roster`). A transfer takes one
task off the list of the other side and sends it a notice; the task that looks
takes itself off its own list, and goes back on it if it has to wait.

* `Queue.kept` — a queue keeps its roster (`Roster.Kept`).
-/

namespace TaskSync

namespace Queue

/-- The wait lists of a queue. -/
def roster : Roster Queue Call := .ofLists Sided.side (fun _ => true) line

variable {w : World} {q : Queue} {t : TaskId} {side : Side}

/-- A look calls nobody but the longest waiter of the other side. -/
theorem Turn.called (h : Lines w.crew w.object) (hApart : w.crew.Apart t side)
    {o : Outcome Queue (Round Call Deed)} (hTurn : Turn t w.object side o) :
    ∀ u ∈ o.tasks, some t ≠ some u ∧ ∃ side', u ∈ (line w.object side').tasks := by
  intro u hu
  cases hTurn with
  | sent =>
    rw [Outcome.tasks_map, tasks_push] at hu
    have hMem : u ∈ w.object.receivers.tasks := WaitList.mem_of_first hu
    refine ⟨?_, .receiving, hMem⟩
    rintro ⟨⟩
    exact (h .receiving).line.not_mem hApart hMem
  | received =>
    rw [Outcome.tasks_map, tasks_pop] at hu
    have hMem : u ∈ w.object.senders.tasks := WaitList.mem_of_first hu
    refine ⟨?_, .sending, hMem⟩
    rintro ⟨⟩
    exact (h .sending).line.not_mem hApart hMem
  | joinedSenders | joinedReceivers | crowded | gaveUpSending | gaveUpReceiving =>
    rw [Outcome.tasks_still] at hu
    cases hu

/-- It takes off the lists nobody but its own task and him whom it calls. -/
theorem Turn.keptBy {o : Outcome Queue (Round Call Deed)} (hTurn : Turn t q side o) (side' : Side) :
    (line q side').KeptBy (some t) o.tasks (line o.object side') := by
  cases hTurn with
  | sent =>
    rw [Outcome.tasks_map, tasks_push]
    cases side' with
    | sending => exact .remove
    | receiving => exact .dropFirst fun _ hFirst => hFirst
  | received =>
    rw [Outcome.tasks_map, tasks_pop]
    cases side' with
    | sending => exact .dropFirst fun _ hFirst => hFirst
    | receiving => exact .remove
  | joinedSenders _ _ _ hReg =>
    cases side' with
    | sending => exact .register hReg
    | receiving => exact .refl
  | joinedReceivers _ _ _ hReg =>
    cases side' with
    | sending => exact .refl
    | receiving => exact .register hReg
  | crowded => exact .refl
  | gaveUpSending =>
    cases side' with
    | sending => exact .remove
    | receiving => exact .refl
  | gaveUpReceiving =>
    cases side' with
    | sending => exact .refl
    | receiving => exact .remove

theorem Turn.passed (h : Lines w.crew w.object) (hApart : w.crew.Apart t side)
    {o : Outcome Queue (Round Call Deed)} (hTurn : Turn t w.object side o) :
    roster.Passed (some t) w.object o :=
  .of_lines (fun side' => (h.turn hApart hTurn side').line) (hTurn.called h hApart) hTurn.keptBy

theorem Turn.settled {o : Outcome Queue (Round Call Deed)} (hTurn : Turn t q side o) :
    roster.Settled t q o := by
  cases hTurn with
  | sent | received | gaveUpSending | gaveUpReceiving => exact .of_none rfl
  | @joinedSenders k _ _ hSide _ _ hReg =>
    rintro _ ⟨⟩ -
    refine Or.inl ?_
    show t ∈ (line _ (Sided.side k)).tasks
    rw [hSide]
    exact (WaitList.mem_of_register hReg).1
  | @joinedReceivers k _ _ hSide _ _ hReg =>
    rintro _ ⟨⟩ -
    refine Or.inl ?_
    show t ∈ (line _ (Sided.side k)).tasks
    rw [hSide]
    exact (WaitList.mem_of_register hReg).1
  | crowded hSide _ _ hOut hFull =>
    rintro _ ⟨⟩ -
    obtain rfl := hSide
    exact Or.inr ⟨rfl, hOut, hFull⟩

theorem Deal.passed (h : Lines w.crew w.object) (hPos : 0 < w.object.capacity)
    {o : Outcome Queue (Option Deed)} (hDeal : Deal w.object o) :
    roster.Passed none w.object o := by
  refine .of_lines (fun side => (h.deal hPos hDeal side).line) ?_ ?_
  · intro u hu
    cases hDeal with
    | misfit | full | empty =>
      rw [Outcome.tasks_still] at hu
      cases hu
    | pendingSend _ hNone | pendingReceive _ hNone =>
      rw [Outcome.tasks, hNone] at hu
      cases hu
    | sent | appended | replaced =>
      rw [Outcome.tasks_map, tasks_push] at hu
      exact ⟨(Option.some_ne_none u).symm, .receiving, WaitList.mem_of_first hu⟩
    | received =>
      rw [Outcome.tasks_map, tasks_pop] at hu
      exact ⟨(Option.some_ne_none u).symm, .sending, WaitList.mem_of_first hu⟩
  · intro side
    cases hDeal with
    | misfit | full | empty => exact .refl
    | pendingSend | pendingReceive => cases side <;> exact .refl
    | sent | appended | replaced =>
      rw [Outcome.tasks_map, tasks_push]
      cases side with
      | sending => exact .refl
      | receiving => exact .dropFirst fun _ hFirst => hFirst
    | received =>
      rw [Outcome.tasks_map, tasks_pop]
      cases side with
      | sending => exact .dropFirst fun _ hFirst => hFirst
      | receiving => exact .refl

/-- A queue keeps its roster. -/
theorem kept (capacity size : Nat) :
    roster.Kept protocol fun w => Sound capacity size w ∧ Lines w.crew w.object where
  step _ m h hKept := ⟨h.1.step m, h.1.lines_step h.2 hKept⟩
  exact _ h := .of_lines (fun _ _ => Side.has_iff.mp) fun side => (h.2 side).line
  starts w t now r h hAwake := by
    have hTurn := turn_start r now t w.object
    generalize protocol.start r now t w.object = o at hTurn
    rcases hTurn with hTurn | ⟨d, -, rfl⟩
    · exact ⟨hTurn.passed h.2 (Crew.apart_of_none hAwake _), hTurn.settled⟩
    · exact ⟨.of_eq (fun _ => rfl) rfl, .of_none rfl⟩
  resumes w t now s h hAsleep := by
    have hTurn := turn_round (h.1.fits t s hAsleep) now t
    exact ⟨hTurn.passed h.2 (Crew.apart_of_some hAsleep), hTurn.settled⟩
  acts w a h := (deal_act a w.object).passed h.2 (h.1.capacity_eq ▸ h.1.positive)

end Queue

end TaskSync
