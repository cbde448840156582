import TaskSync.Proofs.ByteStream.Waiters
import TaskSync.Proofs.Runs.Roster

/-!
# TaskSync — who waits at a byte stream

A stream keeps a wait list for each side (`ByteStream.roster`). What it does to
them it does when bytes come and go (`ByteStream.Wakes`): a write calls one
receiver at most, a read calls all senders and one receiver at most. Flushes,
closings and resets call everybody on one list or on both.

* `ByteStream.kept` — a stream keeps its roster (`Roster.Kept`).
-/

namespace TaskSync

namespace ByteStream

/-- The tasks blocked on a side. -/
def line (s : ByteStream) : Side → WaitList
  | .sending => s.senders
  | .receiving => s.receivers

/-- The wait lists of a stream. -/
def roster : Roster ByteStream Call := .ofLists Sided.side (fun _ => true) line

variable {w : World} {c : Crew Call} {s s' : ByteStream} {t : TaskId} {side : Side}
  {looker? : Option TaskId} {α : Type}

theorem Lined.line (h : Lined c s) (side : Side) : c.Line side.has (s.line side) := by
  cases side with
  | sending => exact h.senders.mono fun _ => has_of_stuck
  | receiving => exact h.receivers

-- ---------------------------------------------------------------------------
-- What a transfer does to the lists
-- ---------------------------------------------------------------------------

/-- A step calls only others, who are on the lists, and takes nobody else off them. -/
structure Wakes (looker? : Option TaskId) (s : ByteStream) (o : Outcome ByteStream α) : Prop where
  called : ∀ u ∈ o.tasks, looker? ≠ some u ∧ ∃ side, u ∈ (s.line side).tasks
  kept : ∀ side, (s.line side).KeptBy looker? o.tasks (o.object.line side)

/-- The task that looks, if one does, is on neither list. -/
def Absent (looker? : Option TaskId) (s : ByteStream) : Prop :=
  ∀ side, ∀ u ∈ (s.line side).tasks, looker? ≠ some u

theorem line_congr (hSenders : s'.senders = s.senders) (hReceivers : s'.receivers = s.receivers) :
    s'.line = s.line := by
  funext side
  cases side with
  | sending => exact hSenders
  | receiving => exact hReceivers

theorem Absent.congr (h : Absent looker? s) (hSame : s'.line = s.line) : Absent looker? s' := by
  intro side
  rw [hSame]
  exact h side

/-- The lists are all that matters of a stream. -/
theorem Wakes.congr {o : Outcome ByteStream α} (h : Wakes looker? s' o) (hSame : s'.line = s.line) :
    Wakes looker? s o := by
  obtain ⟨hCalled, hKept⟩ := h
  rw [hSame] at hCalled hKept
  exact ⟨hCalled, hKept⟩

/-- Nor does the answer of a step. -/
theorem Wakes.map {β : Type} {o : Outcome ByteStream α} (h : Wakes looker? s o) (f : α → β) :
    Wakes looker? s (o.map f) := ⟨h.called, h.kept⟩

theorem wakes_still {a : α} (hKept : ∀ side, (s.line side).KeptBy looker? [] (s'.line side)) :
    Wakes looker? s (.still s' a) := ⟨nofun, hKept⟩

/-- A step after somebody has left the lists. -/
theorem Wakes.of_left {o : Outcome ByteStream α} (h : Wakes looker? s' o)
    (hLess : ∀ side, ∀ u ∈ (s'.line side).tasks, u ∈ (s.line side).tasks)
    (hKept : ∀ side, (s.line side).KeptBy looker? [] (s'.line side)) : Wakes looker? s o where
  called u hu := by
    obtain ⟨hOther, side, hMem⟩ := h.called u hu
    exact ⟨hOther, side, hLess side u hMem⟩
  kept side := ((hKept side).mono nofun).trans (h.kept side)

theorem wakes_wakeAtTrigger (hAbsent : Absent looker? s) : Wakes looker? s s.wakeAtTrigger := by
  rcases Nat.lt_or_ge s.available s.trigger with hLow | hReached
  · rw [wakeAtTrigger_of_low hLow]
    exact wakes_still fun _ => .refl
  · have hTasks := tasks_wakeAtTrigger_of_reached hReached
    refine ⟨fun u hu => ?_, fun side => ?_⟩
    · rw [hTasks] at hu
      have hMem := WaitList.mem_of_first hu
      exact ⟨hAbsent .receiving u hMem, .receiving, hMem⟩
    · rw [hTasks, wakeAtTrigger_of_reached hReached]
      cases side with
      | sending => exact .refl
      | receiving => exact .dropFirst fun _ hFirst => hFirst

theorem wakes_put (hAbsent : Absent looker? s) (data : List UInt8) :
    Wakes looker? s (s.put data) := by
  by_cases hZero : (s.ring.write data).2 = 0
  · rw [put_of_zero hZero]
    exact wakes_still fun side => by cases side <;> exact .refl
  · have hSame : ({ s with ring := (s.ring.write data).1 }).line = s.line := line_congr rfl rfl
    rw [put_of_ne_zero hZero]
    exact ((wakes_wakeAtTrigger (hAbsent.congr hSame)).congr hSame).map _

theorem wakes_take (hAbsent : Absent looker? s) (room : Nat) : Wakes looker? s (s.take room) := by
  cases hEmpty : s.ring.isEmpty with
  | true =>
    rw [take_of_isEmpty hEmpty]
    exact wakes_still fun _ => .refl
  | false =>
    have hDrained : Wakes looker? (s.drained room) _ := wakes_wakeAtTrigger fun side => by
      cases side with
      | sending => exact nofun
      | receiving => exact hAbsent .receiving
    refine ⟨fun u hu => ?_, fun side => ?_⟩
    · rw [tasks_take_of_not_isEmpty hEmpty] at hu
      rcases List.mem_append.mp hu with hu | hu
      · obtain ⟨hOther, side, hMem⟩ := hDrained.called u hu
        cases side with
        | sending => cases hMem
        | receiving => exact ⟨hOther, .receiving, hMem⟩
      · exact ⟨hAbsent .sending u hu, .sending, hu⟩
    · rw [tasks_take_of_not_isEmpty hEmpty, take_of_not_isEmpty hEmpty]
      cases side with
      | sending => exact .empty fun u hu => List.mem_append_right _ hu
      | receiving =>
        exact (hDrained.kept .receiving).mono fun u hu => List.mem_append_left _ hu

theorem wakes_wakeAll (hAbsent : Absent looker? s) : Wakes looker? s s.wakeAll := by
  have hTasks : s.wakeAll.tasks = s.receivers.tasks ++ s.senders.tasks := by
    simp [wakeAll, Outcome.tasks]
  refine ⟨fun u hu => ?_, fun side => ?_⟩
  · rw [hTasks] at hu
    rcases List.mem_append.mp hu with hu | hu
    · exact ⟨hAbsent .receiving u hu, .receiving, hu⟩
    · exact ⟨hAbsent .sending u hu, .sending, hu⟩
  · rw [hTasks]
    cases side with
    | sending => exact .empty fun u hu => List.mem_append_right _ hu
    | receiving => exact .empty fun u hu => List.mem_append_left _ hu

-- ---------------------------------------------------------------------------
-- What a look does to the lists
-- ---------------------------------------------------------------------------

theorem absent_dropSender (h : Lined c s) (hApart : c.Apart t .sending) :
    Absent (some t) (s.dropSender t) := by
  rintro side u hMem ⟨⟩
  cases side with
  | sending => exact s.senders.not_mem_remove t hMem
  | receiving => exact h.receivers.not_mem hApart hMem

theorem absent_dropReceiver (h : Lined c s) (hApart : c.Apart t .receiving) :
    Absent (some t) (s.dropReceiver t) := by
  rintro side u hMem ⟨⟩
  cases side with
  | sending => exact h.not_mem_senders hApart hMem
  | receiving => exact s.receivers.not_mem_remove t hMem

theorem keptBy_dropSender (s : ByteStream) (t : TaskId) (side : Side) :
    (s.line side).KeptBy (some t) [] ((s.dropSender t).line side) := by
  cases side with
  | sending => exact .remove
  | receiving => exact .refl

theorem keptBy_dropReceiver (s : ByteStream) (t : TaskId) (side : Side) :
    (s.line side).KeptBy (some t) [] ((s.dropReceiver t).line side) := by
  cases side with
  | sending => exact .refl
  | receiving => exact .remove

theorem Turn.wakes (h : Lined c s) (hApart : c.Apart t side)
    {o : Outcome ByteStream (Round Call Deed)} (hTurn : Turn t s side o) :
    Wakes (some t) s o := by
  cases hTurn with
  | refused | gaveUpSending => exact wakes_still (keptBy_dropSender s t)
  | gaveUpReceiving => exact wakes_still (keptBy_dropReceiver s t)
  | sent =>
    refine ((wakes_put (absent_dropSender h hApart) _).of_left (fun side' => ?_)
      (keptBy_dropSender s t)).map _
    cases side' with
    | sending => exact fun _ hu => List.mem_of_mem_filter hu
    | receiving => exact fun _ hu => hu
  | received =>
    refine ((wakes_take (absent_dropReceiver h hApart) _).of_left (fun side' => ?_)
      (keptBy_dropReceiver s t)).map _
    cases side' with
    | sending => exact fun _ hu => hu
    | receiving => exact fun _ hu => List.mem_of_mem_filter hu
  | joinedSenders _ _ hReg =>
    refine wakes_still fun side' => ?_
    cases side' with
    | sending => exact .register hReg
    | receiving => exact .refl
  | joinedReceivers _ hReg =>
    refine wakes_still fun side' => ?_
    cases side' with
    | sending => exact .refl
    | receiving => exact .register hReg
  | crowdedSenders | crowdedReceivers => exact wakes_still fun _ => .refl

theorem Turn.settled {o : Outcome ByteStream (Round Call Deed)} (hTurn : Turn t s side o) :
    roster.Settled t s o := by
  cases hTurn with
  | refused | sent | gaveUpSending | received | gaveUpReceiving => exact .of_none rfl
  | joinedSenders _ _ hReg | joinedReceivers _ hReg =>
    rintro _ ⟨⟩ -
    exact Or.inl (WaitList.mem_of_register hReg).1
  | crowdedSenders _ _ hOut hFull | crowdedReceivers _ hOut hFull =>
    rintro _ ⟨⟩ -
    exact Or.inr ⟨rfl, hOut, hFull⟩

-- ---------------------------------------------------------------------------
-- What a step that does not wait does to the lists
-- ---------------------------------------------------------------------------

theorem Deal.wakes {o : Outcome ByteStream (Option Deed)} (hDeal : Deal s o) : Wakes none s o := by
  have hAbsent : Absent none s := fun _ _ _ => nofun
  cases hDeal with
  | refused | full | noRoom | empty | flushedNothing | triggerRefused =>
    exact wakes_still fun _ => .refl
  | sent => exact (wakes_put hAbsent _).map _
  | received => exact (wakes_take hAbsent _).map _
  | pendingSend hNone | pendingReceive hNone =>
    refine ⟨fun u hu => ?_, fun side => ?_⟩
    · rw [Outcome.tasks, hNone] at hu
      cases hu
    · cases side <;> exact .refl
  | flushed =>
    have hTasks : (s.receiverWakers.notices ++ s.receivers.notices).filterMap Notice.task? =
        s.receivers.tasks := by simp
    refine ⟨fun u hu => ?_, fun side => ?_⟩
    · rw [Outcome.tasks, hTasks] at hu
      exact ⟨(Option.some_ne_none u).symm, .receiving, hu⟩
    · rw [Outcome.tasks, hTasks]
      cases side with
      | sending => exact .refl
      | receiving => exact .empty fun u hu => hu
  | closed =>
    have hSame : ({ s with closed := true }).line = s.line := line_congr rfl rfl
    exact ((wakes_wakeAll (hAbsent.congr hSame)).congr hSame).map _
  | reset =>
    have hSame : ({ s with ring := s.ring.clear, flushed := false, closed := false }).line =
        s.line := line_congr rfl rfl
    exact ((wakes_wakeAll (hAbsent.congr hSame)).congr hSame).map _
  | @triggerSet level =>
    have hSame : ({ s with trigger := max level 1 }).line = s.line := line_congr rfl rfl
    exact ((wakes_wakeAtTrigger (hAbsent.congr hSame)).congr hSame).map _

/-- A stream keeps its roster. -/
theorem kept : roster.Kept protocol fun w => Tended w.crew w.object where
  step _ m h hKept := h.step hKept
  exact _ h := .of_lines (fun _ _ => Side.has_iff.mp) h.toLined.line
  starts w t now r h hAwake := by
    have hTurn := turn_start r w.object now t
    generalize protocol.start r now t w.object = o at hTurn
    rcases hTurn with hTurn | ⟨wait, rfl⟩
    · have hApart := Crew.apart_of_none hAwake r.side
      have hWakes := hTurn.wakes h.toLined hApart
      exact ⟨.of_lines (h.turn hApart hTurn).toLined.line hWakes.called hWakes.kept, hTurn.settled⟩
    · exact ⟨.of_eq (fun _ => rfl) rfl, .of_none rfl⟩
  resumes w t now s h hAsleep := by
    have hApart := Crew.apart_of_some hAsleep
    have hTurn := turn_round s.call w.object now t
    have hWakes := hTurn.wakes h.toLined hApart
    exact ⟨.of_lines (h.turn hApart hTurn).toLined.line hWakes.called hWakes.kept, hTurn.settled⟩
  acts w a h := by
    have hDeal := deal_act a w.object
    exact .of_lines (h.deal hDeal).toLined.line hDeal.wakes.called hDeal.wakes.kept

end ByteStream

end TaskSync
