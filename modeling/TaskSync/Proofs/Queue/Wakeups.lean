import TaskSync.Proofs.Queue.Fifo

/-!
# TaskSync — a queue loses no wakeup

Every transfer wakes one task of the other side, which then competes for the
item or the slot with whoever else comes along. The item may be gone when it
looks, and it may give up instead of taking it. What keeps the others from
being left behind is a count: as long as somebody stands in the receivers'
line, at least as many receivers are on their way as there are items, and
likewise for senders and free slots (`Lines`).

* a look takes one task off those on their way and, if it takes anything, one
  unit off what they are on their way to;
* a transfer adds a unit on the other side and sends one more task to it.

Main result:

* `Queue.attentive_run` — the count holds in every state of every run in which
  no task is given up in the middle of a call. So with nobody on their way no
  item meets a waiting receiver, no free slot a waiting sender, and no waiting
  receiver a waiting sender.
-/

namespace TaskSync

namespace Queue

/-- Both lines of a queue are attended: for each free slot a sender, for each
item a receiver. -/
def Lines (c : Crew Call) (q : Queue) : Prop :=
  ∀ side : Side, c.Attended side.has (q.line side) (q.units side)

/-- No item and no free slot is left to nobody. -/
structure Attentive (w : World) : Prop where
  /-- Who stands in line is suspended in a call of that side and has not been woken. -/
  lines : ∀ side : Side, w.crew.Line side.has (w.object.line side)
  receivers : w.object.receivers.tasks ≠ [] →
    w.object.count ≤ (w.crew.wokenIn Side.receiving.has).card
  senders : w.object.senders.tasks ≠ [] →
    w.object.capacity - w.object.count ≤ (w.crew.wokenIn Side.sending.has).card
  item : w.crew.wokenIn Side.receiving.has = ∅ →
    w.object.receivers.tasks = [] ∨ w.object.count = 0
  slot : w.crew.wokenIn Side.sending.has = ∅ →
    w.object.senders.tasks = [] ∨ w.object.count = w.object.capacity
  pair : w.crew.wokenIn Side.receiving.has = ∅ → w.crew.wokenIn Side.sending.has = ∅ →
    w.object.receivers.tasks = [] ∨ w.object.senders.tasks = []

-- ---------------------------------------------------------------------------
-- What a transfer does to the lines
-- ---------------------------------------------------------------------------

theorem tasks_push (q : Queue) (item : List UInt8) :
    (q.push item).tasks = q.receivers.first?.toList := by
  simp [push, Outcome.tasks]

theorem tasks_pop (q : Queue) : q.pop.tasks = q.senders.first?.toList := by
  simp [pop, Outcome.tasks]

variable {c : Crew Call} {q : Queue} {t : TaskId} {n m : Nat}

/-- A new item may take a slot that a sender was on its way to, and sends a receiver for it. -/
theorem lines_push {item : List UInt8} (hOwn : c.Attended Side.sending.has q.senders n)
    (hn : q.capacity - (q.count + 1) ≤ n)
    (hOther : c.Attended Side.receiving.has q.receivers m) (hm : q.count ≤ m) :
    Lines (c.notify (q.push item).tasks) (q.push item).object := by
  rw [tasks_push]
  intro side
  cases side with
  | sending => exact hOwn.notify hn (hOwn.line.not_mem_first hOther.line)
  | receiving =>
    refine hOther.first (Nat.add_le_add_right hm 1) ?_ hOther.line.first_not_mem_tail
    intro u hu
    exact Option.mem_toList.mpr hu

/-- A free slot was an item that a receiver may have been on its way to, and a sender is sent
for it. -/
theorem lines_pop (hOwn : c.Attended Side.receiving.has q.receivers n) (hn : q.count - 1 ≤ n)
    (hOther : c.Attended Side.sending.has q.senders m) (hm : q.space ≤ m) :
    Lines (c.notify q.pop.tasks) q.pop.object := by
  rw [tasks_pop]
  intro side
  cases side with
  | sending =>
    have hUnits : q.capacity - (q.count - 1) ≤ m + 1 := by
      unfold space at hm
      omega
    refine hOther.first hUnits ?_ hOther.line.first_not_mem_tail
    intro u hu
    exact Option.mem_toList.mpr hu
  | receiving => exact hOwn.notify hn (hOwn.line.not_mem_first hOther.line)

/-- A line with nothing to come for needs nobody on their way. -/
theorem lines_idle (side : Side) (hOwn : c.Line side.has (q.line side)) (hNone : q.units side = 0)
    (hOther : c.Attended side.other.has (q.line side.other) (q.units side.other)) :
    Lines c q := by
  intro side'
  rcases side.eq_or_eq_other side' with rfl | rfl
  · rw [hNone]
    exact hOwn.attended
  · exact hOther

-- ---------------------------------------------------------------------------
-- What a move does to the lines
-- ---------------------------------------------------------------------------

theorem Lines.turn {w : World} (h : Lines w.crew w.object) {side : Side}
    (hApart : w.crew.Apart t side) {o : Outcome Queue (Round Call Deed)}
    (hTurn : Turn t w.object side o) : Lines (w.look t o).crew (w.look t o).object := by
  have hSenders := h .sending
  have hReceivers := h .receiving
  cases hTurn with
  | sent hItem hRoom =>
    rw [World.look, Outcome.tasks_map]
    exact lines_push (q := { w.object with senders := w.object.senders.remove t })
      (hSenders.leave (Nat.le_refl _) t _) (Nat.le_of_eq (Nat.sub_add_eq ..))
      (hReceivers.pass (Nat.le_refl _) hApart _) (Nat.le_refl _)
  | received hSize hSome =>
    rw [World.look, Outcome.tasks_map]
    exact lines_pop (q := { w.object with receivers := w.object.receivers.remove t })
      (hReceivers.leave (Nat.le_refl _) t _) (Nat.le_refl _)
      (hSenders.pass (Nat.le_refl _) hApart _) (Nat.le_refl _)
  | @joinedSenders k limit senders hSide _ hFull hJoin =>
    rw [World.look_still]
    have hOwn := hSenders.line.join hJoin (s := ⟨k, limit⟩) (Side.has_iff.mpr hSide)
    exact lines_idle .sending hOwn (space_of_full hFull)
      (hReceivers.pass (Nat.le_refl _) hApart _)
  | @joinedReceivers k limit receivers hSide _ hNone hJoin =>
    rw [World.look_still]
    have hOwn := hReceivers.line.join hJoin (s := ⟨k, limit⟩) (Side.has_iff.mpr hSide)
    exact lines_idle .receiving hOwn hNone (hSenders.pass (Nat.le_refl _) hApart _)
  | crowded hSide _ hUnits hOut =>
    rw [World.look_still]
    exact lines_idle side ((h side).line.pass hOut _) hUnits
      ((h side.other).pass (Nat.le_refl _) hApart _)
  | gaveUpSending hItem hFull hWhy =>
    rw [World.look_still]
    exact lines_idle .sending (hSenders.line.leave t _) (space_of_full hFull)
      (hReceivers.pass (Nat.le_refl _) hApart _)
  | gaveUpReceiving hSize hNone hWhy =>
    rw [World.look_still]
    exact lines_idle .receiving (hReceivers.line.leave t _) hNone
      (hSenders.pass (Nat.le_refl _) hApart _)

/-- A refused operation takes nothing and was not waited for. -/
theorem Lines.misfit {w : World} (h : Lines w.crew w.object) (hOut : w.crew.asleep t = none)
    {d : Deed} : Lines (w.look t (.still w.object (.finished d))).crew w.object := by
  rw [World.look_still]
  intro side
  exact (h side).pass (Nat.le_refl _) (Crew.isIn_of_none hOut) _

theorem Lines.deal {w : World} (h : Lines w.crew w.object) (hPos : 0 < w.object.capacity)
    {o : Outcome Queue (Option Deed)} (hDeal : Deal w.object o) :
    Lines (w.act o).crew (w.act o).object := by
  have hSenders := h .sending
  have hReceivers := h .receiving
  cases hDeal with
  | misfit | full | empty =>
    rw [World.act_still]
    exact h
  | pendingSend hFull hCalled | pendingReceive hNone hCalled =>
    rw [World.act, Outcome.tasks, hCalled, Crew.notify_nil]
    intro side
    cases side with
    | sending => exact hSenders
    | receiving => exact hReceivers
  | sent | appended =>
    rw [World.act, Outcome.tasks_map]
    have hSlots : w.object.capacity - (w.object.count + 1) ≤ w.object.space :=
      Nat.sub_le_sub_left (Nat.le_succ _) _
    exact lines_push hSenders hSlots hReceivers (Nat.le_refl _)
  | replaced hItem hFull =>
    rw [World.act, Outcome.tasks_map]
    -- the queue stays full, so no sender has to be on their way for the dropped item
    have hSlots : w.object.capacity - (w.object.count - 1 + 1) ≤ w.object.space := by
      rw [space_of_full hFull]
      omega
    exact lines_push (q := w.object.dropOldest) hSenders hSlots hReceivers (Nat.sub_le _ _)
  | received =>
    rw [World.act, Outcome.tasks_map]
    exact lines_pop hReceivers (Nat.sub_le _ _) hSenders (Nat.le_refl _)

-- ---------------------------------------------------------------------------
-- Runs
-- ---------------------------------------------------------------------------

variable {capacity size : Nat} {w : World}

/-- Every move keeps the lines attended, unless it gives a task up. -/
theorem Sound.lines_step (h : Sound capacity size w) (hLines : Lines w.crew w.object) {move : Move}
    (hKept : ∀ t, move ≠ .abandon t) :
    Lines (w.step protocol move).crew (w.step protocol move).object := by
  have hStepped := w.stepped_step protocol move
  generalize w.step protocol move = w' at hStepped ⊢
  cases hStepped with
  | idle => exact hLines
  | @started t now r hOut =>
    have hTurn := turn_start r now t w.object
    generalize protocol.start r now t w.object = o at hTurn ⊢
    rcases hTurn with hTurn | ⟨d, -, rfl⟩
    · exact hLines.turn (Crew.apart_of_none hOut _) hTurn
    · exact hLines.misfit hOut
  | @resumed t now s hAsleep =>
    exact hLines.turn (Crew.apart_of_some hAsleep) (turn_round (h.fits t s hAsleep) now t)
  | @acted a =>
    have hPos : 0 < w.object.capacity := h.capacity_eq ▸ h.positive
    exact hLines.deal hPos (deal_act a w.object)
  | @abandoned t => exact absurd rfl (hKept t)

theorem lines_fresh {allocator : Allocator} {q : Queue}
    (hCreate : create allocator capacity size = .ok q) :
    Lines (Crew.empty : Crew Call) q := by
  obtain ⟨-, ring, -, rfl⟩ := created_of_ok hCreate
  intro side
  cases side with
  | sending | receiving =>
    exact ⟨Crew.Line.of_empty _ _, fun hSome => absurd rfl hSome⟩

/-- With nobody on their way nothing is left for those who stand in line. -/
theorem nothing_left {c : Crew Call} {p : Call → Bool} {l : WaitList} {n : Nat}
    (h : c.Attended p l n) (hNobody : c.wokenIn p = ∅) : l.tasks = [] ∨ n = 0 := by
  by_cases hSome : l.tasks = []
  · exact Or.inl hSome
  · have hEnough := h.enough hSome
    rw [hNobody, Finset.card_empty] at hEnough
    exact Or.inr (Nat.le_zero.mp hEnough)

theorem Sound.attentive (h : Sound capacity size w) (hLines : Lines w.crew w.object) :
    Attentive w := by
  have hLe : w.object.count ≤ w.object.capacity := h.consistent.count_le
  have hPos : 0 < w.object.capacity := h.capacity_eq ▸ h.positive
  have hItem : w.crew.wokenIn Side.receiving.has = ∅ →
      w.object.receivers.tasks = [] ∨ w.object.count = 0 := nothing_left (hLines .receiving)
  have hSlot : w.crew.wokenIn Side.sending.has = ∅ →
      w.object.senders.tasks = [] ∨ w.object.count = w.object.capacity := by
    intro hNobody
    refine (nothing_left (hLines .sending) hNobody).imp_right fun hSpace => ?_
    have hSpace' : w.object.capacity - w.object.count = 0 := hSpace
    omega
  refine ⟨fun side => (hLines side).line, (hLines .receiving).enough, (hLines .sending).enough,
    hItem, hSlot, ?_⟩
  intro hNoReceiver hNoSender
  rcases hItem hNoReceiver with hNone | hEmpty
  · exact Or.inl hNone
  rcases hSlot hNoSender with hNone | hFull
  · exact Or.inr hNone
  · omega

/-- In every state of every run in which no task is given up in a call, nothing is left to
nobody. -/
theorem attentive_run {allocator : Allocator} {q : Queue}
    (hCreate : create allocator capacity size = .ok q) {moves : List Move}
    (hKept : ∀ t, .abandon t ∉ moves) : Attentive (q.after moves) := by
  have hRun : Sound capacity size (q.after moves) ∧
      Lines (q.after moves).crew (q.after moves).object := by
    refine after_induction (I := fun w => Sound capacity size w ∧ Lines w.crew w.object) ?_
      ⟨sound_fresh hCreate, lines_fresh hCreate⟩
    rintro w move hMem ⟨hSound, hLines⟩
    refine ⟨hSound.step move, hSound.lines_step hLines ?_⟩
    rintro t rfl
    exact hKept t hMem
  exact hRun.1.attentive hRun.2

/-- A receiver is woken for an item that another task takes before it looks. -/
def stolenItem : List Move :=
  [.start ⟨1⟩ 0 (.receive 1 waitForever), .act (.sendNow [7]), .start ⟨2⟩ 0 (.receive 1 0),
    .resume ⟨1⟩ 3]

theorem attentive_run_stolenItem :
    (∀ t, .abandon t ∉ stolenItem) ∧
      ∃ q, create .standard 2 1 = .ok q ∧ Attentive (q.after stolenItem) ∧
        (q.after stolenItem).object.items = [] ∧
        (q.after stolenItem).object.receivers.tasks = [⟨1⟩] ∧
        (q.after stolenItem).crew.woken = ∅ := by
  have hKept : ∀ t, .abandon t ∉ stolenItem := by simp [stolenItem]
  obtain ⟨q, hCreate⟩ : ∃ q, create .standard 2 1 = .ok q := ⟨_, rfl⟩
  refine ⟨hKept, q, hCreate, attentive_run hCreate hKept, ?_, ?_, ?_⟩
  all_goals
    cases hCreate
    decide +kernel

end Queue

end TaskSync
