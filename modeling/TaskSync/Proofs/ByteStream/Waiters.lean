import TaskSync.Proofs.ByteStream.Delivery

/-!
# TaskSync — a byte stream strands no waiter

The two lines at a stream are kept by different means. Receivers are woken one
at a time, so a line of receivers at a stream that has reached its trigger
level needs somebody on their way, who will wake the next one in turn
(`Tended`). Senders ask for different amounts and are all woken by every read,
so who stands in their line has looked since the last read and found too little
space (`stuck`); what was too little then is too little now.

* the line of receivers is attended again by every transfer that leaves the
  level reached (`Lined.wake`);
* the line of senders only has to survive writes, which take space away.

Main result:

* `ByteStream.unstranded_run` — in every state of every run in which no task is
  given up in the middle of a call, whoever waits at the stream has reason to.
-/

namespace TaskSync

namespace ByteStream

/-- How many receivers have to be on their way if there are any in line. -/
def due (s : ByteStream) : Nat := if s.available < s.trigger then 0 else 1

/-- A send for which there is too little space. -/
def stuck (s : ByteStream) : Call → Bool
  | .sending w => decide (s.space < s.needed w.request.data.length)
  | .receiving _ => false

/-- The wait lists are lines, and there are none where there must be none. -/
structure Lined (c : Crew Call) (s : ByteStream) : Prop where
  receivers : c.Line Side.receiving.has s.receivers
  senders : c.Line s.stuck s.senders
  closed : s.closed = true → s.receivers.tasks = [] ∧ s.senders.tasks = []
  flushed : s.flushed = true → s.available ≠ 0 ∧ s.receivers.tasks = []
  trigger_pos : 1 ≤ s.trigger
  trigger_le : s.trigger ≤ s.capacity

/-- Besides, a receiver is on their way when the trigger level is reached. -/
structure Tended (c : Crew Call) (s : ByteStream) : Prop extends Lined c s where
  enough : s.receivers.tasks ≠ [] → s.due ≤ (c.wokenIn Side.receiving.has).card

/-- Whoever waits at the stream has reason to. -/
structure Unstranded (capacity : Nat) (w : World) : Prop where
  capacity_eq : w.object.capacity = capacity
  senders : ∀ t ∈ w.object.senders.tasks, ∃ call limit,
    w.crew.asleep t = some ⟨.sending call, limit⟩ ∧
      w.object.space < min call.request.data.length capacity
  receivers : w.object.receivers.tasks ≠ [] → w.object.trigger ≤ w.object.available →
    (w.crew.wokenIn Side.receiving.has).Nonempty
  closed : w.object.closed = true →
    w.object.receivers.tasks = [] ∧ w.object.senders.tasks = []
  flushed : w.object.flushed = true → w.object.available ≠ 0 ∧ w.object.receivers.tasks = []
  trigger : 1 ≤ w.object.trigger ∧ w.object.trigger ≤ capacity

variable {c : Crew Call} {s : ByteStream} {t : TaskId}

theorem due_of_low (h : s.available < s.trigger) : s.due = 0 := if_pos h

theorem due_le (s : ByteStream) : s.due ≤ 1 := by
  unfold due
  split <;> omega

theorem has_of_stuck {k : Call} (h : s.stuck k = true) : Side.sending.has k = true := by
  cases k with
  | sending w => rfl
  | receiving w => cases h

theorem Tended.attended (h : Tended c s) :
    c.Attended Side.receiving.has s.receivers s.due := ⟨h.receivers, h.enough⟩

/-- Below the trigger level nobody has to be on their way. -/
theorem Lined.tended (h : Lined c s) (hLow : s.available < s.trigger) : Tended c s where
  toLined := h
  enough := by
    intro _
    rw [due_of_low hLow]
    exact Nat.zero_le _

theorem Lined.opposite (h : Lined c s) : ∀ u ∈ s.senders.tasks, u ∉ s.receivers.tasks :=
  h.senders.disjoint h.receivers fun _ hStuck => Side.has_other (has_of_stuck hStuck)

theorem Lined.not_mem_senders (h : Lined c s) (hApart : c.Apart t .receiving) :
    t ∉ s.senders.tasks :=
  (h.senders.mono fun _ => has_of_stuck).not_mem hApart

/-- A receiver that has to wait finds less than the trigger level, on an open
stream, and no flush in force. -/
theorem not_readable {again : Bool} (hPos : 1 ≤ s.trigger) (h : s.readable again = false) :
    s.available < s.trigger ∧ s.closed = false ∧ (s.flushed = true → s.available = 0) := by
  unfold readable at h
  rw [Bool.or_eq_false_iff, Bool.or_eq_false_iff] at h
  obtain ⟨⟨hOpen, hNoFlush⟩, hLow⟩ := h
  refine ⟨?_, hOpen, ?_⟩
  · cases again with
    | true => simpa using hLow
    | false =>
      have hEmpty : s.available = 0 := isEmpty_iff.mp (by simpa using hLow)
      omega
  · intro hFlushed
    rw [hFlushed] at hNoFlush
    exact isEmpty_iff.mp (by simpa using hNoFlush)

-- ---------------------------------------------------------------------------
-- A task looks
-- ---------------------------------------------------------------------------

theorem Lined.dropSender (h : Lined c s) (hApart : c.Apart t .sending)
    (fate : Option (Sleep Call)) : Lined (c.look t fate) (s.dropSender t) where
  receivers := h.receivers.pass (h.receivers.not_mem hApart) fate
  senders := h.senders.leave t fate
  closed := by
    intro hClosed
    obtain ⟨hReceivers, hSenders⟩ := h.closed hClosed
    refine ⟨hReceivers, ?_⟩
    show (s.senders.remove t).tasks = []
    rw [WaitList.tasks_remove, hSenders, List.filter_nil]
  flushed := h.flushed
  trigger_pos := h.trigger_pos
  trigger_le := h.trigger_le

theorem Lined.dropReceiver (h : Lined c s) (hApart : c.Apart t .receiving)
    (fate : Option (Sleep Call)) : Lined (c.look t fate) (s.dropReceiver t) where
  receivers := h.receivers.leave t fate
  senders := h.senders.pass (h.not_mem_senders hApart) fate
  closed := by
    intro hClosed
    obtain ⟨hReceivers, hSenders⟩ := h.closed hClosed
    refine ⟨?_, hSenders⟩
    show (s.receivers.remove t).tasks = []
    rw [WaitList.tasks_remove, hReceivers, List.filter_nil]
  flushed := by
    intro hFlushed
    obtain ⟨hSome, hReceivers⟩ := h.flushed hFlushed
    refine ⟨hSome, ?_⟩
    show (s.receivers.remove t).tasks = []
    rw [WaitList.tasks_remove, hReceivers, List.filter_nil]
  trigger_pos := h.trigger_pos
  trigger_le := h.trigger_le

theorem Lined.pass (h : Lined c s) (hReceivers : t ∉ s.receivers.tasks)
    (hSenders : t ∉ s.senders.tasks) (fate : Option (Sleep Call)) : Lined (c.look t fate) s where
  receivers := h.receivers.pass hReceivers fate
  senders := h.senders.pass hSenders fate
  closed := h.closed
  flushed := h.flushed
  trigger_pos := h.trigger_pos
  trigger_le := h.trigger_le

/-- A look from the senders' side takes nobody off those on their way to receive. -/
theorem Tended.dropSender (h : Tended c s) (hApart : c.Apart t .sending)
    (fate : Option (Sleep Call)) : Tended (c.look t fate) (s.dropSender t) where
  toLined := h.toLined.dropSender hApart fate
  enough := (h.attended.pass (Nat.le_refl _) hApart fate).enough

-- ---------------------------------------------------------------------------
-- Bytes come and go
-- ---------------------------------------------------------------------------

/-- Waking the receivers' side at the trigger level tends to them. Others may be
woken in the same step, as long as they do not stand in line. -/
theorem Lined.wake (h : Lined c s) {ts : List TaskId}
    (hCalled : ∀ u ∈ s.wakeAtTrigger.tasks, u ∈ ts)
    (hOthers : ∀ u ∈ ts, u ∈ s.wakeAtTrigger.tasks ∨
      u ∉ s.receivers.tasks ∧ u ∉ s.senders.tasks) :
    Tended (c.notify ts) s.wakeAtTrigger.object := by
  rcases Nat.lt_or_ge s.available s.trigger with hLow | hReached
  · rw [wakeAtTrigger_of_low hLow] at hOthers ⊢
    have hOut : ∀ u ∈ ts, u ∉ s.receivers.tasks ∧ u ∉ s.senders.tasks := by
      intro u hu
      rcases hOthers u hu with hNone | hOut
      · rw [Outcome.tasks_still] at hNone
        cases hNone
      · exact hOut
    have hLined : Lined (c.notify ts) s :=
      ⟨h.receivers.notify fun u hu hts => (hOut u hts).1 hu,
        h.senders.notify fun u hu hts => (hOut u hts).2 hu, h.closed, h.flushed,
        h.trigger_pos, h.trigger_le⟩
    exact hLined.tended hLow
  · rw [tasks_wakeAtTrigger_of_reached hReached] at hCalled hOthers
    rw [wakeAtTrigger_of_reached hReached]
    have hFirst : ∀ u ∈ s.receivers.first?, u ∈ ts :=
      fun u hu => hCalled u (Option.mem_toList.mpr hu)
    have hTail : ∀ u ∈ s.receivers.tasks.tail, u ∉ ts := by
      intro u hu hts
      rcases hOthers u hts with hIs | hOut
      · exact h.receivers.first_not_mem_tail u hu hIs
      · exact hOut.1 (List.mem_of_mem_tail hu)
    have hSenders : ∀ u ∈ s.senders.tasks, u ∉ ts := by
      intro u hu hts
      rcases hOthers u hts with hIs | hOut
      · exact h.opposite u hu (List.mem_of_mem_head? (Option.mem_toList.mp hIs))
      · exact hOut.2 hu
    -- one receiver is sent, and one is all that is due
    have hAttended : (c.notify ts).Attended Side.receiving.has s.receivers.dropFirst 1 :=
      h.receivers.attended.first (Nat.le_refl _) hFirst hTail
    refine ⟨⟨hAttended.line, h.senders.notify hSenders, ?_, ?_, h.trigger_pos, h.trigger_le⟩, ?_⟩
    · intro hClosed
      obtain ⟨hNone, hNone'⟩ := h.closed hClosed
      refine ⟨?_, hNone'⟩
      show s.receivers.tasks.tail = []
      rw [hNone, List.tail_nil]
    · intro hFlushed
      obtain ⟨hSome, hNone⟩ := h.flushed hFlushed
      refine ⟨hSome, ?_⟩
      show s.receivers.tasks.tail = []
      rw [hNone, List.tail_nil]
    · intro hLeft
      exact Nat.le_trans (due_le _) (hAttended.enough hLeft)

/-- Written bytes take space away, which no sender in line minds. -/
theorem Lined.write (h : Lined c s) (data : List UInt8) :
    Lined c { s with ring := (s.ring.write data).1 } where
  receivers := h.receivers
  senders := by
    refine h.senders.mono fun k hStuck => ?_
    cases k with
    | sending w =>
      have hShort : s.ring.capacity - s.ring.length < min w.request.data.length s.ring.capacity :=
        of_decide_eq_true hStuck
      apply decide_eq_true
      show (s.ring.write data).1.capacity - (s.ring.write data).1.length <
        min w.request.data.length (s.ring.write data).1.capacity
      rw [ByteRing.capacity_write, ByteRing.length_write]
      omega
    | receiving w => cases hStuck
  closed := h.closed
  flushed := by
    intro hFlushed
    obtain ⟨hSome, hNone⟩ := h.flushed hFlushed
    refine ⟨?_, hNone⟩
    show s.available + _ ≠ 0
    omega
  trigger_pos := h.trigger_pos
  trigger_le := by
    show s.trigger ≤ (s.ring.write data).1.capacity
    rw [ByteRing.capacity_write]
    exact h.trigger_le

/-- A put that writes nothing leaves the level as it is; any other wakes. -/
theorem Tended.put (h : Tended c s) (data : List UInt8) :
    Tended (c.notify (s.put data).tasks) (s.put data).object := by
  have hWritten := h.toLined.write data
  by_cases hZero : (s.ring.write data).2 = 0
  · rw [put_of_zero hZero, Outcome.tasks_still, Crew.notify_nil]
    have hLength : (s.ring.write data).1.length = s.ring.length := by
      rw [ByteRing.written_write] at hZero
      rw [ByteRing.length_write, hZero, Nat.add_zero]
    have hDue : due { s with ring := (s.ring.write data).1 } = s.due := by
      show (if (s.ring.write data).1.length < s.trigger then 0 else 1) = _
      rw [hLength]
      rfl
    refine ⟨hWritten, fun hSome => ?_⟩
    show due { s with ring := (s.ring.write data).1 } ≤ _
    rw [hDue]
    exact h.enough hSome
  · rw [put_of_ne_zero hZero, Outcome.tasks_map]
    exact hWritten.wake (fun u hu => hu) fun u hu => Or.inl hu

/-- A take from a stream with bytes wakes all senders, and a receiver if the
level is still reached. -/
theorem Lined.take (h : Lined c s) (room : Nat) :
    Tended (c.notify (s.take room).tasks) (s.take room).object := by
  cases hEmpty : s.ring.isEmpty with
  | true =>
    rw [take_of_isEmpty hEmpty, Outcome.tasks_still, Crew.notify_nil]
    have hNone : s.available = 0 := isEmpty_iff.mp hEmpty
    have hPos := h.trigger_pos
    exact h.tended (by omega)
  | false =>
    -- the senders are off their list before anybody is woken, so waking them disturbs no line
    have hDrained : Lined c (s.drained room) :=
      { receivers := h.receivers
        senders := .of_empty c _
        closed := fun hClosed => ⟨(h.closed hClosed).1, rfl⟩
        flushed := fun hFlushed => by cases hFlushed
        trigger_pos := h.trigger_pos
        trigger_le := h.trigger_le }
    rw [tasks_take_of_not_isEmpty hEmpty, take_of_not_isEmpty hEmpty]
    refine hDrained.wake (fun u hu => List.mem_append_left _ hu) ?_
    intro u hu
    rcases List.mem_append.mp hu with hu | hu
    · exact Or.inl hu
    · exact Or.inr ⟨h.opposite u hu, List.not_mem_nil⟩

theorem tended_wakeAll (hPos : 1 ≤ s.trigger) (hLe : s.trigger ≤ s.capacity)
    (hFlushed : s.flushed = true → s.available ≠ 0) (c : Crew Call) :
    Tended c s.wakeAll.object where
  receivers := .of_empty _ _
  senders := .of_empty _ _
  closed := fun _ => ⟨rfl, rfl⟩
  flushed := fun hIs => ⟨hFlushed hIs, rfl⟩
  trigger_pos := hPos
  trigger_le := hLe
  enough := fun hSome => absurd rfl hSome

-- ---------------------------------------------------------------------------
-- What a move does to the lines
-- ---------------------------------------------------------------------------

theorem Tended.turn {w : World} (h : Tended w.crew w.object) {side : Side}
    (hApart : w.crew.Apart t side) {o : Outcome ByteStream (Round Call Deed)}
    (hTurn : Turn t w.object side o) : Tended (w.look t o).crew (w.look t o).object := by
  cases hTurn with
  | refused hClosed | gaveUpSending hOpen hShort hNone =>
    rw [World.look_still]
    exact h.dropSender hApart _
  | sent hOpen hFits =>
    rw [World.look, Outcome.tasks_map]
    exact (h.dropSender hApart _).put _
  | @joinedSenders call limit senders hOpen hShort hJoin =>
    rw [World.look_still]
    have hStuck : w.object.stuck (.sending call) = true := decide_eq_true hShort
    have hSenders := h.senders.join hJoin (s := ⟨.sending call, limit⟩) hStuck
    have hReceivers := h.attended.pass (Nat.le_refl _) hApart (some ⟨.sending call, limit⟩)
    refine ⟨⟨hReceivers.line, hSenders, ?_, h.flushed, h.trigger_pos, h.trigger_le⟩,
      hReceivers.enough⟩
    intro hClosed
    rw [hOpen] at hClosed
    cases hClosed
  | crowdedSenders hOpen hShort hOut =>
    rw [World.look_still]
    exact ⟨h.toLined.pass (h.receivers.not_mem hApart) hOut _,
      (h.attended.pass (Nat.le_refl _) hApart _).enough⟩
  | received hReady =>
    rw [World.look, Outcome.tasks_map]
    exact (h.toLined.dropReceiver hApart _).take _
  | @joinedReceivers call again limit receivers hWait hJoin =>
    rw [World.look_still]
    obtain ⟨hLow, hOpen, hNoFlush⟩ := not_readable h.trigger_pos hWait
    have hReceivers := h.receivers.join hJoin
      (s := ⟨.receiving { call with again := true }, limit⟩) rfl
    have hSenders := h.senders.pass (h.not_mem_senders hApart)
      (some ⟨.receiving { call with again := true }, limit⟩)
    have hLined : Lined (w.crew.look t (some ⟨.receiving { call with again := true }, limit⟩))
        { w.object with receivers } := by
      refine ⟨hReceivers, hSenders, ?_, ?_, h.trigger_pos, h.trigger_le⟩
      · intro hClosed
        rw [hOpen] at hClosed
        cases hClosed
      · -- a flush in force would have let the receiver in
        intro hFlushed
        exact absurd (hNoFlush hFlushed) (h.flushed hFlushed).1
    exact hLined.tended hLow
  | crowdedReceivers hWait hOut =>
    rw [World.look_still]
    have hLow := (not_readable h.trigger_pos hWait).1
    exact (h.toLined.pass hOut (h.not_mem_senders hApart) _).tended hLow
  | gaveUpReceiving hWait hEmpty =>
    rw [World.look_still]
    have hLow := (not_readable h.trigger_pos hWait).1
    exact (h.toLined.dropReceiver hApart _).tended hLow

/-- An operation that does not look was not waited for. -/
theorem Tended.idle {w : World} (h : Tended w.crew w.object) (hOut : w.crew.asleep t = none)
    {d : Deed} : Tended (w.look t (.still w.object (.finished d))).crew w.object := by
  rw [World.look_still]
  have hSending := Crew.apart_of_none hOut .sending
  have hReceiving := Crew.apart_of_none hOut .receiving
  exact ⟨h.toLined.pass (h.receivers.not_mem hSending) (h.not_mem_senders hReceiving) _,
    (h.attended.pass (Nat.le_refl _) hSending _).enough⟩

theorem Tended.deal {w : World} (h : Tended w.crew w.object)
    {o : Outcome ByteStream (Option Deed)} (hDeal : Deal w.object o) :
    Tended (w.act o).crew (w.act o).object := by
  cases hDeal with
  | refused | full | noRoom | empty | flushedNothing | triggerRefused =>
    rw [World.act_still]
    exact h
  | sent hOpen hHow =>
    rw [World.act, Outcome.tasks_map]
    exact h.put _
  | pendingSend hCalled | pendingReceive hCalled =>
    rw [World.act, Outcome.tasks, hCalled, Crew.notify_nil]
    exact ⟨⟨h.receivers, h.senders, h.closed, h.flushed, h.trigger_pos, h.trigger_le⟩, h.enough⟩
  | received hHow =>
    rw [World.act, Outcome.tasks_map]
    exact h.toLined.take _
  | flushed hSome =>
    have hCalled : (w.object.receiverWakers.notices ++ w.object.receivers.notices).filterMap
        Notice.task? = w.object.receivers.tasks := by simp
    have hBytes : w.object.available ≠ 0 := fun hNone => by
      rw [isEmpty_iff.mpr hNone] at hSome
      cases hSome
    rw [World.act, Outcome.tasks, hCalled]
    refine ⟨⟨.of_empty _ _, h.senders.notify h.opposite, ?_, fun _ => ⟨hBytes, rfl⟩,
      h.trigger_pos, h.trigger_le⟩, fun hLeft => absurd rfl hLeft⟩
    intro hClosed
    exact ⟨rfl, (h.closed hClosed).2⟩
  | closed =>
    exact tended_wakeAll (s := { w.object with closed := true }) h.trigger_pos h.trigger_le
      (fun hFlushed => (h.flushed hFlushed).1) _
  | reset =>
    exact tended_wakeAll
      (s := { w.object with ring := w.object.ring.clear, flushed := false, closed := false })
      h.trigger_pos h.trigger_le (fun hFlushed => by cases hFlushed) _
  | @triggerSet level hLevel =>
    have hPos : 1 ≤ w.object.capacity := Nat.le_trans h.trigger_pos h.trigger_le
    have hLined : Lined w.crew { w.object with trigger := max level 1 } :=
      ⟨h.receivers, h.senders, h.closed, h.flushed, Nat.le_max_right _ _,
        Nat.max_le.mpr ⟨hLevel, hPos⟩⟩
    rw [World.act, Outcome.tasks_map]
    exact hLined.wake (fun u hu => hu) fun u hu => Or.inl hu

-- ---------------------------------------------------------------------------
-- Runs
-- ---------------------------------------------------------------------------

/-- Every move keeps the stream tended, unless it gives a task up. -/
theorem Tended.step {w : World} (h : Tended w.crew w.object) {move : Move}
    (hKept : ∀ t, move ≠ .abandon t) :
    Tended (w.step protocol move).crew (w.step protocol move).object := by
  have hStepped := w.stepped_step protocol move
  generalize w.step protocol move = w' at hStepped ⊢
  cases hStepped with
  | idle => exact h
  | @started t now r hOut =>
    have hTurn := turn_start r w.object now t
    generalize protocol.start r now t w.object = o at hTurn ⊢
    rcases hTurn with hTurn | ⟨wait, rfl⟩
    · exact h.turn (Crew.apart_of_none hOut _) hTurn
    · exact h.idle hOut
  | @resumed t now s hAsleep =>
    exact h.turn (Crew.apart_of_some hAsleep) (turn_round s.call w.object now t)
  | @acted a => exact h.deal (deal_act a w.object)
  | @abandoned t => exact absurd rfl (hKept t)

theorem tended_fresh {allocator : Allocator} {capacity trigger : Nat} {s : ByteStream}
    (hCreate : create allocator capacity trigger = .ok s) : Tended (Crew.empty : Crew Call) s := by
  obtain ⟨hPos, hLe, ring, hRing, rfl⟩ := created_of_ok hCreate
  obtain ⟨-, hCapacity, -⟩ := ByteRing.valid_of_create hRing
  refine ⟨⟨.of_empty _ _, .of_empty _ _, ?_, ?_, Nat.le_max_right _ _, ?_⟩, ?_⟩
  · intro hClosed
    cases hClosed
  · intro hFlushed
    cases hFlushed
  · show max trigger 1 ≤ ring.capacity
    omega
  · intro hSome
    exact absurd rfl hSome

/-- Who stands in the senders' line sleeps in a send for which there is too little space. -/
theorem Lined.sender (h : Lined c s) (hMem : t ∈ s.senders.tasks) : ∃ call limit,
    c.asleep t = some ⟨.sending call, limit⟩ ∧
      s.space < min call.request.data.length s.capacity := by
  have hIn := h.senders.asleep t hMem
  unfold Crew.isIn at hIn
  rw [Option.any_eq_true] at hIn
  obtain ⟨⟨call, limit⟩, hAsleep, hStuck⟩ := hIn
  cases call with
  | sending call => exact ⟨call, limit, hAsleep, of_decide_eq_true hStuck⟩
  | receiving call => cases hStuck

theorem Tended.unstranded {capacity : Nat} {w : World} (h : Tended w.crew w.object)
    (hSound : Sound capacity w) : Unstranded capacity w where
  capacity_eq := hSound.capacity_eq
  senders := by
    intro t hMem
    rw [← hSound.capacity_eq]
    exact h.toLined.sender hMem
  receivers := by
    intro hSome hReached
    have hDue : w.object.due = 1 := if_neg (Nat.not_lt.mpr hReached)
    have hEnough := h.enough hSome
    rw [hDue] at hEnough
    exact Finset.card_pos.mp hEnough
  closed := h.closed
  flushed := h.flushed
  trigger := ⟨h.trigger_pos, hSound.capacity_eq ▸ h.trigger_le⟩

theorem tended_run {allocator : Allocator} {capacity trigger : Nat} {s : ByteStream}
    (hCreate : create allocator capacity trigger = .ok s) {moves : List Move}
    (hKept : ∀ t, .abandon t ∉ moves) : Tended (s.after moves).crew (s.after moves).object := by
  refine after_induction (I := fun w => Tended w.crew w.object) ?_ (tended_fresh hCreate)
  intro w move hMem h
  refine h.step ?_
  rintro t rfl
  exact hKept t hMem

/-- In every state of every run in which no task is given up in a call, whoever waits has reason
to. -/
theorem unstranded_run {allocator : Allocator} {capacity trigger : Nat} {s : ByteStream}
    (hCreate : create allocator capacity trigger = .ok s) {moves : List Move}
    (hKept : ∀ t, .abandon t ∉ moves) : Unstranded capacity (s.after moves) :=
  (tended_run hCreate hKept).unstranded (sound_run hCreate moves)

/-- Receivers wait for more bytes than there are, and a sender for more space, until the level is
lowered and one of the receivers is served. -/
def onBothSides : List Move :=
  [.start ⟨1⟩ 0 (.receive 3 waitForever), .start ⟨2⟩ 0 (.receive 1 waitForever),
    .act (.sendNow [1, 2, 3]), .start ⟨3⟩ 0 (.send [4, 5] waitForever), .act (.setTrigger 2),
    .resume ⟨1⟩ 2]

theorem unstranded_run_onBothSides :
    (∀ t, .abandon t ∉ onBothSides) ∧
      ∃ s, create .standard 4 4 = .ok s ∧ Unstranded 4 (s.after onBothSides) ∧
        (s.after onBothSides).object.ring.toList = [] ∧
        (s.after onBothSides).object.receivers.tasks = [⟨2⟩] ∧
        (s.after onBothSides).crew.woken = {⟨3⟩} := by
  have hKept : ∀ t, .abandon t ∉ onBothSides := by simp [onBothSides]
  obtain ⟨s, hCreate⟩ : ∃ s, create .standard 4 4 = .ok s := ⟨_, rfl⟩
  refine ⟨hKept, s, hCreate, unstranded_run hCreate hKept, ?_, ?_, ?_⟩
  all_goals
    cases hCreate
    decide +kernel

end ByteStream

end TaskSync
