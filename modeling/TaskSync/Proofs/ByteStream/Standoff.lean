import TaskSync.Proofs.ByteStream.Waiters

/-!
# TaskSync — when both sides of a byte stream wait

A receiver waits for the trigger level and a sender for as much space as its
bytes take up. The two have nothing to do with each other, so there can be too
few bytes for the one and too many for the other: a standoff.

Main results:

* `ByteStream.standoff_run` — a standoff is the only way in which both sides can
  wait while nobody is on their way, unless a task is given up in a call.
* `ByteStream.standoff_of_trigger` — every stream whose trigger level is more
  than one byte can be brought into one.
-/

namespace TaskSync

namespace ByteStream

/-- There are too few bytes for the receivers and too many for the senders. -/
structure Standoff (capacity : Nat) (w : World) : Prop where
  opened : w.object.closed = false
  /-- No flush is in force. -/
  unflushed : w.object.flushed = false
  buffered : 0 < w.object.available
  low : w.object.available < w.object.trigger
  /-- What a sender waits for and what the receivers wait for do not fit in together. -/
  senders : ∀ t ∈ w.object.senders.tasks, ∃ call limit,
    w.crew.asleep t = some ⟨.sending call, limit⟩ ∧
      w.object.space < min call.request.data.length capacity ∧
      capacity + 2 ≤ w.object.trigger + min call.request.data.length capacity

variable {allocator : Allocator} {capacity trigger : Nat} {s : ByteStream}

theorem space_add_available (hValid : s.ring.Valid) : s.space + s.available = s.capacity :=
  Nat.sub_add_cancel hValid.length_le

/-- Both sides wait and no receiver is on the way to look again: that is a standoff. -/
theorem Tended.standoff {w : World} (h : Tended w.crew w.object) (hSound : Sound capacity w)
    (hQuiet : w.crew.wokenIn Side.receiving.has = ∅) (hReceivers : w.object.receivers.tasks ≠ [])
    (hSenders : w.object.senders.tasks ≠ []) : Standoff capacity w := by
  have hSum := space_add_available hSound.valid
  have hLow : w.object.available < w.object.trigger := by
    refine Nat.lt_of_not_le fun hReached => ?_
    have hDue : w.object.due = 1 := if_neg (Nat.not_lt.mpr hReached)
    have hEnough := h.enough hReceivers
    rw [hDue, hQuiet, Finset.card_empty] at hEnough
    omega
  have hShort : ∀ t ∈ w.object.senders.tasks, ∃ call limit,
      w.crew.asleep t = some ⟨.sending call, limit⟩ ∧
        w.object.space < min call.request.data.length capacity := by
    intro t hMem
    rw [← hSound.capacity_eq]
    exact h.toLined.sender hMem
  rw [hSound.capacity_eq] at hSum
  refine ⟨?_, ?_, ?_, hLow, ?_⟩
  · rw [← Bool.not_eq_true]
    exact fun hClosed => hReceivers (h.closed hClosed).1
  · rw [← Bool.not_eq_true]
    exact fun hFlushed => hReceivers (h.flushed hFlushed).2
  · -- an empty stream has space for everybody
    obtain ⟨t, hMem⟩ := List.exists_mem_of_ne_nil _ hSenders
    obtain ⟨call, limit, -, hSpace⟩ := hShort t hMem
    omega
  · intro t hMem
    obtain ⟨call, limit, hAsleep, hSpace⟩ := hShort t hMem
    exact ⟨call, limit, hAsleep, hSpace, by omega⟩

/-- In every state of every run in which no task is given up in a call, both sides wait while nobody
is on the way to look again only in a standoff. -/
theorem standoff_run (hCreate : create allocator capacity trigger = .ok s) {moves : List Move}
    (hKept : ∀ t, .abandon t ∉ moves) (hQuiet : (s.after moves).crew.woken = ∅)
    (hReceivers : (s.after moves).object.receivers.tasks ≠ [])
    (hSenders : (s.after moves).object.senders.tasks ≠ []) : Standoff capacity (s.after moves) := by
  refine (tended_run hCreate hKept).standoff (sound_run hCreate moves) ?_ hReceivers hSenders
  rw [Crew.wokenIn, hQuiet, Finset.filter_empty]

/-- One byte is too little for the receiver, and leaves too little space for four more. -/
def oneThenFour : List Move :=
  [.start ⟨1⟩ 0 (.receive 4 waitForever), .start ⟨2⟩ 0 (.send [10] waitForever),
    .start ⟨2⟩ 0 (.send [11, 12, 13, 14] waitForever)]

theorem standoff_run_oneThenFour :
    (∀ t, .abandon t ∉ oneThenFour) ∧
      ∃ s, create .standard 4 2 = .ok s ∧ (s.after oneThenFour).crew.woken = ∅ ∧
        (s.after oneThenFour).object.receivers.tasks ≠ [] ∧
        (s.after oneThenFour).object.senders.tasks ≠ [] ∧ Standoff 4 (s.after oneThenFour) := by
  have hKept : ∀ t, .abandon t ∉ oneThenFour := by simp [oneThenFour]
  refine ⟨hKept, _, rfl, ?_⟩
  generalize hNew : ByteStream.mk _ _ _ _ _ _ _ _ = s
  have hCreate : create .standard 4 2 = .ok s := hNew ▸ rfl
  have hQuiet : (s.after oneThenFour).crew.woken = ∅ := by
    subst hNew
    decide +kernel
  have hReceivers : (s.after oneThenFour).object.receivers.tasks ≠ [] := by
    subst hNew
    decide +kernel
  have hSenders : (s.after oneThenFour).object.senders.tasks ≠ [] := by
    subst hNew
    decide +kernel
  exact ⟨hQuiet, hReceivers, hSenders, standoff_run hCreate hKept hQuiet hReceivers hSenders⟩

/-- A receiver that has been woken is given up, and takes its wake along. -/
def wakeLost : List Move :=
  [.start ⟨1⟩ 0 (.receive 4 waitForever), .start ⟨2⟩ 0 (.receive 4 waitForever),
    .start ⟨3⟩ 0 (.send [10] waitForever), .abandon ⟨1⟩,
    .start ⟨3⟩ 0 (.send [11, 12, 13, 14] waitForever)]

/-- Both sides of an open stream may wait for ever: in a standoff, or after a wake has been lost. -/
theorem both_sides_wait :
    (∃ s, create .standard 4 2 = .ok s ∧ (s.after oneThenFour).object.closed = false ∧
      (s.after oneThenFour).crew.woken = ∅ ∧
      (s.after oneThenFour).object.receivers.tasks = [⟨1⟩] ∧
      (s.after oneThenFour).object.senders.tasks = [⟨2⟩]) ∧
    ∃ s, create .standard 4 1 = .ok s ∧ (s.after wakeLost).object.closed = false ∧
      (s.after wakeLost).crew.woken = ∅ ∧
      (s.after wakeLost).object.receivers.tasks = [⟨2⟩] ∧
      (s.after wakeLost).object.senders.tasks = [⟨3⟩] := by
  refine ⟨⟨_, rfl, ?_, ?_, ?_, ?_⟩, _, rfl, ?_, ?_, ?_, ?_⟩
  all_goals decide +kernel

-- ---------------------------------------------------------------------------
-- How a standoff comes about
-- ---------------------------------------------------------------------------

section Looks

variable {t : TaskId} {now : Ticks} {joined : WaitList}

theorem start_receive_of_unreadable {room : Nat} (hRoom : room ≠ 0)
    (hWait : s.readable false = false) (hJoin : s.receivers.register t = some joined) :
    protocol.start (.receive room waitForever) now t s = .still { s with receivers := joined }
      (.suspended (.receiving ⟨⟨room⟩, ⟨now, waitForever⟩, true⟩) none) := by
  have hOver : (Waiting.start (Receive.mk room) waitForever now).isOver now = false :=
    Waiting.isOver_of_forever rfl now
  have hServe : Blocks.serve (Receive.mk room)
      ((Waiting.start (Receive.mk room) waitForever now).look now t) s = none := by
    rw [Waiting.look, hOver]
    exact if_neg (by simp [Waiting.start, hWait])
  have hJoined : Blocks.join (Receive.mk room) t s = some { s with receivers := joined } :=
    congrArg (Option.map _) hJoin
  show Request.start now t s (.receive room waitForever) = _
  rw [Request.start, if_neg hRoom]
  exact congrArg (Outcome.map _) (Waiting.round_of_join hOver hServe hJoined)

theorem start_send_of_short {data : List UInt8} (hOpen : s.closed = false)
    (hShort : s.space < s.needed data.length) (hJoin : s.senders.register t = some joined) :
    protocol.start (.send data waitForever) now t s = .still { s with senders := joined }
      (.suspended (.sending ⟨⟨data⟩, ⟨now, waitForever⟩, true⟩) none) := by
  have hOver : (Waiting.start (Send.mk data) waitForever now).isOver now = false :=
    Waiting.isOver_of_forever rfl now
  have hServe : Blocks.serve (Send.mk data)
      ((Waiting.start (Send.mk data) waitForever now).look now t) s = none := by
    rw [Waiting.look, hOver]
    exact (if_neg (by simp [hOpen])).trans (if_neg (by simp; omega))
  have hJoined : Blocks.join (Send.mk data) t s = some { s with senders := joined } :=
    congrArg (Option.map _) hJoin
  exact congrArg (Outcome.map _) (Waiting.round_of_join hOver hServe hJoined)

end Looks

/-- A byte that comes in below the trigger level wakes nobody. -/
theorem put_byte_of_low {byte : UInt8} (hSpace : 0 < s.space)
    (hLow : s.available + 1 < s.trigger) :
    s.put [byte] = .still { s with ring := (s.ring.write [byte]).1 } 1 := by
  have hWritten : (s.ring.write [byte]).2 = 1 := by
    rw [ByteRing.written_write]
    exact Nat.min_eq_left hSpace
  have hStillLow : available { s with ring := (s.ring.write [byte]).1 } < s.trigger := by
    show (s.ring.write [byte]).1.length < s.trigger
    rw [ByteRing.length_write, ← ByteRing.written_write, hWritten]
    exact hLow
  have hSome : (s.ring.write [byte]).2 ≠ 0 := by
    rw [hWritten]
    exact Nat.one_ne_zero
  rw [put_of_ne_zero hSome, wakeAtTrigger_of_low hStillLow, hWritten]
  rfl

theorem act_sendNow_of_low {byte : UInt8} (hOpen : s.closed = false) (hSpace : 0 < s.space)
    (hLow : s.available + 1 < s.trigger) :
    protocol.act (.sendNow [byte]) s =
      .still { s with ring := (s.ring.write [byte]).1 }
        (some (.sent [byte] .deferring (.ok 1))) := by
  have hNotFull : s.ring.isFull = false := by
    have hLt : 0 < s.ring.capacity - s.ring.length := hSpace
    simp only [ByteRing.isFull, beq_eq_false_iff_ne]
    omega
  have hSent : s.sendNow [byte] = .still { s with ring := (s.ring.write [byte]).1 } (.ok 1) := by
    rw [sendNow, if_neg (by simp [hOpen]), if_neg (by simp [hNotFull]), put_byte_of_low hSpace hLow]
    rfl
  exact congrArg (Outcome.map fun answer => some (Deed.sent [byte] .deferring answer)) hSent

/-- An open stream that nobody waits at and that holds no byte. -/
structure Blank (capacity trigger : Nat) (s : ByteStream) : Prop where
  closed : s.closed = false
  flushed : s.flushed = false
  length_eq : s.ring.length = 0
  capacity_eq : s.ring.capacity = capacity
  trigger_eq : s.trigger = trigger
  receivers : s.receivers = .empty
  senders : s.senders = .empty

theorem blank_of_create (hCreate : create allocator capacity trigger = .ok s) :
    Blank capacity (max trigger 1) s := by
  obtain ⟨-, -, ring, hRing, rfl⟩ := created_of_ok hCreate
  obtain ⟨-, hCapacity, hEmpty⟩ := ByteRing.valid_of_create hRing
  have hLength : ring.length = 0 := by rw [← ByteRing.length_toList, hEmpty, List.length_nil]
  exact ⟨rfl, rfl, hLength, hCapacity, rfl, rfl, rfl⟩

/-- A receiver finds nothing. -/
theorem Blank.start_receive (h : Blank capacity trigger s) {room : Nat} (hRoom : room ≠ 0)
    (now : Ticks) (t : TaskId) :
    protocol.start (.receive room waitForever) now t s = .still { s with receivers := ⟨[t]⟩ }
      (.suspended (.receiving ⟨⟨room⟩, ⟨now, waitForever⟩, true⟩) none) := by
  refine start_receive_of_unreadable hRoom ?_ ?_
  · simp [readable, ByteRing.isEmpty, h.closed, h.flushed, h.length_eq]
  · rw [h.receivers]
    rfl

/-- A byte is too little for it. -/
theorem Blank.sendNow (h : Blank capacity trigger s) (hPos : 0 < capacity) (hTwo : 2 ≤ trigger)
    (receivers : WaitList) (byte : UInt8) :
    protocol.act (.sendNow [byte]) { s with receivers } =
      .still { s with receivers, ring := (s.ring.write [byte]).1 }
        (some (.sent [byte] .deferring (.ok 1))) := by
  refine act_sendNow_of_low h.closed ?_ ?_
  · show 0 < s.ring.capacity - s.ring.length
    rw [h.capacity_eq, h.length_eq]
    exact hPos
  · show s.ring.length + 1 < s.trigger
    rw [h.length_eq, h.trigger_eq]
    exact hTwo

/-- And too much for a sender that wants to fill the stream. -/
theorem Blank.start_send (h : Blank capacity trigger s) (hPos : 0 < capacity)
    (receivers : WaitList) (byte : UInt8) {data : List UInt8} (hAll : data.length = capacity)
    (now : Ticks) (t : TaskId) :
    protocol.start (.send data waitForever) now t
        { s with receivers, ring := (s.ring.write [byte]).1 } =
      .still { s with receivers, ring := (s.ring.write [byte]).1, senders := ⟨[t]⟩ }
        (.suspended (.sending ⟨⟨data⟩, ⟨now, waitForever⟩, true⟩) none) := by
  refine start_send_of_short h.closed ?_ ?_
  · have hFree : s.ring.space = capacity := by
      rw [ByteRing.space, h.capacity_eq, h.length_eq, Nat.sub_zero]
    show (s.ring.write [byte]).1.capacity - (s.ring.write [byte]).1.length <
      min data.length (s.ring.write [byte]).1.capacity
    rw [ByteRing.capacity_write, ByteRing.length_write, hAll, hFree, h.capacity_eq, h.length_eq,
      List.length_singleton]
    omega
  · rw [h.senders]
    rfl

/-- A receiver waits, one byte comes in, and a sender wants to fill the stream. -/
def oneByteTooMany (capacity : Nat) : List Move :=
  [.start ⟨1⟩ 0 (.receive capacity waitForever), .act (.sendNow [0]),
    .start ⟨2⟩ 0 (.send (List.replicate capacity 0) waitForever)]

/-- Every stream whose trigger level is more than one byte can be brought into a standoff. -/
theorem standoff_of_trigger (hCreate : create allocator capacity trigger = .ok s)
    (hTwo : 2 ≤ trigger) :
    (s.after (oneByteTooMany capacity)).crew.woken = ∅ ∧
      (s.after (oneByteTooMany capacity)).object.receivers.tasks = [⟨1⟩] ∧
      (s.after (oneByteTooMany capacity)).object.senders.tasks = [⟨2⟩] := by
  obtain ⟨hPos, -⟩ := created_of_ok hCreate
  have hBlank := blank_of_create hCreate
  have hAwake : ∀ sleep : Option (Sleep Call), (Crew.empty.look ⟨1⟩ sleep).asleep ⟨2⟩ = none :=
    fun sleep => Crew.asleep_look_of_ne (by decide) sleep
  rw [oneByteTooMany, after, World.run_cons, World.step_start rfl,
    show (World.fresh s : World).object = s from rfl,
    hBlank.start_receive (Nat.ne_of_gt hPos), World.look_suspended, World.run_cons, World.step_act,
    hBlank.sendNow hPos (le_max_of_le_left hTwo), World.act_still, World.run_cons,
    World.step_start (hAwake _), hBlank.start_send hPos _ _ List.length_replicate,
    World.look_suspended]
  refine ⟨?_, rfl, rfl⟩
  simp [World.run, World.fresh, Crew.look, Crew.empty]

end ByteStream

end TaskSync
