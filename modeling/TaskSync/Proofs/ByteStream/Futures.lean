import TaskSync.Proofs.ByteStream.Flush
import TaskSync.Proofs.Runs.Executor

/-!
# TaskSync — asynchronous operations on a byte stream

A pending send has left its waker among those of the senders, and lacks space
(`LacksSpace`); only a read can help it, and every read calls all of these. A
pending receive has left its waker among those of the receivers, and lacks bytes
(`LacksBytes`): it has been polled in vain, so it waits for the trigger level,
like a receiver that sleeps. Whatever reaches the level calls all of these, as do
a flush and the end of the stream.

A flush that is in force helps a pending receive too. There is none while the
receive is parked, since it would have handed out something (`Loaded`).

* `ByteStream.parking` — so a stream loses no waker (`TaskSync.Parking`).
-/

namespace TaskSync

namespace ByteStream

/-- An asynchronous operation on a stream. -/
inductive Future
  | send (data : List UInt8)
  /-- A receive into a buffer of `room` bytes, `again` if it has been polled in vain. -/
  | receive (room : Nat) (again : Bool)

instance : Pollable Future ByteStream Act where
  poll
    | .send data, waker => .pollSend data waker
    | .receive room again, waker => .pollReceive room again waker
  parked
    | .send data, _ => .send data
    | .receive room _, _ => .receive room true

/-- A flush that is in force has bytes to hand out. -/
def Loaded (s : ByteStream) : Prop := s.flushed = true → s.available ≠ 0

/-- A send of `size` bytes waits at the stream with its waker. -/
structure LacksSpace (size : Nat) (v : WakerId) (s : ByteStream) : Prop where
  opened : s.closed = false
  short : s.space < s.needed size
  listed : v ∈ s.senderWakers.wakers

/-- A receive that has been polled in vain waits at the stream with its waker. -/
structure LacksBytes (v : WakerId) (s : ByteStream) : Prop where
  opened : s.closed = false
  unflushed : s.flushed = false
  low : s.available < s.trigger
  listed : v ∈ s.receiverWakers.wakers

/-- The operation waits at the stream with its waker. -/
def Future.Parked : Future → WakerId → ByteStream → Prop
  | .send data, v, s => LacksSpace data.length v s
  | .receive room again, v, s => room ≠ 0 ∧ again = true ∧ LacksBytes v s

variable {s : ByteStream} {v : WakerId} {size room : Nat} {data : List UInt8} {t : TaskId}
  {side : Side}

-- ---------------------------------------------------------------------------
-- A flush in force has bytes to hand out
-- ---------------------------------------------------------------------------

theorem Loaded.put (h : Loaded s) (data : List UInt8) : Loaded (s.put data).object := by
  have hKeeps := (keeps_put s data).available
  obtain ⟨_, _, hObject⟩ := s.object_put data
  intro hFlushed
  have hSome : s.available ≠ 0 := by
    rw [hObject] at hFlushed
    exact h hFlushed
  omega

theorem Loaded.take (h : Loaded s) (room : Nat) : Loaded (s.take room).object := by
  cases hEmpty : s.ring.isEmpty with
  | true =>
    rw [take_of_isEmpty hEmpty]
    exact h
  | false =>
    obtain ⟨_, _, hObject⟩ := (s.drained room).object_wakeAtTrigger
    rw [take_of_not_isEmpty hEmpty]
    intro hFlushed
    rw [hObject] at hFlushed
    cases hFlushed

theorem loaded_turn (h : Loaded s) {o : Outcome ByteStream (Round Call Deed)}
    (hTurn : Turn t s side o) : Loaded o.object := by
  cases hTurn with
  | sent => exact Loaded.put (s := s.dropSender t) h _
  | received => exact Loaded.take (s := s.dropReceiver t) h _
  | refused | joinedSenders | crowdedSenders | gaveUpSending | joinedReceivers | crowdedReceivers
  | gaveUpReceiving => exact h

theorem loaded_deal (h : Loaded s) {o : Outcome ByteStream (Option Deed)} (hDeal : Deal s o) :
    Loaded o.object := by
  cases hDeal with
  | sent => exact h.put _
  | received => exact h.take _
  | flushed hSome =>
    intro _ hNone
    have hEmpty : s.ring.isEmpty = true := isEmpty_iff.mpr hNone
    rw [hSome] at hEmpty
    cases hEmpty
  | reset => exact nofun
  | @triggerSet level =>
    obtain ⟨_, _, hObject⟩ := ({ s with trigger := max level 1 } : ByteStream).object_wakeAtTrigger
    show Loaded ({ s with trigger := max level 1 } : ByteStream).wakeAtTrigger.object
    rw [hObject]
    exact h
  | refused | full | pendingSend | pendingReceive | noRoom | empty | flushedNothing | closed
  | triggerRefused => exact h

theorem Loaded.step {w : World} (h : Loaded w.object) (m : Move) :
    Loaded (w.step protocol m).object := by
  have hStepped := w.stepped_step protocol m
  generalize w.step protocol m = w' at hStepped ⊢
  cases hStepped with
  | idle | abandoned => exact h
  | @started t now r =>
    rcases turn_start r w.object now t with hTurn | ⟨wait, hStill⟩
    · exact loaded_turn h hTurn
    · rw [hStill]
      exact h
  | @resumed t now sleep => exact loaded_turn h (turn_round sleep.call w.object now t)
  | @acted a => exact loaded_deal h (deal_act a w.object)

-- ---------------------------------------------------------------------------
-- Polls
-- ---------------------------------------------------------------------------

theorem parked_of_poll {f : Future} (hPos : 1 ≤ s.trigger) (hLoaded : Loaded s)
    (hVain : (protocol.act (Pollable.poll f v) s).answer = none) :
    (Pollable.parked f s).Parked v (protocol.act (Pollable.poll f v) s).object := by
  cases f with
  | send data =>
    have hVain : (s.pollSend data v).answer = none := Option.map_eq_none_iff.mp hVain
    show LacksSpace _ _ (s.pollSend data v).object
    rw [pollSend] at hVain ⊢
    by_cases hClosed : s.closed = true
    · rw [if_pos hClosed] at hVain
      cases hVain
    rw [if_neg hClosed] at hVain ⊢
    by_cases hShort : s.space < s.needed data.length
    · rw [if_pos hShort]
      exact ⟨Bool.eq_false_iff.mpr hClosed, hShort, s.senderWakers.mem_register v⟩
    · rw [if_neg hShort] at hVain
      cases hVain
  | receive room again =>
    have hVain : (s.pollReceive room again v).answer = none := Option.map_eq_none_iff.mp hVain
    show room ≠ 0 ∧ true = true ∧ LacksBytes v (s.pollReceive room again v).object
    rw [pollReceive] at hVain ⊢
    by_cases hRoom : room = 0
    · rw [if_pos hRoom] at hVain
      cases hVain
    rw [if_neg hRoom] at hVain ⊢
    by_cases hReady : s.readable again = true
    · rw [if_pos hReady] at hVain
      cases hVain
    rw [if_neg hReady]
    obtain ⟨hLow, hOpen, hNoFlush⟩ := not_readable hPos (Bool.eq_false_iff.mpr hReady)
    have hUnflushed : s.flushed = false :=
      Bool.eq_false_iff.mpr fun hFlushed => hLoaded hFlushed (hNoFlush hFlushed)
    exact ⟨hRoom, rfl, hOpen, hUnflushed, hLow, s.receiverWakers.mem_register v⟩

theorem LacksBytes.not_readable (h : LacksBytes v s) : s.readable true = false := by
  rw [readable, h.opened, h.unflushed, if_pos rfl, decide_eq_false (Nat.not_le.mpr h.low)]
  rfl

theorem pends_of_parked {f : Future} (h : f.Parked v s) (v' : WakerId) :
    (protocol.act (Pollable.poll f v') s).answer = none := by
  cases f with
  | send data =>
    show ((s.pollSend data v').map _).answer = none
    rw [pollSend, if_neg (Bool.eq_false_iff.mp h.opened), if_pos h.short]
    rfl
  | receive room again =>
    obtain ⟨hRoom, rfl, hLacks⟩ := h
    show ((s.pollReceive room true v').map _).answer = none
    rw [pollReceive, if_neg hRoom, if_neg (Bool.eq_false_iff.mp hLacks.not_readable)]
    rfl

-- ---------------------------------------------------------------------------
-- Transfers
-- ---------------------------------------------------------------------------

theorem LacksBytes.wakeAtTrigger (hOpen : s.closed = false) (hUnflushed : s.flushed = false)
    (hListed : v ∈ s.receiverWakers.wakers) : KeptOrCalled (LacksBytes v) v s.wakeAtTrigger := by
  rcases Nat.lt_or_ge s.available s.trigger with hLow | hReached
  · rw [wakeAtTrigger_of_low hLow]
    exact Or.inr ⟨hOpen, hUnflushed, hLow, hListed⟩
  · rw [wakeAtTrigger_of_reached hReached]
    exact Or.inl (List.mem_append_left _ (List.mem_map_of_mem hListed))

theorem LacksBytes.put (h : LacksBytes v s) (data : List UInt8) :
    KeptOrCalled (LacksBytes v) v (s.put data) := by
  by_cases hZero : (s.ring.write data).2 = 0
  · rw [put_of_zero hZero]
    have hLength : (s.ring.write data).1.length = s.ring.length := by
      rw [ByteRing.written_write] at hZero
      rw [ByteRing.length_write, hZero, Nat.add_zero]
    exact Or.inr ⟨h.opened, h.unflushed, hLength.trans_lt h.low, h.listed⟩
  · rw [put_of_ne_zero hZero]
    exact LacksBytes.wakeAtTrigger (s := { s with ring := (s.ring.write data).1 }) h.opened
      h.unflushed h.listed

theorem LacksBytes.take (h : LacksBytes v s) (room : Nat) :
    KeptOrCalled (LacksBytes v) v (s.take room) := by
  cases hEmpty : s.ring.isEmpty with
  | true =>
    rw [take_of_isEmpty hEmpty]
    exact Or.inr h
  | false =>
    rw [take_of_not_isEmpty hEmpty]
    refine (LacksBytes.wakeAtTrigger (s := s.drained room) h.opened rfl h.listed).imp_left ?_
    exact fun hCalled => List.mem_append_left _ (List.mem_append_right _ hCalled)

/-- Waking the receivers' side is nothing to the senders. -/
theorem LacksSpace.wakeAtTrigger (h : LacksSpace size v s) :
    LacksSpace size v s.wakeAtTrigger.object := by
  obtain ⟨_, _, hObject⟩ := s.object_wakeAtTrigger
  rw [hObject]
  exact ⟨h.opened, h.short, h.listed⟩

/-- Written bytes take more space away. -/
theorem LacksSpace.put (h : LacksSpace size v s) (data : List UInt8) :
    LacksSpace size v (s.put data).object := by
  have hShort : s.ring.capacity - s.ring.length < min size s.ring.capacity := h.short
  obtain ⟨_, _, hObject⟩ := s.object_put data
  rw [hObject]
  refine ⟨h.opened, ?_, h.listed⟩
  show (s.ring.write data).1.capacity - (s.ring.write data).1.length <
    min size (s.ring.write data).1.capacity
  rw [ByteRing.capacity_write, ByteRing.length_write]
  omega

theorem LacksSpace.take (h : LacksSpace size v s) (room : Nat) :
    KeptOrCalled (LacksSpace size v) v (s.take room) := by
  cases hEmpty : s.ring.isEmpty with
  | true =>
    rw [take_of_isEmpty hEmpty]
    exact Or.inr h
  | false =>
    rw [take_of_not_isEmpty hEmpty]
    left
    exact List.mem_append_left _ (List.mem_append_left _ (List.mem_map_of_mem h.listed))

-- ---------------------------------------------------------------------------
-- Steps
-- ---------------------------------------------------------------------------

theorem LacksSpace.turn (h : LacksSpace size v s) {o : Outcome ByteStream (Round Call Deed)}
    (hTurn : Turn t s side o) : KeptOrCalled (LacksSpace size v) v o := by
  have hDropped : LacksSpace size v (s.dropReceiver t) := ⟨h.opened, h.short, h.listed⟩
  have hDropped' : LacksSpace size v (s.dropSender t) := ⟨h.opened, h.short, h.listed⟩
  cases hTurn with
  | @sent data => exact Or.inr (hDropped'.put data)
  | @received room => exact hDropped.take room
  | refused | joinedSenders | crowdedSenders | gaveUpSending | joinedReceivers | crowdedReceivers
  | gaveUpReceiving => exact Or.inr ⟨h.opened, h.short, h.listed⟩

theorem LacksBytes.turn (h : LacksBytes v s) {o : Outcome ByteStream (Round Call Deed)}
    (hTurn : Turn t s side o) : KeptOrCalled (LacksBytes v) v o := by
  cases hTurn with
  | @sent data =>
    exact LacksBytes.put (s := s.dropSender t) ⟨h.opened, h.unflushed, h.low, h.listed⟩ data
  | @received room =>
    exact LacksBytes.take (s := s.dropReceiver t) ⟨h.opened, h.unflushed, h.low, h.listed⟩ room
  | refused | joinedSenders | crowdedSenders | gaveUpSending | joinedReceivers | crowdedReceivers
  | gaveUpReceiving => exact Or.inr ⟨h.opened, h.unflushed, h.low, h.listed⟩

theorem LacksSpace.deal (h : LacksSpace size v s) {o : Outcome ByteStream (Option Deed)}
    (hDeal : Deal s o) : KeptOrCalled (LacksSpace size v) v o := by
  cases hDeal with
  | sent => exact Or.inr (h.put _)
  | pendingSend _ hKept =>
    exact (hKept v h.listed).symm.imp_right fun hListed => ⟨h.opened, h.short, hListed⟩
  | received => exact h.take _
  | closed | reset =>
    left
    refine List.mem_append_left _ (List.mem_append_left _ (List.mem_append_right _ ?_))
    exact List.mem_map_of_mem h.listed
  | @triggerSet level =>
    have hSet : LacksSpace size v { s with trigger := max level 1 } := ⟨h.opened, h.short, h.listed⟩
    exact Or.inr hSet.wakeAtTrigger
  | refused | full | pendingReceive | noRoom | empty | flushedNothing | flushed
  | triggerRefused => exact Or.inr ⟨h.opened, h.short, h.listed⟩

theorem LacksBytes.deal (h : LacksBytes v s) {o : Outcome ByteStream (Option Deed)}
    (hDeal : Deal s o) : KeptOrCalled (LacksBytes v) v o := by
  cases hDeal with
  | sent => exact h.put _
  | pendingReceive _ hKept =>
    exact (hKept v h.listed).symm.imp_right fun hListed => ⟨h.opened, h.unflushed, h.low, hListed⟩
  | received => exact h.take _
  | flushed => exact Or.inl (List.mem_append_left _ (List.mem_map_of_mem h.listed))
  | closed | reset =>
    left
    refine List.mem_append_left _ (List.mem_append_left _ (List.mem_append_left _ ?_))
    exact List.mem_map_of_mem h.listed
  | @triggerSet level =>
    exact LacksBytes.wakeAtTrigger (s := { s with trigger := max level 1 }) h.opened h.unflushed
      h.listed
  | refused | full | pendingSend | noRoom | empty | flushedNothing | triggerRefused =>
    exact Or.inr ⟨h.opened, h.unflushed, h.low, h.listed⟩

theorem Future.Parked.turn {f : Future} (h : f.Parked v s)
    {o : Outcome ByteStream (Round Call Deed)} (hTurn : Turn t s side o) :
    KeptOrCalled (f.Parked v) v o := by
  cases f with
  | send data => exact LacksSpace.turn h hTurn
  | receive room again =>
    obtain ⟨hRoom, hAgain, hLacks⟩ := h
    exact (hLacks.turn hTurn).imp_right fun hStill => ⟨hRoom, hAgain, hStill⟩

theorem Future.Parked.deal {f : Future} (h : f.Parked v s)
    {o : Outcome ByteStream (Option Deed)} (hDeal : Deal s o) :
    KeptOrCalled (f.Parked v) v o := by
  cases f with
  | send data => exact LacksSpace.deal h hDeal
  | receive room again =>
    obtain ⟨hRoom, hAgain, hLacks⟩ := h
    exact (hLacks.deal hDeal).imp_right fun hStill => ⟨hRoom, hAgain, hStill⟩

/-- A stream loses no waker. -/
theorem parking :
    Parking protocol (fun w => Poised w ∧ Loaded w.object) Future.Parked where
  keeps _ m h := ⟨h.1.step m, h.2.step m⟩
  parks _ _ _ h hVain := parked_of_poll h.1.trigger_pos h.2 hVain
  starts := by
    intro w f v r now t _ hParked
    rcases turn_start r w.object now t with hTurn | ⟨wait, hStill⟩
    · exact hParked.turn hTurn
    · rw [hStill]
      exact Or.inr hParked
  resumes _ _ _ s now t _ _ hParked := hParked.turn (turn_round s.call _ now t)
  acts _ _ _ a _ hParked := hParked.deal (deal_act a _)
  pends _ _ _ v' _ hParked := pends_of_parked hParked v'

end ByteStream

end TaskSync
