import TaskSync.Proofs.Queue.Fifo
import TaskSync.Proofs.Runs.Executor

/-!
# TaskSync — asynchronous operations on a queue

A pending operation has left its waker in the set of its side (`Queue.wakers`),
and there is nothing for that side: no free slot, or no item. A transfer from
the other side, which alone can change this, calls the whole set.

* `Queue.parking` — so a queue loses no waker (`TaskSync.Parking`).
-/

namespace TaskSync

namespace Queue

/-- An asynchronous operation on a queue. -/
inductive Future
  | send (item : List UInt8)
  /-- A receive into a buffer of `size` bytes. -/
  | receive (size : Nat)

instance : Pollable Future Queue Act where
  poll
    | .send item, waker => .pollSend item waker
    | .receive size, waker => .pollReceive size waker
  parked f _ := f

/-- The wakers on a side. -/
def wakers (q : Queue) : Side → WakerSet
  | .sending => q.senderWakers
  | .receiving => q.receiverWakers

/-- There is nothing for a side. -/
def Stalled (q : Queue) : Side → Prop
  | .sending => q.count = q.capacity
  | .receiving => q.count = 0

/-- The side of an operation. -/
def Future.side : Future → Side
  | .send _ => .sending
  | .receive _ => .receiving

/-- The operation's buffer is of the queue's item size. -/
def Future.Fits (q : Queue) : Future → Prop
  | .send item => item.length = q.itemSize
  | .receive size => size = q.itemSize

/-- The operation waits at the queue with its waker. -/
structure Future.Parked (f : Future) (v : WakerId) (q : Queue) : Prop where
  fits : f.Fits q
  stalled : q.Stalled f.side
  listed : v ∈ (q.wakers f.side).wakers

variable {q q' : Queue} {f : Future} {v : WakerId} {side : Side} {t : TaskId}

theorem Future.Fits.of_itemSize_eq (h : f.Fits q) (hSize : q'.itemSize = q.itemSize) :
    f.Fits q' := by
  cases f with
  | send item => exact Eq.trans h hSize.symm
  | receive size => exact Eq.trans h hSize.symm

theorem Future.Parked.of_same (h : f.Parked v q) (hSize : q'.itemSize = q.itemSize)
    (hStalled : q'.Stalled f.side) (hWakers : q'.wakers f.side = q.wakers f.side) :
    f.Parked v q' :=
  ⟨h.fits.of_itemSize_eq hSize, hStalled, hWakers ▸ h.listed⟩

-- ---------------------------------------------------------------------------
-- Polls
-- ---------------------------------------------------------------------------

theorem parked_of_poll
    (hVain : (protocol.act (Pollable.poll f v) q).answer = none) :
    f.Parked v (protocol.act (Pollable.poll f v) q).object := by
  cases f with
  | send item =>
    have hVain : (q.pollSend item v).answer = none := Option.map_eq_none_iff.mp hVain
    show Future.Parked _ _ (q.pollSend item v).object
    rw [pollSend] at hVain ⊢
    by_cases hItem : item.length = q.itemSize
    · rw [checkSize_of_eq hItem] at hVain ⊢
      by_cases hFull : q.isFull = true
      · rw [if_pos hFull]
        exact ⟨hItem, isFull_iff.mp hFull, q.senderWakers.mem_register v⟩
      · rw [if_neg hFull] at hVain
        cases hVain
    · rw [checkSize_of_ne hItem] at hVain
      cases hVain
  | receive size =>
    have hVain : (q.pollReceive size v).answer = none := Option.map_eq_none_iff.mp hVain
    show Future.Parked _ _ (q.pollReceive size v).object
    rw [pollReceive] at hVain ⊢
    by_cases hSize : size = q.itemSize
    · rw [checkSize_of_eq hSize] at hVain ⊢
      by_cases hEmpty : q.isEmpty = true
      · rw [if_pos hEmpty]
        exact ⟨hSize, isEmpty_iff.mp hEmpty, q.receiverWakers.mem_register v⟩
      · rw [if_neg hEmpty] at hVain
        cases hVain
    · rw [checkSize_of_ne hSize] at hVain
      cases hVain

theorem Future.Parked.pends (h : f.Parked v q) (v' : WakerId) :
    (protocol.act (Pollable.poll f v') q).answer = none := by
  cases f with
  | send item =>
    show ((q.pollSend item v').map _).answer = none
    rw [pollSend, checkSize_of_eq h.fits, if_pos (isFull_iff.mpr h.stalled)]
    rfl
  | receive size =>
    show ((q.pollReceive size v').map _).answer = none
    rw [pollReceive, checkSize_of_eq h.fits, if_pos (isEmpty_iff.mpr h.stalled)]
    rfl

-- ---------------------------------------------------------------------------
-- Steps
-- ---------------------------------------------------------------------------

/-- Appending an item calls the receivers' wakers, if there was room for it. -/
theorem Future.Parked.push (h : f.Parked v q) (hRoom : q.count ≠ q.capacity)
    (item : List UInt8) : .waker v ∈ (q.push item).notices := by
  cases f with
  | send _ => exact absurd h.stalled hRoom
  | receive _ => exact List.mem_append_left _ (List.mem_map_of_mem h.listed)

theorem Future.Parked.pop (h : f.Parked v q) (hSome : q.count ≠ 0) :
    .waker v ∈ q.pop.notices := by
  cases f with
  | send _ => exact List.mem_append_left _ (List.mem_map_of_mem h.listed)
  | receive _ => exact absurd h.stalled hSome

theorem Future.Parked.turn (h : f.Parked v q) {o : Outcome Queue (Round Call Deed)}
    (hTurn : Turn t q side o) : KeptOrCalled (f.Parked v) v o := by
  have hSame : ∀ senders receivers, f.Parked v { q with senders, receivers } := by
    intro _ _
    cases f with
    | send _ | receive _ => exact ⟨h.fits, h.stalled, h.listed⟩
  cases hTurn with
  | @sent item _ hRoom => exact Or.inl ((hSame (q.senders.remove t) q.receivers).push hRoom item)
  | received _ hSome => exact Or.inl ((hSame q.senders (q.receivers.remove t)).pop hSome)
  | joinedSenders | joinedReceivers | crowded | gaveUpSending | gaveUpReceiving =>
    exact Or.inr (hSame _ _)

/-- A poll in vain puts its waker into a set, or calls the set to make room. -/
theorem Future.Parked.pending (h : f.Parked v q) (side : Side) {set : WakerSet}
    {called : List Notice} (hWakers : q'.wakers side = set)
    (hOther : q'.wakers side.other = q.wakers side.other) (hSize : q'.itemSize = q.itemSize)
    (hStalled : q'.Stalled f.side)
    (hKept : ∀ u ∈ (q.wakers side).wakers, u ∈ set.wakers ∨ .waker u ∈ called) :
    .waker v ∈ called ∨ f.Parked v q' := by
  rcases side.eq_or_eq_other f.side with hSide | hSide
  · have hListed := h.listed
    rw [hSide] at hListed
    rcases hKept v hListed with hIn | hCalled
    · refine Or.inr ⟨h.fits.of_itemSize_eq hSize, hStalled, ?_⟩
      rw [hSide, hWakers]
      exact hIn
    · exact Or.inl hCalled
  · right
    rw [← hSide] at hOther
    exact h.of_same hSize hStalled hOther

theorem Future.Parked.deal (h : f.Parked v q) (hPos : 0 < q.capacity)
    {o : Outcome Queue (Option Deed)} (hDeal : Deal q o) : KeptOrCalled (f.Parked v) v o := by
  have hStalled : ∀ senderWakers receiverWakers,
      Stalled { q with senderWakers, receiverWakers } f.side := by
    intro _ _
    cases f with
    | send _ | receive _ => exact h.stalled
  cases hDeal with
  | misfit | full | empty => exact Or.inr h
  | pendingSend _ _ hKept =>
    exact h.pending .sending rfl rfl rfl (hStalled _ _) hKept
  | pendingReceive _ _ hKept =>
    exact h.pending .receiving rfl rfl rfl (hStalled _ _) hKept
  | @sent item _ hRoom | @appended item _ hRoom => exact Or.inl (h.push hRoom item)
  | received _ hSome => exact Or.inl (h.pop hSome)
  | replaced _ hFull =>
    -- the queue stays full, and the receivers are called
    cases f with
    | send item =>
      refine Or.inr ⟨h.fits, ?_, h.listed⟩
      show q.count - 1 + 1 = q.capacity
      omega
    | receive size => exact Or.inl (List.mem_append_left _ (List.mem_map_of_mem h.listed))

/-- A queue loses no waker. -/
theorem parking (capacity size : Nat) :
    Parking protocol (Sound capacity size) Future.Parked where
  keeps _ m h := h.step m
  parks _ _ _ _ hVain := parked_of_poll hVain
  starts := by
    intro w f v r now t _ hParked
    have hTurn := turn_start r now t w.object
    generalize protocol.start r now t w.object = o at hTurn ⊢
    rcases hTurn with hTurn | ⟨d, -, rfl⟩
    · exact hParked.turn hTurn
    · exact Or.inr hParked
  resumes _ _ _ s now t hSound hAsleep hParked :=
    hParked.turn (turn_round (hSound.fits t s hAsleep) now t)
  acts _ _ _ a hSound hParked :=
    hParked.deal (hSound.capacity_eq ▸ hSound.positive) (deal_act a _)
  pends _ _ _ v' _ hParked := hParked.pends v'

end Queue

end TaskSync
