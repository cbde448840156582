import TaskSync.Proofs.Runs.Rounds
import TaskSync.Proofs.Runs.Sides
import TaskSync.Queue.Calls

/-!
# TaskSync — runs of a queue

The operations on a queue, and how the queue answers them (`Queue.protocol`).
A blocking operation checks the size of its buffer before it looks at the
queue; a call that sleeps has passed that check (`Queue.Call.Fits`).

All that a look of a task can come to is a `Queue.Turn`, of one of two sides
(`Side`): senders, who wait for free slots, and receivers, who wait for
items. All that a step that does not wait can come to is a `Queue.Deal`.
`Queue.turn_start`, `Queue.turn_round` and `Queue.deal_act` say so once for all
proofs.
-/

namespace TaskSync

namespace Queue

/-- An operation on a queue that may have to wait. -/
inductive Request
  | send (item : List UInt8) (wait : Ticks)
  /-- A receive into a buffer of `size` bytes. -/
  | receive (size : Nat) (wait : Ticks)

/-- A blocking call on a queue. -/
inductive Call
  | sending (w : Waiting Send)
  | receiving (size : Nat) (w : Waiting Receive)

/-- An operation on a queue that never waits. -/
inductive Act
  | pollSend (item : List UInt8) (waker : WakerId)
  | pollReceive (size : Nat) (waker : WakerId)
  | sendNow (item : List UInt8)
  | sendOverwriting (item : List UInt8)
  | receiveNow (size : Nat)

/-- An operation on a queue that has ended, with its answer. -/
inductive Deed
  | sent (item : List UInt8) (answer : Except QueueError Unit)
  | overwrote (item : List UInt8) (answer : Except QueueError Bool)
  | received (size : Nat) (answer : Except QueueError (List UInt8))

/-- The next round of a blocking call. -/
def Call.round (now : Ticks) (task : TaskId) (q : Queue) :
    Call → Outcome Queue (Round Call Deed)
  | .sending w => (w.round now task q).map (.map .sending (.sent w.request.item))
  | .receiving size w => (w.round now task q).map (.map (.receiving size) (.received size))

/-- The first look of a blocking operation. -/
def Request.start (now : Ticks) (task : TaskId) (q : Queue) :
    Request → Outcome Queue (Round Call Deed)
  | .send item wait =>
    match q.checkSize item.length with
    | .error e => .still q (.finished (.sent item (.error e)))
    | .ok () => (Call.sending (.start ⟨item⟩ wait now)).round now task q
  | .receive size wait =>
    match q.checkSize size with
    | .error e => .still q (.finished (.received size (.error e)))
    | .ok () => (Call.receiving size (.start {} wait now)).round now task q

/-- An operation that never waits. -/
def Act.perform (q : Queue) : Act → Outcome Queue (Option Deed)
  | .pollSend item waker => (q.pollSend item waker).map fun answer => answer.map (.sent item)
  | .pollReceive size waker =>
    (q.pollReceive size waker).map fun answer => answer.map (.received size)
  | .sendNow item => (q.sendNow item).map fun answer => some (.sent item answer)
  | .sendOverwriting item =>
    (q.sendOverwriting item).map fun answer => some (.overwrote item answer)
  | .receiveNow size => (q.receiveNow size).map fun answer => some (.received size answer)

/-- How a queue answers. -/
def protocol : Protocol Queue Request Call Act Deed where
  start r now task q := r.start now task q
  resume k now task q := k.round now task q
  act a q := a.perform q

/-- A queue in use. -/
abbrev World := TaskSync.World Queue Call Deed

/-- A move in a run of a queue. -/
abbrev Move := TaskSync.Move Request Act

/-- A queue that nobody has used before, after some moves. -/
def after (q : Queue) (moves : List Move) : World :=
  TaskSync.World.run protocol (.fresh q) moves

theorem after_induction {I : World → Prop} {q : Queue} {moves : List Move}
    (hStep : ∀ w m, m ∈ moves → I w → I (w.step protocol m)) (hStart : I (.fresh q)) :
    I (q.after moves) := TaskSync.World.run_induction hStep hStart

instance : Sided Call where
  side
    | .sending _ => .sending
    | .receiving .. => .receiving

/-- The tasks blocked on a side. -/
def line (q : Queue) : Side → WaitList
  | .sending => q.senders
  | .receiving => q.receivers

/-- How much there is for a side: free slots for the senders, items for the receivers. -/
def units (q : Queue) : Side → Nat
  | .sending => q.space
  | .receiving => q.count

/-- The call's buffer is of the queue's item size. -/
def Call.Fits (q : Queue) : Call → Prop
  | .sending w => w.request.item.length = q.itemSize
  | .receiving size _ => size = q.itemSize

/-- A new queue is empty, and nobody waits at it. -/
theorem created_of_ok {allocator : Allocator} {capacity size : Nat} {q : Queue}
    (hCreate : create allocator capacity size = .ok q) :
    0 < capacity ∧ ∃ ring, ByteRing.create allocator (capacity * size) = .ok ring ∧
      q = { ring, count := 0, capacity, itemSize := size, receivers := .empty, senders := .empty,
            receiverWakers := .empty, senderWakers := .empty } := by
  unfold create at hCreate
  split at hCreate
  · cases hCreate
  rename_i hPos
  split at hCreate
  · cases hCreate
  split at hCreate
  · cases hCreate
  · rename_i ring hRing
    exact ⟨Nat.pos_of_ne_zero hPos, ring, hRing, (Except.ok.inj hCreate).symm⟩

-- ---------------------------------------------------------------------------
-- What a look comes to
-- ---------------------------------------------------------------------------

/-- An operation refused because its buffer is not of the item size. -/
inductive Misfit (itemSize : Nat) : Deed → Prop
  | sent {item : List UInt8} :
      item.length ≠ itemSize → Misfit itemSize (.sent item (.error .itemSize))
  | overwrote {item : List UInt8} :
      item.length ≠ itemSize → Misfit itemSize (.overwrote item (.error .itemSize))
  | received {size : Nat} :
      size ≠ itemSize → Misfit itemSize (.received size (.error .itemSize))

/-- All that a round of a call at a queue can come to, by the side of the call. -/
inductive Turn (t : TaskId) (q : Queue) : Side → Outcome Queue (Round Call Deed) → Prop
  | sent {item : List UInt8} :
      item.length = q.itemSize → q.count ≠ q.capacity →
      Turn t q .sending (({ q with senders := q.senders.remove t }.push item).map
        fun _ => .finished (.sent item (.ok ())))
  | received {size : Nat} :
      size = q.itemSize → q.count ≠ 0 →
      Turn t q .receiving ({ q with receivers := q.receivers.remove t }.pop.map
        fun item => .finished (.received size (.ok item)))
  | joinedSenders {k : Call} {limit : Option Ticks} {senders : WaitList} :
      Sided.side k = .sending → k.Fits q → q.count = q.capacity →
      q.senders.register t = some senders →
      Turn t q .sending (.still { q with senders } (.suspended k limit))
  | joinedReceivers {k : Call} {limit : Option Ticks} {receivers : WaitList} :
      Sided.side k = .receiving → k.Fits q → q.count = 0 →
      q.receivers.register t = some receivers →
      Turn t q .receiving (.still { q with receivers } (.suspended k limit))
  /-- The line is full and the task not in it. -/
  | crowded {side : Side} {k : Call} :
      Sided.side k = side → k.Fits q → q.units side = 0 → t ∉ (q.line side).tasks →
      WaitList.limit ≤ (q.line side).size →
      Turn t q side (.still q (.suspended k (some 1)))
  | gaveUpSending {item : List UInt8} {e : QueueError} :
      item.length = q.itemSize → q.count = q.capacity → (e = .full ∨ e = .timeout) →
      Turn t q .sending (.still { q with senders := q.senders.remove t }
        (.finished (.sent item (.error e))))
  | gaveUpReceiving {size : Nat} {e : QueueError} :
      size = q.itemSize → q.count = 0 → (e = .empty ∨ e = .timeout) →
      Turn t q .receiving (.still { q with receivers := q.receivers.remove t }
        (.finished (.received size (.error e))))

theorem checkSize_of_eq {q : Queue} {size : Nat} (h : size = q.itemSize) :
    q.checkSize size = .ok () := if_pos h

theorem checkSize_of_ne {q : Queue} {size : Nat} (h : size ≠ q.itemSize) :
    q.checkSize size = .error .itemSize := if_neg h

theorem isFull_iff {q : Queue} : q.isFull = true ↔ q.count = q.capacity := by simp [isFull]

theorem isEmpty_iff {q : Queue} : q.isEmpty = true ↔ q.count = 0 := by simp [isEmpty]

theorem space_of_full {q : Queue} (h : q.count = q.capacity) : q.space = 0 := by
  unfold space
  omega

theorem serve_send_eq_none_iff {r : Send} {look : Look} {q : Queue} :
    Blocks.serve r look q = none ↔ q.count = q.capacity := by
  simp [Blocks.serve, isFull_iff]

theorem serve_send_eq_some_iff {r : Send} {look : Look} {q : Queue}
    {o : Outcome Queue (Except QueueError Unit)} :
    Blocks.serve r look q = some o ↔ q.count ≠ q.capacity ∧
      ({ q with senders := q.senders.remove look.task }.push r.item).map .ok = o := by
  simp [Blocks.serve, isFull_iff]

theorem serve_receive_eq_none_iff {r : Receive} {look : Look} {q : Queue} :
    Blocks.serve r look q = none ↔ q.count = 0 := by
  simp [Blocks.serve, isEmpty_iff]

theorem serve_receive_eq_some_iff {r : Receive} {look : Look} {q : Queue}
    {o : Outcome Queue (Except QueueError (List UInt8))} :
    Blocks.serve r look q = some o ↔ q.count ≠ 0 ∧
      { q with receivers := q.receivers.remove look.task }.pop.map .ok = o := by
  simp [Blocks.serve, isEmpty_iff]

/-- A call that gives up says whether it had been willing to wait. -/
theorem expired_eq {e : QueueError} (wait : Ticks) :
    (if wait = 0 then e else .timeout) = e ∨ (if wait = 0 then e else .timeout) = .timeout := by
  split
  · exact Or.inl rfl
  · exact Or.inr rfl

theorem turn_round {k : Call} {q : Queue} (hFits : k.Fits q) (now : Ticks) (t : TaskId) :
    Turn t q (Sided.side k) (protocol.resume k now t q) := by
  cases k with
  | sending w =>
    have hComes := w.comes_round now t q
    show Turn t q .sending ((w.round now t q).map _)
    generalize w.round now t q = o at hComes ⊢
    cases hComes with
    | served hServe =>
      obtain ⟨hRoom, rfl⟩ := serve_send_eq_some_iff.mp hServe
      exact .sent hFits hRoom
    | joined hServe hOver hJoin =>
      obtain ⟨senders, hReg, rfl⟩ := Option.map_eq_some_iff.mp hJoin
      exact .joinedSenders rfl hFits (serve_send_eq_none_iff.mp hServe) hReg
    | crowded hServe hOver hJoin =>
      have hOut := WaitList.register_eq_none_iff.mp (Option.map_eq_none_iff.mp hJoin)
      exact .crowded rfl hFits (space_of_full (serve_send_eq_none_iff.mp hServe)) hOut.1 hOut.2
    | gaveUp hServe hOver =>
      exact .gaveUpSending hFits (serve_send_eq_none_iff.mp hServe) (expired_eq _)
  | receiving size w =>
    have hComes := w.comes_round now t q
    show Turn t q .receiving ((w.round now t q).map _)
    generalize w.round now t q = o at hComes ⊢
    cases hComes with
    | served hServe =>
      obtain ⟨hSome, rfl⟩ := serve_receive_eq_some_iff.mp hServe
      exact .received hFits hSome
    | joined hServe hOver hJoin =>
      obtain ⟨receivers, hReg, rfl⟩ := Option.map_eq_some_iff.mp hJoin
      exact .joinedReceivers rfl hFits (serve_receive_eq_none_iff.mp hServe) hReg
    | crowded hServe hOver hJoin =>
      have hOut := WaitList.register_eq_none_iff.mp (Option.map_eq_none_iff.mp hJoin)
      exact .crowded rfl hFits (serve_receive_eq_none_iff.mp hServe) hOut.1 hOut.2
    | gaveUp hServe hOver =>
      exact .gaveUpReceiving hFits (serve_receive_eq_none_iff.mp hServe) (expired_eq _)

theorem Turn.fits {t : TaskId} {q : Queue} {side : Side} {o : Outcome Queue (Round Call Deed)}
    (hTurn : Turn t q side o) {s : Sleep Call} (hSleep : o.answer.sleep? = some s) :
    s.call.Fits q := by
  cases hTurn with
  | joinedSenders _ hFits | joinedReceivers _ hFits | crowded _ hFits =>
    obtain rfl := Option.some.inj hSleep
    exact hFits
  | _ => cases hSleep

theorem Call.Fits.of_itemSize_eq {k : Call} {q q' : Queue} (h : k.Fits q)
    (hSize : q'.itemSize = q.itemSize) : k.Fits q' := by
  cases k with
  | sending w => exact Eq.trans h hSize.symm
  | receiving size w => exact Eq.trans h hSize.symm

/-- The side of an operation. -/
def Request.side : Request → Side
  | .send .. => .sending
  | .receive .. => .receiving

/-- The first look is a round of the call, unless the buffer is refused. -/
theorem turn_start (r : Request) (now : Ticks) (t : TaskId) (q : Queue) :
    Turn t q r.side (protocol.start r now t q) ∨
      ∃ d, Misfit q.itemSize d ∧ protocol.start r now t q = .still q (.finished d) := by
  show Turn t q r.side (r.start now t q) ∨
    ∃ d, Misfit q.itemSize d ∧ r.start now t q = .still q (.finished d)
  cases r with
  | send item wait =>
    by_cases hSize : item.length = q.itemSize
    · left
      rw [Request.start, checkSize_of_eq hSize]
      exact turn_round (k := .sending (.start ⟨item⟩ wait now)) hSize now t
    · right
      rw [Request.start, checkSize_of_ne hSize]
      exact ⟨_, .sent hSize, rfl⟩
  | receive size wait =>
    by_cases hSize : size = q.itemSize
    · left
      rw [Request.start, checkSize_of_eq hSize]
      exact turn_round (k := .receiving size (.start {} wait now)) hSize now t
    · right
      rw [Request.start, checkSize_of_ne hSize]
      exact ⟨_, .received hSize, rfl⟩

-- ---------------------------------------------------------------------------
-- What a step that does not wait comes to
-- ---------------------------------------------------------------------------

/-- All that a step that does not wait can come to. -/
inductive Deal (q : Queue) : Outcome Queue (Option Deed) → Prop
  | misfit {d : Deed} : Misfit q.itemSize d → Deal q (.still q (some d))
  | full {item : List UInt8} :
      item.length = q.itemSize → q.count = q.capacity →
      Deal q (.still q (some (.sent item (.error .full))))
  | empty {size : Nat} :
      size = q.itemSize → q.count = 0 → Deal q (.still q (some (.received size (.error .empty))))
  /-- A poll in vain; the wakers called to make room are no tasks. -/
  | pendingSend {senderWakers : WakerSet} {called : List Notice} :
      q.count = q.capacity → called.filterMap Notice.task? = [] →
      (∀ v ∈ q.senderWakers.wakers, v ∈ senderWakers.wakers ∨ .waker v ∈ called) →
      Deal q ⟨{ q with senderWakers }, called, none⟩
  | pendingReceive {receiverWakers : WakerSet} {called : List Notice} :
      q.count = 0 → called.filterMap Notice.task? = [] →
      (∀ v ∈ q.receiverWakers.wakers, v ∈ receiverWakers.wakers ∨ .waker v ∈ called) →
      Deal q ⟨{ q with receiverWakers }, called, none⟩
  | sent {item : List UInt8} :
      item.length = q.itemSize → q.count ≠ q.capacity →
      Deal q ((q.push item).map fun _ => some (.sent item (.ok ())))
  | appended {item : List UInt8} :
      item.length = q.itemSize → q.count ≠ q.capacity →
      Deal q ((q.push item).map fun _ => some (.overwrote item (.ok false)))
  | replaced {item : List UInt8} :
      item.length = q.itemSize → q.count = q.capacity →
      Deal q ((q.dropOldest.push item).map fun _ => some (.overwrote item (.ok true)))
  | received {size : Nat} :
      size = q.itemSize → q.count ≠ 0 →
      Deal q (q.pop.map fun item => some (.received size (.ok item)))

theorem deal_act (a : Act) (q : Queue) : Deal q (protocol.act a q) := by
  show Deal q (a.perform q)
  cases a with
  | pollSend item waker =>
    rw [Act.perform, pollSend]
    by_cases hItem : item.length = q.itemSize
    · rw [checkSize_of_eq hItem]
      by_cases hFull : q.count = q.capacity
      · rw [if_pos (isFull_iff.mpr hFull)]
        exact .pendingSend hFull (q.senderWakers.tasks_register waker) fun _ =>
          WakerSet.mem_or_called_of_register waker
      · rw [if_neg (fun hIs => hFull (isFull_iff.mp hIs))]
        exact .sent hItem hFull
    · rw [checkSize_of_ne hItem]
      exact .misfit (.sent hItem)
  | pollReceive size waker =>
    rw [Act.perform, pollReceive]
    by_cases hSize : size = q.itemSize
    · rw [checkSize_of_eq hSize]
      by_cases hNone : q.count = 0
      · rw [if_pos (isEmpty_iff.mpr hNone)]
        exact .pendingReceive hNone (q.receiverWakers.tasks_register waker) fun _ =>
          WakerSet.mem_or_called_of_register waker
      · rw [if_neg (fun hIs => hNone (isEmpty_iff.mp hIs))]
        exact .received hSize hNone
    · rw [checkSize_of_ne hSize]
      exact .misfit (.received hSize)
  | sendNow item =>
    rw [Act.perform, sendNow]
    by_cases hItem : item.length = q.itemSize
    · rw [checkSize_of_eq hItem]
      by_cases hFull : q.count = q.capacity
      · rw [if_pos (isFull_iff.mpr hFull)]
        exact .full hItem hFull
      · rw [if_neg (fun hIs => hFull (isFull_iff.mp hIs))]
        exact .sent hItem hFull
    · rw [checkSize_of_ne hItem]
      exact .misfit (.sent hItem)
  | sendOverwriting item =>
    rw [Act.perform, sendOverwriting]
    by_cases hItem : item.length = q.itemSize
    · rw [checkSize_of_eq hItem]
      by_cases hFull : q.count = q.capacity
      · simp only [isFull_iff.mpr hFull, if_true]
        exact .replaced hItem hFull
      · simp only [Bool.eq_false_iff.mpr fun hIs => hFull (isFull_iff.mp hIs)]
        exact .appended hItem hFull
    · rw [checkSize_of_ne hItem]
      exact .misfit (.overwrote hItem)
  | receiveNow size =>
    rw [Act.perform, receiveNow]
    by_cases hSize : size = q.itemSize
    · rw [checkSize_of_eq hSize]
      by_cases hNone : q.count = 0
      · rw [if_pos (isEmpty_iff.mpr hNone)]
        exact .empty hSize hNone
      · rw [if_neg (fun hIs => hNone (isEmpty_iff.mp hIs))]
        exact .received hSize hNone
    · rw [checkSize_of_ne hSize]
      exact .misfit (.received hSize)

end Queue

end TaskSync
