import TaskSync.Proofs.Runs.Rounds
import TaskSync.Proofs.Runs.Sides
import TaskSync.ByteStream.Calls

/-!
# TaskSync — runs of a byte stream

The operations on a stream, and how the stream answers them
(`ByteStream.protocol`). What an operation did is a `ByteStream.Deed`; for a
transfer it says in which manner it came about (`ByteStream.Manner`), since a
look at the end of a wait and an interrupt handler are content with less.

All that a round of a call can come to is a `ByteStream.Turn`; all that a step
that does not wait can come to is a `ByteStream.Deal`. `ByteStream.turn_start`,
`ByteStream.turn_round` and `ByteStream.deal_act` say so once for all proofs.
-/

namespace TaskSync

namespace ByteStream

/-- An operation on a stream that may have to wait. -/
inductive Request
  | send (data : List UInt8) (wait : Ticks)
  /-- A receive into a buffer of `room` bytes. -/
  | receive (room : Nat) (wait : Ticks)

/-- A blocking call on a stream. -/
inductive Call
  | sending (w : Waiting Send)
  | receiving (w : Waiting Receive)

/-- An operation on a stream that never waits. -/
inductive Act
  | pollSend (data : List UInt8) (waker : WakerId)
  /-- `again` if an earlier poll was in vain. -/
  | pollReceive (room : Nat) (again : Bool) (waker : WakerId)
  | sendNow (data : List UInt8)
  | receiveNow (room : Nat)
  | flush
  | close
  | reset
  | setTrigger (level : Nat)

/-- In which manner a transfer came about. -/
inductive Manner
  /-- At a look of a task that was willing to wait so long; `last` if the wait was over. -/
  | blocking (wait : Ticks) (last : Bool)
  | polled
  /-- In an interrupt handler. -/
  | deferring

/-- Whether a look is the last of its operation, served or not. -/
def Manner.last : Manner → Bool
  | .blocking _ last => last
  | .polled => false
  | .deferring => true

/-- An operation on a stream that has ended, with its answer. -/
inductive Deed
  | sent (data : List UInt8) (how : Manner) (answer : Except StreamError Nat)
  /-- `again` if an earlier look was in vain. -/
  | received (room : Nat) (again : Bool) (how : Manner) (answer : Except StreamError (List UInt8))
  | flushed
  | closed
  | reset
  | triggerSet (level : Nat) (answer : Except StreamError Unit)

/-- The manner of the next round of a call. -/
def mannerOf {ρ : Type} (w : Waiting ρ) (now : Ticks) : Manner :=
  .blocking w.deadline.wait (w.isOver now)

/-- The next round of a blocking call. -/
def Call.round (now : Ticks) (task : TaskId) (s : ByteStream) :
    Call → Outcome ByteStream (Round Call Deed)
  | .sending w =>
    (w.round now task s).map (.map .sending (.sent w.request.data (mannerOf w now)))
  | .receiving w =>
    (w.round now task s).map
      (.map .receiving (.received w.request.room w.again (mannerOf w now)))

/-- The first look of a blocking operation. A receive without room does not look. -/
def Request.start (now : Ticks) (task : TaskId) (s : ByteStream) :
    Request → Outcome ByteStream (Round Call Deed)
  | .send data wait => (Call.sending (.start ⟨data⟩ wait now)).round now task s
  | .receive room wait =>
    if room = 0 then .still s (.finished (.received room false (.blocking wait false) (.ok [])))
    else (Call.receiving (.start ⟨room⟩ wait now)).round now task s

/-- An operation that never waits. -/
def Act.perform (s : ByteStream) : Act → Outcome ByteStream (Option Deed)
  | .pollSend data waker =>
    (s.pollSend data waker).map fun answer => answer.map (.sent data .polled)
  | .pollReceive room again waker =>
    (s.pollReceive room again waker).map fun answer => answer.map (.received room again .polled)
  | .sendNow data => (s.sendNow data).map fun answer => some (.sent data .deferring answer)
  | .receiveNow room =>
    (s.receiveNow room).map fun answer => some (.received room false .deferring answer)
  | .flush =>
    match s.flush with
    | none => .still s (some .flushed)
    | some o => o.map fun _ => some .flushed
  | .close => s.close.map fun _ => some .closed
  | .reset => s.reset.map fun _ => some .reset
  | .setTrigger level => (s.setTrigger level).map fun answer => some (.triggerSet level answer)

/-- How a stream answers. -/
def protocol : Protocol ByteStream Request Call Act Deed where
  start r now task s := r.start now task s
  resume k now task s := k.round now task s
  act a s := a.perform s

/-- A stream in use. -/
abbrev World := TaskSync.World ByteStream Call Deed

/-- A move in a run of a stream. -/
abbrev Move := TaskSync.Move Request Act

/-- A stream that nobody has used before, after some moves. -/
def after (s : ByteStream) (moves : List Move) : World :=
  TaskSync.World.run protocol (.fresh s) moves

theorem after_induction {I : World → Prop} {s : ByteStream} {moves : List Move}
    (hStep : ∀ w m, m ∈ moves → I w → I (w.step protocol m)) (hStart : I (.fresh s)) :
    I (s.after moves) := TaskSync.World.run_induction hStep hStart

instance : Sided Call where
  side
    | .sending _ => .sending
    | .receiving _ => .receiving

/-- The side of an operation. -/
def Request.side : Request → Side
  | .send .. => .sending
  | .receive .. => .receiving

/-- A new stream is open and empty, and nobody waits at it. -/
theorem created_of_ok {allocator : Allocator} {capacity trigger : Nat} {s : ByteStream}
    (hCreate : create allocator capacity trigger = .ok s) :
    0 < capacity ∧ trigger ≤ capacity ∧ ∃ ring, ByteRing.create allocator capacity = .ok ring ∧
      s = { ring, trigger := max trigger 1, flushed := false, closed := false,
            receivers := .empty, senders := .empty,
            receiverWakers := .empty, senderWakers := .empty } := by
  unfold create at hCreate
  split at hCreate
  · cases hCreate
  rename_i hSizes
  split at hCreate
  · cases hCreate
  · rename_i ring hRing
    have hPos : 0 < capacity := by omega
    have hLe : trigger ≤ capacity := by omega
    exact ⟨hPos, hLe, ring, hRing, (Except.ok.inj hCreate).symm⟩

-- ---------------------------------------------------------------------------
-- What a transfer comes to
-- ---------------------------------------------------------------------------

section Transfers

variable {s : ByteStream} {data : List UInt8} {room : Nat}

theorem isEmpty_iff : s.ring.isEmpty = true ↔ s.available = 0 := by
  simp [ByteRing.isEmpty, available]

theorem wakeAtTrigger_of_low (h : s.available < s.trigger) : s.wakeAtTrigger = .still s () :=
  if_pos h

theorem wakeAtTrigger_of_reached (h : s.trigger ≤ s.available) :
    s.wakeAtTrigger =
      ⟨{ s with receivers := s.receivers.dropFirst, receiverWakers := .empty },
        s.receiverWakers.notices ++ s.receivers.firstNotice, ()⟩ := if_neg (Nat.not_lt.mpr h)

theorem tasks_wakeAtTrigger_of_reached (h : s.trigger ≤ s.available) :
    s.wakeAtTrigger.tasks = s.receivers.first?.toList := by
  rw [wakeAtTrigger_of_reached h]
  simp [Outcome.tasks]

/-- Waking the receivers' side changes that side at most. -/
theorem object_wakeAtTrigger (s : ByteStream) : ∃ receivers receiverWakers,
    s.wakeAtTrigger.object = { s with receivers, receiverWakers } := by
  unfold wakeAtTrigger
  split
  · exact ⟨_, _, rfl⟩
  · exact ⟨_, _, rfl⟩

theorem put_of_zero (h : (s.ring.write data).2 = 0) :
    s.put data = .still { s with ring := (s.ring.write data).1 } 0 := if_pos h

theorem put_of_ne_zero (h : (s.ring.write data).2 ≠ 0) :
    s.put data =
      { s with ring := (s.ring.write data).1 }.wakeAtTrigger.map fun _ => (s.ring.write data).2 :=
  if_neg h

/-- A put changes the bytes and the receivers' side at most. -/
theorem object_put (s : ByteStream) (data : List UInt8) : ∃ receivers receiverWakers,
    (s.put data).object = { s with ring := (s.ring.write data).1, receivers, receiverWakers } := by
  by_cases hZero : (s.ring.write data).2 = 0
  · rw [put_of_zero hZero]
    exact ⟨_, _, rfl⟩
  · rw [put_of_ne_zero hZero]
    exact object_wakeAtTrigger { s with ring := (s.ring.write data).1 }

/-- The stream after at most `room` bytes have been taken out, before anybody is woken. -/
def afterRead (s : ByteStream) (room : Nat) : ByteStream :=
  { s with ring := (s.ring.read room).2, flushed := false, senderWakers := .empty }

/-- The same with the senders off their list. -/
def drained (s : ByteStream) (room : Nat) : ByteStream :=
  { s.afterRead room with senders := .empty }

theorem take_of_isEmpty (h : s.ring.isEmpty = true) : s.take room = .still s (.error .closed) :=
  if_pos h

theorem take_of_not_isEmpty (h : s.ring.isEmpty = false) :
    s.take room =
      ⟨(s.drained room).wakeAtTrigger.object,
        s.senderWakers.notices ++ (s.drained room).wakeAtTrigger.notices ++ s.senders.notices,
        .ok (s.ring.read room).1⟩ := by
  have hTake : s.take room =
      ⟨{ (s.afterRead room).wakeAtTrigger.object with senders := .empty },
        s.senderWakers.notices ++ (s.afterRead room).wakeAtTrigger.notices ++ s.senders.notices,
        .ok (s.ring.read room).1⟩ := if_neg (Bool.eq_false_iff.mp h)
  rw [hTake]
  rcases Nat.lt_or_ge (s.afterRead room).available (s.afterRead room).trigger with
    hLow | hReached
  · have hLow' : (s.drained room).available < (s.drained room).trigger := hLow
    rw [wakeAtTrigger_of_low hLow, wakeAtTrigger_of_low hLow']
    rfl
  · have hReached' : (s.drained room).trigger ≤ (s.drained room).available := hReached
    rw [wakeAtTrigger_of_reached hReached, wakeAtTrigger_of_reached hReached']
    rfl

/-- A take calls all senders, and a receiver if the level is still reached. -/
theorem tasks_take_of_not_isEmpty (h : s.ring.isEmpty = false) :
    (s.take room).tasks = (s.drained room).wakeAtTrigger.tasks ++ s.senders.tasks := by
  rw [take_of_not_isEmpty h]
  simp [Outcome.tasks]

end Transfers

-- ---------------------------------------------------------------------------
-- What a look comes to
-- ---------------------------------------------------------------------------

/-- The stream without a task among those that wait to send. -/
def dropSender (s : ByteStream) (t : TaskId) : ByteStream :=
  { s with senders := s.senders.remove t }

/-- The stream without a task among those that wait to receive. -/
def dropReceiver (s : ByteStream) (t : TaskId) : ByteStream :=
  { s with receivers := s.receivers.remove t }

/-- All that a round of a call at a stream can come to, by the side of the call. -/
inductive Turn (t : TaskId) (s : ByteStream) :
    Side → Outcome ByteStream (Round Call Deed) → Prop
  | refused {data : List UInt8} {wait : Ticks} {last : Bool} :
      s.closed = true →
      Turn t s .sending (.still (s.dropSender t)
        (.finished (.sent data (.blocking wait last) (.error .closed))))
  | sent {data : List UInt8} {wait : Ticks} {last : Bool} :
      s.closed = false → (s.needed data.length ≤ s.space ∨ last = true ∧ 0 < s.space) →
      Turn t s .sending (((s.dropSender t).put data).map
        fun n => .finished (.sent data (.blocking wait last) (.ok n)))
  | joinedSenders {w : Waiting Send} {limit : Option Ticks} {senders : WaitList} :
      s.closed = false → s.space < s.needed w.request.data.length →
      s.senders.register t = some senders →
      Turn t s .sending (.still { s with senders } (.suspended (.sending w) limit))
  | crowdedSenders {w : Waiting Send} :
      s.closed = false → s.space < s.needed w.request.data.length → t ∉ s.senders.tasks →
      WaitList.limit ≤ s.senders.size →
      Turn t s .sending (.still s (.suspended (.sending w) (some 1)))
  | gaveUpSending {data : List UInt8} {wait : Ticks} :
      s.closed = false → s.space < s.needed data.length → s.space = 0 →
      Turn t s .sending (.still (s.dropSender t) (.finished
        (.sent data (.blocking wait true) (.error (if wait = 0 then .full else .timeout)))))
  | received {room : Nat} {wait : Ticks} {again last : Bool} :
      (s.readable again = true ∨ last = true ∧ s.ring.isEmpty = false) →
      Turn t s .receiving (((s.dropReceiver t).take room).map
        fun answer => .finished (.received room again (.blocking wait last) answer))
  | joinedReceivers {w : Waiting Receive} {again : Bool} {limit : Option Ticks}
      {receivers : WaitList} :
      s.readable again = false → s.receivers.register t = some receivers →
      Turn t s .receiving
        (.still { s with receivers } (.suspended (.receiving { w with again := true }) limit))
  | crowdedReceivers {w : Waiting Receive} {again : Bool} :
      s.readable again = false → t ∉ s.receivers.tasks → WaitList.limit ≤ s.receivers.size →
      Turn t s .receiving (.still s (.suspended (.receiving { w with again := true }) (some 1)))
  | gaveUpReceiving {room : Nat} {wait : Ticks} {again : Bool} :
      s.readable again = false → s.ring.isEmpty = true →
      Turn t s .receiving (.still (s.dropReceiver t) (.finished (.received room again
        (.blocking wait true) (.error (if wait = 0 then .empty else .timeout)))))

theorem serve_send_cases (r : Send) (look : Look) (s : ByteStream) :
    (s.closed = true ∧
      Blocks.serve r look s = some (.still (s.dropSender look.task) (.error .closed))) ∨
    (s.closed = false ∧ (s.needed r.data.length ≤ s.space ∨ look.last = true ∧ 0 < s.space) ∧
      Blocks.serve r look s = some (((s.dropSender look.task).put r.data).map .ok)) ∨
    (s.closed = false ∧ s.space < s.needed r.data.length ∧ (look.last = true → s.space = 0) ∧
      Blocks.serve r look s = none) := by
  cases hClosed : s.closed with
  | true => exact Or.inl ⟨rfl, if_pos hClosed⟩
  | false =>
    have hOpen : ¬s.closed = true := by simp [hClosed]
    by_cases hFits : s.needed r.data.length ≤ s.space ∨ look.last = true ∧ 0 < s.space
    · exact Or.inr (Or.inl ⟨rfl, hFits, (if_neg hOpen).trans (if_pos hFits)⟩)
    · have hShort : s.space < s.needed r.data.length :=
        Nat.lt_of_not_le fun hLe => hFits (Or.inl hLe)
      have hNone : look.last = true → s.space = 0 :=
        fun hLast => Nat.eq_zero_of_not_pos fun hPos => hFits (Or.inr ⟨hLast, hPos⟩)
      exact Or.inr (Or.inr ⟨rfl, hShort, hNone, (if_neg hOpen).trans (if_neg hFits)⟩)

theorem serve_receive_cases (r : Receive) (look : Look) (s : ByteStream) :
    ((s.readable look.again = true ∨ look.last = true ∧ s.ring.isEmpty = false) ∧
      Blocks.serve r look s = some ((s.dropReceiver look.task).take r.room)) ∨
    (s.readable look.again = false ∧ (look.last = true → s.ring.isEmpty = true) ∧
      Blocks.serve r look s = none) := by
  cases hReady : s.readable look.again || (look.last && !s.ring.isEmpty) with
  | true =>
    refine Or.inl ⟨?_, if_pos hReady⟩
    simpa using hReady
  | false =>
    have hNotReady : ¬(s.readable look.again || (look.last && !s.ring.isEmpty)) = true := by
      simp [hReady]
    rw [Bool.or_eq_false_iff] at hReady
    refine Or.inr ⟨hReady.1, ?_, if_neg hNotReady⟩
    intro hLast
    simpa [hLast] using hReady.2

/-- All that the next look of a blocking receive can come to. -/
inductive Reception (call : Waiting Receive) (now : Ticks) (t : TaskId) (s : ByteStream) :
    Outcome ByteStream (Round Call Deed) → Prop
  | taken :
      (s.readable call.again = true ∨ call.isOver now = true ∧ s.ring.isEmpty = false) →
      Reception call now t s (((s.dropReceiver t).take call.request.room).map fun answer =>
        .finished (.received call.request.room call.again (mannerOf call now) answer))
  | joined {limit : Option Ticks} {receivers : WaitList} :
      s.readable call.again = false → call.isOver now = false →
      s.receivers.register t = some receivers →
      Reception call now t s
        (.still { s with receivers } (.suspended (.receiving { call with again := true }) limit))
  | crowded :
      s.readable call.again = false → call.isOver now = false → t ∉ s.receivers.tasks →
      WaitList.limit ≤ s.receivers.size →
      Reception call now t s
        (.still s (.suspended (.receiving { call with again := true }) (some 1)))
  | gaveUp :
      s.readable call.again = false → call.isOver now = true → s.ring.isEmpty = true →
      Reception call now t s (.still (s.dropReceiver t) (.finished
        (.received call.request.room call.again (mannerOf call now)
          (.error (if call.deadline.wait = 0 then .empty else .timeout)))))

theorem reception_round (call : Waiting Receive) (s : ByteStream) (now : Ticks) (t : TaskId) :
    Reception call now t s (protocol.resume (.receiving call) now t s) := by
  have hComes := call.comes_round now t s
  show Reception call now t s ((call.round now t s).map _)
  generalize call.round now t s = o at hComes ⊢
  rcases serve_receive_cases call.request (call.look now t) s with
    ⟨hReady, hLook⟩ | ⟨hNotReady, hNone, hLook⟩
  · cases hComes with
    | served hServe =>
      obtain rfl := Option.some.inj (hLook.symm.trans hServe)
      exact .taken hReady
    | joined hServe | crowded hServe | gaveUp hServe => cases hLook.symm.trans hServe
  · cases hComes with
    | served hServe => cases hLook.symm.trans hServe
    | joined hServe hOver hJoin =>
      obtain ⟨receivers, hReg, rfl⟩ := Option.map_eq_some_iff.mp hJoin
      exact .joined hNotReady hOver hReg
    | crowded hServe hOver hJoin =>
      have hOut := WaitList.register_eq_none_iff.mp (Option.map_eq_none_iff.mp hJoin)
      exact .crowded hNotReady hOver hOut.1 hOut.2
    | gaveUp hServe hOver => exact .gaveUp hNotReady hOver (hNone hOver)

theorem turn_round (k : Call) (s : ByteStream) (now : Ticks) (t : TaskId) :
    Turn t s (Sided.side k) (protocol.resume k now t s) := by
  cases k with
  | sending w =>
    have hComes := w.comes_round now t s
    show Turn t s .sending ((w.round now t s).map _)
    generalize w.round now t s = o at hComes ⊢
    rcases serve_send_cases w.request (w.look now t) s with
      ⟨hClosed, hLook⟩ | ⟨hOpen, hFits, hLook⟩ | ⟨hOpen, hShort, hNone, hLook⟩
    · cases hComes with
      | served hServe =>
        obtain rfl := Option.some.inj (hLook.symm.trans hServe)
        exact .refused hClosed
      | joined hServe | crowded hServe | gaveUp hServe => cases hLook.symm.trans hServe
    · cases hComes with
      | served hServe =>
        obtain rfl := Option.some.inj (hLook.symm.trans hServe)
        exact .sent hOpen hFits
      | joined hServe | crowded hServe | gaveUp hServe => cases hLook.symm.trans hServe
    · cases hComes with
      | served hServe => cases hLook.symm.trans hServe
      | joined hServe hOver hJoin =>
        obtain ⟨senders, hReg, rfl⟩ := Option.map_eq_some_iff.mp hJoin
        exact .joinedSenders hOpen hShort hReg
      | crowded hServe hOver hJoin =>
        have hOut := WaitList.register_eq_none_iff.mp (Option.map_eq_none_iff.mp hJoin)
        exact .crowdedSenders hOpen hShort hOut.1 hOut.2
      | gaveUp hServe hOver =>
        show Turn t s .sending (.still (s.dropSender t) (.finished
          (.sent w.request.data (mannerOf w now) _)))
        rw [mannerOf, hOver]
        exact .gaveUpSending hOpen hShort (hNone hOver)
  | receiving w =>
    have hReception := reception_round w s now t
    show Turn t s .receiving (protocol.resume (.receiving w) now t s)
    generalize protocol.resume (.receiving w) now t s = o at hReception
    cases hReception with
    | taken hReady => exact .received hReady
    | joined hNotReady _ hReg => exact .joinedReceivers hNotReady hReg
    | crowded hNotReady _ hOut hFull => exact .crowdedReceivers hNotReady hOut hFull
    | gaveUp hNotReady hOver hEmpty =>
      rw [mannerOf, hOver]
      exact .gaveUpReceiving hNotReady hEmpty

/-- The first look is a round of the call, except for a receive without room. -/
theorem turn_start (r : Request) (s : ByteStream) (now : Ticks) (t : TaskId) :
    Turn t s r.side (protocol.start r now t s) ∨
      ∃ wait, protocol.start r now t s =
        .still s (.finished (.received 0 false (.blocking wait false) (.ok []))) := by
  cases r with
  | send data wait => exact Or.inl (turn_round (.sending (.start ⟨data⟩ wait now)) s now t)
  | receive room wait =>
    by_cases hRoom : room = 0
    · subst hRoom
      exact Or.inr ⟨wait, rfl⟩
    · left
      show Turn t s .receiving (Request.start now t s (.receive room wait))
      rw [Request.start, if_neg hRoom]
      exact turn_round (.receiving (.start ⟨room⟩ wait now)) s now t

-- ---------------------------------------------------------------------------
-- What a step that does not wait comes to
-- ---------------------------------------------------------------------------

/-- All that a step that does not wait can come to. -/
inductive Deal (s : ByteStream) : Outcome ByteStream (Option Deed) → Prop
  | refused {data : List UInt8} {how : Manner} :
      s.closed = true → Deal s (.still s (some (.sent data how (.error .closed))))
  | full {data : List UInt8} :
      s.closed = false → Deal s (.still s (some (.sent data .deferring (.error .full))))
  | sent {data : List UInt8} {how : Manner} :
      s.closed = false → (how = .polled ∧ s.needed data.length ≤ s.space ∨ how = .deferring) →
      Deal s ((s.put data).map fun n => some (.sent data how (.ok n)))
  /-- A poll in vain; the wakers called to make room are no tasks. -/
  | pendingSend {senderWakers : WakerSet} {called : List Notice} :
      called.filterMap Notice.task? = [] →
      (∀ v ∈ s.senderWakers.wakers, v ∈ senderWakers.wakers ∨ .waker v ∈ called) →
      Deal s ⟨{ s with senderWakers }, called, none⟩
  | pendingReceive {receiverWakers : WakerSet} {called : List Notice} :
      called.filterMap Notice.task? = [] →
      (∀ v ∈ s.receiverWakers.wakers, v ∈ receiverWakers.wakers ∨ .waker v ∈ called) →
      Deal s ⟨{ s with receiverWakers }, called, none⟩
  | noRoom {again : Bool} : Deal s (.still s (some (.received 0 again .polled (.ok []))))
  | received {room : Nat} {again : Bool} {how : Manner} :
      (how = .polled ∧ s.readable again = true ∨ how = .deferring ∧ s.ring.isEmpty = false) →
      Deal s ((s.take room).map fun answer => some (.received room again how answer))
  | empty {room : Nat} :
      s.ring.isEmpty = true →
      Deal s (.still s (some (.received room false .deferring
        (.error (if s.closed then .closed else .empty)))))
  | flushedNothing : s.ring.isEmpty = true → Deal s (.still s (some .flushed))
  | flushed :
      s.ring.isEmpty = false →
      Deal s ⟨{ s with flushed := true, receivers := .empty, receiverWakers := .empty },
        s.receiverWakers.notices ++ s.receivers.notices, some .flushed⟩
  | closed : Deal s (s.close.map fun _ => some .closed)
  | reset : Deal s (s.reset.map fun _ => some .reset)
  | triggerRefused {level : Nat} :
      s.capacity < level → Deal s (.still s (some (.triggerSet level (.error .triggerLevel))))
  | triggerSet {level : Nat} :
      level ≤ s.capacity →
      Deal s ({ s with trigger := max level 1 }.wakeAtTrigger.map
        fun _ => some (.triggerSet level (.ok ())))

theorem deal_act (a : Act) (s : ByteStream) : Deal s (protocol.act a s) := by
  show Deal s (a.perform s)
  cases a with
  | pollSend data waker =>
    rw [Act.perform, pollSend]
    split
    · exact .refused ‹_›
    split
    · exact .pendingSend (s.senderWakers.tasks_register waker) fun _ =>
        WakerSet.mem_or_called_of_register waker
    · exact .sent (Bool.eq_false_iff.mpr ‹_›) (Or.inl ⟨rfl, Nat.le_of_not_lt ‹_›⟩)
  | pollReceive room again waker =>
    rw [Act.perform, pollReceive]
    split
    · rename_i hRoom
      subst hRoom
      exact .noRoom
    split
    · exact .received (Or.inl ⟨rfl, ‹_›⟩)
    · exact .pendingReceive (s.receiverWakers.tasks_register waker) fun _ =>
        WakerSet.mem_or_called_of_register waker
  | sendNow data =>
    rw [Act.perform, sendNow]
    split
    · exact .refused ‹_›
    split
    · exact .full (Bool.eq_false_iff.mpr ‹_›)
    · exact .sent (Bool.eq_false_iff.mpr ‹_›) (Or.inr rfl)
  | receiveNow room =>
    rw [Act.perform, receiveNow]
    split
    · exact .empty ‹_›
    · exact .received (Or.inr ⟨rfl, Bool.eq_false_iff.mpr ‹_›⟩)
  | flush =>
    cases hEmpty : s.ring.isEmpty with
    | true =>
      rw [Act.perform, flush, if_pos hEmpty]
      exact .flushedNothing hEmpty
    | false =>
      rw [Act.perform, flush, if_neg (Bool.eq_false_iff.mp hEmpty)]
      exact .flushed hEmpty
  | close => exact .closed
  | reset => exact .reset
  | setTrigger level =>
    rw [Act.perform, setTrigger]
    split
    · exact .triggerRefused ‹_›
    · exact .triggerSet (Nat.le_of_not_lt ‹_›)

end ByteStream

end TaskSync
