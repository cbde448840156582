import TaskSync.Proofs.ByteStream.Waiters

/-!
# TaskSync — what a receiver of a byte stream waits for

A receive takes what it finds at its first look. A receive that has looked in
vain is served only when the trigger level is reached, a flush is in force, the
stream is closed or its wait is over; being woken for no reason does not serve
it. `Answered` says for one look exactly when it ends the receive, and how;
`Poised` is what the looks before have to have left behind for that.

Receivers are called by the operations that can have brought this about
(`Deed.Rouses`), and asynchronous ones besides by a poll that is in vain and
finds no room for its waker (`Displaced`). A waker that is registered on both
sides is also called when those who wait to send are (`Deed.Frees`).

Main result:

* `ByteStream.gated_run` — this is so in every state of every run.
-/

namespace TaskSync

namespace ByteStream

/-- How a receive fails for want of bytes. -/
def Manner.failure : Manner → StreamError
  | .blocking wait _ => if wait = 0 then .empty else .timeout
  | .polled | .deferring => .empty

/-- A move with which a receive into a buffer of `room` bytes looks at the stream, `again` if it has
looked before in vain. -/
inductive Tries (w : World) : Move → Nat → Bool → Manner → Prop
  | begins {t : TaskId} {now : Ticks} {room : Nat} {wait : Ticks} :
      w.crew.asleep t = none →
      Tries w (.start t now (.receive room wait)) room false
        (mannerOf (Waiting.start (⟨room⟩ : Receive) wait now) now)
  | goesOn {t : TaskId} {now : Ticks} {call : Waiting Receive} {limit : Option Ticks} :
      w.crew.asleep t = some ⟨.receiving call, limit⟩ →
      Tries w (.resume t now) call.request.room call.again (mannerOf call now)
  | polls {room : Nat} {again : Bool} {waker : WakerId} :
      Tries w (.act (.pollReceive room again waker)) room again .polled
  | defers {room : Nat} : Tries w (.act (.receiveNow room)) room false .deferring

/-- What a look at the stream `s` comes to for a receive: an answer, or none. The look leaves `s'`
behind. -/
structure Answered (s s' : ByteStream) (room : Nat) (again : Bool) (how : Manner)
    (answer : Option (Except StreamError (List UInt8))) : Prop where
  ok_iff : (∃ data, answer = some (.ok data)) ↔ s.available ≠ 0 ∧
    (again = false ∨ s.trigger ≤ s.available ∨ s.flushed = true ∨ s.closed = true ∨
      how.last = true)
  took : ∀ data, answer = some (.ok data) →
    data.length = min room s.available ∧ 1 ≤ data.length ∧ s.ring.toList = data ++ s'.ring.toList
  closed_iff : answer = some (.error .closed) ↔ s.closed = true ∧ s.available = 0
  failed_iff : answer = some (.error how.failure) ↔
    how.last = true ∧ s.closed = false ∧ s.available = 0
  errors : ∀ e, answer = some (.error e) → e = .closed ∨ e = how.failure
  kept : (∀ data, answer ≠ some (.ok data)) → s'.ring = s.ring

/-- An operation that can have brought about what receivers wait for, and has left `s'` behind. -/
def Deed.Rouses (s' : ByteStream) : Deed → Prop
  | .sent _ _ (.ok _) | .received _ _ _ (.ok _) | .triggerSet _ (.ok _) =>
    s'.trigger ≤ s'.available
  | .flushed | .closed | .reset => True
  | .sent _ _ (.error _) | .received _ _ _ (.error _) | .triggerSet _ (.error _) => False

/-- An operation that has taken bytes out, so that all who wait to send are called. -/
def Deed.Frees : Deed → Prop
  | .received _ _ _ (.ok _) => True
  | _ => False

/-- The notice reaches a waker that has to make room for that of a poll. -/
inductive Displaced (s : ByteStream) (n : Notice) : Act → Prop
  | receiver {room : Nat} {again : Bool} {waker : WakerId} :
      n ∈ s.receiverWakers.notices → WakerSet.limit ≤ s.receiverWakers.wakers.length →
      Displaced s n (.pollReceive room again waker)
  | sender {data : List UInt8} {waker : WakerId} :
      n ∈ s.senderWakers.notices → WakerSet.limit ≤ s.senderWakers.wakers.length →
      Displaced s n (.pollSend data waker)

/-- The notices that would reach those who wait to receive. -/
def receiverNotices (s : ByteStream) : List Notice :=
  s.receiverWakers.notices ++ s.receivers.notices

/-- The notices that would reach those who wait to send. -/
def senderNotices (s : ByteStream) : List Notice := s.senderWakers.notices ++ s.senders.notices

/-- Receivers of a stream in use get what they wait for, and are called for nothing else. -/
structure Gated (w : World) : Prop where
  /-- A receive that sleeps has looked in vain. -/
  parked : ∀ t call limit, w.crew.asleep t = some ⟨.receiving call, limit⟩ →
    call.again = true ∧ call.request.room ≠ 0
  answered : ∀ m room again how, Tries w m room again how → room ≠ 0 →
    ∃ answer, (w.step protocol m).log = w.logged (answer.map (.received room again how)) ∧
      Answered w.object (w.step protocol m).object room again how answer
  /-- Nothing but such a look ends a receive. -/
  tried : ∀ m room again how answer,
    (w.step protocol m).log = w.logged (some (.received room again how answer)) → room ≠ 0 →
      Tries w m room again how
  /-- A receiver is called for a reason, unless it is called as a sender or is a waker that has to
  make room for another in a poll in vain. -/
  called : ∀ m, ∀ n ∈ w.notices protocol m, n ∈ w.object.receiverNotices →
    (∃ d, (w.step protocol m).log = w.logged (some d) ∧
      (d.Rouses (w.step protocol m).object ∨ n ∈ w.object.senderNotices ∧ d.Frees)) ∨
    (∃ a, m = .act a ∧ Displaced w.object n a) ∧ (w.step protocol m).log = w.log

variable {s s' : ByteStream} {room : Nat} {again : Bool} {how : Manner} {t : TaskId}

-- ---------------------------------------------------------------------------
-- The answer to a look
-- ---------------------------------------------------------------------------

/-- What a receiver waits for, if the trigger level is at least one byte. -/
theorem readable_iff (hPos : 1 ≤ s.trigger) : s.readable again = true ↔
    s.closed = true ∨ s.available ≠ 0 ∧
      (again = false ∨ s.trigger ≤ s.available ∨ s.flushed = true) := by
  have hSome : (!s.ring.isEmpty) = true ↔ s.available ≠ 0 := by
    rw [Bool.not_eq_true', ← Bool.not_eq_true, isEmpty_iff]
  unfold readable
  rw [Bool.or_eq_true, Bool.or_eq_true, Bool.and_eq_true, hSome]
  cases again with
  | false =>
    rw [if_neg Bool.false_ne_true, hSome]
    tauto
  | true =>
    rw [if_pos rfl, decide_eq_true_eq]
    have hReached : s.trigger ≤ s.available → s.available ≠ 0 := fun hLe => by omega
    have hAgain : ¬ (true = false) := nofun
    tauto

theorem failure_ne_closed (how : Manner) : how.failure ≠ .closed := by
  cases how with
  | blocking wait last =>
    rw [Manner.failure]
    split <;> exact nofun
  | polled | deferring => exact nofun

/-- A look at the end of the stream. -/
theorem answered_closed (hRing : s'.ring = s.ring) (hClosed : s.closed = true)
    (hNone : s.available = 0) :
    Answered s s' room again how (some (.error .closed)) where
  ok_iff := ⟨nofun, fun hSome => absurd hNone hSome.1⟩
  took := nofun
  closed_iff := ⟨fun _ => ⟨hClosed, hNone⟩, fun _ => rfl⟩
  failed_iff := by
    refine ⟨fun hFailed => ?_, fun hOpen => ?_⟩
    · exact absurd (Except.error.inj (Option.some.inj hFailed)).symm (failure_ne_closed how)
    · rw [hClosed] at hOpen
      cases hOpen.2.1
  errors := fun e he => Or.inl (Except.error.inj (Option.some.inj he)).symm
  kept := fun _ => hRing

/-- A look that is served takes the oldest bytes. -/
theorem answered_data {data : List UInt8} (hSome : s.available ≠ 0)
    (hServed : again = false ∨ s.trigger ≤ s.available ∨ s.flushed = true ∨ s.closed = true ∨
      how.last = true)
    (hLength : data.length = min room s.available) (hRoom : room ≠ 0)
    (hBytes : s.ring.toList = data ++ s'.ring.toList) :
    Answered s s' room again how (some (.ok data)) where
  ok_iff := ⟨fun _ => ⟨hSome, hServed⟩, fun _ => ⟨data, rfl⟩⟩
  took := by
    intro data' hOk
    obtain rfl := Except.ok.inj (Option.some.inj hOk)
    exact ⟨hLength, by omega, hBytes⟩
  closed_iff := ⟨nofun, fun hEnd => absurd hEnd.2 hSome⟩
  failed_iff := ⟨nofun, fun hFailed => absurd hFailed.2.2 hSome⟩
  errors := nofun
  kept := fun hNot => absurd rfl (hNot data)

/-- A look that is content with the stream takes from it. -/
theorem answered_take {x : ByteStream} (hValid : s.ring.Valid) (hPos : 1 ≤ s.trigger)
    (hRing : x.ring = s.ring) (hRoom : room ≠ 0)
    (hReady : s.readable again = true ∨ how.last = true ∧ s.available ≠ 0) :
    Answered s (x.take room).object room again how (some (x.take room).answer) := by
  rw [readable_iff hPos] at hReady
  cases hEmpty : s.ring.isEmpty with
  | true =>
    -- only the end of the stream is an answer then
    have hNone : s.available = 0 := isEmpty_iff.mp hEmpty
    have hClosed : s.closed = true := by tauto
    rw [take_of_isEmpty (hRing ▸ hEmpty)]
    exact answered_closed hRing hClosed hNone
  | false =>
    have hSome : s.available ≠ 0 := fun hNone => by
      rw [isEmpty_iff.mpr hNone] at hEmpty
      cases hEmpty
    have hData : (x.ring.read room).1 = s.ring.toList.take room := by
      rw [hRing, ByteRing.fst_read hValid]
    have hRest : ((x.drained room).wakeAtTrigger.object).ring = (s.ring.read room).2 := by
      rw [ring_wakeAtTrigger, ← hRing]
      rfl
    rw [take_of_not_isEmpty (hRing ▸ hEmpty)]
    refine answered_data hSome (by tauto) ?_ hRoom ?_
    · rw [hData, List.length_take, ByteRing.length_toList]
      rfl
    · rw [hData, hRest, ByteRing.toList_snd_read, List.take_append_drop]

/-- A look that is not content with the stream and is not the last comes to nothing. -/
theorem answered_none (hPos : 1 ≤ s.trigger) (hRing : s'.ring = s.ring)
    (hWait : s.readable again = false) (hLast : how.last = false) :
    Answered s s' room again how none := by
  rw [← Bool.not_eq_true, readable_iff hPos] at hWait
  rw [← Bool.not_eq_true] at hLast
  exact {
    ok_iff := ⟨nofun, fun hReady => by tauto⟩
    took := nofun
    closed_iff := ⟨nofun, fun hEnd => absurd (Or.inl hEnd.1) hWait⟩
    failed_iff := ⟨nofun, fun hFailed => absurd hFailed.1 hLast⟩
    errors := nofun
    kept := fun _ => hRing }

/-- The last look at a stream that is open and empty fails. -/
theorem answered_failure (hRing : s'.ring = s.ring) (hOpen : s.closed = false)
    (hNone : s.available = 0) (hLast : how.last = true) :
    Answered s s' room again how (some (.error how.failure)) where
  ok_iff := ⟨nofun, fun hSome => absurd hNone hSome.1⟩
  took := nofun
  closed_iff := by
    refine ⟨fun hClosed => ?_, fun hEnd => ?_⟩
    · exact absurd (Except.error.inj (Option.some.inj hClosed)) (failure_ne_closed how)
    · rw [hOpen] at hEnd
      cases hEnd.1
  failed_iff := ⟨fun _ => ⟨hLast, hOpen, hNone⟩, fun _ => rfl⟩
  errors := fun e he => Or.inr (Except.error.inj (Option.some.inj he)).symm
  kept := fun _ => hRing

theorem Reception.answered {call : Waiting Receive} {now : Ticks}
    {o : Outcome ByteStream (Round Call Deed)} (h : Reception call now t s o)
    (hValid : s.ring.Valid) (hPos : 1 ≤ s.trigger) (hRoom : call.request.room ≠ 0) :
    ∃ answer, o.answer.deed? =
        answer.map (.received call.request.room call.again (mannerOf call now)) ∧
      Answered s o.object call.request.room call.again (mannerOf call now) answer := by
  cases h with
  | taken hReady =>
    refine ⟨some _, rfl, answered_take (x := s.dropReceiver t) hValid hPos rfl hRoom ?_⟩
    refine hReady.imp id fun ⟨hOver, hSome⟩ => ⟨hOver, fun hNone => ?_⟩
    rw [isEmpty_iff.mpr hNone] at hSome
    cases hSome
  | joined hWait hOver | crowded hWait hOver =>
    exact ⟨none, rfl, answered_none hPos rfl hWait hOver⟩
  | gaveUp hWait hOver hEmpty =>
    have hOpen := (not_readable hPos hWait).2.1
    exact ⟨some _, rfl, answered_failure rfl hOpen (isEmpty_iff.mp hEmpty) hOver⟩

theorem answered_poll (hValid : s.ring.Valid) (hPos : 1 ≤ s.trigger) (hRoom : room ≠ 0)
    (again : Bool) (waker : WakerId) :
    ∃ answer, (protocol.act (.pollReceive room again waker) s).answer =
        answer.map (.received room again .polled) ∧
      Answered s (protocol.act (.pollReceive room again waker) s).object room again .polled
        answer := by
  show ∃ answer, ((s.pollReceive room again waker).map _).answer = _ ∧
    Answered s (s.pollReceive room again waker).object room again .polled answer
  rw [pollReceive, if_neg hRoom]
  cases hReady : s.readable again with
  | true =>
    rw [if_pos rfl]
    exact ⟨some _, rfl, answered_take hValid hPos rfl hRoom (Or.inl hReady)⟩
  | false =>
    rw [if_neg Bool.false_ne_true]
    exact ⟨none, rfl, answered_none hPos rfl hReady rfl⟩

theorem answered_receiveNow (hValid : s.ring.Valid) (hPos : 1 ≤ s.trigger) (hRoom : room ≠ 0) :
    ∃ answer, (protocol.act (.receiveNow room) s).answer =
        answer.map (.received room false .deferring) ∧
      Answered s (protocol.act (.receiveNow room) s).object room false .deferring answer := by
  show ∃ answer, ((s.receiveNow room).map _).answer = _ ∧
    Answered s (s.receiveNow room).object room false .deferring answer
  rw [receiveNow]
  split
  · rename_i hEmpty
    refine ⟨some (.error (if s.closed then .closed else .empty)), rfl, ?_⟩
    cases hClosed : s.closed with
    | true => exact answered_closed rfl hClosed (isEmpty_iff.mp hEmpty)
    | false => exact answered_failure rfl hClosed (isEmpty_iff.mp hEmpty) rfl
  · rename_i hSome
    refine ⟨some _, rfl, answered_take hValid hPos rfl hRoom (Or.inr ⟨rfl, ?_⟩)⟩
    exact fun hNone => hSome (isEmpty_iff.mpr hNone)

-- ---------------------------------------------------------------------------
-- Whom a step calls
-- ---------------------------------------------------------------------------

@[simp] theorem trigger_wakeAtTrigger (s : ByteStream) :
    s.wakeAtTrigger.object.trigger = s.trigger := by
  obtain ⟨_, _, hObject⟩ := s.object_wakeAtTrigger
  rw [hObject]

/-- The receivers' side is called only at the trigger level. -/
theorem reached_of_wakeAtTrigger {n : Notice} (hMem : n ∈ s.wakeAtTrigger.notices) :
    s.wakeAtTrigger.object.trigger ≤ s.wakeAtTrigger.object.available := by
  have hAvailable : s.wakeAtTrigger.object.available = s.available :=
    congrArg ByteRing.length (ring_wakeAtTrigger s)
  rw [trigger_wakeAtTrigger, hAvailable]
  refine Nat.le_of_not_lt fun hLow => ?_
  rw [wakeAtTrigger_of_low hLow] at hMem
  cases hMem

theorem reached_of_put {data : List UInt8} {n : Notice} (hMem : n ∈ (s.put data).notices) :
    (s.put data).object.trigger ≤ (s.put data).object.available := by
  by_cases hZero : (s.ring.write data).2 = 0
  · rw [put_of_zero hZero] at hMem
    cases hMem
  · rw [put_of_ne_zero hZero] at hMem ⊢
    exact reached_of_wakeAtTrigger hMem

/-- A take calls nobody but senders below the trigger level, and nobody if it takes nothing. -/
theorem reached_of_take {n : Notice} (hMem : n ∈ (s.take room).notices) :
    (∃ data, (s.take room).answer = .ok data) ∧
      ((s.take room).object.trigger ≤ (s.take room).object.available ∨ n ∈ s.senderNotices) := by
  cases hEmpty : s.ring.isEmpty with
  | true =>
    rw [take_of_isEmpty hEmpty] at hMem
    cases hMem
  | false =>
    rw [senderNotices, List.mem_append]
    rw [take_of_not_isEmpty hEmpty] at hMem ⊢
    refine ⟨⟨_, rfl⟩, ?_⟩
    rcases List.mem_append.mp hMem with hMem | hMem
    · rcases List.mem_append.mp hMem with hMem | hMem
      · exact Or.inr (Or.inl hMem)
      · exact Or.inl (reached_of_wakeAtTrigger hMem)
    · exact Or.inr (Or.inr hMem)

/-- Whom a take calls, it calls as a receiver with reason or as a sender. -/
theorem rouses_take {n : Notice} (hMem : n ∈ (s.take room).notices) (again : Bool) (how : Manner) :
    (Deed.received room again how (s.take room).answer).Rouses (s.take room).object ∨
      n ∈ s.senderNotices ∧ (Deed.received room again how (s.take room).answer).Frees := by
  obtain ⟨⟨data, hOk⟩, hReached⟩ := reached_of_take hMem
  rw [hOk]
  exact hReached.imp id fun hSender => ⟨hSender, trivial⟩

theorem rouses_turn {side : Side} {o : Outcome ByteStream (Round Call Deed)}
    (hTurn : Turn t s side o) {n : Notice} (hMem : n ∈ o.notices) :
    ∃ d, o.answer.deed? = some d ∧ (d.Rouses o.object ∨ n ∈ s.senderNotices ∧ d.Frees) := by
  cases hTurn with
  | refused | joinedSenders | crowdedSenders | gaveUpSending | joinedReceivers | crowdedReceivers
  | gaveUpReceiving => cases hMem
  | sent => exact ⟨_, rfl, Or.inl (reached_of_put hMem)⟩
  | received => exact ⟨_, rfl, rouses_take (s := s.dropReceiver t) hMem _ _⟩

/-- A step that does not wait calls a receiver for the same reasons, unless it is a poll in vain. -/
theorem rouses_deal {o : Outcome ByteStream (Option Deed)} (hDeal : Deal s o) {n : Notice}
    (hMem : n ∈ o.notices) {d : Deed} (hEnded : o.answer = some d) :
    d.Rouses o.object ∨ n ∈ s.senderNotices ∧ d.Frees := by
  cases hDeal with
  | refused | full | noRoom | empty | flushedNothing | triggerRefused => cases hMem
  | pendingSend | pendingReceive => cases hEnded
  | sent =>
    cases hEnded
    exact Or.inl (reached_of_put hMem)
  | received =>
    cases hEnded
    exact rouses_take hMem _ _
  | flushed | closed | reset =>
    cases hEnded
    exact Or.inl trivial
  | triggerSet =>
    cases hEnded
    exact Or.inl (reached_of_wakeAtTrigger hMem)

/-- A step that does not wait and ends nothing is a poll in vain. It calls those who have to make
room for its waker. -/
theorem displaced_act {a : Act} {n : Notice} (hMem : n ∈ (protocol.act a s).notices)
    (hNone : (protocol.act a s).answer = none) : Displaced s n a := by
  have hEnds := ends_act a s
  rw [hNone] at hEnds
  cases a with
  | sendNow | receiveNow => cases hNone
  | flush | close | reset | setTrigger => cases hEnds
  | pollSend data waker =>
    cases hEnds with | sendWaits _ hOpen hShort =>
    have hMem : n ∈ (s.pollSend data waker).notices := hMem
    rw [pollSend, if_neg (Bool.eq_false_iff.mp hOpen), if_pos hShort] at hMem
    obtain ⟨hWaker, hFull⟩ := s.senderWakers.called_of_register hMem
    exact .sender hWaker hFull
  | pollReceive room again waker =>
    cases hEnds with | receiveWaits _ hWait =>
    have hMem : n ∈ (s.pollReceive room again waker).notices := hMem
    rw [pollReceive, if_neg (Bool.eq_false_iff.mp hWait)] at hMem
    split at hMem
    · cases hMem
    · obtain ⟨hWaker, hFull⟩ := s.receiverWakers.called_of_register hMem
      exact .receiver hWaker hFull

-- ---------------------------------------------------------------------------
-- What every move keeps
-- ---------------------------------------------------------------------------

/-- A receive that has looked in vain, or a send. -/
def Call.Parked : Call → Prop
  | .sending _ => True
  | .receiving call => call.again = true ∧ call.request.room ≠ 0

/-- The trigger level is a byte or more, and whoever sleeps has looked in vain. -/
structure Poised (w : World) : Prop where
  trigger_pos : 1 ≤ w.object.trigger
  parked : ∀ t sleep, w.crew.asleep t = some sleep → sleep.call.Parked

@[simp] theorem trigger_put (s : ByteStream) (data : List UInt8) :
    (s.put data).object.trigger = s.trigger := by
  obtain ⟨_, _, hObject⟩ := s.object_put data
  rw [hObject]

@[simp] theorem trigger_take (s : ByteStream) (room : Nat) :
    (s.take room).object.trigger = s.trigger := by
  cases hEmpty : s.ring.isEmpty with
  | true =>
    rw [take_of_isEmpty hEmpty]
    rfl
  | false =>
    rw [take_of_not_isEmpty hEmpty]
    exact trigger_wakeAtTrigger _

theorem trigger_turn {side : Side} {o : Outcome ByteStream (Round Call Deed)}
    (hTurn : Turn t s side o) : o.object.trigger = s.trigger := by
  cases hTurn with
  | sent => exact trigger_put _ _
  | received => exact trigger_take _ _
  | _ => rfl

theorem trigger_pos_deal {o : Outcome ByteStream (Option Deed)} (hDeal : Deal s o)
    (hPos : 1 ≤ s.trigger) : 1 ≤ o.object.trigger := by
  cases hDeal with
  | sent => exact hPos.trans_eq (trigger_put _ _).symm
  | received => exact hPos.trans_eq (trigger_take _ _).symm
  | @triggerSet level =>
    have hLevel : ({ s with trigger := max level 1 } : ByteStream).wakeAtTrigger.object.trigger =
        max level 1 := trigger_wakeAtTrigger _
    exact (Nat.le_max_right level 1).trans_eq hLevel.symm
  | _ => exact hPos

theorem parked_round (call : Waiting Receive) (s : ByteStream) (now : Ticks) (t : TaskId)
    (hRoom : call.request.room ≠ 0) :
    ∀ sleep, (protocol.resume (.receiving call) now t s).answer.sleep? = some sleep →
      sleep.call.Parked := by
  have hReception := reception_round call s now t
  generalize protocol.resume (.receiving call) now t s = o at hReception
  intro sleep hSleep
  cases hReception with
  | taken | gaveUp => cases hSleep
  | joined | crowded =>
    obtain rfl := Option.some.inj hSleep
    exact ⟨rfl, hRoom⟩

theorem Turn.parked_of_sending {o : Outcome ByteStream (Round Call Deed)}
    (hTurn : Turn t s .sending o) :
    ∀ sleep, o.answer.sleep? = some sleep → sleep.call.Parked := by
  intro sleep hSleep
  cases hTurn with
  | refused | sent | gaveUpSending => cases hSleep
  | joinedSenders | crowdedSenders =>
    obtain rfl := Option.some.inj hSleep
    trivial

theorem parked_resume (s : ByteStream) (now : Ticks) (t : TaskId) {k : Call} (hParked : k.Parked) :
    ∀ sleep, (protocol.resume k now t s).answer.sleep? = some sleep → sleep.call.Parked := by
  cases k with
  | sending call => exact (turn_round (.sending call) s now t).parked_of_sending
  | receiving call => exact parked_round call s now t hParked.2

theorem parked_start (s : ByteStream) (now : Ticks) (t : TaskId) (r : Request) :
    ∀ sleep, (protocol.start r now t s).answer.sleep? = some sleep → sleep.call.Parked := by
  cases r with
  | send data wait =>
    exact (turn_round (.sending (.start ⟨data⟩ wait now)) s now t).parked_of_sending
  | receive room wait =>
    show ∀ sleep, (Request.start now t s (.receive room wait)).answer.sleep? = some sleep → _
    rw [Request.start]
    split
    · intro sleep hSleep
      cases hSleep
    · exact parked_round (.start ⟨room⟩ wait now) s now t ‹_›

variable {w : World}

/-- A look leaves everybody parked if it leaves so the task that looks. -/
theorem Poised.look (h : Poised w) {o : Outcome ByteStream (Round Call Deed)}
    (hPos : 1 ≤ o.object.trigger)
    (hFate : ∀ sleep, o.answer.sleep? = some sleep → sleep.call.Parked) : Poised (w.look t o) where
  trigger_pos := hPos
  parked := by
    intro u sleep hAsleep
    rcases Crew.asleep_look_cases hAsleep with ⟨hSleep, -⟩ | hBefore
    · exact hFate sleep hSleep
    · exact h.parked u sleep hBefore

theorem Poised.step (h : Poised w) (move : Move) : Poised (w.step protocol move) := by
  have hStepped := w.stepped_step protocol move
  generalize w.step protocol move = w' at hStepped ⊢
  cases hStepped with
  | idle => exact h
  | @started t now r hOut =>
    refine h.look ?_ (parked_start w.object now t r)
    rcases turn_start r w.object now t with hTurn | ⟨wait, hStill⟩
    · exact h.trigger_pos.trans_eq (trigger_turn hTurn).symm
    · rw [hStill]
      exact h.trigger_pos
  | @resumed t now sleep hAsleep =>
    refine h.look ?_ (parked_resume w.object now t (h.parked t sleep hAsleep))
    exact h.trigger_pos.trans_eq (trigger_turn (turn_round sleep.call w.object now t)).symm
  | @acted a => exact ⟨trigger_pos_deal (deal_act a w.object) h.trigger_pos, h.parked⟩
  | @abandoned t =>
    refine ⟨h.trigger_pos, fun u sleep hAsleep => ?_⟩
    rcases Crew.asleep_look_cases hAsleep with ⟨hSleep, -⟩ | hBefore
    · cases hSleep
    · exact h.parked u sleep hBefore

theorem poised_run {allocator : Allocator} {capacity trigger : Nat} {s : ByteStream}
    (hCreate : create allocator capacity trigger = .ok s) (moves : List Move) :
    Poised (s.after moves) := by
  refine after_induction (fun _ move _ h => h.step move) ?_
  obtain ⟨-, -, ring, -, rfl⟩ := created_of_ok hCreate
  exact ⟨Nat.le_max_right _ _, nofun⟩

-- ---------------------------------------------------------------------------
-- Runs
-- ---------------------------------------------------------------------------

/-- Every look of a receive is answered for what it is. -/
theorem Poised.answered (h : Poised w) (hValid : w.object.ring.Valid) {m : Move}
    (hTries : Tries w m room again how) (hRoom : room ≠ 0) :
    ∃ answer, (w.step protocol m).log = w.logged (answer.map (.received room again how)) ∧
      Answered w.object (w.step protocol m).object room again how answer := by
  cases hTries with
  | @begins t now room wait hAwake =>
    rw [World.step_start hAwake, show protocol.start (.receive room wait) now t w.object = _ from
      if_neg hRoom]
    obtain ⟨answer, hEnded, hAnswered⟩ :=
      (reception_round (.start ⟨room⟩ wait now) w.object now t).answered hValid h.trigger_pos hRoom
    exact ⟨answer, congrArg w.logged hEnded, hAnswered⟩
  | @goesOn t now call limit hAsleep =>
    rw [World.step_resume hAsleep]
    obtain ⟨answer, hEnded, hAnswered⟩ :=
      (reception_round call w.object now t).answered hValid h.trigger_pos hRoom
    exact ⟨answer, congrArg w.logged hEnded, hAnswered⟩
  | @polls _ _ waker =>
    obtain ⟨answer, hEnded, hAnswered⟩ :=
      answered_poll hValid h.trigger_pos hRoom again waker
    exact ⟨answer, congrArg w.logged hEnded, hAnswered⟩
  | defers =>
    obtain ⟨answer, hEnded, hAnswered⟩ := answered_receiveNow hValid h.trigger_pos hRoom
    exact ⟨answer, congrArg w.logged hEnded, hAnswered⟩

/-- A move whose errand is a receive is a look for it. -/
theorem tries_of_errand {m : Move} (hErrand : w.errand? errands m = some (.receive room again how))
    (hRoom : room ≠ 0) : Tries w m room again how := by
  cases m with
  | start t now r =>
    cases hAsleep : w.crew.asleep t with
    | some sleep =>
      rw [World.errand?, hAsleep] at hErrand
      cases hErrand
    | none =>
      rw [World.errand?, hAsleep] at hErrand
      cases r with
      | send data wait => cases hErrand
      | receive room' wait =>
        cases hErrand
        rw [bne_iff_ne.mpr hRoom, Bool.and_true,
          ← Waiting.isOver_start (⟨room⟩ : Receive) wait now]
        exact .begins hAsleep
  | resume t now =>
    cases hAsleep : w.crew.asleep t with
    | none =>
      rw [World.errand?, hAsleep] at hErrand
      cases hErrand
    | some sleep =>
      rw [World.errand?, hAsleep] at hErrand
      obtain ⟨call, limit⟩ := sleep
      cases call with
      | sending call => cases hErrand
      | receiving call =>
        cases hErrand
        exact .goesOn hAsleep
  | act a =>
    cases a with
    | pollReceive =>
      cases hErrand
      exact .polls
    | receiveNow =>
      cases hErrand
      exact .defers
    | pollSend | sendNow | flush | close | reset | setTrigger => cases hErrand
  | abandon t => cases hErrand

/-- Only a look for it ends a receive. -/
theorem tries_of_received {m : Move} {answer : Except StreamError (List UInt8)}
    (hLog : (w.step protocol m).log = w.logged (some (.received room again how answer)))
    (hRoom : room ≠ 0) : Tries w m room again how := by
  obtain ⟨ended, hEnded, hEnds⟩ := ends_step w m
  obtain rfl := World.logged_inj (hLog.symm.trans hEnded)
  generalize hErrand : w.errand? errands m = errand at hEnds
  cases hEnds
  exact tries_of_errand hErrand hRoom

theorem rouses_step (w : World) (m : Move) {n : Notice} (hMem : n ∈ w.notices protocol m) :
    (∃ d, (w.step protocol m).log = w.logged (some d) ∧
      (d.Rouses (w.step protocol m).object ∨ n ∈ w.object.senderNotices ∧ d.Frees)) ∨
    (∃ a, m = .act a ∧ Displaced w.object n a) ∧ (w.step protocol m).log = w.log := by
  have hLooks : ∀ {t side} {o : Outcome ByteStream (Round Call Deed)}, Turn t w.object side o →
      n ∈ o.notices → ∃ d, (w.look t o).log = w.logged (some d) ∧
        (d.Rouses (w.look t o).object ∨ n ∈ w.object.senderNotices ∧ d.Frees) := by
    intro t side o hTurn hMem
    obtain ⟨d, hEnded, hRouses⟩ := rouses_turn hTurn hMem
    exact ⟨d, congrArg w.logged hEnded, hRouses⟩
  cases m with
  | start t now r =>
    cases hAsleep : w.crew.asleep t with
    | some sleep =>
      rw [World.notices, hAsleep] at hMem
      cases hMem
    | none =>
      rw [World.notices, hAsleep] at hMem
      rw [World.step_start hAsleep]
      rcases turn_start r w.object now t with hTurn | ⟨wait, hStill⟩
      · exact Or.inl (hLooks hTurn hMem)
      · rw [hStill] at hMem
        cases hMem
  | resume t now =>
    cases hAsleep : w.crew.asleep t with
    | none =>
      rw [World.notices, hAsleep] at hMem
      cases hMem
    | some sleep =>
      rw [World.notices, hAsleep] at hMem
      rw [World.step_resume hAsleep]
      exact Or.inl (hLooks (turn_round sleep.call w.object now t) hMem)
  | act a =>
    cases hEnded : (protocol.act a w.object).answer with
    | some d =>
      exact Or.inl ⟨d, congrArg w.logged hEnded, rouses_deal (deal_act a w.object) hMem hEnded⟩
    | none =>
      have hLog := (congrArg w.logged hEnded).trans w.logged_none
      exact Or.inr ⟨⟨a, rfl, displaced_act hMem hEnded⟩, hLog⟩
  | abandon t => cases hMem

/-- In every state of every run receivers get what they wait for, and are called for nothing
else. -/
theorem gated_run {allocator : Allocator} {capacity trigger : Nat} {s : ByteStream}
    (hCreate : create allocator capacity trigger = .ok s) (moves : List Move) :
    Gated (s.after moves) where
  parked := fun t _ _ hAsleep => (poised_run hCreate moves).parked t _ hAsleep
  answered := fun _ _ _ _ hTries hRoom =>
    (poised_run hCreate moves).answered (sound_run hCreate moves).valid hTries hRoom
  tried := fun _ _ _ _ _ hLog hRoom => tries_of_received hLog hRoom
  called := fun m _ hMem _ => rouses_step _ m hMem

/-- Two bytes are not what a blocked receiver waits for. It goes on for no reason, polls come and
go, a flush lets another receiver have a byte, and in the end the level is set to what is left. -/
def belowTrigger : List Move :=
  [.start ⟨1⟩ 0 (.receive 8 waitForever), .start ⟨2⟩ 0 (.receive 1 9), .act (.sendNow [1, 2]),
    .resume ⟨1⟩ 1, .act (.pollReceive 8 true ⟨7⟩), .act .flush, .resume ⟨2⟩ 2, .resume ⟨1⟩ 3,
    .act (.setTrigger 1)]

theorem gated_run_belowTrigger :
    ∃ s, create .standard 8 4 = .ok s ∧ Gated (s.after belowTrigger) ∧
      (s.after belowTrigger).object.ring.toList = [2] ∧
      (s.after belowTrigger).object.receivers.tasks = [] ∧
      (s.after belowTrigger).crew.woken = {⟨1⟩} := by
  obtain ⟨s, hCreate⟩ : ∃ s, create .standard 8 4 = .ok s := ⟨_, rfl⟩
  refine ⟨s, hCreate, gated_run hCreate belowTrigger, ?_, ?_, ?_⟩
  all_goals
    cases hCreate
    decide +kernel

/-- As many wakers as there is room for. -/
def fourPolls : List Move :=
  [.act (.pollReceive 1 false ⟨1⟩), .act (.pollReceive 1 false ⟨2⟩),
    .act (.pollReceive 1 false ⟨3⟩), .act (.pollReceive 1 false ⟨4⟩)]

/-- A receiver is also called when a poll that is in vain needs the room of its waker. -/
theorem not_only_called_for_bytes :
    ∃ s, create .standard 4 1 = .ok s ∧
      .waker ⟨1⟩ ∈ (s.after fourPolls).notices protocol (.act (.pollReceive 1 false ⟨5⟩)) ∧
      .waker ⟨1⟩ ∈ (s.after fourPolls).object.receiverNotices ∧
      .waker ⟨1⟩ ∉ (s.after fourPolls).object.senderNotices ∧
      ((s.after fourPolls).step protocol (.act (.pollReceive 1 false ⟨5⟩))).log.length =
        (s.after fourPolls).log.length := by
  refine ⟨_, rfl, ?_, ?_, ?_, ?_⟩
  all_goals decide

end ByteStream

end TaskSync
