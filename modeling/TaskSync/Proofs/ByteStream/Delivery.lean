import TaskSync.Proofs.ByteStream.Runs
import TaskSync.Proofs.Runs.Errands
import TaskSync.ByteRing.Lemmas
import Mathlib.Data.List.DropRight

/-!
# TaskSync — a byte stream delivers what it accepts

What goes into a stream comes out of it, byte for byte and in order. The law
is stated for a step, once for the bytes (`Flow`) and once for what the answer
says about the stream that a transfer found (`Answers`), and lifted to runs by
the invariant `Sound`. What has ended is what the move was made for, with its
bytes or its buffer, and only what has to wait ends in nothing (`Ends`).

Main result:

* `ByteStream.delivers_run` — in every state of every run the bytes handed out
  since the last reset, followed by the bytes still buffered, are the bytes
  accepted since then; a send that succeeds has written as much as there was
  space for, and its answer tells whether the stream was closed, full or short
  of space; a receive that succeeds has handed out as much as there was; and each
  next move ends as `Ends` says.
-/

namespace TaskSync

namespace ByteStream

/-- What a step does to the buffered bytes, oldest first. -/
inductive Flow : List UInt8 → Option Deed → List UInt8 → Prop
  /-- No operation has ended. -/
  | nothing {bytes} : Flow bytes none bytes
  | accepted {bytes data how n} :
      n ≤ data.length → Flow bytes (some (.sent data how (.ok n))) (bytes ++ data.take n)
  | refused {bytes data how e} : Flow bytes (some (.sent data how (.error e))) bytes
  | handedOut {data rest room again how} :
      data.length ≤ room → Flow (data ++ rest) (some (.received room again how (.ok data))) rest
  | denied {bytes room again how e} :
      Flow bytes (some (.received room again how (.error e))) bytes
  | flushed {bytes} : Flow bytes (some .flushed) bytes
  | closed {bytes} : Flow bytes (some .closed) bytes
  | reset {bytes} : Flow bytes (some .reset) []
  | triggerSet {bytes level answer} : Flow bytes (some (.triggerSet level answer)) bytes

/-- What an operation that has ended says about the stream it found. -/
inductive Answers (s : ByteStream) : Deed → Prop
  | refused {data how} : s.closed = true → Answers s (.sent data how (.error .closed))
  | whole {data how} :
      s.closed = false → s.needed data.length ≤ s.space →
      Answers s (.sent data how (.ok (min data.length s.space)))
  /-- What fits, at the end of a wait or in an interrupt handler. -/
  | partly {data how} :
      s.closed = false → (how = .deferring ∨ ∃ wait, how = .blocking wait true ∧ 0 < s.space) →
      Answers s (.sent data how (.ok (min data.length s.space)))
  | full {data} : s.closed = false → Answers s (.sent data .deferring (.error .full))
  | gaveUp {data wait} :
      s.closed = false → s.space < s.needed data.length → s.space = 0 →
      Answers s (.sent data (.blocking wait true) (.error (if wait = 0 then .full else .timeout)))
  | received {room again how data} :
      data.length = min room s.available → Answers s (.received room again how (.ok data))
  | denied {room again how e} : Answers s (.received room again how (.error e))
  | flushed : Answers s .flushed
  | closed : Answers s .closed
  | reset : Answers s .reset
  | triggerSet {level answer} : Answers s (.triggerSet level answer)

/-- What a look at a stream is for. -/
inductive Errand
  | send (data : List UInt8) (how : Manner)
  /-- A receive into a buffer of `room` bytes, `again` if an earlier look was in vain. -/
  | receive (room : Nat) (again : Bool) (how : Manner)
  | flush
  | close
  | reset
  | setTrigger (level : Nat)

/-- What the operations on a stream are for. A receive without room never looks for the last time,
since it does not look at all. -/
def errands : Errands Request Call Act Errand where
  ofRequest _
    | .send data wait => .send data (.blocking wait (wait == 0))
    | .receive room wait => .receive room false (.blocking wait (wait == 0 && room != 0))
  ofCall now
    | .sending w => .send w.request.data (mannerOf w now)
    | .receiving w => .receive w.request.room w.again (mannerOf w now)
  ofAct
    | .pollSend data _ => .send data .polled
    | .pollReceive room again _ => .receive room again .polled
    | .sendNow data => .send data .deferring
    | .receiveNow room => .receive room false .deferring
    | .flush => .flush
    | .close => .close
    | .reset => .reset
    | .setTrigger level => .setTrigger level

/-- How a look ends at the stream `s`: in a deed with the bytes or the buffer it was for, or for now
in nothing. -/
inductive Ends (s : ByteStream) : Option Errand → Option Deed → Prop
  /-- Nobody has looked. -/
  | idle : Ends s none none
  | sent {data how answer} : Ends s (some (.send data how)) (some (.sent data how answer))
  | received {room again how answer} :
      Ends s (some (.receive room again how)) (some (.received room again how answer))
  | flushed : Ends s (some .flush) (some .flushed)
  | closed : Ends s (some .close) (some .closed)
  | reset : Ends s (some .reset) (some .reset)
  | triggerSet {level answer} : Ends s (some (.setTrigger level)) (some (.triggerSet level answer))
  | sendWaits {data how} :
      how.last = false → s.closed = false → s.space < s.needed data.length →
      Ends s (some (.send data how)) none
  | receiveWaits {room again how} :
      how.last = false → s.readable again = false → Ends s (some (.receive room again how)) none

/-- Whether an operation was a reset. -/
def Deed.isReset : Deed → Bool
  | .reset => true
  | _ => false

/-- The operations since the last reset. -/
def sinceReset (log : List (Record ByteStream Deed)) : List (Record ByteStream Deed) :=
  log.rtakeWhile fun r => !r.deed.isReset

/-- The bytes that an operation has put into the stream. -/
def bytesIn (r : Record ByteStream Deed) : List UInt8 :=
  match r.deed with
  | .sent data _ (.ok n) => data.take n
  | _ => []

/-- The bytes that an operation has taken out of the stream. -/
def bytesOut (r : Record ByteStream Deed) : List UInt8 :=
  match r.deed with
  | .received _ _ _ (.ok data) => data
  | _ => []

/-- A stream in use delivers what it accepts, and its answers to sends are as good as they can
be. -/
structure Delivers (capacity : Nat) (w : World) : Prop where
  bytes : (sinceReset w.log).flatMap bytesOut ++ w.object.ring.toList =
    (sinceReset w.log).flatMap bytesIn
  /-- A send that succeeds found the stream open and wrote as much as there was space for. -/
  written : ∀ r ∈ w.log, ∀ data how n, r.deed = .sent data how (.ok n) →
    r.before.closed = false ∧ n = min data.length r.before.space
  /-- A receive that succeeds has handed out as much as there was and it had room for. -/
  took : ∀ r ∈ w.log, ∀ room again how data, r.deed = .received room again how (.ok data) →
    data.length = min room r.before.available
  /-- Only at the end of a wait or in an interrupt handler it writes less than it could have. -/
  partly : ∀ r ∈ w.log, ∀ data how n, r.deed = .sent data how (.ok n) →
    n < min data.length capacity → how = .deferring ∨ ∃ wait, how = .blocking wait true
  /-- A blocking send fails for want of space if and only if there was none at its last look. -/
  full : ∀ r ∈ w.log, ∀ data wait last answer, r.deed = .sent data (.blocking wait last) answer →
    ((answer = .error .full ∨ answer = .error .timeout) ↔
      last = true ∧ r.before.closed = false ∧ data ≠ [] ∧ r.before.space = 0)
  closed : ∀ r ∈ w.log, ∀ data wait last answer, r.deed = .sent data (.blocking wait last) answer →
    (answer = .error .closed ↔ r.before.closed = true)
  /-- The look at the end of its wait ends a blocking send. -/
  final : ∀ t now call limit, w.crew.asleep t = some ⟨.sending call, limit⟩ →
    call.isOver now = true → ∃ answer, (w.step protocol (.resume t now)).log =
      w.logged (some (.sent call.request.data (.blocking call.deadline.wait true) answer))
  /-- So does the first look if the task would not wait. -/
  finalAtOnce : ∀ t now data, w.crew.asleep t = none →
    ∃ answer, (w.step protocol (.start t now (.send data 0))).log =
      w.logged (some (.sent data (.blocking 0 true) answer))
  /-- A move ends in what it was made for. -/
  ends : ∀ m : Move, ∃ ended, (w.step protocol m).log = w.logged ended ∧
    Ends w.object (w.errand? errands m) ended

-- ---------------------------------------------------------------------------
-- What a transfer does to the bytes
-- ---------------------------------------------------------------------------

section Transfers

variable (s : ByteStream) (data : List UInt8) (room : Nat)

@[simp] theorem ring_wakeAtTrigger : s.wakeAtTrigger.object.ring = s.ring := by
  unfold wakeAtTrigger
  split <;> rfl

theorem ring_put : (s.put data).object.ring = (s.ring.write data).1 := by
  by_cases hZero : (s.ring.write data).2 = 0
  · rw [put_of_zero hZero]
    rfl
  · rw [put_of_ne_zero hZero]
    exact ring_wakeAtTrigger _

theorem answer_put : (s.put data).answer = min data.length s.space := by
  rw [← show (s.ring.write data).2 = min data.length s.space from s.ring.written_write data]
  by_cases hZero : (s.ring.write data).2 = 0
  · rw [put_of_zero hZero, hZero]
    rfl
  · rw [put_of_ne_zero hZero]
    rfl

end Transfers

-- ---------------------------------------------------------------------------
-- The law of a step
-- ---------------------------------------------------------------------------

/-- A step from `s` to `s'` that ended an operation, or none, obeys the law. -/
structure Obeys (s s' : ByteStream) (ended : Option Deed) : Prop where
  valid : s'.ring.Valid
  capacity_eq : s'.capacity = s.capacity
  flow : Flow s.ring.toList ended s'.ring.toList
  answers : ∀ d ∈ ended, Answers s d

variable {s s' : ByteStream}

/-- A step that leaves the bytes alone obeys the law if it may end so. -/
theorem Obeys.still (h : s.ring.Valid) {ended : Option Deed} (hRing : s'.ring = s.ring)
    (hFlow : Flow s.ring.toList ended s.ring.toList) (hAnswers : ∀ d ∈ ended, Answers s d) :
    Obeys s s' ended where
  valid := hRing ▸ h
  capacity_eq := congrArg ByteRing.capacity hRing
  flow := hRing ▸ hFlow
  answers := hAnswers

theorem Answers.of_mem {d : Deed} (h : Answers s d) : ∀ d' ∈ some d, Answers s d' := by
  intro d' hd
  obtain rfl := Option.some.inj hd
  exact h

/-- A put into a stream with the ring of `s` obeys the law of a send. -/
theorem Obeys.put {x : ByteStream} (h : s.ring.Valid) (hRing : x.ring = s.ring)
    {data : List UInt8} {how : Manner}
    (hAnswers : Answers s (.sent data how (.ok (min data.length s.space)))) :
    Obeys s (x.put data).object (some (.sent data how (.ok (x.put data).answer))) := by
  have hSpace : x.space = s.space := congrArg ByteRing.space hRing
  rw [answer_put, hSpace]
  refine ⟨?_, ?_, ?_, ?_⟩
  · rw [ring_put, hRing]
    exact h.write data
  · show (x.put data).object.ring.capacity = s.ring.capacity
    rw [ring_put, hRing, ByteRing.capacity_write]
  · rw [ring_put, hRing, ByteRing.toList_write h]
    -- the ring takes as many bytes as it has space for, and counts those there were
    have hTake : data.take s.ring.space = data.take (min data.length s.space) := by
      rw [List.take_eq_take_iff]
      show min s.ring.space data.length = min (min data.length s.ring.space) data.length
      omega
    rw [hTake]
    exact .accepted (Nat.min_le_left _ _)
  · exact hAnswers.of_mem

/-- A take from a stream with the ring of `s` obeys the law of a receive. -/
theorem Obeys.take {x : ByteStream} (h : s.ring.Valid) (hRing : x.ring = s.ring) {room : Nat}
    {again : Bool} {how : Manner} :
    Obeys s (x.take room).object (some (.received room again how (x.take room).answer)) := by
  cases hEmpty : x.ring.isEmpty with
  | true =>
    rw [take_of_isEmpty hEmpty]
    exact .still h hRing .denied (Answers.of_mem .denied)
  | false =>
    rw [take_of_not_isEmpty hEmpty]
    have hTaken : ((x.drained room).wakeAtTrigger.object).ring = (s.ring.read room).2 := by
      rw [ring_wakeAtTrigger, ← hRing]
      rfl
    refine ⟨?_, ?_, ?_, ?_⟩
    · show ((x.drained room).wakeAtTrigger.object).ring.Valid
      rw [hTaken]
      exact h.read room
    · show ((x.drained room).wakeAtTrigger.object).ring.capacity = s.ring.capacity
      rw [hTaken]
      rfl
    · show Flow s.ring.toList (some (.received room again how (.ok (x.ring.read room).1)))
        ((x.drained room).wakeAtTrigger.object).ring.toList
      rw [hTaken, hRing, ByteRing.fst_read h, ByteRing.toList_snd_read]
      nth_rewrite 1 [← List.take_append_drop room s.ring.toList]
      exact .handedOut (List.length_take_le _ _)
    · refine Answers.of_mem (.received ?_)
      rw [hRing, ByteRing.fst_read h, List.length_take, ByteRing.length_toList]
      rfl

theorem answers_noRoom (s : ByteStream) (again : Bool) (how : Manner) :
    Answers s (.received 0 again how (.ok [])) :=
  .received (Nat.zero_min s.available).symm

theorem flow_noRoom (bytes : List UInt8) (again : Bool) (how : Manner) :
    Flow bytes (some (.received 0 again how (.ok []))) bytes :=
  have hNone : ([] : List UInt8).length ≤ 0 := Nat.le_refl _
  .handedOut hNone

theorem obeys_turn (h : s.ring.Valid) {t : TaskId} {side : Side}
    {o : Outcome ByteStream (Round Call Deed)} (hTurn : Turn t s side o) :
    Obeys s o.object o.answer.deed? := by
  cases hTurn with
  | refused hClosed =>
    exact .still h rfl .refused (Answers.refused hClosed).of_mem
  | @sent data wait last hOpen hFits =>
    refine Obeys.put h (x := s.dropSender t) rfl ?_
    rcases hFits with hFits | ⟨rfl, hSome⟩
    · exact .whole hOpen hFits
    · exact .partly hOpen (Or.inr ⟨wait, rfl, hSome⟩)
  | joinedSenders | crowdedSenders | joinedReceivers | crowdedReceivers =>
    exact .still h rfl .nothing fun _ hd => by cases hd
  | gaveUpSending hOpen hShort hNone =>
    exact .still h rfl .refused (Answers.gaveUp hOpen hShort hNone).of_mem
  | received hReady => exact Obeys.take h (x := s.dropReceiver t) rfl
  | gaveUpReceiving hWait hEmpty =>
    exact .still h rfl .denied (Answers.of_mem .denied)

theorem obeys_deal (h : s.ring.Valid) {o : Outcome ByteStream (Option Deed)} (hDeal : Deal s o) :
    Obeys s o.object o.answer := by
  cases hDeal with
  | refused hClosed => exact .still h rfl .refused (Answers.refused hClosed).of_mem
  | full hOpen => exact .still h rfl .refused (Answers.full hOpen).of_mem
  | sent hOpen hHow =>
    refine Obeys.put h rfl ?_
    rcases hHow with ⟨-, hFits⟩ | hHow
    · exact .whole hOpen hFits
    · exact .partly hOpen (Or.inl hHow)
  | pendingSend | pendingReceive => exact .still h rfl .nothing fun _ hd => by cases hd
  | noRoom => exact .still h rfl (flow_noRoom ..) (answers_noRoom ..).of_mem
  | received => exact Obeys.take h rfl
  | empty => exact .still h rfl .denied (Answers.of_mem .denied)
  | flushedNothing | flushed => exact .still h rfl .flushed (Answers.of_mem .flushed)
  | closed => exact .still h rfl .closed (Answers.of_mem .closed)
  | reset => exact ⟨h.clear, rfl, .reset, Answers.of_mem .reset⟩
  | triggerRefused => exact .still h rfl .triggerSet (Answers.of_mem .triggerSet)
  | @triggerSet level =>
    exact .still h (ring_wakeAtTrigger _) .triggerSet (Answers.of_mem .triggerSet)

-- ---------------------------------------------------------------------------
-- How a look ends
-- ---------------------------------------------------------------------------

theorem ends_resume (k : Call) (s : ByteStream) (now : Ticks) (t : TaskId) :
    Ends s (some (errands.ofCall now k)) (protocol.resume k now t s).answer.deed? := by
  cases k with
  | sending w =>
    have hComes := w.comes_round now t s
    show Ends s (some (.send w.request.data (mannerOf w now)))
      ((w.round now t s).map
        (Round.map Call.sending (Deed.sent w.request.data (mannerOf w now)))).answer.deed?
    generalize w.round now t s = o at hComes ⊢
    cases hComes with
    | served | gaveUp => exact .sent
    | joined hServe hOver | crowded hServe hOver =>
      rcases serve_send_cases w.request (w.look now t) s with
        ⟨-, hLook⟩ | ⟨-, -, hLook⟩ | ⟨hOpen, hShort, -, -⟩
      · cases hServe.symm.trans hLook
      · cases hServe.symm.trans hLook
      · exact .sendWaits hOver hOpen hShort
  | receiving w =>
    have hReception := reception_round w s now t
    show Ends s (some (.receive w.request.room w.again (mannerOf w now))) _
    generalize protocol.resume (.receiving w) now t s = o at hReception ⊢
    cases hReception with
    | taken | gaveUp => exact .received
    | joined hWait hOver | crowded hWait hOver => exact .receiveWaits hOver hWait

/-- A first look is for what the call is for, and ends as its other looks do. -/
theorem ends_start (r : Request) (s : ByteStream) (now : Ticks) (t : TaskId) :
    Ends s (some (errands.ofRequest now r)) (protocol.start r now t s).answer.deed? := by
  cases r with
  | send data wait =>
    have hEnds := ends_resume (.sending (.start ⟨data⟩ wait now)) s now t
    rw [show errands.ofCall now (.sending (.start ⟨data⟩ wait now)) =
        .send data (.blocking wait (wait == 0)) from
      congrArg (fun last => Errand.send data (.blocking wait last)) (Waiting.isOver_start ..)]
      at hEnds
    exact hEnds
  | receive room wait =>
    show Ends s (some (.receive room false (.blocking wait (wait == 0 && room != 0)))) _
    by_cases hRoom : room = 0
    · rw [show protocol.start (.receive room wait) now t s = _ from if_pos hRoom, hRoom,
        bne_self_eq_false, Bool.and_false]
      exact .received
    · have hEnds := ends_resume (.receiving (.start ⟨room⟩ wait now)) s now t
      rw [show errands.ofCall now (.receiving (.start ⟨room⟩ wait now)) =
          .receive room false (.blocking wait (wait == 0)) from
        congrArg (fun last => Errand.receive room false (.blocking wait last))
          (Waiting.isOver_start ..)] at hEnds
      rw [show protocol.start (.receive room wait) now t s = _ from if_neg hRoom,
        bne_iff_ne.mpr hRoom, Bool.and_true]
      exact hEnds

theorem ends_act (a : Act) (s : ByteStream) :
    Ends s (some (errands.ofAct a)) (protocol.act a s).answer := by
  show Ends s _ (a.perform s).answer
  cases a with
  | sendNow | receiveNow | close | reset | setTrigger => constructor
  | flush =>
    rw [Act.perform]
    split
    · exact .flushed
    · exact .flushed
  | pollSend data waker =>
    rw [Act.perform, pollSend]
    split
    · exact .sent
    split
    · exact .sendWaits rfl (Bool.eq_false_iff.mpr ‹_›) ‹_›
    · exact .sent
  | pollReceive room again waker =>
    rw [Act.perform, pollReceive]
    split
    · exact .received
    split
    · exact .received
    · exact .receiveWaits rfl (Bool.eq_false_iff.mpr ‹_›)

theorem ends_step (w : World) (m : Move) :
    ∃ ended, (w.step protocol m).log = w.logged ended ∧
      Ends w.object (w.errand? errands m) ended :=
  World.ended_step .idle (fun t now r _ => ends_start r w.object now t)
    (fun t now s _ => ends_resume s.call w.object now t) (fun a => ends_act a w.object) m

-- ---------------------------------------------------------------------------
-- The law of a run
-- ---------------------------------------------------------------------------

variable {log : List (Record ByteStream Deed)} {r : Record ByteStream Deed}

theorem sinceReset_concat_of_reset (h : r.deed.isReset = true) : sinceReset (log ++ [r]) = [] :=
  List.rtakeWhile_concat_neg _ _ _ (by simp [h])

theorem sinceReset_concat (h : r.deed.isReset = false) :
    sinceReset (log ++ [r]) = sinceReset log ++ [r] :=
  List.rtakeWhile_concat_pos _ _ _ (by simp [h])

/-- What a step does to the bytes, its record does to the history. -/
theorem Flow.history {w : World} {ended : Option Deed} {bytes' : List UInt8}
    (hFlow : Flow w.object.ring.toList ended bytes')
    (hBytes : (sinceReset w.log).flatMap bytesOut ++ w.object.ring.toList =
      (sinceReset w.log).flatMap bytesIn) :
    (sinceReset (w.logged ended)).flatMap bytesOut ++ bytes' =
      (sinceReset (w.logged ended)).flatMap bytesIn := by
  generalize w.object.ring.toList = bytes at hFlow hBytes
  cases hFlow with
  | nothing =>
    rw [World.logged_none]
    exact hBytes
  | reset =>
    rw [World.logged_some, sinceReset_concat_of_reset rfl]
    rfl
  | accepted | refused | handedOut | denied | flushed | closed | triggerSet =>
    rw [World.logged_some, sinceReset_concat rfl, List.flatMap_append, List.flatMap_append,
      ← hBytes]
    simp [bytesOut, bytesIn]

/-- What every move keeps. -/
structure Sound (capacity : Nat) (w : World) : Prop where
  valid : w.object.ring.Valid
  positive : 0 < capacity
  capacity_eq : w.object.capacity = capacity
  bytes : (sinceReset w.log).flatMap bytesOut ++ w.object.ring.toList =
    (sinceReset w.log).flatMap bytesIn
  answers : ∀ r ∈ w.log, r.before.capacity = capacity ∧ Answers r.before r.deed

theorem sound_fresh {allocator : Allocator} {capacity trigger : Nat} {s : ByteStream}
    (hCreate : create allocator capacity trigger = .ok s) : Sound capacity (.fresh s) := by
  obtain ⟨hPos, -, ring, hRing, rfl⟩ := created_of_ok hCreate
  obtain ⟨hValid, hCapacity, hEmpty⟩ := ByteRing.valid_of_create hRing
  exact ⟨hValid, hPos, hCapacity, hEmpty, fun r hr => by cases hr⟩

variable {capacity : Nat} {w : World}

theorem Sound.obeys (h : Sound capacity w) (move : Move) :
    ∃ ended, (w.step protocol move).log = w.logged ended ∧
      Obeys w.object (w.step protocol move).object ended := by
  have hIdle : Obeys w.object w.object none :=
    .still h.valid rfl .nothing fun _ hd => by cases hd
  have hStepped := w.stepped_step protocol move
  generalize w.step protocol move = w' at hStepped ⊢
  cases hStepped with
  | idle | abandoned => exact ⟨none, w.logged_none.symm, hIdle⟩
  | @started t now r hOut =>
    have hTurn := turn_start r w.object now t
    generalize protocol.start r now t w.object = o at hTurn ⊢
    rcases hTurn with hTurn | ⟨wait, rfl⟩
    · exact ⟨_, rfl, obeys_turn h.valid hTurn⟩
    · exact ⟨_, rfl, .still h.valid rfl (flow_noRoom ..) (answers_noRoom ..).of_mem⟩
  | @resumed t now s hAsleep =>
    exact ⟨_, rfl, obeys_turn h.valid (turn_round s.call w.object now t)⟩
  | @acted a => exact ⟨_, rfl, obeys_deal h.valid (deal_act a w.object)⟩

theorem Sound.step (h : Sound capacity w) (move : Move) :
    Sound capacity (w.step protocol move) := by
  obtain ⟨ended, hLog, hObeys⟩ := h.obeys move
  refine ⟨hObeys.valid, h.positive, hObeys.capacity_eq.trans h.capacity_eq, ?_, ?_⟩
  · rw [hLog]
    exact hObeys.flow.history h.bytes
  · rw [hLog]
    intro r hr
    rcases List.mem_append.mp hr with hr | hr
    · exact h.answers r hr
    · obtain ⟨d, hd, rfl⟩ := List.mem_map.mp hr
      exact ⟨h.capacity_eq, hObeys.answers d (Option.mem_toList.mp hd)⟩

theorem sound_run {allocator : Allocator} {trigger : Nat} {s : ByteStream}
    (hCreate : create allocator capacity trigger = .ok s)
    (moves : List Move) : Sound capacity (s.after moves) :=
  after_induction (fun _ move _ h => h.step move) (sound_fresh hCreate)

/-- The look at the end of its wait ends a blocking send. -/
theorem deed_of_last {call : Waiting Send} {now : Ticks} (hOver : call.isOver now = true)
    (t : TaskId) (s : ByteStream) :
    ∃ answer, ((Call.sending call).round now t s).answer.deed? =
      some (.sent call.request.data (.blocking call.deadline.wait true) answer) := by
  obtain ⟨answer, hAnswer⟩ := Waiting.finished_of_last hOver t s
  refine ⟨answer, ?_⟩
  show (Round.map _ _ (call.round now t s).answer).deed? = _
  rw [hAnswer, mannerOf, hOver]
  rfl

/-- A stream of some capacity has space for no send, unless the send is of no bytes. -/
theorem space_lt_needed_iff {data : List UInt8} (hPos : 0 < s.capacity) (hNone : s.space = 0) :
    s.space < s.needed data.length ↔ data ≠ [] := by
  rw [hNone]
  show 0 < min data.length s.capacity ↔ data ≠ []
  rw [Nat.lt_min, List.length_pos_iff]
  exact and_iff_left hPos

/-- A blocking send fails for want of space if and only if its last look finds none. -/
theorem Answers.full_iff {data : List UInt8} {wait : Ticks} {last : Bool}
    {answer : Except StreamError Nat} (hPos : 0 < s.capacity)
    (h : Answers s (.sent data (.blocking wait last) answer)) :
    (answer = .error .full ∨ answer = .error .timeout) ↔
      last = true ∧ s.closed = false ∧ data ≠ [] ∧ s.space = 0 := by
  cases h with
  | refused hClosed =>
    simp [hClosed]
  | whole hOpen hFits =>
    refine ⟨fun hFailed => by simp at hFailed, ?_⟩
    rintro ⟨-, -, hSome, hNone⟩
    have hShort := (space_lt_needed_iff hPos hNone).mpr hSome
    omega
  | partly hOpen hHow =>
    refine ⟨fun hFailed => by simp at hFailed, ?_⟩
    rintro ⟨-, -, -, hNone⟩
    rcases hHow with hHow | ⟨wait', hHow, hSpace⟩
    · cases hHow
    · omega
  | gaveUp hOpen hShort hNone =>
    refine ⟨fun _ => ⟨rfl, hOpen, (space_lt_needed_iff hPos hNone).mp hShort, hNone⟩, fun _ => ?_⟩
    split
    · exact Or.inl rfl
    · exact Or.inr rfl

/-- A blocking send is refused if and only if it finds the stream closed. -/
theorem Answers.closed_iff {data : List UInt8} {wait : Ticks} {last : Bool}
    {answer : Except StreamError Nat} (h : Answers s (.sent data (.blocking wait last) answer)) :
    answer = .error .closed ↔ s.closed = true := by
  cases h with
  | refused hClosed => exact ⟨fun _ => hClosed, fun _ => rfl⟩
  | whole hOpen | partly hOpen => simp [hOpen]
  | gaveUp hOpen hShort hNone =>
    rw [hOpen]
    split <;> simp

theorem Sound.delivers (h : Sound capacity w) : Delivers capacity w where
  bytes := h.bytes
  written := by
    intro r hr data how n hDeed
    obtain ⟨-, hAnswers⟩ := h.answers r hr
    rw [hDeed] at hAnswers
    cases hAnswers with
    | whole hOpen | partly hOpen => exact ⟨hOpen, rfl⟩
  took := by
    intro r hr room again how data hDeed
    obtain ⟨-, hAnswers⟩ := h.answers r hr
    rw [hDeed] at hAnswers
    cases hAnswers with
    | received hLength => exact hLength
  partly := by
    intro r hr data how n hDeed hLess
    obtain ⟨hCapacity, hAnswers⟩ := h.answers r hr
    rw [hDeed] at hAnswers
    cases hAnswers with
    | whole hOpen hFits =>
      have hFits' : min data.length r.before.capacity ≤ r.before.space := hFits
      omega
    | partly hOpen hHow =>
      rcases hHow with hHow | ⟨wait, hHow, -⟩
      · exact Or.inl hHow
      · exact Or.inr ⟨wait, hHow⟩
  full := by
    intro r hr data wait last answer hDeed
    obtain ⟨hCapacity, hAnswers⟩ := h.answers r hr
    rw [hDeed] at hAnswers
    exact hAnswers.full_iff (hCapacity ▸ h.positive)
  closed := by
    intro r hr data wait last answer hDeed
    obtain ⟨-, hAnswers⟩ := h.answers r hr
    rw [hDeed] at hAnswers
    exact hAnswers.closed_iff
  final := by
    intro t now call limit hAsleep hOver
    obtain ⟨answer, hDeed⟩ := deed_of_last hOver t w.object
    refine ⟨answer, ?_⟩
    rw [World.step, hAsleep, ← hDeed]
    rfl
  finalAtOnce := by
    intro t now data hOut
    obtain ⟨answer, hDeed⟩ := deed_of_last (Waiting.isOver_start_zero ⟨data⟩ now) t w.object
    refine ⟨answer, ?_⟩
    rw [World.step, hOut]
    exact congrArg w.logged hDeed
  ends := ends_step w

/-- In every state of every run a stream delivers what it accepts. -/
theorem delivers_run {allocator : Allocator} {trigger : Nat} {s : ByteStream}
    (hCreate : create allocator capacity trigger = .ok s)
    (moves : List Move) : Delivers capacity (s.after moves) :=
  (sound_run hCreate moves).delivers

/-- A send of more than the stream holds gets in part of it at the end of its wait, and an
interrupt handler fills up what a receive has left. -/
def shortOfSpace : List Move :=
  [.act (.sendNow [1]), .start ⟨1⟩ 0 (.send [2, 3, 4] 5), .resume ⟨1⟩ 5,
    .start ⟨2⟩ 6 (.receive 1 0), .act (.sendNow [5, 6]), .act .reset, .act (.sendNow [7])]

theorem delivers_run_shortOfSpace :
    ∃ s, create .standard 2 1 = .ok s ∧ Delivers 2 (s.after shortOfSpace) ∧
      (s.after shortOfSpace).log.flatMap bytesIn = [1, 2, 5, 7] ∧
      (s.after shortOfSpace).log.flatMap bytesOut = [1] ∧
      (s.after shortOfSpace).object.ring.toList = [7] := by
  obtain ⟨s, hCreate⟩ : ∃ s, create .standard 2 1 = .ok s := ⟨_, rfl⟩
  refine ⟨s, hCreate, delivers_run hCreate shortOfSpace, ?_, ?_, ?_⟩
  all_goals
    cases hCreate
    decide +kernel

end ByteStream

end TaskSync
