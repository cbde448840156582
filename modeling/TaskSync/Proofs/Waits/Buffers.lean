import TaskSync.Proofs.Waits.Attempts
import TaskSync.Proofs.ByteRing.Loops
import TaskSync.Machine.Perform

/-!
# TaskSync — receiving to a buffer

Whoever receives brings a buffer for the bytes to be written to. The requests of
this library leave it out: a receive that is served answers with the bytes. Here
the buffer is put back, so that it can be said when it is written to: what takes
bytes out writes them to the buffer (`Queue.popInto`, `ByteStream.takeInto`), and
each attempt of a call finds the buffer as the one before has left it, since
nobody else has it (`Waiting.attemptsInto`).

* `Fills.fillsBuffer` — attempt by attempt, a receive to a buffer does what the
  receive without does, and the bytes that one answers come to the front of the
  buffer.
* `Spares.keepsBuffer` — a receive that fails has not written to its buffer.
* `Machine.complete_buffer` — what a machine hands out after a receive is the
  buffer that it brought.
-/

namespace TaskSync

variable {κ ρ σ ε β : Type}

/-- An object that is read, and the buffer of who reads it. -/
structure Reading (σ : Type) where
  object : σ
  buffer : Array UInt8

/-- A buffer after a receive: the bytes received are written to its front. -/
def bufferAfter (out : Array UInt8) : Except ε (List UInt8) → Array UInt8
  | .ok data => Stretch.overwrite out 0 data
  | .error _ => out

-- ---------------------------------------------------------------------------
-- Taking bytes out to a buffer
-- ---------------------------------------------------------------------------

namespace ByteRing

/-- Takes the oldest bytes out to a buffer, as many as there are or go in, and says how many
those are. -/
def readInto (r : ByteRing) (out : Array UInt8) : ByteRing × Array UInt8 × Nat :=
  let (data, ring) := r.read out.size
  (ring, Stretch.overwrite out 0 data, data.length)

/-- The bytes are copied to the buffer in two turns at most. -/
theorem Fits.read?_eq_readInto {r : ByteRing} (h : r.Fits) (out : Array UInt8) :
    r.read? 2 out = some (r.readInto out) := by
  have hCount : (r.read out.size).1.length = min out.size r.length := by
    rw [fst_read h.toValid, List.length_take, length_toList]
  rw [h.read?_eq, ← hCount]
  rfl

end ByteRing

namespace Queue

/-- Takes the oldest item out of a queue that has one, to a buffer of its size. -/
def popInto (q : Queue) (out : Array UInt8) : Outcome (Reading Queue) Unit :=
  let (ring, buffer, _) := q.ring.readInto out
  { object := ⟨{ q with
        ring
        count := q.count - 1
        senders := q.senders.dropFirst
        senderWakers := .empty }, buffer⟩
    notices := q.senderWakers.notices ++ q.senders.firstNotice
    answer := () }

/-- The request for the oldest item in a buffer. -/
structure ReceiveInto where

instance : Blocks ReceiveInto (Reading Queue) (Except QueueError Unit) where
  serve _ look x :=
    if x.object.isEmpty then none
    else some (({ x.object with receivers := x.object.receivers.remove look.task }.popInto
      x.buffer).map .ok)
  join _ task x := (x.object.receivers.register task).map fun receivers =>
    { x with object := { x.object with receivers } }
  leave _ task x :=
    { x with object := { x.object with receivers := x.object.receivers.remove task } }
  giveUp _ wait _ := .error (if wait = 0 then .empty else .timeout)

end Queue

namespace ByteStream

/-- Takes bytes out to a buffer and says how many those are; an empty stream answers that it is
closed. -/
def takeInto (s : ByteStream) (out : Array UInt8) :
    Outcome (Reading ByteStream) (Except StreamError Nat) :=
  if s.ring.isEmpty then .still ⟨s, out⟩ (.error .closed)
  else
    let (ring, buffer, count) := s.ring.readInto out
    let read := { s with ring, flushed := false, senderWakers := .empty }
    let chained := read.wakeAtTrigger
    { object := ⟨{ chained.object with senders := .empty }, buffer⟩
      notices := s.senderWakers.notices ++ chained.notices ++ s.senders.notices
      answer := .ok count }

/-- The request for as many bytes as go into a buffer. -/
structure ReceiveInto where

instance : Blocks ReceiveInto (Reading ByteStream) (Except StreamError Nat) where
  serve _ look x :=
    if x.object.readable look.again || (look.last && !x.object.ring.isEmpty) then
      some ({ x.object with receivers := x.object.receivers.remove look.task }.takeInto x.buffer)
    else none
  join _ task x := (x.object.receivers.register task).map fun receivers =>
    { x with object := { x.object with receivers } }
  leave _ task x :=
    { x with object := { x.object with receivers := x.object.receivers.remove task } }
  giveUp _ wait _ := .error (if wait = 0 then .empty else .timeout)

end ByteStream

-- ---------------------------------------------------------------------------
-- The attempts of a call that has brought a buffer
-- ---------------------------------------------------------------------------

/-- The rounds of a call, of which each finds the buffer as the one before has left it. -/
def Waiting.attemptsInto {α : Type} [Blocks κ (Reading σ) α] (task : TaskId) :
    Waiting κ → Array UInt8 → List (Glimpse σ) → List (Attempt κ (Reading σ) α)
  | _, _, [] => []
  | w, out, g :: later =>
    let a := w.attempt task ⟨g.time, g.object, out⟩
    a :: match a.outcome.answer with
      | .finished _ => []
      | .suspended next _ => attemptsInto task next a.outcome.object.buffer later

-- ---------------------------------------------------------------------------
-- Receives that fail
-- ---------------------------------------------------------------------------

/-- A receive that fails has not written to its buffer. -/
def KeepsBuffer (κ : Type) {σ ε β : Type} [Blocks κ (Reading σ) (Except ε β)] : Prop :=
  ∀ (request : κ) (wait now : Ticks) (t : TaskId) (out : Array UInt8) (glimpses : List (Glimpse σ))
    (last a : Attempt κ (Reading σ) (Except ε β)) (e : ε),
    last ∈ (Waiting.start request wait now).attemptsInto t out glimpses →
    last.outcome.answer = .finished (.error e) →
    a ∈ (Waiting.start request wait now).attemptsInto t out glimpses →
    a.outcome.object.buffer = out

/-- Nothing but a request that is granted writes to the buffer. -/
structure Spares (κ : Type) {σ ε β : Type} [Blocks κ (Reading σ) (Except ε β)] : Prop where
  serve : ∀ {r : κ} {look : Look} {x : Reading σ} {o : Outcome (Reading σ) (Except ε β)} {e : ε},
    Blocks.serve r look x = some o → o.answer = .error e → o.object.buffer = x.buffer
  join : ∀ {r : κ} {t : TaskId} {x x' : Reading σ}, Blocks.join r t x = some x' →
    x'.buffer = x.buffer
  leave : ∀ (r : κ) (t : TaskId) (x : Reading σ), (Blocks.leave r t x).buffer = x.buffer

namespace Spares

variable [Blocks κ (Reading σ) (Except ε β)] {w : Waiting κ} {now : Ticks} {t : TaskId}
  {x : Reading σ}

theorem buffer_of_suspended (h : Spares κ) {next : Waiting κ} {limit : Option Ticks}
    (hSuspended : (w.round now t x).answer = .suspended next limit) :
    (w.round now t x).object.buffer = x.buffer := by
  have hComes := w.comes_round now t x
  generalize w.round now t x = o at hComes hSuspended ⊢
  cases hComes with
  | served | gaveUp => cases hSuspended
  | joined _ _ hJoin => exact h.join hJoin
  | crowded => rfl

theorem buffer_of_failed (h : Spares κ) {e : ε}
    (hFailed : (w.round now t x).answer = .finished (.error e)) :
    (w.round now t x).object.buffer = x.buffer := by
  have hComes := w.comes_round now t x
  generalize w.round now t x = o at hComes hFailed ⊢
  cases hComes with
  | served hServe => exact h.serve hServe (Round.finished.inj hFailed)
  | joined | crowded => cases hFailed
  | gaveUp => exact h.leave _ _ _

/-- No attempt of a call that fails has written to the buffer. -/
theorem buffer_of_mem (h : Spares κ) {out : Array UInt8} {glimpses : List (Glimpse σ)}
    {last a : Attempt κ (Reading σ) (Except ε β)} {e : ε}
    (hLast : last ∈ w.attemptsInto t out glimpses)
    (hFailed : last.outcome.answer = .finished (.error e))
    (hMem : a ∈ w.attemptsInto t out glimpses) : a.outcome.object.buffer = out := by
  induction glimpses generalizing w out with
  | nil => cases hMem
  | cons g later ih =>
    rw [Waiting.attemptsInto] at hLast hMem
    generalize hFirst : w.attempt t ⟨g.time, g.object, out⟩ = first at hLast hMem
    cases hAnswer : first.outcome.answer with
    | finished answer =>
      rw [hAnswer, List.mem_singleton] at hLast hMem
      rw [hLast, ← hFirst] at hFailed
      rw [hMem, ← hFirst]
      exact h.buffer_of_failed hFailed
    | suspended next limit =>
      rw [hAnswer] at hLast hMem
      rw [← hFirst] at hAnswer
      have hKept : first.outcome.object.buffer = out := by
        rw [← hFirst]
        exact h.buffer_of_suspended hAnswer
      rw [hKept] at hLast hMem
      rcases List.mem_cons.mp hMem with rfl | hLater
      · exact hKept
      rcases List.mem_cons.mp hLast with rfl | hLast
      · rw [← hFirst] at hFailed
        cases hFailed.symm.trans hAnswer
      · exact ih hLast hLater

theorem keepsBuffer (h : Spares κ) : KeepsBuffer κ :=
  fun _ _ _ _ _ _ _ _ _ hLast hFailed hMem => h.buffer_of_mem hLast hFailed hMem

end Spares

/-- An item is received in any case. -/
theorem Queue.spares_receiveInto : Spares Queue.ReceiveInto where
  serve {r look x o e} hServe hFailed := by
    have hLook : (if x.object.isEmpty then none else some _) = some o := hServe
    split at hLook
    · cases hLook
    · obtain rfl := Option.some.inj hLook
      cases hFailed
  join {r t x x'} hJoin := by
    obtain ⟨receivers, -, rfl⟩ := Option.map_eq_some_iff.mp hJoin
    rfl
  leave _ _ _ := rfl

/-- A stream that is closed and empty answers so before anything is read. -/
theorem ByteStream.spares_receiveInto : Spares ByteStream.ReceiveInto where
  serve {r look x o e} hServe hFailed := by
    have hLook : (if _ then some _ else none) = some o := hServe
    split at hLook
    · obtain rfl := Option.some.inj hLook
      unfold takeInto at hFailed ⊢
      split at hFailed
      · rename_i hEmpty
        rw [if_pos hEmpty]
        rfl
      · cases hFailed
    · cases hLook
  join {r t x x'} hJoin := by
    obtain ⟨receivers, -, rfl⟩ := Option.map_eq_some_iff.mp hJoin
    rfl
  leave _ _ _ := rfl

-- ---------------------------------------------------------------------------
-- With and without a buffer
-- ---------------------------------------------------------------------------

/-- What a step of a receive comes to if its caller has brought the buffer `out` and is told `tell`
of the bytes. -/
def Outcome.into (tell : List UInt8 → β) (out : Array UInt8)
    (o : Outcome σ (Except ε (List UInt8))) : Outcome (Reading σ) (Except ε β) :=
  ⟨⟨o.object, bufferAfter out o.answer⟩, o.notices, o.answer.map tell⟩

/-- The same call for another request. -/
def Waiting.as (request : κ) (w : Waiting ρ) : Waiting κ := { w with request }

/-- What a round of a receive comes to if its caller has brought a buffer. -/
def Outcome.roundInto (request : κ) (tell : List UInt8 → β) (out : Array UInt8)
    (o : Outcome σ (Round (Waiting ρ) (Except ε (List UInt8)))) :
    Outcome (Reading σ) (Round (Waiting κ) (Except ε β)) where
  object := ⟨o.object, match o.answer with
    | .finished answer => bufferAfter out answer
    | .suspended _ _ => out⟩
  notices := o.notices
  answer := o.answer.map (·.as request) (Except.map tell)

/-- An attempt of a receive whose caller has brought a buffer. -/
def Attempt.into (request : κ) (tell : List UInt8 → β) (out : Array UInt8)
    (a : Attempt ρ σ (Except ε (List UInt8))) : Attempt κ (Reading σ) (Except ε β) :=
  ⟨a.call.as request, ⟨a.found.time, a.found.object, out⟩, a.outcome.roundInto request tell out⟩

variable {tell : List UInt8 → β} {bare : Array UInt8 → ρ} {suits : σ → Array UInt8 → Prop}

/-- Receives `κ` that bring a buffer make the same attempts as the receives `bare` that bring none,
and the bytes that those answer come to the front of the buffer. This is so for buffers that suit
the object. -/
def FillsBuffer (κ : Type) {ρ σ ε β : Type} [Blocks κ (Reading σ) (Except ε β)]
    [Blocks ρ σ (Except ε (List UInt8))] (tell : List UInt8 → β) (bare : Array UInt8 → ρ)
    (suits : σ → Array UInt8 → Prop) : Prop :=
  ∀ (request : κ) (wait now : Ticks) (t : TaskId) (out : Array UInt8)
    (glimpses : List (Glimpse σ)), (∀ g ∈ glimpses, suits g.object out) →
    (Waiting.start request wait now).attemptsInto t out glimpses =
      ((Waiting.start (bare out) wait now).attempts t glimpses).map (·.into request tell out)

/-- Receives `κ` that bring a buffer do what the receives `bare` do, whatever a round may ask of
them. -/
structure Fills (κ : Type) {ρ σ ε β : Type} [Blocks κ (Reading σ) (Except ε β)]
    [Blocks ρ σ (Except ε (List UInt8))] (tell : List UInt8 → β) (bare : Array UInt8 → ρ)
    (suits : σ → Array UInt8 → Prop) : Prop where
  serve : ∀ (r : κ) (look : Look) {x : σ} {out : Array UInt8}, suits x out →
    Blocks.serve r look (⟨x, out⟩ : Reading σ) =
      (Blocks.serve (bare out) look x).map (Outcome.into tell out)
  join : ∀ (r : κ) (t : TaskId) (x : σ) (out : Array UInt8),
    Blocks.join r t (⟨x, out⟩ : Reading σ) =
      (Blocks.join (bare out) t x).map fun joined => ⟨joined, out⟩
  leave : ∀ (r : κ) (t : TaskId) (x : σ) (out : Array UInt8),
    Blocks.leave r t (⟨x, out⟩ : Reading σ) = ⟨Blocks.leave (bare out) t x, out⟩
  giveUp : ∀ (r : κ) (wait : Ticks) (x : σ) (out : Array UInt8),
    ∃ e, Blocks.giveUp (bare out) wait x = .error e ∧
      Blocks.giveUp r wait (⟨x, out⟩ : Reading σ) = .error e

namespace Fills

variable [Blocks κ (Reading σ) (Except ε β)] [Blocks ρ σ (Except ε (List UInt8))] {w : Waiting ρ}
  {x : σ} {out : Array UInt8}

theorem lookOrJoin_eq (h : Fills κ tell bare suits) (request : κ) (hRequest : w.request = bare out)
    (hSuits : suits x out) (left : Option Ticks) (t : TaskId) :
    (w.as request).lookOrJoin left t ⟨x, out⟩ =
      (w.lookOrJoin left t x).roundInto request tell out := by
  have hServe : Blocks.serve request ⟨t, w.again, false⟩ (⟨x, out⟩ : Reading σ) = _ :=
    h.serve request ⟨t, w.again, false⟩ hSuits
  have hJoin : Blocks.join request t (⟨x, out⟩ : Reading σ) = _ := h.join request t x out
  rw [← hRequest] at hServe hJoin
  unfold Waiting.lookOrJoin
  rw [Waiting.as, hServe, hJoin]
  cases Blocks.serve w.request ⟨t, w.again, false⟩ x with
  | some served => rfl
  | none => cases Blocks.join w.request t x <;> rfl

theorem lastLook_eq (h : Fills κ tell bare suits) (request : κ) (hRequest : w.request = bare out)
    (hSuits : suits x out) (t : TaskId) :
    (w.as request).lastLook t ⟨x, out⟩ = (w.lastLook t x).into tell out := by
  have hServe : Blocks.serve request ⟨t, w.again, true⟩ (⟨x, out⟩ : Reading σ) = _ :=
    h.serve request ⟨t, w.again, true⟩ hSuits
  have hLeave : Blocks.leave request t (⟨x, out⟩ : Reading σ) = _ := h.leave request t x out
  obtain ⟨e, hBare, hGiveUp⟩ :=
    h.giveUp request w.deadline.wait (Blocks.leave (bare out) t x) out
  rw [← hRequest] at hServe hLeave hBare hGiveUp
  unfold Waiting.lastLook
  rw [Waiting.as, hServe]
  cases Blocks.serve w.request ⟨t, w.again, true⟩ x with
  | some served => rfl
  | none =>
    show Outcome.still (Blocks.leave request t (⟨x, out⟩ : Reading σ)) (Blocks.giveUp request
        w.deadline.wait (Blocks.leave request t (⟨x, out⟩ : Reading σ))) =
      (Outcome.still (Blocks.leave w.request t x) (Blocks.giveUp w.request w.deadline.wait
        (Blocks.leave w.request t x))).into tell out
    rw [hLeave, hGiveUp, hBare]
    rfl

/-- A round of a receive to a buffer. -/
theorem round_eq (h : Fills κ tell bare suits) (request : κ) (hRequest : w.request = bare out)
    (hSuits : suits x out) (now : Ticks) (t : TaskId) :
    (w.as request).round now t ⟨x, out⟩ = (w.round now t x).roundInto request tell out := by
  cases hOver : w.isOver now with
  | true =>
    rw [Waiting.round_of_over hOver, Waiting.round_of_over (show (w.as request).isOver now = true
      from hOver), h.lastLook_eq request hRequest hSuits]
    rfl
  | false =>
    rw [Waiting.round_of_not_over hOver, Waiting.round_of_not_over
      (show (w.as request).isOver now = false from hOver)]
    exact h.lookOrJoin_eq request hRequest hSuits _ t

theorem attemptsInto_eq (h : Fills κ tell bare suits) (request : κ) {glimpses : List (Glimpse σ)}
    (hRequest : w.request = bare out) (hSuits : ∀ g ∈ glimpses, suits g.object out) (t : TaskId) :
    (w.as request).attemptsInto t out glimpses =
      (w.attempts t glimpses).map (·.into request tell out) := by
  induction glimpses generalizing w with
  | nil => rfl
  | cons g later ih =>
    obtain ⟨hHere, hLater⟩ := List.forall_mem_cons.mp hSuits
    have hFirst : (w.as request).attempt t ⟨g.time, g.object, out⟩ =
        (w.attempt t g).into request tell out := by
      rw [Waiting.attempt, h.round_eq request hRequest hHere]
      rfl
    rw [Waiting.attemptsInto, Waiting.attempts, hFirst, List.map_cons]
    refine congrArg (_ :: ·) ?_
    cases hAnswer : (w.attempt t g).outcome.answer with
    | finished answer =>
      simp only [Attempt.into, Outcome.roundInto, hAnswer, Round.map, List.map_nil]
    | suspended next limit =>
      obtain rfl := Waiting.eq_of_suspended hAnswer
      simp only [Attempt.into, Outcome.roundInto, hAnswer, Round.map]
      exact ih hRequest hLater

theorem fillsBuffer (h : Fills κ tell bare suits) : FillsBuffer κ tell bare suits :=
  fun request wait now t out _ hSuits =>
    h.attemptsInto_eq (w := .start (bare out) wait now) request rfl hSuits t

end Fills

/-- Where an item goes to a buffer of its size. -/
theorem Queue.fills_receiveInto :
    Fills Queue.ReceiveInto (fun _ => ()) (fun _ => ({} : Queue.Receive))
      fun q out => out.size = q.itemSize where
  serve r look q out hSize := by
    show (if q.isEmpty then none else some _) = Option.map _ (if q.isEmpty then none else some _)
    split
    · rfl
    · show some _ = some _
      rw [popInto, ByteRing.readInto, hSize]
      rfl
  join _ t q out := by
    show (q.receivers.register t).map _ = ((q.receivers.register t).map _).map _
    rw [Option.map_map]
    rfl
  leave _ _ _ _ := rfl
  giveUp _ _ _ _ := ⟨_, rfl, rfl⟩

/-- Bytes go to a buffer as far as they go in. -/
theorem ByteStream.fills_receiveInto :
    Fills ByteStream.ReceiveInto List.length (fun out => (⟨out.size⟩ : ByteStream.Receive))
      fun _ _ => True where
  serve r look s out _ := by
    show (if _ then some _ else none) = Option.map _ (if _ then some _ else none)
    split
    · show some _ = some _
      unfold takeInto take
      split <;> rfl
    · rfl
  join _ t s out := by
    show (s.receivers.register t).map _ = ((s.receivers.register t).map _).map _
    rw [Option.map_map]
    rfl
  leave _ _ _ _ := rfl
  giveUp _ _ _ _ := ⟨_, rfl, rfl⟩

-- ---------------------------------------------------------------------------
-- The buffer of a machine's caller
-- ---------------------------------------------------------------------------

/-- A machine brings a blank buffer and hands it out as it is after the receive. -/
theorem Machine.complete_buffer (s : Machine) (worker : Worker) {size : Nat}
    {answer : Except QueueError (List UInt8)}
    (hRoom : ∀ data, answer = .ok data → data.length ≤ size) :
    s.complete worker (.buffer size) (.ofExcept .queue .bytes answer) =
      (s, .answered (.ok (.received answer.isOk
        (bufferAfter (Array.replicate size blankByte) answer).toList))) := by
  cases answer with
  | ok data =>
    have hBlank : (Array.replicate size blankByte).toList.drop data.length =
        List.replicate (size - data.length) blankByte := by
      rw [Array.toList_replicate, List.drop_replicate]
    rw [bufferAfter, Stretch.toList_overwrite_zero (by
      rw [Array.size_replicate]
      exact hRoom data rfl), hBlank]
    rfl
  | error e =>
    rw [bufferAfter, Array.toList_replicate]
    rfl

end TaskSync
