import TaskSync.Proofs.ByteStream.Runs
import TaskSync.Proofs.Runs.Machine
import TaskSync.Machine.Transfers

/-!
# TaskSync — byte streams inside a machine

A machine deals with its streams by their protocol, as it does with its queues
(`TaskSync.Proofs.Queue.Machine`).

* `ByteStream.perform_request`, `ByteStream.round_at` — blocking operations.
* `ByteStream.perform_deferring`, `ByteStream.poll_at` — the steps of interrupt
  handlers and of asynchronous operations.
* `ByteStream.perform_control` — flush, close, reset and the trigger level.
-/

namespace TaskSync

namespace ByteStream

/-- A call as the machine keeps it that has the stream at `r`. -/
def Call.at (r : Ref) : Call → TaskSync.Call
  | .sending w => .streamSend r w
  | .receiving w => .streamReceive r w

/-- The result that a machine reports for a deed. -/
def Deed.result : Deed → Result
  | .sent _ _ answer => .ofExcept .stream .number answer
  | .received _ _ _ answer => .ofExcept .stream .bytes answer
  | .flushed | .closed | .reset => .ok .done
  | .triggerSet _ answer => .ofExcept .stream (fun _ => .done) answer

/-- The machine's action for a blocking operation. -/
def Request.action : Request → StreamAction
  | .send data wait => .send data wait
  | .receive room wait => .receive room wait

/-- The interrupt handler's action for a step that does not wait. -/
def Act.deferring? : Act → Option StreamAction
  | .sendNow data => some (.sendDeferring data)
  | .receiveNow room => some (.receiveDeferring room)
  | _ => none

/-- The action for a control operation. -/
def Act.control? : Act → Option StreamAction
  | .flush => some .flush
  | .close => some .close
  | .reset => some .reset
  | .setTrigger level => some (.setTrigger level)
  | _ => none

/-- The pending operation that a poll belongs to, and the waker it is polled with. -/
def Act.future? (r : Ref) : Act → Option (TaskSync.Future × WakerId)
  | .pollSend data waker => some (.streamSend r data, waker)
  | .pollReceive room again waker => some (.streamReceive r room again, waker)
  | _ => none

variable {s : Machine} {r : Ref} {x : ByteStream} {id : Name}

/-- A round of a call in a machine is a round by the protocol. -/
theorem round_at (hAt : s.get? ByteStream r = some x) (k : Call) (t : TaskId) :
    s.round t (k.at r) =
      (s.settle r (protocol.resume k s.now t x),
        (protocol.resume k s.now t x).answer.map (Call.at r) Deed.result) := by
  cases k with
  | sending w =>
    show s.roundAt t r w (.streamSend r) _ = _
    rw [Machine.roundAt_eq hAt]
    show _ = (_, ((w.round s.now t x).answer.map _ _).map (Call.at r) Deed.result)
    rw [Round.map_map]
    rfl
  | receiving w =>
    show s.roundAt t r w (.streamReceive r) _ = _
    rw [Machine.roundAt_eq hAt]
    show _ = (_, ((w.round s.now t x).answer.map _ _).map (Call.at r) Deed.result)
    rw [Round.map_map]
    rfl

/-- A blocking operation ends at once with the protocol's answer, or comes down to a call whose
first round is the protocol's first look. -/
theorem perform_request (hAt : s.named? ByteStream id = some (r, x)) (req : Request) (t : TaskId) :
    (∃ d : Deed, s.performStream id req.action = s.finish d.result ∧
      protocol.start req s.now t x = .still x (.finished d)) ∨
    (∃ k : Call, s.performStream id req.action = (s, .calling (k.at r) .plain) ∧
      protocol.start req s.now t x = protocol.resume k s.now t x) := by
  cases req with
  | send data wait =>
    right
    refine ⟨.sending (.start ⟨data⟩ wait s.now), ?_, rfl⟩
    exact Machine.onObject_eq hAt _
  | receive room wait =>
    show (∃ d : Deed, s.onObject ByteStream id _ = s.finish d.result ∧
        Request.start s.now t x (.receive room wait) = _) ∨
      ∃ k : Call, s.onObject ByteStream id _ = _ ∧ Request.start s.now t x (.receive room wait) = _
    rw [Machine.onObject_eq hAt, Request.start]
    by_cases hRoom : room = 0
    · rw [if_pos hRoom, if_pos hRoom]
      exact Or.inl ⟨_, rfl, rfl⟩
    · rw [if_neg hRoom, if_neg hRoom]
      exact Or.inr ⟨.receiving (.start ⟨room⟩ wait s.now), rfl, rfl⟩

/-- A step of an interrupt handler is a step by the protocol, with the wakes deferred. -/
theorem perform_deferring (hAt : s.named? ByteStream id = some (r, x)) {a : Act}
    {action : StreamAction} (hAction : a.deferring? = some action) :
    (s.performStream id action).1 = s.settleDeferring r (protocol.act a x) := by
  cases a with
  | sendNow | receiveNow =>
    obtain rfl := Option.some.inj hAction
    show (s.onObject ByteStream id _).1 = _
    rw [Machine.onObject_eq hAt]
    rfl
  | _ => cases hAction

/-- A control operation is a step by the protocol, or changes nothing in the machine or by the
protocol. -/
theorem perform_control (hAt : s.named? ByteStream id = some (r, x)) {a : Act}
    {action : StreamAction} (hAction : a.control? = some action) :
    (s.performStream id action).1 = s.settle r (protocol.act a x) ∨
      (s.performStream id action).1 = s ∧ ∃ d, protocol.act a x = .still x (some d) := by
  cases a with
  | flush =>
    obtain rfl := Option.some.inj hAction
    show (s.onObject ByteStream id _).1 = s.settle r (Act.flush.perform x) ∨
      (s.onObject ByteStream id _).1 = s ∧ ∃ d, Act.flush.perform x = _
    rw [Machine.onObject_eq hAt, Act.perform]
    cases hFlush : x.flush with
    | none => exact Or.inr ⟨rfl, .flushed, rfl⟩
    | some o => exact Or.inl rfl
  | close | reset | setTrigger =>
    obtain rfl := Option.some.inj hAction
    left
    show (s.onObject ByteStream id _).1 = _
    rw [Machine.onObject_eq hAt]
    rfl
  | _ => cases hAction

/-- A poll of an asynchronous operation is a step by the protocol. -/
theorem poll_at (hAt : s.get? ByteStream r = some x) {a : Act} {f : TaskSync.Future}
    {waker : WakerId} (hFuture : a.future? r = some (f, waker)) (worker : Worker) (name : Name) :
    ∃ futures, (s.poll worker name waker f).1 =
      { s.settle r (protocol.act a x) with futures } := by
  cases a with
  | pollSend data waker' =>
    cases hFuture
    simp only [Machine.poll, hAt]
    exact s.finishPoll_eq name r (x.pollSend data waker) _ _
  | pollReceive room again waker' =>
    cases hFuture
    simp only [Machine.poll, hAt]
    exact s.finishPoll_eq name r (x.pollReceive room again waker) _ _
  | _ => cases hFuture

end ByteStream

end TaskSync
