import TaskSync.Proofs.Queue.Runs
import TaskSync.Proofs.Runs.Machine
import TaskSync.Machine.Transfers

/-!
# TaskSync — queues inside a machine

A machine deals with its queues by their protocol: whatever it does to the
queue at a place is what a move does to the queue of a `Queue.World`, and whom
the machine wakes the move wakes too.

* `Queue.perform_request`, `Queue.round_at` — blocking operations begin and go
  on as `Request` and `Call` say.
* `Queue.perform_deferring`, `Queue.poll_at` — so do the steps of interrupt
  handlers and of asynchronous operations.
-/

namespace TaskSync

namespace Queue

/-- A call as the machine keeps it that has the queue at `r`. -/
def Call.at (r : Ref) : Call → TaskSync.Call
  | .sending w => .queueSend r w
  | .receiving _ w => .queueReceive r w

/-- The result that a machine reports for a deed. -/
def Deed.result : Deed → Result
  | .sent _ answer => .ofExcept .queue (fun _ => .done) answer
  | .overwrote _ answer => .ofExcept .queue .flag answer
  | .received _ answer => .ofExcept .queue .bytes answer

/-- The machine's action for a blocking operation. -/
def Request.action : Request → QueueAction
  | .send item wait => .send item wait false
  | .receive size wait => .receive (some size) wait false

/-- The interrupt handler's action for a step that does not wait. -/
def Act.action? : Act → Option QueueAction
  | .sendNow item => some (.sendDeferring item false)
  | .sendOverwriting item => some (.overwriteDeferring item)
  | .receiveNow size => some (.receiveDeferring (some size))
  | .pollSend .. | .pollReceive .. => none

/-- The pending operation that a poll belongs to, and the waker it is polled with. -/
def Act.future? (r : Ref) : Act → Option (TaskSync.Future × WakerId)
  | .pollSend item waker => some (.queueSend r item, waker)
  | .pollReceive size waker => some (.queueReceive r size, waker)
  | _ => none

variable {s : Machine} {r : Ref} {q : Queue} {id : Name}

/-- A round of a call in a machine is a round by the protocol. -/
theorem round_at (hAt : s.get? Queue r = some q) (k : Call) (t : TaskId) :
    s.round t (k.at r) =
      (s.settle r (protocol.resume k s.now t q),
        (protocol.resume k s.now t q).answer.map (Call.at r) Deed.result) := by
  cases k with
  | sending w =>
    show s.roundAt t r w (.queueSend r) _ = _
    rw [Machine.roundAt_eq hAt]
    show _ = (_, ((w.round s.now t q).answer.map _ _).map (Call.at r) Deed.result)
    rw [Round.map_map]
    rfl
  | receiving size w =>
    show s.roundAt t r w (.queueReceive r) _ = _
    rw [Machine.roundAt_eq hAt]
    show _ = (_, ((w.round s.now t q).answer.map _ _).map (Call.at r) Deed.result)
    rw [Round.map_map]
    rfl

/-- A blocking operation ends at once with the protocol's answer, or comes down to a call whose
first round is the protocol's first look. -/
theorem perform_request (hAt : s.named? Queue id = some (r, q)) (req : Request) (t : TaskId) :
    (∃ d, s.performQueue id req.action = s.finish d.result ∧
      protocol.start req s.now t q = .still q (.finished d)) ∨
    (∃ k : Call, s.performQueue id req.action = (s, .calling (k.at r) .plain) ∧
      protocol.start req s.now t q = protocol.resume k s.now t q) := by
  cases req with
  | send item wait =>
    show (∃ d : Deed, s.onObject Queue id _ = s.finish d.result ∧
        Request.start s.now t q (.send item wait) = _) ∨
      ∃ k : Call, s.onObject Queue id _ = _ ∧ Request.start s.now t q (.send item wait) = _
    rw [Machine.onObject_eq hAt, Request.start]
    by_cases hSize : item.length = q.itemSize
    · rw [checkSize_of_eq hSize]
      exact Or.inr ⟨.sending (.start ⟨item⟩ wait s.now), rfl, rfl⟩
    · rw [checkSize_of_ne hSize]
      exact Or.inl ⟨_, rfl, rfl⟩
  | receive size wait =>
    show (∃ d : Deed, s.onObject Queue id _ = s.finish d.result ∧
        Request.start s.now t q (.receive size wait) = _) ∨
      ∃ k : Call, s.onObject Queue id _ = _ ∧ Request.start s.now t q (.receive size wait) = _
    rw [Machine.onObject_eq hAt, Request.start]
    by_cases hSize : size = q.itemSize
    · simp only [Option.getD_some, checkSize_of_eq hSize]
      exact Or.inr ⟨.receiving size (.start {} wait s.now), rfl, rfl⟩
    · simp only [Option.getD_some, checkSize_of_ne hSize]
      exact Or.inl ⟨_, rfl, rfl⟩

/-- A step of an interrupt handler is a step by the protocol, with the wakes deferred. -/
theorem perform_deferring (hAt : s.named? Queue id = some (r, q)) {a : Act} {action : QueueAction}
    (hAction : a.action? = some action) :
    (s.performQueue id action).1 = s.settleDeferring r (protocol.act a q) := by
  cases a with
  | sendNow | sendOverwriting | receiveNow =>
    obtain rfl := Option.some.inj hAction
    show (s.onObject Queue id _).1 = _
    rw [Machine.onObject_eq hAt]
    rfl
  | pollSend | pollReceive => cases hAction

/-- A poll of an asynchronous operation is a step by the protocol. -/
theorem poll_at (hAt : s.get? Queue r = some q) {a : Act} {f : TaskSync.Future} {waker : WakerId}
    (hFuture : a.future? r = some (f, waker)) (worker : Worker) (name : Name) :
    ∃ futures, (s.poll worker name waker f).1 =
      { s.settle r (protocol.act a q) with futures } := by
  cases a with
  | pollSend item waker' =>
    cases hFuture
    simp only [Machine.poll, hAt]
    exact s.finishPoll_eq name r (q.pollSend item waker) _ _
  | pollReceive size waker' =>
    cases hFuture
    simp only [Machine.poll, hAt]
    exact s.finishPoll_eq name r (q.pollReceive size waker) _ _
  | sendNow | sendOverwriting | receiveNow => cases hFuture

end Queue

end TaskSync
