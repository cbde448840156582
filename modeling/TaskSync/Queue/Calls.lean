import TaskSync.Queue.Basic
import TaskSync.Waiting

/-!
# TaskSync — sending and receiving with patience

The blocking forms (`Queue.Send`, `Queue.Receive`) wait for a free slot or an
item; a wait of zero ticks makes the call a single look. The asynchronous
forms (`pollSend`, `pollReceive`) leave a waker behind and are polled again.

A task that is served is taken off the wait list in the same step: a call
that returns has left nothing behind.
-/

namespace TaskSync

namespace Queue

/-- The request to append an item. -/
structure Send where
  item : List UInt8
deriving DecidableEq, Repr

/-- The request for the oldest item. -/
structure Receive where
deriving DecidableEq, Repr

instance : Blocks Send Queue (Except QueueError Unit) where
  serve r look q :=
    if q.isFull then none
    else some (({ q with senders := q.senders.remove look.task }.push r.item).map .ok)
  join _ task q := (q.senders.register task).map fun senders => { q with senders }
  leave _ task q := { q with senders := q.senders.remove task }
  giveUp _ wait _ := .error (if wait = 0 then .full else .timeout)

instance : Blocks Receive Queue (Except QueueError (List UInt8)) where
  serve _ look q :=
    if q.isEmpty then none
    else some ({ q with receivers := q.receivers.remove look.task }.pop.map .ok)
  join _ task q := (q.receivers.register task).map fun receivers => { q with receivers }
  leave _ task q := { q with receivers := q.receivers.remove task }
  giveUp _ wait _ := .error (if wait = 0 then .empty else .timeout)

/-- One poll of an asynchronous send; `none` means that it is still pending. -/
def pollSend (q : Queue) (item : List UInt8) (waker : WakerId) :
    Outcome Queue (Option (Except QueueError Unit)) :=
  match q.checkSize item.length with
  | .error e => .still q (some (.error e))
  | .ok () =>
    if q.isFull then
      let (senderWakers, called) := q.senderWakers.register waker
      ⟨{ q with senderWakers }, called, none⟩
    else (q.push item).map fun _ => some (.ok ())

/-- One poll of an asynchronous receive into a buffer of `size` bytes. -/
def pollReceive (q : Queue) (size : Nat) (waker : WakerId) :
    Outcome Queue (Option (Except QueueError (List UInt8))) :=
  match q.checkSize size with
  | .error e => .still q (some (.error e))
  | .ok () =>
    if q.isEmpty then
      let (receiverWakers, called) := q.receiverWakers.register waker
      ⟨{ q with receiverWakers }, called, none⟩
    else q.pop.map fun item => some (.ok item)

/-- How many tasks are blocked on the queue. -/
def waiting (q : Queue) : Nat := q.receivers.size + q.senders.size

/-- A queue may go only when nobody is blocked on it. -/
def checkDelete (q : Queue) : Except Fault Unit :=
  if q.waiting = 0 then .ok () else .error .queueInUse

end Queue

end TaskSync
