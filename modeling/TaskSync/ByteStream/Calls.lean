import TaskSync.ByteStream.Basic
import TaskSync.Waiting

/-!
# TaskSync — stream transfers with patience

A blocking send (`ByteStream.Send`) waits until all its bytes fit, or the stream
is empty where they never can; at the end of its wait it writes what fits, and
fails only if that is nothing. A blocking receive (`ByteStream.Receive`) takes
what it finds on arrival; once blocked it obeys the trigger level, and at the
end of its wait it takes what there is.

A receive into a buffer without room is answered before it gets here: it
reads nothing and does not look at the stream.
-/

namespace TaskSync

namespace ByteStream

/-- The request to append bytes. -/
structure Send where
  data : List UInt8
deriving DecidableEq, Repr

/-- The request for at most `room` bytes. -/
structure Receive where
  room : Nat
deriving DecidableEq, Repr

instance : Blocks Send ByteStream (Except StreamError Nat) where
  serve r look s :=
    let off := { s with senders := s.senders.remove look.task }
    if s.closed then some (.still off (.error .closed))
    else if s.needed r.data.length ≤ s.space ∨ (look.last ∧ 0 < s.space) then
      some ((off.put r.data).map .ok)
    else none
  join _ task s := (s.senders.register task).map fun senders => { s with senders }
  leave _ task s := { s with senders := s.senders.remove task }
  giveUp _ wait _ := .error (if wait = 0 then .full else .timeout)

instance : Blocks Receive ByteStream (Except StreamError (List UInt8)) where
  serve r look s :=
    if s.readable look.again || (look.last && !s.ring.isEmpty) then
      some ({ s with receivers := s.receivers.remove look.task }.take r.room)
    else none
  join _ task s := (s.receivers.register task).map fun receivers => { s with receivers }
  leave _ task s := { s with receivers := s.receivers.remove task }
  giveUp _ wait _ := .error (if wait = 0 then .empty else .timeout)

/-- One poll of an asynchronous send; `none` means that it is still pending. -/
def pollSend (s : ByteStream) (data : List UInt8) (waker : WakerId) :
    Outcome ByteStream (Option (Except StreamError Nat)) :=
  if s.closed then .still s (some (.error .closed))
  else if s.space < s.needed data.length then
    let (senderWakers, called) := s.senderWakers.register waker
    ⟨{ s with senderWakers }, called, none⟩
  else (s.put data).map fun written => some (.ok written)

/-- One poll of an asynchronous receive of at most `room` bytes; `blocked` if
it has been polled in vain before. -/
def pollReceive (s : ByteStream) (room : Nat) (blocked : Bool) (waker : WakerId) :
    Outcome ByteStream (Option (Except StreamError (List UInt8))) :=
  if room = 0 then .still s (some (.ok []))
  else if s.readable blocked then (s.take room).map some
  else
    let (receiverWakers, called) := s.receiverWakers.register waker
    ⟨{ s with receiverWakers }, called, none⟩

end ByteStream

end TaskSync
