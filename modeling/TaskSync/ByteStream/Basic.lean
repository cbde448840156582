import TaskSync.ByteRing.Basic
import TaskSync.WaitList
import TaskSync.WakerSet
import TaskSync.Interrupt

/-!
# TaskSync — byte stream

A bounded stream of bytes with a **trigger level**. A receiver that finds
bytes on arrival takes what there is. A receiver that had to block is served
only when the level is reached, when the stream has been flushed, or when it
is closed. A closed stream refuses new bytes and hands out what is left.

One receiver is woken at a time; a transfer that leaves the level reached
wakes the next one (`wakeAtTrigger`). Senders ask for different amounts, so
every read wakes all of them to look again.
-/

namespace TaskSync

/-- Why a stream operation failed. -/
inductive StreamError
  | timeout
  /-- The stream is closed and, for a receiver, empty. -/
  | closed
  /-- No space, and the caller would not wait. -/
  | full
  /-- No bytes, and the caller would not wait. -/
  | empty
  /-- The trigger level is above the capacity. -/
  | triggerLevel
deriving DecidableEq, Repr

/-- A bounded byte stream with a trigger level. -/
structure ByteStream where
  ring : ByteRing
  /-- How many bytes a blocked receiver waits for. -/
  trigger : Nat
  /-- Blocked receivers may take less than the trigger level until the next read. -/
  flushed : Bool
  closed : Bool
  /-- Tasks blocked in a receive. -/
  receivers : WaitList
  /-- Tasks blocked in a send. -/
  senders : WaitList
  receiverWakers : WakerSet
  senderWakers : WakerSet
deriving Repr

namespace ByteStream

/-- An open, empty stream. A trigger level of 0 counts as 1. -/
def create (allocator : Allocator) (capacity trigger : Nat) : Except CreateError ByteStream :=
  if capacity = 0 ∨ capacity < trigger then .error .invalidParameter
  else
    match ByteRing.create allocator capacity with
    | .error refused => .error refused.toCreateError
    | .ok ring =>
      .ok { ring, trigger := max trigger 1, flushed := false, closed := false,
            receivers := .empty, senders := .empty,
            receiverWakers := .empty, senderWakers := .empty }

def capacity (s : ByteStream) : Nat := s.ring.capacity

/-- How many bytes are buffered. -/
def available (s : ByteStream) : Nat := s.ring.length

def space (s : ByteStream) : Nat := s.ring.space

/-- Whether a receiver can be served; `blocked` if it has had to wait. -/
def readable (s : ByteStream) (blocked : Bool) : Bool :=
  s.closed || (s.flushed && !s.ring.isEmpty) ||
    (if blocked then decide (s.trigger ≤ s.available) else !s.ring.isEmpty)

/-- How much space a send of `size` bytes waits for: all of it, or, for more
than fits at all, an empty stream. -/
def needed (s : ByteStream) (size : Nat) : Nat := min size s.capacity

-- ---------------------------------------------------------------------------
-- Transfers
-- ---------------------------------------------------------------------------

/-- Wakes the receivers' side if the trigger level is reached: all wakers and
the longest waiting task. -/
def wakeAtTrigger (s : ByteStream) : Outcome ByteStream Unit :=
  if s.available < s.trigger then .still s ()
  else
    { object := { s with receivers := s.receivers.dropFirst, receiverWakers := .empty }
      notices := s.receiverWakers.notices ++ s.receivers.firstNotice
      answer := () }

/-- Appends as many bytes as fit and says how many those are. -/
def put (s : ByteStream) (data : List UInt8) : Outcome ByteStream Nat :=
  let (ring, written) := s.ring.write data
  let s := { s with ring }
  if written = 0 then .still s 0 else s.wakeAtTrigger.map fun _ => written

/-- Takes out at most `room` bytes; an empty stream answers that it is closed.
The notices go to the senders' wakers, the receivers' side and the blocked
senders, in this order. -/
def take (s : ByteStream) (room : Nat) : Outcome ByteStream (Except StreamError (List UInt8)) :=
  if s.ring.isEmpty then .still s (.error .closed)
  else
    let (data, ring) := s.ring.read room
    let read := { s with ring, flushed := false, senderWakers := .empty }
    let chained := read.wakeAtTrigger
    { object := { chained.object with senders := .empty }
      notices := s.senderWakers.notices ++ chained.notices ++ s.senders.notices
      answer := .ok data }

-- ---------------------------------------------------------------------------
-- Control
-- ---------------------------------------------------------------------------

/-- Lets blocked receivers take what is buffered. Nothing happens to an empty
stream; `none` says so. -/
def flush (s : ByteStream) : Option (Outcome ByteStream Unit) :=
  if s.ring.isEmpty then none
  else some
    { object := { s with flushed := true, receivers := .empty, receiverWakers := .empty }
      notices := s.receiverWakers.notices ++ s.receivers.notices
      answer := () }

/-- Wakes everybody: receivers' wakers, senders' wakers, receivers, senders. -/
def wakeAll (s : ByteStream) : Outcome ByteStream Unit where
  object := { s with receivers := .empty, senders := .empty,
                     receiverWakers := .empty, senderWakers := .empty }
  notices := s.receiverWakers.notices ++ s.senderWakers.notices ++
    s.receivers.notices ++ s.senders.notices
  answer := ()

/-- Closes the stream. -/
def close (s : ByteStream) : Outcome ByteStream Unit := { s with closed := true }.wakeAll

/-- Drops all bytes and opens the stream again. -/
def reset (s : ByteStream) : Outcome ByteStream Unit :=
  { s with ring := s.ring.clear, flushed := false, closed := false }.wakeAll

/-- Changes the trigger level; 0 counts as 1. -/
def setTrigger (s : ByteStream) (level : Nat) : Outcome ByteStream (Except StreamError Unit) :=
  if s.capacity < level then .still s (.error .triggerLevel)
  else { s with trigger := max level 1 }.wakeAtTrigger.map .ok

-- ---------------------------------------------------------------------------
-- Inside interrupt handlers
-- ---------------------------------------------------------------------------

/-- Writes what fits; refused only if there are bytes to write and none fits. -/
def sendNow (s : ByteStream) (data : List UInt8) : Outcome ByteStream (Except StreamError Nat) :=
  if s.closed then .still s (.error .closed)
  else if !data.isEmpty && s.ring.isFull then .still s (.error .full)
  else (s.put data).map .ok

/-- Reads what there is, at most `room` bytes. -/
def receiveNow (s : ByteStream) (room : Nat) : Outcome ByteStream (Except StreamError (List UInt8)) :=
  if s.ring.isEmpty then .still s (.error (if s.closed then .closed else .empty))
  else s.take room

end ByteStream

end TaskSync
