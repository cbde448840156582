import TaskSync.ByteRing.Basic
import TaskSync.WaitList
import TaskSync.WakerSet
import TaskSync.Interrupt

/-!
# TaskSync — message queue

A bounded first-in-first-out queue of items of one fixed size. The bytes of
the items lie end to end in a `ByteRing`; `count` says how many items those are
and is the only record of the length when items have no bytes at all.

Each successful transfer calls all wakers of the other side and wakes its
longest waiting task, which then competes for the item or the free slot.
-/

namespace TaskSync

/-- Why a queue operation failed. -/
inductive QueueError
  | timeout
  /-- No free slot, and the caller would not wait. -/
  | full
  /-- No item, and the caller would not wait. -/
  | empty
  /-- The buffer's length is not the queue's item size. -/
  | itemSize
deriving DecidableEq, Repr

/-- A bounded queue of items of `itemSize` bytes. -/
structure Queue where
  ring : ByteRing
  /-- How many items are queued. -/
  count : Nat
  capacity : Nat
  itemSize : Nat
  /-- Tasks blocked in a receive. -/
  receivers : WaitList
  /-- Tasks blocked in a send. -/
  senders : WaitList
  receiverWakers : WakerSet
  senderWakers : WakerSet
deriving Repr

namespace Queue

/-- An empty queue of `capacity` items. The bytes of a full queue have to be
countable in a word, and the allocator has to grant them. -/
def create (allocator : Allocator) (capacity itemSize : Nat) : Except CreateError Queue :=
  if capacity = 0 then .error .invalidParameter
  else if addressSpace ≤ capacity * itemSize then .error .invalidParameter
  else
    match ByteRing.create allocator (capacity * itemSize) with
    | .error refused => .error refused.toCreateError
    | .ok ring =>
      .ok { ring, count := 0, capacity, itemSize, receivers := .empty, senders := .empty,
            receiverWakers := .empty, senderWakers := .empty }

def isEmpty (q : Queue) : Bool := q.count == 0

def isFull (q : Queue) : Bool := q.count == q.capacity

/-- How many more items fit. -/
def space (q : Queue) : Nat := q.capacity - q.count

/-- A transfer needs a buffer of exactly one item. -/
def checkSize (q : Queue) (size : Nat) : Except QueueError Unit :=
  if size = q.itemSize then .ok () else .error .itemSize

-- ---------------------------------------------------------------------------
-- Transfers
-- ---------------------------------------------------------------------------

/-- Appends an item to a queue that has a free slot. -/
def push (q : Queue) (item : List UInt8) : Outcome Queue Unit where
  object := { q with
    ring := (q.ring.write item).1
    count := q.count + 1
    receivers := q.receivers.dropFirst
    receiverWakers := .empty }
  notices := q.receiverWakers.notices ++ q.receivers.firstNotice
  answer := ()

/-- Takes the oldest item out of a queue that has one. -/
def pop (q : Queue) : Outcome Queue (List UInt8) :=
  let (item, ring) := q.ring.read q.itemSize
  { object := { q with
      ring
      count := q.count - 1
      senders := q.senders.dropFirst
      senderWakers := .empty }
    notices := q.senderWakers.notices ++ q.senders.firstNotice
    answer := item }

/-- Drops the oldest item. Nobody is told: the slot is about to be filled again. -/
def dropOldest (q : Queue) : Queue :=
  { q with ring := q.ring.discard q.itemSize, count := q.count - 1 }

-- ---------------------------------------------------------------------------
-- Inside interrupt handlers
-- ---------------------------------------------------------------------------

/-- Sends without waiting. -/
def sendNow (q : Queue) (item : List UInt8) : Outcome Queue (Except QueueError Unit) :=
  match q.checkSize item.length with
  | .error e => .still q (.error e)
  | .ok () => if q.isFull then .still q (.error .full) else (q.push item).map .ok

/-- Sends without waiting; a full queue gives up its oldest item for the new
one. The answer says whether it had to. -/
def sendOverwriting (q : Queue) (item : List UInt8) : Outcome Queue (Except QueueError Bool) :=
  match q.checkSize item.length with
  | .error e => .still q (.error e)
  | .ok () =>
    let full := q.isFull
    let room := if full then q.dropOldest else q
    (room.push item).map fun _ => .ok full

/-- Receives without waiting into a buffer of `size` bytes. -/
def receiveNow (q : Queue) (size : Nat) : Outcome Queue (Except QueueError (List UInt8)) :=
  match q.checkSize size with
  | .error e => .still q (.error e)
  | .ok () => if q.isEmpty then .still q (.error .empty) else q.pop.map .ok

end Queue

end TaskSync
