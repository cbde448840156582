import TaskSync.Memory
import TaskSync.ByteRing.Stretch

/-!
# TaskSync — byte ring

A buffer of fixed capacity that keeps bytes in arrival order. The bytes lie
in `cells` from position `start` on, around the end of the array if need be.
`ByteRing.toList` is the view: the buffered bytes, oldest first.

Copies in and out go by contiguous stretches (`stretches`). A ring that
becomes empty starts again at the front, so that later writes stay in one.
-/

namespace TaskSync

/-- A circular byte buffer. -/
structure ByteRing where
  cells : Array UInt8
  /-- Where the oldest byte lies. -/
  start : Nat
  /-- How many bytes are buffered. -/
  length : Nat
deriving Repr

namespace ByteRing

/-- An empty ring for `capacity` bytes. -/
def create (allocator : Allocator) (capacity : Nat) : Except AllocationRefused ByteRing := do
  return { cells := ← allocator.allocate capacity, start := 0, length := 0 }

def capacity (r : ByteRing) : Nat := r.cells.size

/-- How many more bytes fit. -/
def space (r : ByteRing) : Nat := r.capacity - r.length

def isEmpty (r : ByteRing) : Bool := r.length == 0

def isFull (r : ByteRing) : Bool := r.length == r.capacity

/-- The buffered bytes, oldest first. -/
def toList (r : ByteRing) : List UInt8 :=
  (List.range r.length).map fun i => r.cells.getD ((r.start + i) % r.capacity) 0

/-- Where the next byte goes. -/
def writeIndex (r : ByteRing) : Nat :=
  if r.capacity = 0 then 0 else (r.start + r.length) % r.capacity

/-- Appends as many bytes of `data` as fit and says how many those are. -/
def write (r : ByteRing) (data : List UInt8) : ByteRing × Nat :=
  let total := min data.length r.space
  let runs := stretches r.capacity r.writeIndex total
  ({ r with cells := Stretch.scatter r.cells (data.take total) runs, length := r.length + total }, total)

/-- Gives up the oldest `n` bytes, `n` being at most the number buffered. -/
def advance (r : ByteRing) (n : Nat) : ByteRing :=
  let left := r.length - n
  { r with length := left, start := if left = 0 then 0 else (r.start + n) % r.capacity }

/-- Takes the oldest bytes out, at most `room` of them. -/
def read (r : ByteRing) (room : Nat) : List UInt8 × ByteRing :=
  let total := min room r.length
  (Stretch.gather r.cells (stretches r.capacity r.start total), r.advance total)

/-- Drops the oldest bytes, at most `n` of them. -/
def discard (r : ByteRing) (n : Nat) : ByteRing := r.advance (min n r.length)

/-- Drops everything. -/
def clear (r : ByteRing) : ByteRing := { r with start := 0, length := 0 }

end ByteRing

/-- A buffer of `size` bytes that all hold `blank`, after `data` was read to
its front. -/
def fillFront (size : Nat) (blank : UInt8) (data : List UInt8) : List UInt8 :=
  data ++ List.replicate (size - data.length) blank

end TaskSync
