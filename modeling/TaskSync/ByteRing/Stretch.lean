/-!
# TaskSync — stretches of a circular array

Bytes that lie in a circle of cells are copied by **stretches**: runs of
neighbouring cells. From any position a run reaches to the end of the array at
most; what is left goes on from the front.

* `stretches`: the runs that hold so many bytes from a position on.
* `Stretch.scatter`, `Stretch.gather`: writing bytes to runs and reading them
  from runs.
-/

namespace TaskSync

/-- A run of neighbouring cells. -/
structure Stretch where
  offset : Nat
  size : Nat
deriving DecidableEq, Repr

/-- The runs of cells that hold `total` bytes from position `index` on in a
circle of `capacity` cells. -/
def stretches (capacity index total : Nat) : List Stretch :=
  if _h : total = 0 ∨ capacity ≤ index then []
  else
    let size := min (capacity - index) total
    ⟨index, size⟩ :: stretches capacity ((index + size) % capacity) (total - size)
termination_by total

namespace Stretch

/-- The cells with `data` written over them from position `index` on. -/
def overwrite (cells : Array UInt8) (index : Nat) : List UInt8 → Array UInt8
  | [] => cells
  | b :: bs => overwrite (cells.setIfInBounds index b) (index + 1) bs

/-- The cells with `data` spread over the runs in turn. -/
def scatter (cells : Array UInt8) (data : List UInt8) : List Stretch → Array UInt8
  | [] => cells
  | s :: rest => scatter (overwrite cells s.offset (data.take s.size)) (data.drop s.size) rest

/-- The bytes that lie in the runs, in turn. -/
def gather (cells : Array UInt8) (runs : List Stretch) : List UInt8 :=
  runs.flatMap fun s => (cells.extract s.offset (s.offset + s.size)).toList

end Stretch

end TaskSync
