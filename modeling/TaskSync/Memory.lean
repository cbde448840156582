import TaskSync.Fault

/-!
# TaskSync — memory for objects

Objects with a size chosen at run time take zeroed bytes from an allocator
that refuses a request instead of stopping the system. Sizes are words of 64
bits. How much an allocator has to give is its own affair (`Allocator`); what
the objects may rely on is that no size above `largestRequest` is ever granted.
-/

namespace TaskSync

/-- The number of sizes a 64-bit word can express. -/
def addressSpace : Nat := UInt64.size

/-- The largest size that a signed word can express. No allocator grants more. -/
def largestRequest : Nat := addressSpace / 2 - 1

/-- An allocator, which grants the requests up to its limit. -/
structure Allocator where
  limit : Nat
  limit_le : limit ≤ largestRequest

/-- An allocator that grants all requests below 2⁶⁰ bytes. -/
def Allocator.standard : Allocator := ⟨(1 <<< 60) - 1, by decide⟩

/-- A refused request for memory. -/
structure AllocationRefused where
deriving DecidableEq, Repr

/-- To the creator of an object a refused request means that memory is out. -/
def AllocationRefused.toCreateError (_ : AllocationRefused) : CreateError := .outOfMemory

/-- `size` zeroed bytes. -/
def Allocator.allocate (allocator : Allocator) (size : Nat) :
    Except AllocationRefused (Array UInt8) :=
  if size ≤ allocator.limit then .ok (Array.replicate size 0) else .error {}

/-- Room for one small value, which is always there. -/
def allocateOne {α : Type} (value : α) : Except AllocationRefused α := .ok value

end TaskSync
