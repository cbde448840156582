/-!
# TaskSync — creation errors and faults

A call fails in one of two ways. An **error** is an answer: the caller asked
for something that cannot be had now. A **fault** ends the caller's operation on the spot;
what the operation did before it stays done. Most faults are breaches of
contract that a check has found, and a system that runs without checks goes on
instead. The others arise in every system: there is no kernel
(`kernelMissing`), or a number does not fit (`productTooLarge`, `sumTooLarge`).
-/

namespace TaskSync

/-- Why an object could not be created. -/
inductive CreateError
  /-- The allocator has no room for the object. -/
  | outOfMemory
  /-- A size or level is out of range. -/
  | invalidParameter
  /-- The static storage belongs to another object. -/
  | storageInUse
deriving DecidableEq, Repr

/-- Why an operation was ended. -/
inductive Fault
  | kernelMissing
  | blockingInInterrupt
  | emptyEventMask
  | controlByte
  | notOwner
  | lockedTwice
  | deletedWhileLocked
  | recursiveLockOnNormal
  | queueInUse
  | signalNotInitialised
  /-- A product does not fit in its word. -/
  | productTooLarge
  /-- A sum does not fit in its word. -/
  | sumTooLarge
deriving DecidableEq, Repr

/-- The message of a fault. -/
def Fault.message : Fault → String
  | .kernelMissing => "kernel::install must run before using sync primitives"
  | .blockingInInterrupt => "blocking sync call from interrupt context"
  | .emptyEventMask => "waiting for an empty event mask"
  | .controlByte => "event bits overlap the control byte"
  | .notOwner => "mutex unlocked by a task that does not own it"
  | .lockedTwice => "non-recursive mutex locked twice by its owner"
  | .deletedWhileLocked => "mutex deleted while locked"
  | .recursiveLockOnNormal => "recursive lock on a non-recursive mutex"
  | .queueInUse => "queue deleted while tasks are blocked on it"
  | .signalNotInitialised => "global signal used before init"
  | .productTooLarge => "attempt to multiply with overflow"
  | .sumTooLarge => "attempt to add with overflow"

end TaskSync
