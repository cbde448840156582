import TaskSync.Kernel
import TaskSync.Fault
import TaskSync.Queue.Basic
import TaskSync.ByteStream.Basic
import TaskSync.EventGroup.Basic
import TaskSync.GlobalLock
import TaskSync.Interrupt

/-!
# TaskSync — what operations of a machine answer

The results of the operations that a machine (`TaskSync.Machine`) performs for
its tasks. A result is an answer, a failure with its cause, or a fault; or it
says that the operation is not finished yet. Operations that run others inside
them answer with the results of those.

An `Event` is something that happens beside the answers: who is suspended, who
is woken, and which suspended operation has come to its end.
-/

namespace TaskSync

-- ---------------------------------------------------------------------------
-- Values held by signals
-- ---------------------------------------------------------------------------

/-- A floating-point number, of those that tell its equality from identity
and of those that do not. -/
inductive FloatSample
  | nan
  | infinity
  | negInfinity
  | zero
  | negZero
deriving Repr

/-- Equality of floating-point numbers: a NaN differs from everything, and the
two zeros are equal. -/
def FloatSample.equals : FloatSample → FloatSample → Bool
  | .infinity, .infinity | .negInfinity, .negInfinity => true
  | .zero, .zero | .zero, .negZero | .negZero, .zero | .negZero, .negZero => true
  | _, _ => false

/-- A value that a signal may hold. -/
inductive Datum
  | integer (i : Int)
  | flag (b : Bool)
  | float (x : FloatSample)
deriving Repr

/-- Each type of value has its own equality. -/
def Datum.equals : Datum → Datum → Bool
  | .integer i, .integer j => i == j
  | .flag a, .flag b => a == b
  | .float x, .float y => x.equals y
  | _, _ => false

instance : BEq Datum := ⟨Datum.equals⟩

-- ---------------------------------------------------------------------------
-- Results
-- ---------------------------------------------------------------------------

/-- The cause of a failure. -/
inductive Failure
  | create (e : CreateError)
  | allocation (meaning : CreateError)
  | queue (e : QueueError)
  | stream (e : StreamError)
  | lock (e : LockError)
  /-- No event in time; the bits as they were then. -/
  | eventTimeout (bits : EventBits)
  | watchTimeout
  | init (e : InitError)
  | kernelAlreadyInstalled
deriving DecidableEq, Repr

/-- The fixed numbers of the library. -/
structure Limits where
  tickRate : Nat
  lockQuantum : Nat
  waiters : Nat
  wakers : Nat
  waitForever : Nat
  eventMask : Nat
deriving DecidableEq, Repr

/-- The answer of an operation that succeeded. -/
inductive Answer
  | done
  | flag (b : Bool)
  | number (n : Nat)
  | integer (i : Int)
  | text (s : String)
  | bytes (data : List UInt8)
  | datum (d : Datum)
  /-- How many bytes were read, and the buffer they were read into. -/
  | read (count : Nat) (buffer : List UInt8)
  /-- Whether an item was received, and the buffer it was to go into. -/
  | received (success : Bool) (buffer : List UInt8)
  /-- How a task relates to another: its label, the other's number, their order and equality. -/
  | comparison (label : String) (other : Nat) (order : Ordering) (equal : Bool)
  /-- How many bytes were allocated, and whether all are zero. -/
  | allocated (size : Nat) (zeroed : Bool)
  | limits (l : Limits)
  | fromInterrupt (r : InterruptResult String Int)

/-- The result of an operation. -/
inductive Result
  | ok (a : Answer)
  | error (e : Failure)
  | fault (f : Fault)
  /-- As `ok`, from an interrupt handler, with its report on deferred wakes. -/
  | okDeferring (a : Answer) (needWake : Bool)
  /-- As `error`, from an interrupt handler. -/
  | errorDeferring (e : Failure) (needWake : Bool)
  /-- The operation's task is suspended. -/
  | blocked
  /-- The asynchronous operation is not ready. -/
  | pending
  /-- The operation goes on in the background. -/
  | started
  /-- The suspended task has been resumed; whether its operation is finished. -/
  | resumed (finished : Bool)
  /-- The results inside a critical section, and whether its lock was held. -/
  | critical (locked : Bool) (body : List Result)
  /-- The results while the global lock was held. -/
  | held (body : List Result)
  /-- The results inside an interrupt handler, what it gathered, and whether a wake was due at its end. -/
  | interrupt (body : List Result) (gathered : InterruptContext) (due : Bool)
  /-- The same on the host, with the number of wakes still deferred. -/
  | hostInterrupt (body : List Result) (needWake : Bool) (deferred : Nat)
  /-- The operation makes no sense here: its object is missing or its task is busy. -/
  | senseless (why : String)

/-- Something that happens beside the answers. -/
inductive Event
  | suspend (w : Worker) (limit : Option Ticks)
  | wake (t : TaskId)
  | defer (t : TaskId)
  | yield
  | waker (w : WakerId)
  | finished (w : Worker) (r : Result)

end TaskSync
