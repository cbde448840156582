import TaskSync.Machine.Command
import TaskSync.Queue.Calls
import TaskSync.ByteStream.Calls
import TaskSync.EventGroup.Calls
import TaskSync.Mutex.Lock
import TaskSync.Mutex.Guarded
import TaskSync.Signal
import TaskSync.TaskMutex
import TaskSync.Spinlock

/-!
# TaskSync — the objects of a machine

The kinds of object a machine holds. Objects refer to one another by place
(`Ref`): a watch to its signal, a cell to its global lock, a mutex to the
storage it lies in. Places are never used again, so a call that is suspended
at an object keeps it whatever becomes of the object's name.

`Stored σ` says that objects of type `σ` are one of the kinds; it reads and
writes them without naming the kind. Several kinds of object have a mutex;
`Object.mutex?` and `Object.withMutex` get at it.
-/

namespace TaskSync

/-- The place of an object in its machine. -/
abbrev Ref := Nat

/-- A watch and the value it was last given. -/
structure Watch where
  signal : Ref
  seen : Option Datum

/-- An object and the static storage that its mutex lies in; `none` if the
mutex has allocated room. -/
structure Placed (σ : Type) where
  object : σ
  storage : Option Ref

/-- A value behind a global lock. -/
structure Cell where
  lock : Ref
  value : Int

/-- A value behind a spinlock. -/
structure Critical where
  lock : Spinlock
  value : Int

/-- An object, of one of the kinds. -/
inductive Object
  | ring (r : ByteRing)
  | queue (q : Queue)
  | stream (s : ByteStream)
  | events (g : EventGroup)
  | signal (s : Signal Datum)
  | watch (w : Watch)
  | storage (s : MutexStorage)
  | mutex (m : Placed Mutex)
  | guarded (g : Placed (Guarded Int))
  | global (g : GlobalLock)
  | cell (c : Cell)
  | taskMutex (m : TaskMutex Int)
  | spinlock (l : Spinlock)
  | critical (c : Critical)

/-- Objects of type `σ` are a kind of object. -/
class Stored (σ : Type) where
  store : σ → Object
  stored? : Object → Option σ
  /-- What is written is read back. -/
  stored?_store : ∀ x, stored? (store x) = some x

instance : Stored ByteRing := ⟨.ring, fun | .ring r => some r | _ => none, fun _ => rfl⟩
instance : Stored Queue := ⟨.queue, fun | .queue q => some q | _ => none, fun _ => rfl⟩
instance : Stored ByteStream := ⟨.stream, fun | .stream s => some s | _ => none, fun _ => rfl⟩
instance : Stored EventGroup := ⟨.events, fun | .events g => some g | _ => none, fun _ => rfl⟩
instance : Stored (Signal Datum) := ⟨.signal, fun | .signal s => some s | _ => none, fun _ => rfl⟩
instance : Stored Watch := ⟨.watch, fun | .watch w => some w | _ => none, fun _ => rfl⟩
instance : Stored MutexStorage := ⟨.storage, fun | .storage s => some s | _ => none, fun _ => rfl⟩
instance : Stored (Placed Mutex) := ⟨.mutex, fun | .mutex m => some m | _ => none, fun _ => rfl⟩
instance : Stored (Placed (Guarded Int)) := ⟨.guarded, fun | .guarded g => some g | _ => none, fun _ => rfl⟩
instance : Stored GlobalLock := ⟨.global, fun | .global g => some g | _ => none, fun _ => rfl⟩
instance : Stored Cell := ⟨.cell, fun | .cell c => some c | _ => none, fun _ => rfl⟩
instance : Stored (TaskMutex Int) := ⟨.taskMutex, fun | .taskMutex m => some m | _ => none, fun _ => rfl⟩
instance : Stored Spinlock := ⟨.spinlock, fun | .spinlock l => some l | _ => none, fun _ => rfl⟩
instance : Stored Critical := ⟨.critical, fun | .critical c => some c | _ => none, fun _ => rfl⟩

namespace Object

/-- The mutex of an object, if it has one. -/
def mutex? : Object → Option Mutex
  | .mutex p => some p.object
  | .guarded p => some p.object.mutex
  | .global g => g.mutex
  | _ => none

/-- The object with `m` for its mutex. -/
def withMutex (m : Mutex) : Object → Object
  | .mutex p => .mutex { p with object := m }
  | .guarded p => .guarded { p with object := { p.object with mutex := m } }
  | .global g => .global { g with mutex := some m }
  | x => x

/-- The place of the static storage that an object's mutex lies in. -/
def storage? : Object → Option Ref
  | .mutex p => p.storage
  | .guarded p => p.storage
  | _ => none

end Object

-- ---------------------------------------------------------------------------
-- Guards and pending asynchronous operations
-- ---------------------------------------------------------------------------

/-- A guard: who has it holds the lock, who drops it releases the lock. -/
inductive Guard
  /-- Of the mutex of the object at `r`. -/
  | mutex (r : Ref)
  | taskMutex (r : Ref)
deriving DecidableEq, Repr

/-- A pending asynchronous operation. -/
inductive Future
  | queueSend (q : Ref) (item : List UInt8)
  | queueReceive (q : Ref) (size : Nat)
  | streamSend (s : Ref) (data : List UInt8)
  /-- `blocked` once a poll has been in vain. -/
  | streamReceive (s : Ref) (room : Nat) (blocked : Bool)
  /-- `change` from the first poll on: what the watch had seen then. -/
  | watch (w : Ref) (change : Option (Change Datum))
  | taskLock (m : Ref) (guard : Name)

-- ---------------------------------------------------------------------------
-- Suspended calls
-- ---------------------------------------------------------------------------

/-- A blocking call that is under way. -/
inductive Call
  | queueSend (q : Ref) (w : Waiting Queue.Send)
  | queueReceive (q : Ref) (w : Waiting Queue.Receive)
  | streamSend (s : Ref) (w : Waiting ByteStream.Send)
  | streamReceive (s : Ref) (w : Waiting ByteStream.Receive)
  | events (g : Ref) (w : Waiting EventWish)
  /-- The wait of watch `watch` for signal `signal`. -/
  | watch (watch signal : Ref) (w : Waiting (Change Datum))
  /-- A bounded attempt at the mutex of the object at `r`. -/
  | lockWithin (r : Ref) (w : Waiting TryLock)
  | lock (r : Ref) (c : LockCall)
  /-- Nothing but a suspension, begun when the counter showed `start`; the
  answer is whether it was over within `bound` ticks. -/
  | sleep (start : Ticks) (limit : Ticks) (bound : Ticks) (begun : Bool)

/-- Whether a call is a bare suspension, which no check goes before. -/
def Call.isSleep : Call → Bool
  | .sleep .. => true
  | _ => false

/-- What is done with the result of a call. -/
inductive Continuation
  /-- It is the operation's result. -/
  | plain
  /-- The answer is whether it succeeded. -/
  | brief
  /-- The answer is whether it succeeded, and what has become of a buffer of `size` bytes. -/
  | buffer (size : Nat)
  /-- The lock is held; the guard gets a name. -/
  | guard (name : Name) (g : Guard)
  /-- The global lock is held; the cell is used and the lock released. -/
  | cell (c lock : Ref) (change : CellChange)
  /-- The global lock is held; commands run before it is released. -/
  | body (lock : Ref) (body : List Command)

/-- What surrounds the commands that a frame runs. -/
inductive Block
  /-- Nothing: the one command is the whole operation. -/
  | operation
  | critical (lock : Ref) (locked : Bool)
  | holding (lock : Ref)
  | interrupt (yields : Bool) (gathered : InterruptContext)
  | hostInterrupt (gathered : InterruptContext)

/-- A block that is being run: the results so far and the commands to come. -/
structure Frame where
  block : Block
  results : List Result
  rest : List Command

/-- A worker suspended in the middle of an operation: the call it is in, what
comes after the call, and the blocks around it, innermost first. -/
structure Suspension where
  call : Call
  next : Continuation
  frames : List Frame

end TaskSync
