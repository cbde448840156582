import TaskSync.Machine.Result
import TaskSync.GlobalLock

/-!
# TaskSync — what tasks of a machine ask for

The operations that a machine (`TaskSync.Machine`) performs for its tasks, by
the kind of object they are for. Objects, guards and pending asynchronous
operations have names.

A `Command` is one operation or a block that runs other commands inside it: a
critical section, a stretch with the global lock held, or an interrupt
handler. `Control` is what happens to the machine from outside: time passes,
tasks that are due go on, a task is given up.
-/

namespace TaskSync

/-- The name of an object, a guard or a pending operation. -/
abbrev Name := String

/-- Operations on a byte ring. -/
inductive RingAction
  | create (capacity : Nat)
  | write (data : List UInt8)
  | read (room : Nat)
  | discard (n : Nat)
  | clear

/-- Operations on a queue. The `brief` forms answer only whether they
succeeded; a missing `size` stands for the queue's item size. -/
inductive QueueAction
  | create (capacity itemSize : Nat)
  | send (item : List UInt8) (wait : Ticks) (brief : Bool)
  | receive (size : Option Nat) (wait : Ticks) (brief : Bool)
  | sendLater (future : Name) (item : List UInt8)
  | receiveLater (future : Name) (size : Option Nat)
  | sendDeferring (item : List UInt8) (brief : Bool)
  | overwriteDeferring (item : List UInt8)
  | receiveDeferring (size : Option Nat)
  | delete

/-- Operations on a byte stream; `room` is the size of the buffer to read into. -/
inductive StreamAction
  | create (capacity trigger : Nat)
  | send (data : List UInt8) (wait : Ticks)
  | receive (room : Nat) (wait : Ticks)
  | sendLater (future : Name) (data : List UInt8)
  | receiveLater (future : Name) (room : Nat)
  | flush
  | close
  | reset
  | setTrigger (level : Nat)
  | sendDeferring (data : List UInt8)
  | receiveDeferring (room : Nat)

/-- Operations on an event group. -/
inductive EventAction
  | create (bits : EventBits)
  | get
  | set (bits : EventBits)
  | clear (bits : EventBits)
  | wait (wish : EventWish) (wait : Ticks)
  | arrive (bits waitFor : EventBits) (wait : Ticks)
  | setDeferring (bits : EventBits)

/-- Operations on a signal. -/
inductive SignalAction
  | create (value : Datum)
  | get
  | set (value : Datum)
  | watch (watch : Name)
  | setDeferring (value : Datum)

/-- Operations on a watch. -/
inductive WatchAction
  | seen
  | glance
  | wait (wait : Ticks)
  | waitLater (future : Name)

/-- Operations on a mutex. A missing `storage` means allocated room. -/
inductive MutexAction
  | createStorage
  | create (kind : MutexKind) (storage : Option Name)
  | lock (recursiveOnly : Bool)
  | lockWithin (wait : Ticks) (brief : Bool)
  | unlock
  | delete
  | drop

/-- Operations on a value behind a mutex. -/
inductive GuardedAction
  | create (kind : MutexKind) (value : Int) (storage : Option Name)
  | lock (guard : Name)
  | lockWithin (guard : Name) (wait : Ticks)
  | unwrap
  | drop

/-- Operations on a global lock; `shared` is the one every machine has. -/
inductive GlobalAction
  | create (shared : Bool)
  | initialise
  | lock (guard : Name)
  | lockBare
  | unlock

/-- Operations on a value behind a global lock; no `lock` means the shared one. -/
inductive CellAction
  | create (lock : Option Name) (value : Int)
  | change (c : CellChange)

/-- Operations on an asynchronous mutex; `addDirectly` goes past the lock. -/
inductive TaskMutexAction
  | create (value : Int)
  | lockNow (guard : Name)
  | lockLater (future guard : Name)
  | addDirectly (value : Int)
  | unwrap

/-- Operations on a value behind a spinlock. -/
inductive CriticalAction
  | createSpinlock
  | create (value : Int)
  | get
  | set (value : Int)
  | unwrap

/-- Operations on a guard. -/
inductive GuardAction
  | get
  | set (value : Int)
  | drop

/-- Operations on a pending asynchronous operation. -/
inductive FutureAction
  | poll (waker : WakerId)
  | drop

/-- The kernels that can be installed. -/
inductive KernelChoice
  | simulated
  | secondSimulated
  | host
deriving DecidableEq, Repr

/-- Operations on the kernel. The last five are for the host, which answers them
whether it is the installed kernel or not. -/
inductive KernelAction
  | install (which : KernelChoice)
  | isInstalled
  | tickCount
  | inInterrupt
  | currentTask
  | installHost
  | hostWakeSelf
  | hostSleep (ticks : Ticks)
  | hostWake (task : TaskId)
  | hostDefer (task : TaskId)
  | hostYield

/-- A step of combining results from interrupt handlers. -/
inductive ResultStep
  | add (n : Int)
  | chain (r : InterruptResult String Int)
  | chainNothing

/-- Operations that involve no object. -/
inductive PureAction
  | ticksOfMillis (ms : UInt32)
  | ticksOfDuration (unit : TimeUnit) (count : UInt64)
  | compareTasks (a b : TaskId)
  | allocate (size : Nat)
  | allocateOne (value : Int)
  | limits
  | combine (first : InterruptResult String Int) (steps : List ResultStep)

/-- One operation. -/
inductive Action
  | ring (id : Name) (a : RingAction)
  | queue (id : Name) (a : QueueAction)
  | stream (id : Name) (a : StreamAction)
  | events (id : Name) (a : EventAction)
  | signal (id : Name) (a : SignalAction)
  | watch (id : Name) (a : WatchAction)
  | mutex (id : Name) (a : MutexAction)
  | guarded (id : Name) (a : GuardedAction)
  | global (id : Name) (a : GlobalAction)
  | cell (id : Name) (a : CellAction)
  | taskMutex (id : Name) (a : TaskMutexAction)
  | critical (id : Name) (a : CriticalAction)
  | guard (name : Name) (a : GuardAction)
  | future (name : Name) (a : FutureAction)
  | kernel (a : KernelAction)
  | pure (a : PureAction)
  | senseless (why : String)

/-- What surrounds the commands of a block. -/
inductive BlockKind
  /-- A critical section of the named spinlock. -/
  | critical (id : Name)
  /-- The named global lock held. -/
  | holding (id : Name)
  /-- An interrupt handler; `yields` if its end makes the deferred wakes good. -/
  | interrupt (yields : Bool)
  /-- An interrupt handler of the host kernel. -/
  | hostInterrupt

/-- One operation, or a block of them. -/
inductive Command
  | action (a : Action)
  | block (kind : BlockKind) (body : List Command)

mutual
/-- How many operations and blocks a command holds, itself included. -/
def Command.weight : Command → Nat
  | .action _ => 1
  | .block _ body => 1 + Command.weights body

/-- How many operations and blocks a list of commands holds, with one more for
each of its places. -/
def Command.weights : List Command → Nat
  | [] => 0
  | c :: rest => 1 + c.weight + Command.weights rest
end

/-- A number in the state of an object. -/
inductive Gauge
  | length
  | space
  | receivers
  | senders
  | waiters
  | bits
  | depth
  | trigger
  | owner
deriving DecidableEq, Repr

/-- What happens to a machine from outside. -/
inductive Control
  /-- Ticks pass. -/
  | tick (n : Ticks)
  /-- All ready workers go on, one after the other. -/
  | run
  /-- A suspended worker goes on, ready or not. -/
  | step (worker : Worker)
  | wake (task : TaskId)
  /-- A suspended worker's operation is given up. -/
  | kill (worker : Worker)
  /-- Waits until a number in an object's state has a value. -/
  | waitFor (id : Name) (gauge : Gauge) (value : Nat)
  /-- Waits for a worker's background operation. -/
  | join (worker : Worker)

/-- What a machine can be told to do. -/
inductive Request
  | command (worker : Worker) (background : Bool) (c : Command)
  | control (c : Control)

end TaskSync
