import TaskSync.Machine.Transfers
import TaskSync.Machine.Events
import TaskSync.Machine.Mutexes
import TaskSync.Machine.Pending
import TaskSync.Machine.KernelCalls
import TaskSync.Machine.Computations

/-!
# TaskSync — carrying out operations

`Machine.perform` carries out one operation of a worker. Where that comes down
to a blocking call, `Machine.complete` does what is left to do once the call
has its result.
-/

namespace TaskSync

namespace Machine

/-- Carries out one operation of a worker. -/
def perform (s : Machine) (worker : Worker) : Action → Machine × Step
  | .ring id a => s.performRing id a
  | .queue id a => s.performQueue id a
  | .stream id a => s.performStream id a
  | .events id a => s.performEvents worker id a
  | .signal id a => s.performSignal id a
  | .watch id a => s.performWatch id a
  | .mutex id a => s.performMutex worker id a
  | .guarded id a => s.performGuarded id a
  | .global id a => s.performGlobal worker id a
  | .cell id a => s.performCell id a
  | .taskMutex id a => s.performTaskMutex worker id a
  | .critical id a => s.performCritical id a
  | .guard name a => s.performGuard worker name a
  | .future name a => s.performFuture worker name a
  | .kernel a => s.performKernel worker a
  | .pure a => s.finish (pureResult s.allocator a)
  | .senseless why => s.finish (.senseless why)

/-- What has become of an operation after its call. -/
inductive Completed
  | answered (r : Result)
  /-- Commands are to run inside a block before the operation has its result. -/
  | opened (block : Block) (body : List Command)

/-- Does what is to be done with the result of a call. A call that failed or
is at fault has changed nothing that would have to be undone. -/
def complete (s : Machine) (worker : Worker) (next : Continuation) (r : Result) :
    Machine × Completed :=
  match next, r with
  | .plain, r => (s, .answered r)
  | .brief, .ok _ => (s, .answered (.ok (.flag true)))
  | .brief, .error _ => (s, .answered (.ok (.flag false)))
  | .buffer size, .ok (.bytes data) =>
    (s, .answered (.ok (.received true (fillFront size blankByte data))))
  | .buffer size, .error _ =>
    (s, .answered (.ok (.received false (fillFront size blankByte []))))
  | .guard name g, .ok _ =>
    let (s, result) := s.nameGuard worker name g
    (s, .answered result)
  | .cell c lock change, .ok _ =>
    match s.get? Cell c with
    | none => (s, .answered missing)
    | some cell =>
      let changed := change.apply cell.value
      let s := match changed with
        | .ok (value, _) => s.put c { cell with value }
        | .error _ => s
      let (s, released) := s.unlock worker lock
      match released with
      | .ok _ => (s, .answered (.ofFaulty (fun (_, answer) => .integer answer) changed))
      | fault => (s, .answered fault)
  | .body lock body, .ok _ => (s, .opened (.holding lock) body)
  | _, r => (s, .answered r)

end Machine

end TaskSync
