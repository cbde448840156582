import TaskSync.Machine.Perform

/-!
# TaskSync — running operations

An operation runs as a stack of frames, innermost first: the blocks it is in,
each with the results so far and the commands to come. `Machine.runFrames` runs
the stack until the operation has its result or its worker is asleep; in the
second case the stack is kept with the suspended call (`Suspension`), and
`Machine.resume` goes on from there.

Each turn of `runFrames` uses up a command or a frame, which is why it ends
(`stackWeight`).
-/

namespace TaskSync

/-- How much work a stack of frames still holds. -/
def stackWeight : List Frame → Nat
  | [] => 0
  | f :: fs => 1 + Command.weights f.rest + stackWeight fs

/-- A frame with one more result. -/
def Frame.record (f : Frame) (r : Result) : Frame := { f with results := f.results ++ [r] }

/-- Adds to what the innermost interrupt handler has gathered. -/
def addGathered (more : InterruptContext) : List Frame → List Frame
  | [] => []
  | f :: fs =>
    match f.block with
    | .interrupt yields cx => { f with block := .interrupt yields (cx.merge more) } :: fs
    | .hostInterrupt cx => { f with block := .hostInterrupt (cx.merge more) } :: fs
    | _ => f :: addGathered more fs

/-- The stack after one more result in its innermost frame. -/
def recordTop (r : Result) : List Frame → List Frame
  | [] => []
  | f :: fs => f.record r :: fs

@[simp] theorem stackWeight_addGathered (more : InterruptContext) (fs : List Frame) :
    stackWeight (addGathered more fs) = stackWeight fs := by
  induction fs with
  | nil => rfl
  | cons f fs ih =>
    unfold addGathered
    split <;> simp [stackWeight, ih]

@[simp] theorem stackWeight_recordTop (r : Result) (fs : List Frame) :
    stackWeight (recordTop r fs) = stackWeight fs := by
  cases fs <;> rfl

/-- Where an operation has got to. -/
inductive Progress
  | finished (r : Result)
  | asleep

namespace Machine

-- ---------------------------------------------------------------------------
-- The two ends of a block
-- ---------------------------------------------------------------------------

/-- What the beginning of a block comes to. -/
inductive Opening
  | opened (block : Block)
  | answered (r : Result)
  /-- A call goes before the block. -/
  | calling (c : Call) (next : Continuation)

/-- Begins a block. -/
def openBlock (s : Machine) (worker : Worker) (body : List Command) :
    BlockKind → Machine × Opening
  | .critical id =>
    match s.named? Spinlock id with
    | none => (s, .answered missing)
    | some (r, lock) =>
      match lock.enter s.core with
      | none => (s, .answered (.senseless "the lock is taken"))
      | some (lock, core) => ({ s with core }.put r lock, .opened (.critical r lock.locked))
  | .holding id =>
    match s.named? GlobalLock id with
    | none => (s, .answered missing)
    | some (r, g) =>
      match s.readyGlobal r g with
      | .error f => (s, .answered (.fault f))
      | .ok s => (s, .calling (s.lockCall r) (.body r body))
  | .interrupt yields => ({ s with inHandler := true }, .opened (.interrupt yields .fresh))
  | .hostInterrupt =>
    ({ s with host := s.host.markHandler worker true }, .opened (.hostInterrupt .fresh))

/-- Ends a block and gives its result, from the results inside it. -/
def closeBlock (s : Machine) (worker : Worker) (results : List Result) :
    Block → Machine × Result
  | .operation => (s, results.getLastD missing)
  | .critical r locked =>
    match s.get? Spinlock r with
    | none => (s, missing)
    | some lock =>
      let (lock, core) := lock.exit s.core
      ({ s with core }.put r lock, .critical locked results)
  | .holding lock =>
    let (s, released) := s.unlock worker lock
    match released with
    | .ok _ => (s, .held results)
    | fault => (s, fault)
  | .interrupt yields cx =>
    let s := { s with inHandler := false }
    let s := if yields && cx.needWake then s.yieldFromInterrupt else s
    (s, .interrupt results cx cx.needWake)
  | .hostInterrupt cx =>
    let s := { s with host := s.host.markHandler worker false }
    let s := if cx.needWake then s.yieldFromInterrupt else s
    (s, .hostInterrupt results cx.needWake s.host.kernel.deferred.length)

-- ---------------------------------------------------------------------------
-- Running a stack
-- ---------------------------------------------------------------------------

/-- Keeps an operation whose worker has fallen asleep in a call. -/
def fallAsleep (s : Machine) (worker : Worker) (suspension : Suspension) : Machine :=
  { s with suspensions := s.suspensions.insert worker suspension }

/-- Begins a call for the operation with the given frames: the call is
finished at once and its result dealt with, or the operation is asleep. -/
def callFrom (s : Machine) (worker : Worker) (call : Call) (next : Continuation)
    (frames : List Frame) : Machine × Option Completed :=
  match s.beginCall worker call with
  | (s, .finished r) =>
    let (s, completed) := s.complete worker next r
    (s, some completed)
  | (s, .asleep call) => (s.fallAsleep worker ⟨call, next, frames⟩, none)

/-- Runs a stack of frames until the operation has its result or is asleep. -/
def runFrames (s : Machine) (worker : Worker) : List Frame → Machine × Progress
  | [] => (s, .finished missing)
  | ⟨block, results, []⟩ :: fs =>
    let (s, r) := s.closeBlock worker results block
    match fs with
    | [] => (s, .finished r)
    | f :: fs => s.runFrames worker (f.record r :: fs)
  | ⟨block, results, .action a :: rest⟩ :: fs =>
    let frames := ⟨block, results, rest⟩ :: fs
    match s.perform worker a with
    | (s, .answered r gathered) => s.runFrames worker (addGathered gathered (recordTop r frames))
    | (s, .calling call next) =>
      match s.callFrom worker call next frames with
      | (s, none) => (s, .asleep)
      | (s, some (.answered r)) => s.runFrames worker (recordTop r frames)
      | (s, some (.opened ..)) => s.runFrames worker (recordTop missing frames)
  | ⟨block, results, .block kind body :: rest⟩ :: fs =>
    let frames := ⟨block, results, rest⟩ :: fs
    match s.openBlock worker body kind with
    | (s, .opened block) => s.runFrames worker (⟨block, [], body⟩ :: frames)
    | (s, .answered r) => s.runFrames worker (recordTop r frames)
    | (s, .calling call next) =>
      match s.callFrom worker call next frames with
      | (s, none) => (s, .asleep)
      | (s, some (.answered r)) => s.runFrames worker (recordTop r frames)
      | (s, some (.opened block _)) => s.runFrames worker (⟨block, [], body⟩ :: frames)
termination_by frames => stackWeight frames
decreasing_by
  all_goals simp only [stackWeight, stackWeight_addGathered, stackWeight_recordTop, Frame.record,
    Command.weights, Command.weight]
  all_goals omega

/-- Runs a command of a worker. -/
def runCommand (s : Machine) (worker : Worker) (c : Command) : Machine × Progress :=
  s.runFrames worker [⟨.operation, [], [c]⟩]

/-- Goes on with an operation after its call. -/
def continueWith (s : Machine) (worker : Worker) (suspension : Suspension) (r : Result) :
    Machine × Progress :=
  match s.complete worker suspension.next r with
  | (s, .answered r) => s.runFrames worker (recordTop r suspension.frames)
  | (s, .opened block body) => s.runFrames worker (⟨block, [], body⟩ :: suspension.frames)

/-- Resumes a suspended worker: its suspension returns and its call goes on. -/
def resume (s : Machine) (worker : Worker) : Machine × Progress :=
  match s.suspensions.find? worker with
  | none => (s, .finished (.senseless "the task is not suspended"))
  | some suspension =>
    let s := s.withActive (s.active.unsuspend worker)
    let s := { s with suspensions := s.suspensions.erase worker }
    match s.drive worker suspension.call permitsPerWorker with
    | (s, .finished r) => s.continueWith worker suspension r
    | (s, .asleep call) => (s.fallAsleep worker { suspension with call }, .asleep)

end Machine

end TaskSync
