import TaskSync.Machine.Step

/-!
# TaskSync — locks and guards in a machine

What the operations on the several kinds of locks share: releasing a mutex,
naming and dropping guards, finding room for a new mutex, and making a global
lock ready for use.
-/

namespace TaskSync

namespace Machine

/-- Releases the mutex of the object at a place, for a worker. -/
def unlock (s : Machine) (worker : Worker) (r : Ref) : Machine × Result :=
  if s.installed.isNone then (s, .fault .kernelMissing)
  else
    let (s, task) := s.currentTask worker
    match s.mutexAt? r with
    | none => (s, missing)
    | some m =>
      let o := m.unlock task
      (s.settleMutex r o, .ofCheck (s.contract o.answer))

/-- Drops a guard: its lock is released. -/
def dropGuard (s : Machine) (worker : Worker) : Guard → Machine × Result
  | .mutex r => s.unlock worker r
  | .taskMutex r =>
    match s.get? (TaskMutex Int) r with
    | some m => (s.settle r m.release, .ok .done)
    | none => (s, missing)

/-- Names a guard. A guard that had the name before is dropped after that. -/
def nameGuard (s : Machine) (worker : Worker) (name : Name) (g : Guard) : Machine × Result :=
  let old := s.guards.find? name
  let s := { s with guards := s.guards.insert name g }
  match old with
  | none => (s, .ok .done)
  | some old => s.dropGuard worker old

/-- A new mutex in the named storage or in allocated room. -/
def placeMutex (s : Machine) (kind : MutexKind) (storage : Option Name) :
    Except Result (Machine × Placed Mutex) :=
  match storage with
  | none => .ok (s, ⟨.create kind, none⟩)
  | some id =>
    match s.named? MutexStorage id with
    | none => .error missing
    | some (r, room) =>
      match room.claim kind with
      | .error e => .error (.error (.create e))
      | .ok (room, mutex) => .ok (s.put r room, ⟨mutex, some r⟩)

/-- Makes the global lock at a place ready for use. -/
def readyGlobal (s : Machine) (r : Ref) (g : GlobalLock) : Except Fault Machine := do
  return s.put r (← g.ready s.checks)

/-- Begins to lock the global lock at a place. -/
def lockGlobal (s : Machine) (r : Ref) (g : GlobalLock) (next : Continuation) : Machine × Step :=
  match s.readyGlobal r g with
  | .error f => s.finish (.fault f)
  | .ok s => (s, .calling (s.lockCall r) next)

end Machine

end TaskSync
