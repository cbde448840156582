import TaskSync.Machine.Locks

/-!
# TaskSync — operations on locks and on values behind locks

How a machine carries out the operations on mutexes, global locks, asynchronous
mutexes and spinlocks. An object that is deleted, dropped or unwrapped loses its name
and gives back its storage even where deleting it is a fault.
-/

namespace TaskSync

namespace Machine

def performMutex (s : Machine) (worker : Worker) (id : Name) : MutexAction → Machine × Step
  | .createStorage => (s.create id MutexStorage.free).finish (.ok .done)
  | .create kind storage =>
    match s.placeMutex kind storage with
    | .error r => s.finish r
    | .ok (s, placed) => (s.create id placed).finish (.ok .done)
  | .lock recursiveOnly => s.onObject (Placed Mutex) id fun r m =>
    match s.contract (if recursiveOnly then m.object.checkRecursive else .ok ()) with
    | .error f => s.finish (.fault f)
    | .ok () => (s, .calling (s.lockCall r) .plain)
  | .lockWithin wait brief => s.onObject (Placed Mutex) id fun r _ =>
    (s, .calling (s.lockWithinCall r wait) (if brief then .brief else .plain))
  | .unlock => s.onObject (Placed Mutex) id fun r _ =>
    let (s, result) := s.unlock worker r
    s.finish result
  | .delete => s.onObject (Placed Mutex) id fun _ m =>
    (s.remove id).finish (.ofCheck (s.contract m.object.checkDelete))
  | .drop => s.onObject (Placed Mutex) id fun _ _ => (s.remove id).finish (.ok .done)

def performGuarded (s : Machine) (id : Name) : GuardedAction → Machine × Step
  | .create kind value storage =>
    match s.placeMutex kind storage with
    | .error r => s.finish r
    | .ok (s, placed) =>
      let guarded : Placed (Guarded Int) := ⟨⟨placed.object, value⟩, placed.storage⟩
      (s.create id guarded).finish (.ok .done)
  | .lock guard => s.onObject (Placed (Guarded Int)) id fun r _ =>
    (s, .calling (s.lockCall r) (.guard guard (.mutex r)))
  | .lockWithin guard wait => s.onObject (Placed (Guarded Int)) id fun r _ =>
    (s, .calling (s.lockWithinCall r wait) (.guard guard (.mutex r)))
  | .unwrap => s.onObject (Placed (Guarded Int)) id fun _ g =>
    (s.remove id).finish (.ok (.integer g.object.value))
  | .drop => s.onObject (Placed (Guarded Int)) id fun _ _ => (s.remove id).finish (.ok .done)

def performGlobal (s : Machine) (worker : Worker) (id : Name) : GlobalAction → Machine × Step
  | .create shared =>
    if shared then (s.name id sharedLock).finish (.ok .done)
    else (s.create id GlobalLock.create).finish (.ok .done)
  | .initialise => s.onObject GlobalLock id fun r g =>
    match g.initialise with
    | .error e => s.finish (.error (.init e))
    | .ok g => (s.put r g).finish (.ok .done)
  | .lock guard => s.onObject GlobalLock id fun r g => s.lockGlobal r g (.guard guard (.mutex r))
  | .lockBare => s.onObject GlobalLock id fun r g => s.lockGlobal r g .plain
  | .unlock => s.onObject GlobalLock id fun r g =>
    match s.readyGlobal r g with
    | .error f => s.finish (.fault f)
    | .ok s =>
      let (s, result) := s.unlock worker r
      s.finish result

def performCell (s : Machine) (id : Name) : CellAction → Machine × Step
  | .create lock value =>
    match lock with
    | none => (s.create id (⟨sharedLock, value⟩ : Cell)).finish (.ok .done)
    | some g => s.onObject GlobalLock g fun r _ =>
      (s.create id (⟨r, value⟩ : Cell)).finish (.ok .done)
  | .change change => s.onObject Cell id fun r c =>
    match s.get? GlobalLock c.lock with
    | none => s.noObject
    | some g => s.lockGlobal c.lock g (.cell r c.lock change)

def performTaskMutex (s : Machine) (worker : Worker) (id : Name) : TaskMutexAction → Machine × Step
  | .create value => (s.create id (TaskMutex.create value)).finish (.ok .done)
  | .lockNow guard => s.onObject (TaskMutex Int) id fun r m =>
    let o := m.lockNow
    let s := s.settle r o
    if o.answer then
      match s.nameGuard worker guard (.taskMutex r) with
      | (s, .ok _) => s.finish (.ok (.flag true))
      | (s, dropped) => s.finish dropped
    else s.finish (.ok (.flag false))
  | .lockLater future guard => s.onObject (TaskMutex Int) id fun r _ =>
    s.addFuture future (.taskLock r guard)
  | .addDirectly value => s.onObject (TaskMutex Int) id fun r m =>
    match addSigned m.value value with
    | .error f => s.finish (.fault f)
    | .ok sum => (s.put r { m with value := sum }).finish (.ok (.integer sum))
  | .unwrap => s.onObject (TaskMutex Int) id fun _ m => (s.remove id).finish (.ok (.integer m.value))

/-- An operation on a value while its spinlock is held. -/
def inCritical (s : Machine) (id : Name) (act : Int → Int × Result) : Machine × Step :=
  s.onObject Critical id fun r c =>
    match c.lock.enter s.core with
    | none => s.finish (.senseless "the lock is taken")
    | some (lock, core) =>
      let (value, result) := act c.value
      let (lock, core) := lock.exit core
      ({ s with core }.put r (⟨lock, value⟩ : Critical)).finish result

def performCritical (s : Machine) (id : Name) : CriticalAction → Machine × Step
  | .createSpinlock => (s.create id Spinlock.create).finish (.ok .done)
  | .create value => (s.create id (⟨.create, value⟩ : Critical)).finish (.ok .done)
  | .get => s.inCritical id fun value => (value, .ok (.integer value))
  | .set new => s.inCritical id fun old => (new, .ok (.integer old))
  | .unwrap => s.onObject Critical id fun _ c => (s.remove id).finish (.ok (.integer c.value))

end Machine

end TaskSync
