import TaskSync.Machine.Locks

/-!
# TaskSync — operations on guards and on pending asynchronous operations

A pending operation has a name and is polled with a waker. A poll that is in
vain leaves it pending; any other ends it.
-/

namespace TaskSync

namespace Machine

/-- The value behind a guard. -/
def guardedValue? (s : Machine) : Guard → Option Int
  | .mutex r => (s.get? (Placed (Guarded Int)) r).map (·.object.value)
  | .taskMutex r => (s.get? (TaskMutex Int) r).map (·.value)

/-- Writes the value behind a guard. -/
def setGuardedValue (s : Machine) (value : Int) : Guard → Machine
  | .mutex r =>
    match s.get? (Placed (Guarded Int)) r with
    | some g => s.put r { g with object := { g.object with value } }
    | none => s
  | .taskMutex r =>
    match s.get? (TaskMutex Int) r with
    | some m => s.put r { m with value }
    | none => s

def performGuard (s : Machine) (worker : Worker) (name : Name) (a : GuardAction) : Machine × Step :=
  match s.guards.find? name with
  | none => s.noObject
  | some g =>
    match a with
    | .drop =>
      let (s, result) := { s with guards := s.guards.erase name }.dropGuard worker g
      s.finish result
    | .get =>
      match s.guardedValue? g with
      | some value => s.finish (.ok (.integer value))
      | none => s.noObject
    | .set new =>
      match s.guardedValue? g with
      | some old => (s.setGuardedValue new g).finish (.ok (.integer old))
      | none => s.noObject

/-- The end of a poll: a result ends the asynchronous operation, no result
leaves it pending, as `still`. -/
def finishPoll {σ α : Type} [Stored σ] (s : Machine) (name : Name) (r : Ref)
    (o : Outcome σ (Option α)) (still : Future) (result : α → Result) : Machine × Step :=
  let s := s.settle r o
  match o.answer with
  | none => { s with futures := s.futures.insert name still }.finish .pending
  | some a => { s with futures := s.futures.erase name }.finish (result a)

/-- Polls a pending operation. -/
def poll (s : Machine) (worker : Worker) (name : Name) (waker : WakerId) (f : Future) :
    Machine × Step :=
  match f with
  | .queueSend r item =>
    match s.get? Queue r with
    | none => s.noObject
    | some q => s.finishPoll name r (q.pollSend item waker) f (.ofExcept .queue fun _ => .done)
  | .queueReceive r size =>
    match s.get? Queue r with
    | none => s.noObject
    | some q => s.finishPoll name r (q.pollReceive size waker) f (.ofExcept .queue .bytes)
  | .streamSend r data =>
    match s.get? ByteStream r with
    | none => s.noObject
    | some x => s.finishPoll name r (x.pollSend data waker) f (.ofExcept .stream .number)
  | .streamReceive r room blocked =>
    match s.get? ByteStream r with
    | none => s.noObject
    | some x =>
      s.finishPoll name r (x.pollReceive room blocked waker) (.streamReceive r room true)
        (.ofExcept .stream .bytes)
  | .watch w change =>
    match s.get? Watch w with
    | none => s.noObject
    | some watch =>
      match s.get? (Signal Datum) watch.signal with
      | none => s.noObject
      | some x =>
        let change := change.getD ⟨watch.seen⟩
        let o := x.pollChange change waker
        let s := match o.answer with
          | some value => s.put w { watch with seen := some value }
          | none => s
        s.finishPoll name watch.signal o (.watch w (some change)) fun value => .ok (.datum value)
  | .taskLock r guard =>
    match s.get? (TaskMutex Int) r with
    | none => s.noObject
    | some m =>
      let o := m.pollLock waker
      let s := s.settle r o
      if o.answer then
        let (s, result) := { s with futures := s.futures.erase name }.nameGuard worker guard
          (.taskMutex r)
        s.finish result
      else s.finish .pending

def performFuture (s : Machine) (worker : Worker) (name : Name) : FutureAction → Machine × Step
  | .poll waker =>
    match s.futures.find? name with
    | none => s.noObject
    | some f => s.poll worker name waker f
  | .drop =>
    { s with futures := s.futures.erase name }.finish
      (.ok (.flag (s.futures.find? name).isSome))

end Machine

end TaskSync
