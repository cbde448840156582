import TaskSync.Machine.State

/-!
# TaskSync — what can be seen of a machine's objects

The state of the named objects as their callers can read it: lengths, levels,
owners and the numbers of tasks that wait. Watches, cells and values behind a
normal mutex or a spinlock have no state of their own to show.
-/

namespace TaskSync

/-- What can be read off an object. -/
inductive Snapshot
  | ring (capacity length space : Nat) (isEmpty isFull : Bool)
  | queue (capacity itemSize length space : Nat) (isEmpty isFull : Bool) (receivers senders : Nat)
  | stream (capacity length space trigger : Nat) (closed : Bool) (receivers senders : Nat)
  | events (bits : EventBits) (waiters : Nat)
  | signal (value : Datum) (waiters : Nat)
  | storage (claimed : Bool)
  | mutex (kind : MutexKind) (owner : Option TaskId) (depth : UInt32) (locked : Bool) (waiters : Nat)
  | reentrant (depth : UInt32)
  | global (initialised : Bool)
  | taskMutex (locked : Bool)
  | spinlock (locked : Bool)

/-- A number in the state of an object. -/
def Snapshot.gauge? : Snapshot → Gauge → Option Nat
  | .ring _ length _ _ _, .length => some length
  | .ring _ _ space _ _, .space => some space
  | .queue _ _ length _ _ _ _ _, .length => some length
  | .queue _ _ _ space _ _ _ _, .space => some space
  | .queue _ _ _ _ _ _ receivers _, .receivers => some receivers
  | .queue _ _ _ _ _ _ _ senders, .senders => some senders
  | .stream _ length _ _ _ _ _, .length => some length
  | .stream _ _ space _ _ _ _, .space => some space
  | .stream _ _ _ trigger _ _ _, .trigger => some trigger
  | .stream _ _ _ _ _ receivers _, .receivers => some receivers
  | .stream _ _ _ _ _ _ senders, .senders => some senders
  | .events bits _, .bits => some bits.toNat
  | .events _ waiters, .waiters => some waiters
  | .signal _ waiters, .waiters => some waiters
  | .mutex _ owner _ _ _, .owner => owner.map (·.number.toNat)
  | .mutex _ _ depth _ _, .depth => some depth.toNat
  | .mutex _ _ _ _ waiters, .waiters => some waiters
  | .reentrant depth, .depth => some depth.toNat
  | _, _ => none

namespace Machine

/-- What can be read off the object at a place. -/
def snapshotAt? (s : Machine) (r : Ref) : Option Snapshot := do
  match ← s.objects[r]? with
  | .ring r => some (.ring r.capacity r.length r.space r.isEmpty r.isFull)
  | .queue q =>
    some (.queue q.capacity q.itemSize q.count q.space q.isEmpty q.isFull
      q.receivers.size q.senders.size)
  | .stream x =>
    some (.stream x.capacity x.available x.space x.trigger x.closed
      x.receivers.size x.senders.size)
  | .events g => some (.events g.bits g.waiters.length)
  | .signal x => some (.signal x.value x.waiters.size)
  | .storage room => some (.storage room.claimed)
  | .mutex ⟨m, _⟩ => some (.mutex m.kind m.owner m.depth m.isLocked m.waiters.size)
  | .guarded ⟨⟨m, _⟩, _⟩ =>
    match m.kind with
    | .normal => none
    | .recursive => some (.reentrant m.depth)
  | .global g => some (.global g.isInitialised)
  | .taskMutex m => some (.taskMutex m.locked)
  | .spinlock l => some (.spinlock l.locked)
  | .watch _ | .cell _ | .critical _ => none

/-- What can be read off the object with a name. -/
def snapshot? (s : Machine) (id : Name) : Option Snapshot := do s.snapshotAt? (← s.ref? id)

/-- What can be read off all named objects. -/
def snapshots (s : Machine) : List (Name × Snapshot) :=
  s.names.entries.filterMap fun (id, r) => (s.snapshotAt? r).map fun x => (id, x)

end Machine

end TaskSync
