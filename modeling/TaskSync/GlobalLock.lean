import TaskSync.Mutex.Storage
import TaskSync.Word

/-!
# TaskSync — global locks

A lock that all parts of a program share without handing it around, for small
values that several of them change. It is initialised once and then lasts as
long as the program.

* `GlobalLock.initialise` places its mutex in storage of its own; the storage
  can be claimed once only, so a second call is refused and disturbs nobody.
* `GlobalLock.ready` is what every use begins with. Use before initialisation
  is a fault; without contract checks the first use initialises.

Changes to a value behind such a lock (`CellChange`) are made while it is held.
-/

namespace TaskSync

/-- Why a global lock was not initialised. -/
inductive InitError
  | alreadyInitialised
deriving DecidableEq, Repr

/-- A lock that every part of a program may use. -/
structure GlobalLock where
  storage : MutexStorage
  /-- The mutex, once there is one. -/
  mutex : Option Mutex
deriving DecidableEq, Repr

namespace GlobalLock

/-- A lock not yet initialised. -/
def create : GlobalLock := ⟨.free, none⟩

def isInitialised (g : GlobalLock) : Bool := g.mutex.isSome

/-- Gives the lock its mutex. -/
def initialise (g : GlobalLock) : Except InitError GlobalLock :=
  match g.storage.claim .normal with
  | .error _ => .error .alreadyInitialised
  | .ok (storage, mutex) => .ok ⟨storage, some mutex⟩

/-- The lock as a use of it finds it. -/
def ready (g : GlobalLock) (checks : Bool) : Except Fault GlobalLock :=
  if g.isInitialised then .ok g
  else if checks then .error .signalNotInitialised
  else
    match g.initialise with
    | .ok g => .ok g
    | .error _ => .ok g

end GlobalLock

-- ---------------------------------------------------------------------------
-- Values behind a global lock
-- ---------------------------------------------------------------------------

/-- What is done to a value while its lock is held. -/
inductive CellChange
  | get
  | set (value : Int)
  | add (value : Int)
deriving DecidableEq, Repr

/-- A change made to a value: the value after it, and the answer. -/
def CellChange.apply (value : Int) : CellChange → Except Fault (Int × Int)
  | .get => .ok (value, value)
  | .set new => .ok (new, value)
  | .add n => (addSigned value n).map fun sum => (sum, sum)

end TaskSync
