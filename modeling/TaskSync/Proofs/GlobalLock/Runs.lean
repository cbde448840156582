import TaskSync.GlobalLock
import TaskSync.Proofs.Mutex.Runs

/-!
# TaskSync — runs of a global lock and the values behind it

A global lock and its cells (`Shared`), and how they answer (`protocol`), in a
system that checks contracts or in one that does not.

Here an operation is cut wherever another task may come in between. Whoever
initialises the lock claims the storage, puts the mutex where it stays for good, and
publishes it, in three steps; who finds no mutex waits until it is there. An access to a cell takes the lock,
reads, writes and releases in steps of their own, and what an update does with
the value it has read may take any time. A guard, a bare lock and a stretch of
commands with the lock held are the same here: the lock is entered, and at some
time the task leaves it; in between it does whatever it likes.

* `Turn` — all that a look of a task can come to; `turn_start`, `turn_resume`.
-/

namespace TaskSync

namespace GlobalLock

/-- What is done to a value while its lock is held. -/
inductive Access (α : Type)
  | get
  | set (value : α)
  /-- The new value is made from the old, by a computation that can be at fault. -/
  | update (f : α → Except Fault α)

/-- What the lock is entered for. -/
inductive Purpose (α : Type)
  /-- By a guard, bare, or around commands. -/
  | hold
  | access (cell : Nat) (a : Access α)

/-- What begins with a look for the mutex. -/
inductive Use (α : Type)
  | enter (p : Purpose α)
  | leave

/-- An operation on a global lock or on a cell. -/
inductive Request (α : Type)
  | initialise
  | use (u : Use α)

/-- An operation that is under way. -/
inductive Call (α : Type)
  /-- The storage is claimed, the mutex not put where it stays. A use may have to go on after
  that. -/
  | placing (m : Mutex) (next : Option (Use α))
  /-- The mutex is not published. -/
  | publishing (m : Mutex) (next : Option (Use α))
  /-- Somebody else has claimed the storage; the mutex is awaited. -/
  | seeking (u : Use α)
  | locking (u : Use α) (k : Mutex.Call)
  /-- The lock is held, and the value to be read. -/
  | reading (cell : Nat) (a : Access α)
  /-- The value was read. -/
  | writing (cell : Nat) (a : Access α) (old : α)
  /-- The new value was written, if there is one. -/
  | releasing (cell : Nat) (a : Access α) (answer : Except Fault α)

/-- An operation that has ended, with its answer. -/
inductive Deed (α : Type)
  | initialised (t : TaskId) (answer : Except InitError Unit)
  /-- A use that was ended. -/
  | faulted (t : TaskId) (u : Use α) (f : Fault)
  | held (t : TaskId)
  | released (t : TaskId) (answer : Except Fault Unit)
  | accessed (t : TaskId) (cell : Nat) (a : Access α) (answer : Except Fault α)

/-- A global lock and its cells. -/
structure Shared (α : Type) where
  lock : GlobalLock
  /-- Whether there is a mutex in the place where it stays, which takes one once. -/
  placed : Bool
  cells : Nat → α

variable {α : Type}

namespace Access

/-- The answer of an access to a value. -/
def answer (v : α) : Access α → Except Fault α
  | .get | .set _ => .ok v
  | .update f => f v

/-- What an access to a value stores, if it stores anything. -/
def stored? (v : α) : Access α → Option α
  | .get => none
  | .set new => some new
  | .update f => (f v).toOption

/-- The value after an access. -/
def after (v : α) (a : Access α) : α := (a.stored? v).getD v

end Access

namespace Shared

/-- A lock not yet initialised, and its cells. -/
def fresh (cells : Nat → α) : Shared α := ⟨.create, false, cells⟩

/-- The task that holds the lock. -/
def owner? (s : Shared α) : Option TaskId := s.lock.mutex.bind (·.owner)

def withMutex (s : Shared α) (m : Mutex) : Shared α :=
  { s with lock := { s.lock with mutex := some m } }

/-- The cells after something was stored in one of them, or nothing. -/
def withCell? (s : Shared α) (cell : Nat) (new : Option α) : Shared α :=
  { s with cells := Function.update s.cells cell (new.getD (s.cells cell)) }

/-- The lock with its storage claimed. -/
def claimed (s : Shared α) (storage : MutexStorage) : Shared α :=
  { s with lock := { s.lock with storage } }

/-- The lock after a mutex that found its place taken was given up, and its storage with it. -/
def givenBack (s : Shared α) : Shared α := s.claimed s.lock.storage.release

end Shared

/-- What a use asks of the mutex. -/
def Use.request : Use α → Mutex.Request
  | .enter _ => .lock
  | .leave => .unlock

/-- What whoever has entered the lock goes on with. -/
def Purpose.begin (t : TaskId) : Purpose α → Round (Call α) (Deed α)
  | .hold => .finished (.held t)
  | .access cell a => .suspended (.reading cell a) (some 0)

/-- What a use makes of a look at the mutex. -/
def Use.next (t : TaskId) (u : Use α) : Round Mutex.Call Mutex.Deed → Round (Call α) (Deed α)
  | .suspended k limit => .suspended (.locking u k) limit
  | .finished d =>
    match u, d with
    | .enter p, .locked _ (.ok ()) => p.begin t
    | .leave, .unlocked _ answer => .finished (.released t answer)
    | u, .locked _ (.error f) => .finished (.faulted t u f)
    | u, _ => .suspended (.seeking u) (some 0)

/-- What an access makes of the release of the mutex. -/
def afterRelease (t : TaskId) (cell : Nat) (a : Access α) (answer : Except Fault α) :
    Except Fault Unit → Round (Call α) (Deed α)
  | .ok () => .finished (.accessed t cell a answer)
  | .error f => .finished (.accessed t cell a (.error f))

/-- What whoever has set the lock up goes on with, with the answer that an initialisation gets. -/
def afterSetUp (t : TaskId) (answer : Except InitError Unit) :
    Option (Use α) → Round (Call α) (Deed α)
  | none => .finished (.initialised t answer)
  | some u => .suspended (.seeking u) (some 0)

/-- A look at the mutex and what is made of it. -/
def Shared.atMutex {β : Type} (s : Shared α) (o : Outcome Mutex β)
    (next : β → Round (Call α) (Deed α)) : Outcome (Shared α) (Round (Call α) (Deed α)) :=
  ⟨s.withMutex o.object, o.notices, next o.answer⟩

/-- The first look of an operation. -/
def Request.start (checks : Bool) (now : Ticks) (t : TaskId) (s : Shared α) :
    Request α → Outcome (Shared α) (Round (Call α) (Deed α))
  | .initialise =>
    match s.lock.storage.claim .normal with
    | .error _ => .still s (.finished (.initialised t (.error .alreadyInitialised)))
    | .ok (storage, m) => .still (s.claimed storage) (.suspended (.placing m none) (some 0))
  | .use u =>
    match s.lock.mutex with
    | some m => s.atMutex (u.request.start checks now t m) (u.next t)
    | none =>
      if checks then .still s (.finished (.faulted t u .signalNotInitialised))
      else
        match s.lock.storage.claim .normal with
        | .error _ => .still s (.suspended (.seeking u) (some 1))
        | .ok (storage, m) =>
          .still (s.claimed storage) (.suspended (.placing m (some u)) (some 0))

/-- A look that needs the mutex; without one the call waits on. -/
def Shared.awaitMutex (s : Shared α) (k : Call α)
    (look : Mutex → Outcome (Shared α) (Round (Call α) (Deed α))) :
    Outcome (Shared α) (Round (Call α) (Deed α)) :=
  match s.lock.mutex with
  | some m => look m
  | none => .still s (.suspended k (some 1))

/-- The next look of an operation. -/
def Call.round (checks : Bool) (now : Ticks) (t : TaskId) (s : Shared α) :
    Call α → Outcome (Shared α) (Round (Call α) (Deed α))
  | .placing m next =>
    if s.placed then .still s.givenBack (afterSetUp t (.error .alreadyInitialised) next)
    else .still { s with placed := true } (.suspended (.publishing m next) (some 0))
  | .publishing m next => .still (s.withMutex m) (afterSetUp t (.ok ()) next)
  | .seeking u => s.awaitMutex (.seeking u) fun m =>
    s.atMutex (u.request.start checks now t m) (u.next t)
  | .locking u k => s.awaitMutex (.locking u k) fun m =>
    s.atMutex (k.round checks now t m) (u.next t)
  | .reading cell a => .still s (.suspended (.writing cell a (s.cells cell)) none)
  | .writing cell a old =>
    .still (s.withCell? cell (a.stored? old))
      (.suspended (.releasing cell a (a.answer old)) (some 0))
  | .releasing cell a answer => s.awaitMutex (.releasing cell a answer) fun m =>
    s.atMutex (m.unlock t) (afterRelease t cell a answer)

/-- How a global lock and its cells answer. All their operations are operations of a task. -/
def protocol (α : Type) (checks : Bool) :
    Protocol (Shared α) (Request α) (Call α) Empty (Deed α) where
  start r now t s := r.start checks now t s
  resume k now t s := k.round checks now t s
  act a _ := nomatch a

/-- A global lock in use. -/
abbrev World (α : Type) := TaskSync.World (Shared α) (Call α) (Deed α)

/-- A move in a run of a global lock. -/
abbrev Move (α : Type) := TaskSync.Move (Request α) Empty

/-- A lock that nobody has used before, and its cells, after some moves. -/
def after (checks : Bool) (cells : Nat → α) (moves : List (Move α)) : World α :=
  TaskSync.World.run (protocol α checks) (.fresh (.fresh cells)) moves

-- ---------------------------------------------------------------------------
-- What a look comes to
-- ---------------------------------------------------------------------------

/-- The use that a call is for, as long as it has not got the lock. -/
def Call.use? : Call α → Option (Use α)
  | .seeking u | .locking u _ => some u
  | _ => none

/-- Whether a call has claimed the storage and has yet to publish the mutex. -/
def Call.publishes : Call α → Bool
  | .placing .. | .publishing .. => true
  | _ => false

/-- What a call is for once it has the lock. -/
def Call.purpose? : Call α → Option (Purpose α)
  | .reading cell a | .writing cell a _ | .releasing cell a _ => some (.access cell a)
  | _ => none

/-- A call asks the mutex for what its use needs. -/
def Call.Fits : Call α → Prop
  | .locking u k => k.request = u.request
  | _ => True

/-- All that a look of a task can come to, by the call that it goes on with; `none` at the
beginning of an operation. -/
inductive Turn (checks : Bool) (t : TaskId) (s : Shared α) :
    Option (Call α) → Outcome (Shared α) (Round (Call α) (Deed α)) → Prop
  /-- The storage is claimed already. -/
  | refused :
      s.lock.storage.claimed = true →
      Turn checks t s none (.still s (.finished (.initialised t (.error .alreadyInitialised))))
  | claimed {next : Option (Use α)} :
      s.lock.storage.claimed = false → (∀ u ∈ next, s.lock.mutex = none ∧ checks = false) →
      Turn checks t s none
        (.still (s.claimed ⟨true⟩) (.suspended (.placing (.create .normal) next) (some 0)))
  /-- Use before initialisation is a fault where contracts are checked. -/
  | unready {u : Use α} :
      checks = true → s.lock.mutex = none →
      Turn checks t s none (.still s (.finished (.faulted t u .signalNotInitialised)))
  | sought {u : Use α} :
      s.lock.mutex = none → Turn checks t s none (.still s (.suspended (.seeking u) (some 1)))
  | waiting {k : Call α} :
      s.lock.mutex = none → k.publishes = false →
      Turn checks t s (some k) (.still s (.suspended k (some 1)))
  | placed {m : Mutex} {next : Option (Use α)} :
      s.placed = false →
      Turn checks t s (some (.placing m next))
        (.still { s with placed := true } (.suspended (.publishing m next) (some 0)))
  | givenBack {m : Mutex} {next : Option (Use α)} :
      s.placed = true →
      Turn checks t s (some (.placing m next))
        (.still s.givenBack (afterSetUp t (.error .alreadyInitialised) next))
  | published {m : Mutex} {next : Option (Use α)} :
      Turn checks t s (some (.publishing m next))
        (.still (s.withMutex m) (afterSetUp t (.ok ()) next))
  | looked {from? : Option (Call α)} {u : Use α} {m : Mutex}
      {o : Outcome Mutex (Round Mutex.Call Mutex.Deed)} :
      s.lock.mutex = some m → (∀ k ∈ from?, k.use? = some u) →
      Mutex.Turn checks t m u.request o → Turn checks t s from? (s.atMutex o (u.next t))
  | read {cell : Nat} {a : Access α} :
      Turn checks t s (some (.reading cell a))
        (.still s (.suspended (.writing cell a (s.cells cell)) none))
  | wrote {cell : Nat} {a : Access α} {old : α} :
      Turn checks t s (some (.writing cell a old))
        (.still (s.withCell? cell (a.stored? old))
          (.suspended (.releasing cell a (a.answer old)) (some 0)))
  | left {cell : Nat} {a : Access α} {answer : Except Fault α} {m : Mutex} :
      s.lock.mutex = some m →
      Turn checks t s (some (.releasing cell a answer))
        (s.atMutex (m.unlock t) (afterRelease t cell a answer))

variable {checks : Bool}

theorem turn_start (checks : Bool) (r : Request α) (now : Ticks) (t : TaskId) (s : Shared α) :
    Turn checks t s none ((protocol α checks).start r now t s) := by
  show Turn checks t s none (r.start checks now t s)
  unfold Request.start
  cases r with
  | initialise =>
    dsimp only
    split
    · rename_i hClaim
      exact .refused (MutexStorage.claim_eq_error_iff.mp hClaim).1
    · rename_i hClaim
      obtain ⟨hFree, rfl, rfl⟩ := MutexStorage.claim_eq_ok_iff.mp hClaim
      exact .claimed hFree nofun
  | use u =>
    dsimp only
    split
    · rename_i m hMutex
      exact .looked hMutex nofun (Mutex.turn_start checks u.request now t m)
    · rename_i hMutex
      split
      · exact .unready ‹_› hMutex
      · rename_i hUnchecked
        split
        · exact .sought hMutex
        · rename_i hClaim
          obtain ⟨hFree, rfl, rfl⟩ := MutexStorage.claim_eq_ok_iff.mp hClaim
          exact .claimed hFree fun _ _ => ⟨hMutex, Bool.not_eq_true _ ▸ hUnchecked⟩

theorem turn_resume (checks : Bool) {k : Call α} (hFits : k.Fits) (now : Ticks) (t : TaskId)
    (s : Shared α) : Turn checks t s (some k) ((protocol α checks).resume k now t s) := by
  show Turn checks t s (some k) (k.round checks now t s)
  -- a call that needs the mutex looks at it, or waits on
  have hAwait : ∀ look : Mutex → Outcome (Shared α) (Round (Call α) (Deed α)),
      k.publishes = false → (∀ m, s.lock.mutex = some m → Turn checks t s (some k) (look m)) →
      Turn checks t s (some k) (s.awaitMutex k look) := by
    intro look hPublished hLook
    unfold Shared.awaitMutex
    split
    · exact hLook _ ‹_›
    · exact .waiting ‹_› hPublished
  cases k with
  | placing m next =>
    show Turn checks t s _ (if s.placed then _ else _)
    split
    · exact .givenBack ‹_›
    · exact .placed (Bool.eq_false_of_not_eq_true ‹_›)
  | publishing m next => exact .published
  | seeking u =>
    refine hAwait _ rfl fun m hMutex => ?_
    refine .looked hMutex ?_ (Mutex.turn_start checks u.request now t m)
    rintro _ ⟨⟩
    rfl
  | locking u k =>
    refine hAwait _ rfl fun m hMutex => ?_
    refine .looked hMutex ?_ (hFits ▸ Mutex.turn_round checks k now t m)
    rintro _ ⟨⟩
    rfl
  | reading cell a => exact .read
  | writing cell a old => exact .wrote
  | releasing cell a answer => exact hAwait _ rfl fun m hMutex => .left hMutex

end GlobalLock

end TaskSync
