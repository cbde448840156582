import TaskSync.Machine.Object
import TaskSync.Machine.Directory
import TaskSync.Host

/-!
# TaskSync — the state of a machine

A machine is a set of objects, the workers that use them, and two kernels, of
which one at most is installed: the simulated kernel, whose clock moves only
when told and whose workers are their own task numbers, and the host, whose
workers are numbered as they come. One worker runs at a time. Each operation
runs until it is finished or its worker is suspended, so a state between
operations is all there is to a machine.

The kernel's part in it (`active`, `wake`, `defer`, `yieldFromInterrupt`,
`inInterrupt`, `currentTask`) depends on which kernel is installed; the rest
does not.
-/

namespace TaskSync

/-- Objects, workers and their kernels. -/
structure Machine where
  /-- Contracts are checked. -/
  checks : Bool
  allocator : Allocator
  /-- The installed kernel. -/
  installed : Option KernelChoice
  /-- The simulated kernel. -/
  kernel : Kernel
  /-- The simulated kernel runs an interrupt handler. -/
  inHandler : Bool
  host : Host
  core : Core
  objects : Array Object
  names : Directory Name Ref
  guards : Directory Name Guard
  futures : Directory Name Future
  suspensions : Directory Worker Suspension
  /-- The workers with a background operation, and its result when it has one. -/
  background : Directory Worker (Option Result)
  /-- The events since the log was last read, in order. -/
  log : List Event

namespace Machine

/-- The place of the global lock that every machine has. -/
def sharedLock : Ref := 0

/-- A machine without objects but the shared global lock. -/
def boot (checks : Bool) (installed : Option KernelChoice) (now : Ticks) : Machine where
  checks
  allocator := .standard
  installed
  kernel := .boot now
  inHandler := false
  host := .boot
  core := ⟨true⟩
  objects := #[.global .create]
  names := .empty
  guards := .empty
  futures := .empty
  suspensions := .empty
  background := .empty
  log := []

-- ---------------------------------------------------------------------------
-- Objects
-- ---------------------------------------------------------------------------

/-- The object of type `σ` at a place. -/
def get? (σ : Type) [Stored σ] (s : Machine) (r : Ref) : Option σ :=
  s.objects[r]?.bind Stored.stored?

/-- Puts an object at a place that is in use. -/
def put {σ : Type} [Stored σ] (s : Machine) (r : Ref) (x : σ) : Machine :=
  { s with objects := s.objects.setIfInBounds r (Stored.store x) }

/-- What is put at a place is there. -/
theorem get?_put_self {σ : Type} [Stored σ] {s : Machine} {r : Ref} (h : r < s.objects.size)
    (x : σ) : (s.put r x).get? σ r = some x := by
  simp [get?, put, h, Stored.stored?_store]

/-- Other places are as before. -/
theorem get?_put_of_ne {σ τ : Type} [Stored σ] [Stored τ] {s : Machine} {r other : Ref}
    (h : r ≠ other) (x : σ) : (s.put r x).get? τ other = s.get? τ other := by
  simp [get?, put, h]

/-- The place of the object with a name. -/
def ref? (s : Machine) (id : Name) : Option Ref := s.names.find? id

/-- Puts a new object at a new place. -/
def add {σ : Type} [Stored σ] (s : Machine) (x : σ) : Machine × Ref :=
  ({ s with objects := s.objects.push (Stored.store x) }, s.objects.size)

/-- Gives up the object at a place: the static storage of its mutex is free again. -/
def giveUp (s : Machine) (r : Ref) : Machine :=
  match s.objects[r]?.bind Object.storage? with
  | none => s
  | some storage =>
    match s.get? MutexStorage storage with
    | some room => s.put storage room.release
    | none => s

/-- Takes a name away from its object, which is given up. -/
def remove (s : Machine) (id : Name) : Machine :=
  match s.ref? id with
  | none => s
  | some r => { s.giveUp r with names := s.names.erase id }

/-- Names the object at a place; an object that had the name before is given up. -/
def name (s : Machine) (id : Name) (r : Ref) : Machine :=
  let s := s.remove id
  { s with names := s.names.insert id r }

/-- A new object under a name. -/
def create {σ : Type} [Stored σ] (s : Machine) (id : Name) (x : σ) : Machine :=
  let (s, r) := s.add x
  s.name id r

-- ---------------------------------------------------------------------------
-- The kernel
-- ---------------------------------------------------------------------------

/-- Whether the installed kernel is a simulated one. -/
def isSimulated (s : Machine) : Bool :=
  match s.installed with
  | some .simulated | some .secondSimulated => true
  | _ => false

/-- Logs an event. What the host kernel does goes unseen, but not the call of a waker. -/
def note (s : Machine) (e : Event) : Machine :=
  match e with
  | .waker _ => { s with log := s.log ++ [e] }
  | _ => if s.isSimulated then { s with log := s.log ++ [e] } else s

/-- Whether the host is the installed kernel. -/
def onHost (s : Machine) : Bool := s.installed == some .host

/-- Changes what the host keeps of its workers' sleep. -/
def withHostKernel (s : Machine) (kernel : Kernel) : Machine :=
  { s with host := { s.host with kernel } }

/-- The kernel that suspends the callers of blocking operations. -/
def active (s : Machine) : Kernel := if s.onHost then s.host.kernel else s.kernel

/-- Changes the kernel that suspends the callers of blocking operations. -/
def withActive (s : Machine) (kernel : Kernel) : Machine :=
  if s.onHost then s.withHostKernel kernel else { s with kernel }

/-- What was put in the place of the active kernel is the active kernel. -/
@[simp] theorem active_withActive (s : Machine) (kernel : Kernel) :
    (s.withActive kernel).active = kernel := by
  unfold withActive
  split
  · rename_i h
    exact if_pos h
  · rename_i h
    exact if_neg h

/-- The tick counter as the callers of blocking operations see it. -/
def now (s : Machine) : Ticks := s.active.now

/-- Wakes a task. -/
def wake (s : Machine) (t : TaskId) : Machine :=
  if s.onHost then { s with host := s.host.wake t }
  else { s.note (.wake t) with kernel := s.kernel.wake t.number }

/-- Defers the wake of a task to the end of the interrupt handler. -/
def defer (s : Machine) (t : TaskId) : Machine :=
  if s.onHost then { s with host := s.host.defer t }
  else { s.note (.defer t) with kernel := s.kernel.defer t }

/-- Makes the deferred wakes good. -/
def yieldFromInterrupt (s : Machine) : Machine :=
  if s.onHost then { s with host := s.host.yieldFromInterrupt }
  else
    let s := s.note .yield
    s.kernel.deferred.foldl wake { s with kernel := { s.kernel with deferred := [] } }

/-- Whether a worker is inside an interrupt handler, as the installed kernel sees it. -/
def inInterrupt (s : Machine) (worker : Worker) : Bool :=
  if s.onHost then s.host.inHandler.contains worker else s.inHandler

/-- The task number that the host gives a worker. -/
def hostTask (s : Machine) (worker : Worker) : Machine × TaskId :=
  let (host, task) := s.host.number worker
  ({ s with host }, task)

/-- The task number of a worker. -/
def currentTask (s : Machine) (worker : Worker) : Machine × TaskId :=
  if s.onHost then s.hostTask worker else (s, ⟨worker⟩)

/-- Wakes the parties that a step outside interrupt handlers wants woken. -/
def deliver (s : Machine) (notices : List Notice) : Machine :=
  notices.foldl (fun s n =>
    match n with
    | .waker w => s.note (.waker w)
    | .task t => s.wake t) s

/-- As `deliver`, from an interrupt handler: the tasks' wakes are deferred. -/
def deliverDeferring (s : Machine) (notices : List Notice) : Machine :=
  notices.foldl (fun s n =>
    match n with
    | .waker w => s.note (.waker w)
    | .task t => s.defer t) s

/-- Puts back an object after a step and wakes whom the step wants woken. -/
def settle {σ α : Type} [Stored σ] (s : Machine) (r : Ref) (o : Outcome σ α) : Machine :=
  (s.put r o.object).deliver o.notices

/-- The mutex of the object at a place. -/
def mutexAt? (s : Machine) (r : Ref) : Option Mutex := s.objects[r]?.bind Object.mutex?

/-- As `settle`, for a step on the mutex of the object at a place. -/
def settleMutex {α : Type} (s : Machine) (r : Ref) (o : Outcome Mutex α) : Machine :=
  { s with objects := s.objects.modify r (·.withMutex o.object) }.deliver o.notices

/-- As `settle`, from an interrupt handler. -/
def settleDeferring {σ α : Type} [Stored σ] (s : Machine) (r : Ref) (o : Outcome σ α) : Machine :=
  (s.put r o.object).deliverDeferring o.notices

end Machine

end TaskSync
