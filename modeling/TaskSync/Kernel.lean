import TaskSync.Task
import TaskSync.Ticks

/-!
# TaskSync — the kernel's view of tasks

What a kernel keeps so that the objects of this library can suspend and wake
tasks: the tick counter, the workers that are asleep, those that may go on, and
the wakes that interrupt handlers have deferred.

A **worker** carries out operations, one at a time. To the objects it is a
task, with a task number (`TaskId`); the kernel that is installed says which
worker has which number.

A worker that is woken while it is not asleep gets a **permit**, and its next
suspension returns at once; so a wake between a look and the suspension after
it is not lost.
-/

namespace TaskSync

/-- The number under which an operation's caller is known to its kernel. -/
abbrev Worker := UInt32

/-- A suspended worker. -/
structure Sleeper where
  worker : Worker
  /-- Ticks until the worker goes on by itself; `none`: not before it is woken. -/
  remaining : Option Ticks
deriving DecidableEq, Repr

/-- Whether a sleeper's time is up after `n` more ticks. -/
def Sleeper.isDue (s : Sleeper) (n : Ticks) : Bool :=
  match s.remaining with
  | some left => left ≤ n
  | none => false

/-- Who is asleep, who may go on, and the time. -/
structure Kernel where
  now : Ticks
  /-- The workers that were woken while awake. -/
  permits : List Worker
  /-- The suspended workers, longest suspended first. -/
  sleepers : List Sleeper
  /-- The suspended workers that may go on, first come first. -/
  ready : List Worker
  /-- The wakes deferred by interrupt handlers, in order. -/
  deferred : List TaskId
deriving DecidableEq, Repr

namespace Kernel

/-- A kernel without a sleeping worker, its counter at `now`. -/
def boot (now : Ticks) : Kernel := ⟨now, [], [], [], []⟩

def isAsleep (k : Kernel) (w : Worker) : Bool := k.sleepers.any (·.worker == w)

/-- Suspends a worker. The answer says whether the suspension returns at once,
for the permit it used up. -/
def suspend (k : Kernel) (w : Worker) (limit : Option Ticks) : Kernel × Bool :=
  if w ∈ k.permits then ({ k with permits := k.permits.filter (· ≠ w) }, true)
  else ({ k with sleepers := k.sleepers ++ [⟨w, limit⟩] }, false)

/-- Puts a sleeping worker on the ready list. -/
def makeReady (k : Kernel) (w : Worker) : Kernel :=
  if w ∈ k.ready then k else { k with ready := k.ready ++ [w] }

/-- Wakes a worker: a sleeping one becomes ready, any other gets a permit. -/
def wake (k : Kernel) (w : Worker) : Kernel :=
  if k.isAsleep w then k.makeReady w
  else if w ∈ k.permits then k
  else { k with permits := k.permits ++ [w] }

/-- Defers a wake to the end of the interrupt handler. -/
def defer (k : Kernel) (t : TaskId) : Kernel := { k with deferred := k.deferred ++ [t] }

/-- Forgets the suspension of a worker that goes on. -/
def unsuspend (k : Kernel) (w : Worker) : Kernel :=
  { k with sleepers := k.sleepers.filter (·.worker ≠ w), ready := k.ready.filter (· ≠ w) }

/-- Forgets a worker whose operation was given up. -/
def forget (k : Kernel) (w : Worker) : Kernel :=
  { k.unsuspend w with permits := k.permits.filter (· ≠ w) }

/-- Lets `n` ticks pass. Sleepers whose time is up become ready, those with
the least time left first, equals in the order in which they fell asleep. -/
def advance (k : Kernel) (n : Ticks) : Kernel :=
  let waiting (s : Sleeper) : Bool := s.worker ∉ k.ready
  let due := (k.sleepers.filter fun s => waiting s && s.isDue n).mergeSort
    fun a b => a.remaining.getD 0 ≤ b.remaining.getD 0
  let sleepers := k.sleepers.map fun s =>
    if waiting s && !s.isDue n then { s with remaining := s.remaining.map (· - n) } else s
  { k with now := k.now + n, sleepers, ready := k.ready ++ due.map (·.worker) }

/-- The least time after which a sleeper goes on by itself. -/
def nextDue? (k : Kernel) : Option Ticks :=
  let left := k.sleepers.filterMap fun s => if s.worker ∈ k.ready then none else s.remaining
  match left with
  | [] => none
  | t :: rest => some (rest.foldl min t)

/-- Lets a worker sleep while nobody else is at work: until its permit, if it
has one, else for the whole of `n` ticks. -/
def sleepAlone (k : Kernel) (w : Worker) (n : Ticks) : Kernel :=
  match k.suspend w (some n) with
  | (k, true) => k
  | (k, false) => (k.advance n).unsuspend w

end Kernel

end TaskSync
