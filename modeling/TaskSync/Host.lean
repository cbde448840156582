import TaskSync.Kernel

/-!
# TaskSync — the host

The kernel of a system with threads of its own. Its workers are threads. They
sleep by the host's clock and can be woken whether the host is the installed
kernel of a machine or not.

A worker has a task number only when it has asked for one (`Host.number`), and
it can be woken only by that number. Interrupt handlers run on the thread of
the worker that they interrupt, so each worker has a flag of its own that says
whether it is in one.
-/

namespace TaskSync

/-- What the host keeps. -/
structure Host where
  kernel : Kernel
  /-- The workers that have a task number, in the order in which they got it. -/
  numbered : List (Worker × TaskId)
  /-- The workers inside an interrupt handler. -/
  inHandler : List Worker

namespace Host

/-- The host before anybody is at work. -/
def boot : Host := ⟨.boot 0, [], []⟩

/-- The worker with a task number. -/
def worker? (h : Host) (t : TaskId) : Option Worker := (h.numbered.find? (·.2 == t)).map (·.1)

/-- The task number of a worker. Numbers count from 1 and are given out at first use. -/
def number (h : Host) (w : Worker) : Host × TaskId :=
  match h.numbered.lookup w with
  | some t => (h, t)
  | none =>
    let t : TaskId := ⟨UInt32.ofNat (h.numbered.length + 1)⟩
    ({ h with numbered := h.numbered ++ [(w, t)] }, t)

/-- Wakes a task. A number that was not given out wakes nobody. -/
def wake (h : Host) (t : TaskId) : Host :=
  match h.worker? t with
  | some w => { h with kernel := h.kernel.wake w }
  | none => h

/-- Defers the wake of a task to the end of the interrupt handler. -/
def defer (h : Host) (t : TaskId) : Host := { h with kernel := h.kernel.defer t }

/-- Makes the deferred wakes good. -/
def yieldFromInterrupt (h : Host) : Host :=
  h.kernel.deferred.foldl wake { h with kernel := { h.kernel with deferred := [] } }

/-- Marks a worker as being inside an interrupt handler, or not. -/
def markHandler (h : Host) (w : Worker) (inside : Bool) : Host :=
  let others := h.inHandler.filter (· ≠ w)
  { h with inHandler := if inside then w :: others else others }

end Host

end TaskSync
