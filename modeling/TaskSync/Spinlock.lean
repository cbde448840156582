/-!
# TaskSync — spinlocks

A critical section of one core: it first turns the core's interrupts off, then
takes the lock against other cores. The lock keeps the state to which the
section found the interrupts and puts the core back into it when it ends.
-/

namespace TaskSync

/-- A processor core. -/
structure Core where
  interruptsOn : Bool
deriving DecidableEq, Repr

/-- A lock for critical sections. -/
structure Spinlock where
  locked : Bool
  /-- What the interrupts go back to when the section ends. -/
  restore : Bool
deriving DecidableEq, Repr

namespace Spinlock

def create : Spinlock := ⟨false, false⟩

/-- Begins a critical section; `none` if the lock is taken, in which case a
core would spin for it. -/
def enter (l : Spinlock) (core : Core) : Option (Spinlock × Core) :=
  if l.locked then none else some (⟨true, core.interruptsOn⟩, ⟨false⟩)

/-- Ends a critical section. -/
def exit (l : Spinlock) (_ : Core) : Spinlock × Core := ({ l with locked := false }, ⟨l.restore⟩)

end Spinlock

end TaskSync
