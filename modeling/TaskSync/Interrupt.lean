/-!
# TaskSync — results from interrupt handlers

An operation inside an interrupt handler never suspends and never wakes a
task at once. It defers the wake and reports beside its result whether there
is one to make good at the end of the handler (`InterruptResult.needWake`).
Results of several operations are chained; the report is never lost.
-/

namespace TaskSync

/-- The result of an operation inside an interrupt handler. -/
structure InterruptResult (ε α : Type) where
  result : Except ε α
  /-- A task was woken, and the wake is still to be made good. -/
  needWake : Bool

namespace InterruptResult

variable {ε φ α β : Type}

/-- Nothing done, nobody to wake. -/
def nothing : InterruptResult ε Unit := ⟨.ok (), false⟩

def isOk (r : InterruptResult ε α) : Bool :=
  match r.result with
  | .ok _ => true
  | .error _ => false

/-- The same result with its value rephrased. -/
def map (f : α → β) (r : InterruptResult ε α) : InterruptResult ε β :=
  ⟨r.result.map f, r.needWake⟩

/-- As `map`, where rephrasing the value can fail. -/
def mapM {m : Type → Type} [Monad m] (f : α → m β) (r : InterruptResult ε α) :
    m (InterruptResult ε β) :=
  match r.result with
  | .ok a => do return ⟨.ok (← f a), r.needWake⟩
  | .error e => return ⟨.error e, r.needWake⟩

/-- A second operation after the first: its result, and a wake if either has one. -/
def chain (first : InterruptResult ε α) (second : InterruptResult φ β) : InterruptResult φ β :=
  ⟨second.result, first.needWake || second.needWake⟩

end InterruptResult

/-- What an interrupt handler has gathered so far. -/
structure InterruptContext where
  /-- A wake was deferred. -/
  needWake : Bool
  /-- The caller's own flag, raised by the operations that take one. -/
  flag : Bool
deriving DecidableEq, Repr

namespace InterruptContext

/-- The context at the start of a handler. -/
def fresh : InterruptContext := ⟨false, false⟩

/-- The context after a step that gathered `more`. -/
def merge (cx more : InterruptContext) : InterruptContext :=
  ⟨cx.needWake || more.needWake, cx.flag || more.flag⟩

end InterruptContext

end TaskSync
