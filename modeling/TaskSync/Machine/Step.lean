import TaskSync.Machine.Calls

/-!
# TaskSync — steps of operations

An operation that a machine carries out either ends on the spot
(`Step.answered`) or comes down to a blocking call and what is to be done with
its result (`Step.calling`). This module holds what the operations on all
kinds of objects share.

An operation of an interrupt handler reports whether it deferred a wake, both
in its result and to the handler (`InterruptContext`).
-/

namespace TaskSync

/-- What an operation comes to at once. -/
inductive Step
  /-- A result, and what it adds to the interrupt handler around it. -/
  | answered (r : Result) (gathered : InterruptContext)
  | calling (c : Call) (next : Continuation)

/-- A result that adds nothing to an interrupt handler. -/
def Step.plain (r : Result) : Step := .answered r .fresh

/-- The byte that fills a buffer before something is read into it. -/
def blankByte : UInt8 := 0xEE

namespace Machine

/-- The end of an operation. -/
def finish (s : Machine) (r : Result) : Machine × Step := (s, .plain r)

/-- The end of an operation on something that is not there. -/
def noObject (s : Machine) : Machine × Step := s.finish missing

/-- The object of type `σ` with a name, and its place. -/
def named? (σ : Type) [Stored σ] (s : Machine) (id : Name) : Option (Ref × σ) := do
  let r ← s.ref? id
  return (r, ← s.get? σ r)

/-- An operation on the object of type `σ` with a name. -/
def onObject (σ : Type) [Stored σ] (s : Machine) (id : Name)
    (act : Ref → σ → Machine × Step) : Machine × Step :=
  match s.named? σ id with
  | some (r, x) => act r x
  | none => s.noObject

/-- The end of an operation that creates an object. -/
def finishCreate {σ : Type} [Stored σ] (s : Machine) (id : Name) :
    Except CreateError σ → Machine × Step
  | .ok x => (s.create id x).finish (.ok .done)
  | .error e => s.finish (.error (.create e))

/-- The end of an operation that takes one step on an object. -/
def finishStep {σ α : Type} [Stored σ] (s : Machine) (r : Ref) (o : Outcome σ α)
    (result : α → Result) : Machine × Step :=
  (s.settle r o).finish (result o.answer)

/-- The end of an interrupt handler's step on an object. -/
def finishDeferring {σ ε α : Type} [Stored σ] (s : Machine) (r : Ref)
    (o : Outcome σ (Except ε α)) (failure : ε → Failure) (answer : α → Answer) :
    Machine × Step :=
  let needWake := !o.tasks.isEmpty
  let result : Result :=
    match o.answer with
    | .ok a => .okDeferring (answer a) needWake
    | .error e => .errorDeferring (failure e) needWake
  (s.settleDeferring r o, .answered result ⟨needWake, false⟩)

/-- A contract that is checked only in a machine that checks. -/
def contract (s : Machine) (check : Except Fault Unit) : Except Fault Unit :=
  if s.checks then check else .ok ()

/-- A new pending asynchronous operation. -/
def addFuture (s : Machine) (name : Name) (f : Future) : Machine × Step :=
  { s with futures := s.futures.insert name f }.finish (.ok .done)

/-- The beginning of a call of `lock`, for the mutex of the object at a place. -/
def lockCall (s : Machine) (r : Ref) : Call := .lock r (.start s.now)

/-- The beginning of a bounded attempt at the mutex of the object at a place. -/
def lockWithinCall (s : Machine) (r : Ref) (wait : Ticks) : Call :=
  .lockWithin r (.start {} wait s.now)

end Machine

end TaskSync
