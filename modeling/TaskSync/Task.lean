/-!
# TaskSync — tasks, wakers and notices

Two kinds of parties wait for the objects of this library. A **task** is a
thread of the kernel: it is suspended and woken by number (`TaskId`). An
asynchronous operation leaves a **waker** (`WakerId`) and is polled again by
its executor after the waker has been called.

A step on an object never reschedules anybody itself. It returns the parties
it wants woken as a list of `Notice`s, in the order in which they are woken;
`Outcome` bundles that list with the object left behind and the answer.
-/

namespace TaskSync

/-- The number of a task in the kernel. -/
structure TaskId where
  number : UInt32
deriving DecidableEq, Repr, Inhabited

namespace TaskId

/-- The name under which a task is shown. -/
def label (t : TaskId) : String := "task#" ++ t.number.toNat.repr

/-- Tasks are ordered by number. -/
protected def compare (a b : TaskId) : Ordering := Ord.compare a.number.toNat b.number.toNat

end TaskId

/-- The number of an asynchronous waker; equal numbers wake the same party. -/
structure WakerId where
  number : Nat
deriving DecidableEq, Repr, Inhabited

/-- A party that a step wants woken. -/
inductive Notice
  | waker (w : WakerId)
  | task (t : TaskId)
deriving DecidableEq, Repr

/-- The task a notice is addressed to, if it is addressed to one. -/
def Notice.task? : Notice → Option TaskId
  | .waker _ => none
  | .task t => some t

/-- What a step on an object of type `σ` comes to: the object afterwards,
the parties to wake, in order, and the answer. -/
structure Outcome (σ α : Type) where
  object : σ
  notices : List Notice
  answer : α
deriving Repr

namespace Outcome

variable {σ α β : Type}

/-- The same step with its answer rephrased. -/
def map (f : α → β) (o : Outcome σ α) : Outcome σ β :=
  ⟨o.object, o.notices, f o.answer⟩

/-- The tasks that the step wants woken, in order. -/
def tasks (o : Outcome σ α) : List TaskId := o.notices.filterMap Notice.task?

/-- A step that changes nothing and wakes nobody. -/
def still (s : σ) (a : α) : Outcome σ α := ⟨s, [], a⟩

@[simp] theorem tasks_map (f : α → β) (o : Outcome σ α) : (o.map f).tasks = o.tasks := rfl

@[simp] theorem tasks_still (s : σ) (a : α) : (still s a).tasks = [] := rfl

end Outcome

end TaskSync
