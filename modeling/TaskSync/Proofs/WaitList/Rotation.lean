import TaskSync.WaitList

/-!
# TaskSync — wait lists in a bounded deque

A wait list lies in a double-ended queue of fixed size that can be pushed to at
the back, popped at the front and looked through, and no more. So a task is taken
out of the middle by rotation: as often as there are tasks on the list, the first
one is popped, and pushed to the back unless it is the one to go. Whether a push
found room is not looked at.

The deque is any one that keeps the laws (`Deque.Lawful`). What is done to it here
is what the operations of a wait list do:

* `Deque.list_register`, `Deque.list_remove`, `Deque.list_pop`.
-/

namespace TaskSync

/-- The operations of a double-ended queue of tasks that a wait list uses. -/
structure Deque (δ : Type) where
  empty : δ
  /-- The tasks in the deque, first to last. -/
  elements : δ → List TaskId
  length : δ → Nat
  /-- Puts a task to the back; `none` if there is no room, and the deque is as it was. -/
  pushBack : δ → TaskId → Option δ
  /-- Takes the first task; `none` if there is none. -/
  popFront : δ → Option (TaskId × δ)

namespace Deque

variable {δ : Type}

/-- The laws of a deque with room for `capacity` tasks. -/
structure Lawful (ops : Deque δ) (capacity : Nat) : Prop where
  elements_empty : ops.elements ops.empty = []
  length_eq : ∀ d, ops.length d = (ops.elements d).length
  length_le : ∀ d, (ops.elements d).length ≤ capacity
  pushBack_of_lt : ∀ d t, (ops.elements d).length < capacity →
    ∃ d', ops.pushBack d t = some d' ∧ ops.elements d' = ops.elements d ++ [t]
  pushBack_of_full : ∀ d t, (ops.elements d).length = capacity → ops.pushBack d t = none
  popFront_of_nil : ∀ d, ops.elements d = [] → ops.popFront d = none
  popFront_of_cons : ∀ d t rest, ops.elements d = t :: rest →
    ∃ d', ops.popFront d = some (t, d') ∧ ops.elements d' = rest

-- ---------------------------------------------------------------------------
-- A wait list's operations on its deque
-- ---------------------------------------------------------------------------

variable (ops : Deque δ)

/-- Lists a task, and says whether it is listed now. -/
def register (d : δ) (t : TaskId) : δ × Bool :=
  if (ops.elements d).any (· == t) then (d, true)
  else
    match ops.pushBack d t with
    | some d => (d, true)
    | none => (d, false)

/-- One turn of a rotation that takes a task out. A task that is not taken back is lost. -/
def turn (t : TaskId) (d : δ) : δ :=
  match ops.popFront d with
  | none => d
  | some (first, d) => if first = t then d else (ops.pushBack d first).getD d

/-- A rotation of so many turns. -/
def rotate (t : TaskId) : Nat → δ → δ
  | 0, d => d
  | turns + 1, d => rotate t turns (ops.turn t d)

/-- Takes a task off the list. -/
def remove (d : δ) (t : TaskId) : δ := ops.rotate t (ops.length d) d

/-- Takes the longest waiter off the list. -/
def pop (d : δ) : δ × Option TaskId :=
  match ops.popFront d with
  | some (t, d) => (d, some t)
  | none => (d, none)

-- ---------------------------------------------------------------------------
-- What they do to the listed tasks
-- ---------------------------------------------------------------------------

/-- The wait list that lies in a deque. -/
def list (d : δ) : WaitList := ⟨ops.elements d⟩

variable {ops} (h : ops.Lawful WaitList.limit) (d : δ) (t : TaskId)

include h

theorem list_empty : ops.list ops.empty = .empty := congrArg WaitList.mk h.elements_empty

/-- Registering fails where the wait list has no room, and changes nothing then. -/
theorem list_register :
    ops.list (ops.register d t).1 = ((ops.list d).register t).getD (ops.list d) ∧
      (ops.register d t).2 = ((ops.list d).register t).isSome := by
  unfold register WaitList.register list
  by_cases hMem : t ∈ ops.elements d
  · have hFound : (ops.elements d).any (· == t) = true := by simpa using hMem
    rw [if_pos hFound, if_pos hMem]
    exact ⟨rfl, rfl⟩
  · have hNotFound : ¬ (ops.elements d).any (· == t) = true := by simpa using hMem
    rw [if_neg hNotFound, if_neg hMem]
    by_cases hRoom : (ops.elements d).length < WaitList.limit
    · obtain ⟨pushed, hPush, hElements⟩ := h.pushBack_of_lt d t hRoom
      rw [hPush, if_pos hRoom, ← hElements]
      exact ⟨rfl, rfl⟩
    · have hFull := Nat.le_antisymm (h.length_le d) (Nat.le_of_not_lt hRoom)
      rw [h.pushBack_of_full d t hFull, if_neg hRoom]
      exact ⟨rfl, rfl⟩

/-- A turn moves the first task to the back or takes it out: after the pop there is room. -/
theorem elements_turn {first : TaskId} {rest : List TaskId}
    (hFirst : ops.elements d = first :: rest) :
    ops.elements (ops.turn t d) = rest ++ [first].filter (· ≠ t) := by
  obtain ⟨popped, hPop, rfl⟩ := h.popFront_of_cons d first rest hFirst
  have hRoom : (ops.elements popped).length < WaitList.limit := by
    have := h.length_le d
    rwa [hFirst] at this
  obtain ⟨pushed, hPush, hElements⟩ := h.pushBack_of_lt popped first hRoom
  unfold turn
  rw [hPop]
  by_cases hSame : first = t
  · simp [hSame]
  · simp [hSame, hPush, hElements]

/-- After some turns the tasks that were turned stand at the back, without the one to go. -/
theorem elements_rotate (turned rest : List TaskId) (hElements : ops.elements d = turned ++ rest) :
    ops.elements (ops.rotate t turned.length d) = rest ++ turned.filter (· ≠ t) := by
  induction turned generalizing d rest with
  | nil =>
    rw [List.filter_nil, List.append_nil]
    exact hElements
  | cons first turned ih =>
    have hTurn : ops.elements (ops.turn t d) = turned ++ (rest ++ [first].filter (· ≠ t)) := by
      rw [elements_turn h d t hElements, ← List.append_assoc]
      rfl
    rw [List.length_cons, rotate, ih _ _ hTurn, List.append_assoc, ← List.filter_append]
    rfl

/-- As many turns as there are tasks take one of them out and leave the others in their order. -/
theorem list_remove : ops.list (ops.remove d t) = (ops.list d).remove t := by
  unfold list remove WaitList.remove
  rw [h.length_eq, elements_rotate h d t (ops.elements d) [] (List.append_nil _).symm,
    List.nil_append]

theorem list_pop :
    ops.list (ops.pop d).1 = (ops.list d).dropFirst ∧ (ops.pop d).2 = (ops.list d).first? := by
  unfold pop list WaitList.dropFirst WaitList.first?
  cases hElements : ops.elements d with
  | nil => simp [h.popFront_of_nil d hElements, hElements]
  | cons t rest =>
    obtain ⟨popped, hPop, rfl⟩ := h.popFront_of_cons d t rest hElements
    simp [hPop]

end Deque

end TaskSync
