import TaskSync.Task

/-!
# TaskSync — wait lists

The tasks that are blocked on one side of an object, longest waiter first. A
list holds each task at most once and has room for `WaitList.limit` tasks; a
task that finds no room polls once per tick instead.

* `register` keeps the place of a task that is already listed, so a task that
  returns from its suspension for no reason does not fall behind.
* `remove` takes out one task and leaves the order of the others alone.
-/

namespace TaskSync

/-- The tasks blocked on one side of an object, longest waiter first. -/
structure WaitList where
  tasks : List TaskId
deriving DecidableEq, Repr

namespace WaitList

/-- The number of tasks a wait list has room for. -/
def limit : Nat := 16

def empty : WaitList := ⟨[]⟩

def size (l : WaitList) : Nat := l.tasks.length

/-- Lists a task; `none` if the list is full and the task not on it. -/
def register (l : WaitList) (t : TaskId) : Option WaitList :=
  if t ∈ l.tasks then some l
  else if l.tasks.length < limit then some ⟨l.tasks ++ [t]⟩
  else none

/-- Takes a task off the list. -/
def remove (l : WaitList) (t : TaskId) : WaitList := ⟨l.tasks.filter (· ≠ t)⟩

/-- The longest waiter, if any. -/
def first? (l : WaitList) : Option TaskId := l.tasks.head?

/-- The list without its longest waiter. -/
def dropFirst (l : WaitList) : WaitList := ⟨l.tasks.tail⟩

/-- The notice to the longest waiter. -/
def firstNotice (l : WaitList) : List Notice := l.first?.toList.map .task

/-- The notices to all waiters. -/
def notices (l : WaitList) : List Notice := l.tasks.map .task

-- ---------------------------------------------------------------------------
-- What the operations do to the listed tasks
-- ---------------------------------------------------------------------------

@[simp] theorem tasks_empty : empty.tasks = [] := rfl

theorem register_of_mem {l : WaitList} {t : TaskId} (h : t ∈ l.tasks) :
    l.register t = some l := by
  simp [register, h]

theorem register_eq_none_iff {l : WaitList} {t : TaskId} :
    l.register t = none ↔ t ∉ l.tasks ∧ limit ≤ l.size := by
  unfold register size
  split
  · simp_all
  · split <;> simp_all

/-- A task that registers keeps its place or goes to the end. -/
theorem register_cases {l joined : WaitList} {t : TaskId} (h : l.register t = some joined) :
    joined = l ∧ t ∈ l.tasks ∨ joined = ⟨l.tasks ++ [t]⟩ ∧ t ∉ l.tasks := by
  unfold register at h
  split at h
  · obtain rfl := Option.some.inj h
    exact Or.inl ⟨rfl, ‹_›⟩
  · split at h
    · obtain rfl := Option.some.inj h
      exact Or.inr ⟨rfl, ‹_›⟩
    · cases h

/-- A registered task is on the list, and so is whoever was. -/
theorem mem_of_register {l joined : WaitList} {t : TaskId} (h : l.register t = some joined) :
    t ∈ joined.tasks ∧ ∀ u ∈ l.tasks, u ∈ joined.tasks := by
  rcases register_cases h with ⟨rfl, hMem⟩ | ⟨rfl, -⟩
  · exact ⟨hMem, fun _ hu => hu⟩
  · exact ⟨List.mem_append_right _ List.mem_cons_self, fun _ hu => List.mem_append_left _ hu⟩

@[simp] theorem tasks_remove (l : WaitList) (t : TaskId) :
    (l.remove t).tasks = l.tasks.filter (· ≠ t) := rfl

theorem not_mem_remove (l : WaitList) (t : TaskId) : t ∉ (l.remove t).tasks := by
  simp

theorem remove_of_not_mem {l : WaitList} {t : TaskId} (h : t ∉ l.tasks) : l.remove t = l := by
  have hkeep : l.tasks.filter (· ≠ t) = l.tasks := by
    rw [List.filter_eq_self]
    intro u hu
    simp only [ne_eq, decide_not, Bool.not_eq_eq_eq_not, Bool.not_true, decide_eq_false_iff_not]
    exact fun hut => h (hut ▸ hu)
  unfold remove
  rw [hkeep]

@[simp] theorem tasks_dropFirst (l : WaitList) : l.dropFirst.tasks = l.tasks.tail := rfl

@[simp] theorem tasks_notices (l : WaitList) : l.notices.filterMap Notice.task? = l.tasks := by
  simp [notices, List.filterMap_map, Function.comp_def, Notice.task?]

@[simp] theorem tasks_firstNotice (l : WaitList) :
    l.firstNotice.filterMap Notice.task? = l.first?.toList := by
  simp [firstNotice, List.filterMap_map, Function.comp_def, Notice.task?]

end WaitList

end TaskSync
