import TaskSync.EventGroup.Basic

/-!
# TaskSync — one evaluation of the wait table

A pass over the wait table (`sweep`) treats its entries independently of one
another: who fires, what is cleared and who is woken can be read off the
entries that fire, and the others stay as they are.
-/

namespace TaskSync

/-- An entry after a pass with the value `bits`. -/
def EventWaiter.fire (w : EventWaiter) (bits : EventBits) : EventWaiter :=
  if w.fires bits then { w with fired := some bits } else w

@[simp] theorem EventWaiter.task_fire (w : EventWaiter) (bits : EventBits) :
    (w.fire bits).task = w.task := by
  unfold fire
  split <;> rfl

@[simp] theorem EventWaiter.wish_fire (w : EventWaiter) (bits : EventBits) :
    (w.fire bits).wish = w.wish := by
  unfold fire
  split <;> rfl

theorem waiters_sweep (bits : EventBits) (table : List EventWaiter) :
    (sweep bits table).waiters = table.map (·.fire bits) := by
  induction table with
  | nil => rfl
  | cons w rest ih =>
    rw [sweep, List.map_cons, EventWaiter.fire, ← ih]
    split <;> rfl

theorem woken_sweep (bits : EventBits) (table : List EventWaiter) :
    (sweep bits table).woken = (table.filter (·.fires bits)).map (·.task) := by
  induction table with
  | nil => rfl
  | cons w rest ih =>
    rw [sweep, List.filter_cons]
    split
    · rw [List.map_cons, ← ih]
    · exact ih

theorem cleared_sweep (bits : EventBits) (table : List EventWaiter) :
    (sweep bits table).cleared =
      (table.filter (·.fires bits)).foldr (fun w cleared => w.wish.cleared ||| cleared) 0 := by
  induction table with
  | nil => rfl
  | cons w rest ih =>
    rw [sweep, List.filter_cons]
    split
    · rw [List.foldr_cons, ← ih]
    · exact ih

end TaskSync
