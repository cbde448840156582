import TaskSync.Task

/-!
# TaskSync — waker sets

The wakers left behind by pending asynchronous operations on one side of an
object. A set has room for `WakerSet.limit` wakers. A waker that finds the set
full does not get lost and displaces nobody silently: all registered wakers
are called first, which makes their operations poll and register again.
-/

namespace TaskSync

/-- The registered wakers, in order of registration. -/
structure WakerSet where
  wakers : List WakerId
deriving DecidableEq, Repr

namespace WakerSet

/-- The number of wakers a set has room for. -/
def limit : Nat := 4

def empty : WakerSet := ⟨[]⟩

/-- The notices that call all registered wakers. -/
def notices (s : WakerSet) : List Notice := s.wakers.map .waker

/-- Registers a waker and says whom to wake to make room for it. -/
def register (s : WakerSet) (w : WakerId) : WakerSet × List Notice :=
  if w ∈ s.wakers then (s, [])
  else if s.wakers.length < limit then (⟨s.wakers ++ [w]⟩, [])
  else (⟨[w]⟩, s.notices)

@[simp] theorem wakers_empty : empty.wakers = [] := rfl

/-- Calling wakers wakes no task. -/
@[simp] theorem tasks_notices (s : WakerSet) : s.notices.filterMap Notice.task? = [] := by
  simp [notices, List.filterMap_map, Function.comp_def, Notice.task?]

theorem tasks_register (s : WakerSet) (w : WakerId) :
    (s.register w).2.filterMap Notice.task? = [] := by
  unfold register
  split
  · rfl
  · split
    · rfl
    · exact s.tasks_notices

/-- Only a full set calls its wakers to make room, and only those. -/
theorem called_of_register (s : WakerSet) {w : WakerId} {n : Notice}
    (h : n ∈ (s.register w).2) : n ∈ s.notices ∧ limit ≤ s.wakers.length := by
  unfold register at h
  split at h
  · cases h
  · split at h
    · cases h
    · exact ⟨h, Nat.le_of_not_lt ‹_›⟩

/-- A waker that was registered is in the set. -/
theorem mem_register (s : WakerSet) (w : WakerId) : w ∈ (s.register w).1.wakers := by
  unfold register
  split
  · assumption
  · split <;> simp

/-- A waker that was in the set is still there or has been called. -/
theorem mem_or_called_of_register {s : WakerSet} {v : WakerId} (w : WakerId)
    (h : v ∈ s.wakers) :
    v ∈ (s.register w).1.wakers ∨ Notice.waker v ∈ (s.register w).2 := by
  unfold register
  split
  · exact Or.inl h
  · split
    · exact Or.inl (List.mem_append_left _ h)
    · exact Or.inr (List.mem_map_of_mem h)

end WakerSet

end TaskSync
