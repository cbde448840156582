import TaskSync.Mutex.Basic

/-!
# TaskSync — room for mutexes

A mutex lies in allocated room or in static storage. Static storage outlives
its mutexes and holds one at a time: it is claimed when a mutex is created in
it and free again when that mutex is given up, in whatever state.
-/

namespace TaskSync

/-- Static room for one mutex. -/
structure MutexStorage where
  claimed : Bool
deriving DecidableEq, Repr

namespace MutexStorage

def free : MutexStorage := ⟨false⟩

/-- Claims the room for a new mutex, which starts free and empty whatever the
room held before. -/
def claim (s : MutexStorage) (kind : MutexKind) : Except CreateError (MutexStorage × Mutex) :=
  if s.claimed then .error .storageInUse else .ok (⟨true⟩, .create kind)

/-- Gives the room back. -/
def release (_ : MutexStorage) : MutexStorage := free

-- ---------------------------------------------------------------------------
-- When a claim succeeds
-- ---------------------------------------------------------------------------

theorem claim_eq_ok_iff {s room : MutexStorage} {kind : MutexKind} {m : Mutex} :
    s.claim kind = .ok (room, m) ↔ s.claimed = false ∧ ⟨true⟩ = room ∧ .create kind = m := by
  obtain ⟨claimed⟩ := s
  cases claimed <;> simp [claim]

theorem claim_eq_error_iff {s : MutexStorage} {kind : MutexKind} {e : CreateError} :
    s.claim kind = .error e ↔ s.claimed = true ∧ .storageInUse = e := by
  obtain ⟨claimed⟩ := s
  cases claimed <;> simp [claim]

end MutexStorage

end TaskSync
