import TaskSync.Machine.Mutexes
import TaskSync.Machine.Pending
import TaskSync.Proofs.Runs.Machine
import TaskSync.Proofs.TaskMutex.Exclusion

/-!
# TaskSync — asynchronous mutexes inside a machine

A machine has an asynchronous mutex at a place and its guards under names. It
deals with the mutex by its protocol: whatever it does to the mutex is what a
step does to the mutex of a `TaskMutex.Lent`, and a guard is named where the
protocol gives one out.

* `TaskMutex.poll_at` — polls of a future.
* `TaskMutex.perform_lockNow`, `TaskMutex.dropGuard_at` — locking without
  waiting, and the end of a guard.
-/

namespace TaskSync

namespace TaskMutex

/-- The mutex's part in a step. -/
def ofLent {α β : Type} (o : Outcome (Lent α) β) : Outcome (TaskMutex α) β :=
  ⟨o.object.mutex, o.notices, o.answer⟩

variable {s : Machine} {r : Ref} {id name guard : Name} {x : Lent Int}

/-- A poll of a future is a step by the protocol. If it gives out a guard, the future has ended
and the guard is named. -/
theorem poll_at (hAt : s.get? (TaskMutex Int) r = some x.mutex) (waker : WakerId)
    (worker : Worker) :
    let o := protocol.act (.poll waker) x
    let left := s.settle r (ofLent o)
    s.poll worker name waker (.taskLock r guard) =
      match o.answer with
      | none => left.finish .pending
      | some _ =>
        let (s, result) :=
          { left with futures := left.futures.erase name }.nameGuard worker guard (.taskMutex r)
        s.finish result := by
  intro o left
  have hOutcome : o = x.attempt (x.mutex.pollLock waker) none := rfl
  have hLeft : left = s.settle r (ofLent o) := rfl
  rw [hLeft, hOutcome, Lent.attempt]
  simp only [Machine.poll, hAt]
  cases (x.mutex.pollLock waker).answer with
  | true => rfl
  | false => rfl

/-- Locking without waiting is a step by the protocol. -/
theorem perform_lockNow (hAt : s.named? (TaskMutex Int) id = some (r, x.mutex)) (worker : Worker) :
    let o := protocol.act .lockNow x
    let left := s.settle r (ofLent o)
    s.performTaskMutex worker id (.lockNow guard) =
      if o.answer = some .refused then left.finish (.ok (.flag false))
      else
        match left.nameGuard worker guard (.taskMutex r) with
        | (s, .ok _) => s.finish (.ok (.flag true))
        | (s, dropped) => s.finish dropped := by
  intro o left
  have hOutcome : o = x.attempt x.mutex.lockNow (some .refused) := rfl
  have hLeft : left = s.settle r (ofLent o) := rfl
  rw [hLeft, hOutcome, Lent.attempt]
  simp only [Machine.performTaskMutex, Machine.onObject_eq hAt]
  cases x.mutex.lockNow.answer with
  | true => rfl
  | false => rfl

/-- The end of a live guard is a step by the protocol. -/
theorem dropGuard_at (hAt : s.get? (TaskMutex Int) r = some x.mutex) {number : Nat}
    (hLive : number ∈ x.guards) (worker : Worker) :
    s.dropGuard worker (.taskMutex r) =
      (s.settle r (ofLent (protocol.act (.dropGuard number) x)), .ok .done) := by
  have hOutcome : ofLent (protocol.act (.dropGuard number) x) =
      ⟨x.mutex.release.object, x.mutex.release.notices, some (.dropped number)⟩ := by
    show ofLent (Act.perform x (.dropGuard number)) = _
    rw [Act.perform, if_pos hLive]
    rfl
  rw [Machine.dropGuard, hAt, hOutcome]
  rfl

end TaskMutex

end TaskSync
