import TaskSync.Proofs.Interrupts.Wakes
import TaskSync.Proofs.Runs.Frames

/-!
# TaskSync — what a refused call leaves alone

A call is **refused** if there is no kernel, or if it would block inside an
interrupt handler (`Fault.refuses`). Whoever is refused expects that nothing
has happened: every object that tasks can wait at is untouched (`Untouched`).

Most results are no refusals, whatever the machine does. The exception is the
release of a lock, by hand or with a guard: without a kernel it is refused, and
changes nothing (`Machine.unlock_refused`).
-/

namespace TaskSync

/-- A fault by which a call is refused. -/
def Fault.refuses : Fault → Bool
  | .kernelMissing | .blockingInInterrupt => true
  | _ => false

/-- A result by which a call is refused. -/
def Result.isRefusal : Result → Bool
  | .fault f => f.refuses
  | _ => false

/-- Whether tasks can wait at an object. -/
def Object.blocks : Object → Bool
  | .queue _ | .stream _ | .events _ | .signal _ => true
  | x => x.mutex?.isSome

/-- Every object that tasks can wait at is as it was, with its data and those who wait. -/
def Untouched (s s' : Machine) : Prop :=
  ∀ (r : Ref) (x : Object), s.objects[r]? = some x → x.blocks = true → s'.objects[r]? = some x

variable {s s' : Machine} {worker : Worker} {r : Ref} {id : Name}

theorem Untouched.of_objects (h : s'.objects = s.objects) : Untouched s s' := by
  intro r x hAt _
  rw [h]
  exact hAt

theorem Untouched.refl (s : Machine) : Untouched s s := .of_objects rfl

theorem Untouched.trans {s'' : Machine} (h : Untouched s s') (h' : Untouched s' s'') :
    Untouched s s'' := fun r x hAt hBlocks => h' r x (h r x hAt hBlocks) hBlocks

/-- An object at which nobody can wait may be replaced. -/
theorem Untouched.put {σ τ : Type} [Stored σ] [StoredOnly σ] [Stored τ] {x : σ}
    (hAt : s.get? σ r = some x) (hIdle : (Stored.store x).blocks = false) (y : τ) :
    Untouched s (s.put r y) := by
  have hObject := Machine.objects_of_get? hAt
  intro r' x' hAt' hBlocks
  have hNe : r ≠ r' := by
    rintro rfl
    rw [hObject] at hAt'
    cases hAt'
    rw [hIdle] at hBlocks
    cases hBlocks
  simp [Machine.put, hNe, hAt']

/-- So may it be by a step. -/
theorem Untouched.settle {σ α : Type} [Stored σ] [StoredOnly σ] {x : σ}
    (hAt : s.get? σ r = some x) (hIdle : (Stored.store x).blocks = false) (o : Outcome σ α) :
    Untouched s (s.settle r o) := by
  rw [Machine.settle_eq]
  exact (Untouched.put hAt hIdle o.object).trans (.of_objects rfl)

-- ---------------------------------------------------------------------------
-- Results that are no refusals
-- ---------------------------------------------------------------------------

@[simp] theorem isRefusal_ofExcept {ε α : Type} (failure : ε → Failure) (answer : α → Answer)
    (a : Except ε α) : (Result.ofExcept failure answer a).isRefusal = false := by
  cases a <;> rfl

/-- What can be at fault refuses only by its fault. -/
theorem isRefusal_ofFaulty {α : Type} (answer : α → Answer) {a : Except Fault α}
    (h : ∀ f, a = .error f → f.refuses = false) : (Result.ofFaulty answer a).isRefusal = false := by
  cases a with
  | ok => rfl
  | error f => exact h f rfl

/-- A contract refuses only by the fault of its check. -/
theorem isRefusal_contract (s : Machine) {check : Except Fault Unit}
    (h : ∀ f, check = .error f → f.refuses = false) :
    (Result.ofCheck (s.contract check)).isRefusal = false := by
  apply isRefusal_ofFaulty
  unfold Machine.contract
  split
  · exact h
  · exact nofun

theorem Queue.checkDelete_refuses (q : Queue) (f : Fault) (h : q.checkDelete = .error f) :
    f.refuses = false := by
  unfold Queue.checkDelete at h
  split at h <;> cases h
  rfl

namespace Mutex

theorem checkDelete_refuses (m : Mutex) (f : Fault) (h : m.checkDelete = .error f) :
    f.refuses = false := by
  unfold checkDelete at h
  split at h <;> cases h
  rfl

/-- Whoever releases a mutex without having it is told so; nobody is refused. -/
theorem unlock_refuses (m : Mutex) (t : TaskId) (f : Fault)
    (h : (m.unlock t).answer = .error f) : f.refuses = false := by
  unfold unlock at h
  dsimp only at h
  split at h
  · cases h
    rfl
  · split at h <;> cases h

end Mutex

/-- A change of a cell can only fail to fit. -/
theorem CellChange.apply_refuses (c : CellChange) (value : Int) (f : Fault)
    (h : c.apply value = .error f) : f.refuses = false := by
  cases c with
  | get | set => cases h
  | add n =>
    unfold CellChange.apply addSigned fitsSigned at h
    dsimp only at h
    split at h <;> cases h
    rfl

namespace GlobalLock

variable {g g' : GlobalLock} {checks : Bool} {f : Fault}

/-- A global lock that is made ready was ready before, or nobody could wait at it. -/
theorem ready_eq_ok (h : g.ready checks = .ok g') : g' = g ∨ g.mutex = none := by
  unfold ready at h
  split at h
  · exact Or.inl (Except.ok.inj h).symm
  · rename_i hFresh
    exact Or.inr (by simpa [isInitialised] using hFresh)

end GlobalLock

-- ---------------------------------------------------------------------------
-- Locks and guards
-- ---------------------------------------------------------------------------

namespace Machine

theorem readyGlobal_eq_ok {g : GlobalLock} (hAt : s.get? GlobalLock r = some g)
    (h : s.readyGlobal r g = .ok s') : Untouched s s' := by
  unfold readyGlobal at h
  cases hReady : g.ready s.checks with
  | error f =>
    rw [hReady] at h
    cases h
  | ok g' =>
    rw [hReady] at h
    cases h
    rcases GlobalLock.ready_eq_ok hReady with rfl | hFresh
    · rw [put_self hAt]
      exact .refl s
    · have hIdle : (Stored.store g).blocks = false := by
        show g.mutex.isSome = false
        rw [hFresh]
        rfl
      exact Untouched.put hAt hIdle g'

/-- With a kernel nobody is refused the release of a mutex, without one it changes nothing. -/
theorem unlock_refused (h : (s.unlock worker r).2.isRefusal = true) :
    s.installed = none ∧ (s.unlock worker r).1 = s := by
  unfold unlock at *
  split at h
  · rename_i hKernel
    rw [if_pos hKernel]
    exact ⟨Option.isNone_iff_eq_none.mp hKernel, rfl⟩
  · exfalso
    dsimp only at h
    split at h
    · cases h
    · rename_i m _
      rw [isRefusal_contract _ (m.unlock_refuses _)] at h
      cases h

theorem dropGuard_refused {g : Guard} (h : (s.dropGuard worker g).2.isRefusal = true) :
    s.installed = none ∧ (s.dropGuard worker g).1 = s := by
  cases g with
  | mutex r => exact unlock_refused h
  | taskMutex r =>
    unfold dropGuard at h
    dsimp only at h
    split at h <;> cases h

theorem nameGuard_refused {name : Name} {g : Guard}
    (h : (s.nameGuard worker name g).2.isRefusal = true) :
    s.installed = none ∧ Untouched s (s.nameGuard worker name g).1 := by
  unfold nameGuard at *
  dsimp only at *
  split at h
  · cases h
  · have hDropped := dropGuard_refused h
    exact ⟨hDropped.1, by rw [hDropped.2]; exact .of_objects rfl⟩

end Machine

end TaskSync
