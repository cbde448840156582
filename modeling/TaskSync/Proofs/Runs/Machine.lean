import TaskSync.Proofs.Runs.World
import TaskSync.Proofs.Runs.Rounds
import TaskSync.Machine.Pending

/-!
# TaskSync — objects inside a machine

What a machine does for an operation on an object that it has at a place: it
takes the object's step, puts the object back and wakes whom the step wants
woken (`Machine.settle`). These lemmas say so for the ways in which a machine
gets at its objects.
-/

namespace TaskSync

theorem Round.map_map {κ κ' κ'' α β γ : Type} (x : Round κ α) (f : κ → κ') (g : α → β)
    (f' : κ' → κ'') (g' : β → γ) : (x.map f g).map f' g' = x.map (f' ∘ f) (g' ∘ g) := by
  cases x <;> rfl

/-- What is read as an object of type `σ` is one. -/
class StoredOnly (σ : Type) [Stored σ] : Prop where
  eq_store : ∀ {o : Object} {x : σ}, Stored.stored? o = some x → o = Stored.store x

instance : StoredOnly Queue := ⟨fun {o} _ h => by cases o <;> cases h; rfl⟩
instance : StoredOnly ByteStream := ⟨fun {o} _ h => by cases o <;> cases h; rfl⟩
instance : StoredOnly EventGroup := ⟨fun {o} _ h => by cases o <;> cases h; rfl⟩
instance : StoredOnly (Signal Datum) := ⟨fun {o} _ h => by cases o <;> cases h; rfl⟩
instance : StoredOnly GlobalLock := ⟨fun {o} _ h => by cases o <;> cases h; rfl⟩
instance : StoredOnly (TaskMutex Int) := ⟨fun {o} _ h => by cases o <;> cases h; rfl⟩

namespace Machine

variable {σ : Type} [Stored σ] {s : Machine} {r : Ref} {x : σ} {id : Name}

/-- A place where an object of type `σ` is found holds that object. -/
theorem objects_of_get? [StoredOnly σ] (hAt : s.get? σ r = some x) :
    s.objects[r]? = some (Stored.store x) := by
  obtain ⟨o, hObject, hStored⟩ := Option.bind_eq_some_iff.mp hAt
  rw [hObject, StoredOnly.eq_store hStored]

/-- A step that changes nothing leaves the machine as it is. -/
theorem put_self [StoredOnly σ] (hAt : s.get? σ r = some x) : s.put r x = s := by
  have hObject := objects_of_get? hAt
  have hSame : s.objects.setIfInBounds r (Stored.store x) = s.objects := by
    apply Array.ext_getElem?
    intro r'
    rw [Array.getElem?_setIfInBounds]
    split
    · rename_i hEq
      subst hEq
      rw [hObject]
      simp [(Array.getElem?_eq_some_iff.mp hObject).1]
    · rfl
  rw [put, hSame]

/-- A named object is at the place that has the name. -/
theorem get?_of_named? (hAt : s.named? σ id = some (r, x)) : s.get? σ r = some x := by
  obtain ⟨r', -, hPair⟩ := Option.bind_eq_some_iff.mp hAt
  obtain ⟨x', hGet, hEq⟩ := Option.bind_eq_some_iff.mp hPair
  cases hEq
  exact hGet

/-- A round of a call in a machine is a round at the object. -/
theorem roundAt_eq {ρ α : Type} [Blocks ρ σ α] (hAt : s.get? σ r = some x) (t : TaskId)
    (w : Waiting ρ) (resume : Waiting ρ → Call) (result : α → Result) :
    s.roundAt t r w resume result =
      (s.settle r (w.round s.now t x), (w.round s.now t x).answer.map resume result) := by
  unfold roundAt
  rw [hAt]
  show (_, _) = (_, _)
  generalize w.round s.now t x = o
  obtain ⟨object, notices, answer⟩ := o
  cases answer <;> rfl

/-- A contract that is kept is kept whether it is checked or not. -/
@[simp] theorem contract_ok (s : Machine) : s.contract (.ok ()) = .ok () := ite_self _

/-- An operation on a named object acts on the object. -/
theorem onObject_eq (hAt : s.named? σ id = some (r, x)) (act : Ref → σ → Machine × Step) :
    s.onObject σ id act = act r x := by
  unfold onObject
  rw [hAt]

/-- A poll takes a step on the object and keeps or ends the pending operation. -/
theorem finishPoll_eq {α : Type} (s : Machine) (name : Name) (r : Ref) (o : Outcome σ (Option α))
    (still : Future) (result : α → Result) :
    ∃ futures, (s.finishPoll name r o still result).1 = { s.settle r o with futures } := by
  unfold finishPoll
  cases o.answer with
  | none => exact ⟨_, rfl⟩
  | some a => exact ⟨_, rfl⟩

end Machine

end TaskSync
