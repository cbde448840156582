import TaskSync.Proofs.Runs.Executor
import TaskSync.Proofs.Signal.Runs

/-!
# TaskSync — asynchronous waits for a signal

An asynchronous wait keeps, from its first poll on, what its watch had seen then.
While it is pending its waker is in the set, and the present value is no news to
it (`Signal.Future.Parked`); a set that changes the value calls the whole set.

* `Signal.parking` — so a signal loses no waker (`TaskSync.Parking`).
-/

namespace TaskSync

namespace Signal

/-- An asynchronous wait of a watch. -/
structure Future (α : Type) where
  watch : Nat
  /-- From the first poll on: what the watch had seen then. -/
  change : Option (Change α)

variable {α : Type}

instance : Pollable (Future α) (Watched α) (Act α) where
  poll f waker := .poll f.watch f.change waker
  parked f x := { f with change := some (f.change.getD ⟨x.seen f.watch⟩) }

variable [BEq α]

/-- The operation waits at the signal with its waker. -/
def Future.Parked (f : Future α) (v : WakerId) (x : Watched α) : Prop :=
  (∃ c, f.change = some c ∧ c.isNews x.signal.value = false) ∧ v ∈ x.signal.wakers.wakers

variable {f : Future α} {v : WakerId} {x : Watched α} {t : TaskId}

theorem parked_of_poll (hVain : (protocol.act (Pollable.poll f v) x).answer = none) :
    (Pollable.parked f x).Parked v (protocol.act (Pollable.poll f v) x).object := by
  have hDeal := deal_act (.poll f.watch f.change v) x
  have hVain : (protocol.act (.poll f.watch f.change v) x).answer = none := hVain
  show Future.Parked _ _ (protocol.act (.poll f.watch f.change v) x).object
  generalize protocol.act (.poll f.watch f.change v) x = o at hDeal hVain ⊢
  cases hDeal with
  | pending hNews _ hListed => exact ⟨⟨_, rfl, hNews⟩, hListed⟩
  | polled => cases hVain

theorem Future.Parked.pends (h : f.Parked v x) (v' : WakerId) :
    (protocol.act (Pollable.poll f v') x).answer = none := by
  obtain ⟨⟨c, hChange, hNoNews⟩, -⟩ := h
  have hDeal := deal_act (.poll f.watch f.change v') x
  show (protocol.act (.poll f.watch f.change v') x).answer = none
  generalize protocol.act (.poll f.watch f.change v') x = o at hDeal ⊢
  cases hDeal with
  | pending => rfl
  | polled hNews =>
    rw [hChange, Option.getD_some, hNoNews] at hNews
    cases hNews

/-- A look of a task concerns neither the value nor the wakers. -/
theorem Future.Parked.turn (h : f.Parked v x) {watch : Nat} {c : Change α}
    {o : Outcome (Watched α) (Round (Call α) (Deed α))} (hTurn : Turn t x watch c o) :
    KeptOrCalled (f.Parked v) v o := by
  cases hTurn with
  | told | joined | crowded | gaveUp => exact Or.inr h

theorem Future.Parked.deal (h : f.Parked v x) {a : Act α}
    {o : Outcome (Watched α) (Option (Deed α))} (hDeal : Deal x a o) :
    KeptOrCalled (f.Parked v) v o := by
  cases hDeal with
  | kept | noNews | news | polled => exact Or.inr h
  | changed => exact Or.inl (List.mem_append_left _ (List.mem_map_of_mem h.2))
  | pending _ _ _ hKept => exact (hKept v h.2).symm.imp_right fun hListed => ⟨h.1, hListed⟩

/-- A signal loses no waker. -/
theorem parking : Parking protocol (fun _ => True) (fun f : Future α => f.Parked) where
  keeps _ _ _ := trivial
  parks _ _ _ _ hVain := parked_of_poll hVain
  starts w _ _ r now t _ hParked := hParked.turn (turn_look (r.call now w.object) now t w.object)
  resumes w _ _ s now t _ _ hParked := hParked.turn (turn_look s.call now t w.object)
  acts w _ _ a _ hParked := hParked.deal (deal_act a w.object)
  pends _ _ _ v' _ hParked := hParked.pends v'

end Signal

end TaskSync
