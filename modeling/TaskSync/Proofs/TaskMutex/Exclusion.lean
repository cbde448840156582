import TaskSync.Proofs.Runs.Executor
import TaskSync.TaskMutex

/-!
# TaskSync — an asynchronous mutex lends its value to one at a time

Whoever obtains an asynchronous mutex, by a poll or without waiting, is given a
guard, and the mutex is released when the guard is dropped (`TaskMutex.Lent`).
Futures that wait for it are polled and dropped as their executor likes, each
poll with a waker of its own choice, and others come in between.

The mutex is either free, and then there is neither a guard nor a waker, or
locked, and then there is one guard (`TaskMutex.Sound`). A future that is pending
has its waker in the set of a locked mutex (`TaskMutex.Parked`), or has been
called: by a waker that needed its place or by the release.

Main result:

* `TaskMutex.exclusive_run` — so it is in every state of every run
  (`TaskMutex.Exclusive`).
-/

namespace TaskSync

namespace TaskMutex

/-- A mutex and the guards that have been given out for it. -/
structure Lent (α : Type) where
  mutex : TaskMutex α
  /-- The guards that have not been dropped. -/
  guards : List Nat
  /-- How many guards there have been; the next one has this number. -/
  issued : Nat

/-- A step on a mutex. -/
inductive Act
  /-- A poll of a future that waits for the lock. -/
  | poll (waker : WakerId)
  | lockNow
  | dropGuard (guard : Nat)
deriving DecidableEq

/-- Whether a step asks for the lock. -/
def Act.asks : Act → Bool
  | .poll _ | .lockNow => true
  | .dropGuard _ => false

/-- What has come of a step that ended an operation. -/
inductive Deed
  | locked (guard : Nat)
  | refused
  | dropped (guard : Nat)
deriving DecidableEq

/-- A future that waits for the lock. -/
structure Future (α : Type) where

variable {α : Type}

/-- A new mutex. -/
def unlent (value : α) : Lent α := ⟨create value, [], 0⟩

/-- Whoever has obtained the lock is given a guard. -/
def Lent.handOut (x : Lent α) : Lent α :=
  { x with guards := x.guards ++ [x.issued], issued := x.issued + 1 }

/-- The end of an attempt `o` at the lock. -/
def Lent.attempt (x : Lent α) (o : Outcome (TaskMutex α) Bool) (inVain : Option Deed) :
    Outcome (Lent α) (Option Deed) :=
  let left := { x with mutex := o.object }
  if o.answer then ⟨left.handOut, o.notices, some (.locked x.issued)⟩
  else ⟨left, o.notices, inVain⟩

/-- The mutex after a step on it. A guard can be dropped only while it is live. -/
def Act.perform (x : Lent α) : Act → Outcome (Lent α) (Option Deed)
  | .poll waker => x.attempt (x.mutex.pollLock waker) none
  | .lockNow => x.attempt x.mutex.lockNow (some .refused)
  | .dropGuard guard =>
    if guard ∈ x.guards then
      let o := x.mutex.release
      ⟨{ x with mutex := o.object, guards := x.guards.erase guard }, o.notices,
        some (.dropped guard)⟩
    else .still x none

/-- How a mutex answers. No task is suspended for it. -/
def protocol : Protocol (Lent α) Empty Empty Act Deed where
  start := nofun
  resume := nofun
  act a x := a.perform x

instance : Pollable (Future α) (Lent α) Act where
  poll _ waker := .poll waker
  parked f _ := f

-- ---------------------------------------------------------------------------
-- What a step comes to
-- ---------------------------------------------------------------------------

/-- All that a step on a mutex can come to. -/
inductive Deal (x : Lent α) : Act → Outcome (Lent α) (Option Deed) → Prop
  | pending {waker : WakerId} :
      x.mutex.locked = true →
      Deal x (.poll waker)
        ⟨{ x with mutex := { x.mutex with wakers := (x.mutex.wakers.register waker).1 } },
          (x.mutex.wakers.register waker).2, none⟩
  | refused :
      x.mutex.locked = true →
      Deal x .lockNow (.still x (some .refused))
  | locked {a : Act} :
      x.mutex.locked = false → a.asks = true →
      Deal x a (.still (Lent.handOut { x with mutex := { x.mutex with locked := true } })
        (some (.locked x.issued)))
  | dropped {guard : Nat} :
      guard ∈ x.guards →
      Deal x (.dropGuard guard)
        ⟨{ x with mutex := { x.mutex with locked := false, wakers := .empty },
                  guards := x.guards.erase guard },
          x.mutex.wakers.notices, some (.dropped guard)⟩
  /-- The guard has been dropped before, or there has been none. -/
  | nothing {guard : Nat} :
      guard ∉ x.guards →
      Deal x (.dropGuard guard) (.still x none)

theorem deal_perform (a : Act) (x : Lent α) : Deal x a (a.perform x) := by
  cases a with
  | poll waker =>
    cases hLocked : x.mutex.locked with
    | true =>
      rw [Act.perform, pollLock, if_pos hLocked]
      exact .pending hLocked
    | false =>
      rw [Act.perform, pollLock, hLocked]
      exact .locked hLocked rfl
  | lockNow =>
    rw [Act.perform, lockNow, Lent.attempt]
    cases hLocked : x.mutex.locked with
    | true =>
      have hSame : ({ x.mutex with locked := true } : TaskMutex α) = x.mutex := by rw [← hLocked]
      rw [hSame]
      exact .refused hLocked
    | false => exact .locked hLocked rfl
  | dropGuard guard =>
    rw [Act.perform]
    split
    · exact .dropped ‹_›
    · exact .nothing ‹_›

-- ---------------------------------------------------------------------------
-- Free or lent once
-- ---------------------------------------------------------------------------

/-- A mutex is free and nobody waits for it, or it is locked for the one guard there is. -/
inductive Sound (x : Lent α) : Prop
  | free : x.mutex.locked = false → x.guards = [] → x.mutex.wakers = .empty → Sound x
  | lent (guard : Nat) : x.mutex.locked = true → x.guards = [guard] → Sound x

variable {x : Lent α}

theorem Sound.guards_of_free (h : Sound x) (hFree : x.mutex.locked = false) : x.guards = [] := by
  cases h with
  | free _ hGuards _ => exact hGuards
  | lent _ hLocked _ => cases hFree.symm.trans hLocked

theorem Sound.wakers_of_free (h : Sound x) (hFree : x.mutex.locked = false) :
    x.mutex.wakers.wakers = [] := by
  cases h with
  | free _ _ hWakers => rw [hWakers, WakerSet.wakers_empty]
  | lent _ hLocked _ => cases hFree.symm.trans hLocked

theorem Sound.guards_of_locked (h : Sound x) (hLocked : x.mutex.locked = true) :
    ∃ guard, x.guards = [guard] := by
  cases h with
  | free hFree _ _ => cases hFree.symm.trans hLocked
  | lent guard _ hGuards => exact ⟨guard, hGuards⟩

theorem Sound.locked_iff (h : Sound x) :
    x.mutex.locked = true ↔ ∃ guard, x.guards = [guard] := by
  refine ⟨h.guards_of_locked, ?_⟩
  rintro ⟨guard, hGuards⟩
  rw [← Bool.not_eq_false]
  intro hFree
  cases (h.guards_of_free hFree).symm.trans hGuards

theorem Sound.length_guards_le (h : Sound x) : x.guards.length ≤ 1 := by
  cases h with
  | free _ hGuards _ => simp [hGuards]
  | lent _ _ hGuards => simp [hGuards]

/-- The guard that is handed out of a free mutex is the only one. -/
theorem Sound.guards_handOut (h : Sound x) (hFree : x.mutex.locked = false) :
    x.handOut.guards = [x.issued] := by
  show x.guards ++ [x.issued] = [x.issued]
  rw [h.guards_of_free hFree, List.nil_append]

theorem Sound.deal (h : Sound x) {a : Act} {o : Outcome (Lent α) (Option Deed)}
    (hDeal : Deal x a o) : Sound o.object := by
  cases hDeal with
  | pending hLocked =>
    obtain ⟨guard, hGuards⟩ := h.guards_of_locked hLocked
    exact .lent guard hLocked hGuards
  | refused | nothing => exact h
  | locked hFree => exact .lent x.issued rfl (h.guards_handOut hFree)
  | @dropped guard hLive =>
    -- the guard that is dropped was the only one
    refine .free rfl ?_ rfl
    cases h with
    | free _ hGuards _ =>
      rw [hGuards] at hLive
      cases hLive
    | lent other _ hGuards =>
      rw [hGuards, List.mem_singleton] at hLive
      show x.guards.erase guard = []
      rw [hGuards, hLive, List.erase_cons_head]

theorem Sound.step {w : World (Lent α) Empty Deed} (h : Sound w.object) (m : Move Empty Act) :
    Sound (w.step protocol m).object := by
  have hStepped := w.stepped_step protocol m
  generalize w.step protocol m = w' at hStepped ⊢
  cases hStepped with
  | idle | abandoned => exact h
  | @started _ _ r => exact r.elim
  | @resumed _ _ s => exact s.call.elim
  | @acted a => exact h.deal (deal_perform a w.object)

-- ---------------------------------------------------------------------------
-- Who waits is called
-- ---------------------------------------------------------------------------

/-- The waker of a pending future is in the set, and the mutex is locked. -/
def Parked (_ : Future α) (v : WakerId) (x : Lent α) : Prop :=
  x.mutex.locked = true ∧ v ∈ x.mutex.wakers.wakers

theorem Parked.deal {f : Future α} {v : WakerId} (h : Parked f v x) {a : Act}
    {o : Outcome (Lent α) (Option Deed)} (hDeal : Deal x a o) : KeptOrCalled (Parked f v) v o := by
  cases hDeal with
  | @pending waker =>
    exact (WakerSet.mem_or_called_of_register waker h.2).symm.imp_right fun hListed => ⟨h.1, hListed⟩
  | refused | nothing => exact Or.inr h
  | locked hFree => cases hFree.symm.trans h.1
  | dropped => exact Or.inl (List.mem_map_of_mem h.2)

/-- Whoever asks for a free mutex obtains it. -/
theorem perform_of_free (hFree : x.mutex.locked = false) {a : Act} (hAsks : a.asks = true) :
    Act.perform x a = .still (Lent.handOut { x with mutex := { x.mutex with locked := true } })
      (some (.locked x.issued)) := by
  have hDeal := deal_perform a x
  generalize Act.perform x a = o at hDeal ⊢
  cases hDeal with
  | pending hLocked | refused hLocked => cases hFree.symm.trans hLocked
  | locked => rfl
  | dropped | nothing => cases hAsks

/-- Whoever asks for a locked one is refused or waits. -/
theorem perform_of_locked (hLocked : x.mutex.locked = true) {a : Act} (hAsks : a.asks = true) :
    (Act.perform x a).answer = (if a = .lockNow then some .refused else none) ∧
      (Act.perform x a).object.guards = x.guards := by
  have hDeal := deal_perform a x
  generalize Act.perform x a = o at hDeal ⊢
  cases hDeal with
  | pending | refused => exact ⟨rfl, rfl⟩
  | locked hFree => cases hFree.symm.trans hLocked
  | dropped | nothing => cases hAsks

theorem parked_of_poll {f : Future α} {v : WakerId}
    (hVain : (Act.perform x (.poll v)).answer = none) :
    Parked f v (Act.perform x (.poll v)).object := by
  have hDeal := deal_perform (.poll v) x
  generalize Act.perform x (.poll v) = o at hDeal hVain ⊢
  cases hDeal with
  | pending hLocked => exact ⟨hLocked, WakerSet.mem_register ..⟩
  | locked => cases hVain

/-- A mutex loses no waker. -/
theorem parking : Parking (protocol (α := α)) (fun w => Sound w.object) Parked where
  keeps _ m hSound := hSound.step m
  parks _ _ _ _ hVain := parked_of_poll hVain
  starts _ _ _ r := r.elim
  resumes _ _ _ s := s.call.elim
  acts w _ _ a _ hParked := hParked.deal (deal_perform a w.object)
  pends _ _ _ _ _ hParked := (perform_of_locked hParked.1 rfl).1

-- ---------------------------------------------------------------------------
-- Runs
-- ---------------------------------------------------------------------------

/-- The mutex is lent to one at a time, and whoever waits for a free mutex knows. -/
structure Exclusive (e : Executor (Lent α) Empty Deed (Future α)) : Prop where
  locked_iff : e.world.object.mutex.locked = true ↔ ∃ guard, e.world.object.guards = [guard]
  single : e.world.object.guards.length ≤ 1
  wakers : e.world.object.mutex.wakers.wakers ≠ [] → e.world.object.mutex.locked = true
  /-- Whoever asks for a free mutex, by a poll or without waiting, is given a new guard. -/
  obtained : e.world.object.mutex.locked = false → ∀ a : Act, a.asks = true →
    (e.world.step protocol (.act a)).log = e.world.logged (some (.locked e.world.object.issued)) ∧
      (e.world.step protocol (.act a)).object.guards = [e.world.object.issued]
  /-- Whoever asks for a locked one is refused or waits. -/
  denied : e.world.object.mutex.locked = true → ∀ a : Act, a.asks = true →
    (e.world.step protocol (.act a)).log =
        e.world.logged (if a = .lockNow then some .refused else none) ∧
      (e.world.step protocol (.act a)).object.guards = e.world.object.guards
  /-- A mutex whose guard is dropped is free. -/
  released : ∀ guard ∈ e.world.object.guards,
    (e.world.step protocol (.act (.dropGuard guard))).log =
        e.world.logged (some (.dropped guard)) ∧
      (e.world.step protocol (.act (.dropGuard guard))).object.mutex.locked = false
  /-- A future that has been polled in vain has had the waker of its last poll called since. -/
  called : e.world.object.mutex.locked = false →
    ∀ f p v, e.futures f = some p → p.waker = some v → p.called = true

theorem sound_run (value : α) (moves : List (Executor.Move Empty Act (Future α))) :
    Sound ((Executor.fresh (unlent value)).run protocol moves).world.object := by
  refine Executor.run_induction (I := fun e => Sound e.world.object) (fun e mv h => ?_)
    (.free rfl rfl rfl) moves
  rw [Executor.world_step]
  cases e.work mv with
  | none => exact h
  | some m => exact h.step m

/-- What a mutex owes those who ask for it follows from what it is and from who is called. -/
theorem Sound.exclusive {e : Executor (Lent α) Empty Deed (Future α)}
    (h : Sound e.world.object) (hPrompt : e.Prompt protocol) : Exclusive e where
  locked_iff := h.locked_iff
  single := h.length_guards_le
  wakers := by
    intro hWaits
    rw [← Bool.not_eq_false]
    exact fun hFree => hWaits (h.wakers_of_free hFree)
  obtained := by
    intro hFree a hAsks
    rw [World.step_act, show protocol.act a e.world.object = _ from perform_of_free hFree hAsks]
    exact ⟨rfl, h.guards_handOut hFree⟩
  denied := by
    intro hLocked a hAsks
    obtain ⟨hAnswer, hGuards⟩ := perform_of_locked hLocked hAsks
    exact ⟨congrArg e.world.logged hAnswer, hGuards⟩
  released := by
    intro guard hLive
    rw [World.step_act, show protocol.act (.dropGuard guard) e.world.object = _ from if_pos hLive]
    exact ⟨rfl, rfl⟩
  called := by
    intro hFree f p v hFuture hWaker
    refine hPrompt f p v hFuture hWaker ⟨v, ?_⟩
    rw [show protocol.act (Pollable.poll p.op v) e.world.object = _ from
      perform_of_free (a := .poll v) hFree rfl]
    exact nofun

/-- In every state of every run of polls, guards and futures that come and go the mutex is lent to
one at a time, and no future misses the release. -/
theorem exclusive_run (value : α) (moves : List (Executor.Move Empty Act (Future α))) :
    Exclusive ((Executor.fresh (unlent value)).run protocol moves) := by
  have hStart : Sound (TaskSync.World.fresh (unlent value) : World (Lent α) Empty Deed).object :=
    .free rfl rfl rfl
  exact (sound_run value moves).exclusive (parking.prompt hStart moves)

/-- Six futures wait with five wakers, so that the fifth waker displaces four. One of them is
dropped, and so is the guard; somebody else is faster than those who were called. -/
example :
    let moves : List (Executor.Move Empty Act (Future Nat)) :=
      [.other (.act .lockNow)] ++ (List.range 6).map (.create · ⟨⟩) ++
        (List.range 6).map (fun i => .poll i ⟨min i 4⟩) ++
        [.drop 1, .other (.act (.dropGuard 0)), .other (.act .lockNow), .poll 2 ⟨2⟩]
    let e := (Executor.fresh (unlent 0)).run protocol moves
    e.world.object.guards = [1] ∧
      (List.range 6).map (fun f => (e.futures f).map fun p => (p.waker, p.called)) =
        [some (some ⟨0⟩, true), none, some (some ⟨2⟩, false), some (some ⟨3⟩, true),
          some (some ⟨4⟩, true), some (some ⟨4⟩, true)] := by
  decide

end TaskMutex

end TaskSync
