import TaskSync.Proofs.GlobalLock.Serialised
import TaskSync.Proofs.Interrupts.Wakes
import TaskSync.Proofs.Mutex.Machine
import TaskSync.Machine.Perform

/-!
# TaskSync — global locks inside a machine

A machine deals with its global locks, and with the cells behind them, by their
protocol (`Shown`). It sets a lock up in one step, and makes an access in one step
once the call of `lock` has ended; by the protocol these are several looks, so a
run of the machine is a run by the protocol in which nobody comes in between.

* `perform_initialise`, `readied_readyGlobal` — setting a lock up, by hand or by the first use.
* `start_use`, `round_at` — a call that wants the lock: by a guard, bare, for commands or an access.
* `unlock_at` — leaving the lock.
* `complete_cell` — an access by the task that has got the lock.
-/

namespace TaskSync

/-- The access that a change of a cell is. -/
def CellChange.access : CellChange → GlobalLock.Access Int
  | .get => .get
  | .set new => .set new
  | .add n => .update fun value => addSigned value n

theorem CellChange.apply_eq (change : CellChange) (value : Int) :
    change.apply value =
      (change.access.answer value).map fun answer => (change.access.after value, answer) := by
  cases change with
  | get | set => rfl
  | add n =>
    simp only [apply, access, GlobalLock.Access.answer, GlobalLock.Access.after,
      GlobalLock.Access.stored?]
    cases addSigned value n <;> rfl

namespace GlobalLock

variable {s s' : Machine} {r c : Ref} {x : Shared Int} {m : Mutex} {id : Name} {worker : Worker}
  {t : TaskId} {w : World Int} {β : Type}

/-- A global lock and its cells as a machine has them, where nobody is between claiming the storage
and publishing the mutex. -/
structure Shown (s : Machine) (r : Ref) (x : Shared Int) : Prop where
  lock : s.get? GlobalLock r = some x.lock
  claimed : x.lock.storage.claimed = x.lock.mutex.isSome
  placed : x.placed = x.lock.mutex.isSome
  cell : ∀ c v, s.get? Cell c = some v → x.cells c = v.value

/-- The result that a machine reports for a deed. -/
def Deed.result (s : Machine) : Deed Int → Result
  | .initialised _ answer => .ofExcept .init (fun _ => .done) answer
  | .faulted _ _ f => .fault f
  | .held _ => .ok .done
  | .released _ answer => .ofCheck (s.contract answer)
  | .accessed _ _ _ answer => .ofFaulty .integer answer

-- ---------------------------------------------------------------------------
-- What a machine shows
-- ---------------------------------------------------------------------------

theorem Shown.of_objects (h : Shown s r x) (hSame : s'.objects = s.objects) : Shown s' r x where
  lock := by
    rw [Machine.get?, hSame]
    exact h.lock
  claimed := h.claimed
  placed := h.placed
  cell := by
    intro c v hCell
    rw [Machine.get?, hSame] at hCell
    exact h.cell c v hCell

theorem Shown.of_eq {x' : Shared Int} (h : Shown s r x) (hSame : x' = x) : Shown s r x' := by
  rwa [hSame]

theorem Shown.object_at (h : Shown s r x) : s.objects[r]? = some (.global x.lock) :=
  Machine.objects_of_get? h.lock

theorem Shown.mutex_at (h : Shown s r x) : s.mutexAt? r = x.lock.mutex := by
  rw [Machine.mutexAt?, h.object_at]
  rfl

/-- A cell is at another place than the lock. -/
theorem Shown.ne_of_cell (h : Shown s r x) {v : Cell} (hCell : s.get? Cell c = some v) : r ≠ c := by
  rintro rfl
  rw [Machine.get?, h.object_at] at hCell
  cases hCell

/-- The lock was set up. -/
theorem Shown.put_lock (h : Shown s r x) (m : Mutex) :
    Shown (s.put r (⟨⟨true⟩, some m⟩ : GlobalLock)) r
      { x with
        lock := ⟨⟨true⟩, some m⟩
        placed := true } where
  lock := Machine.get?_put_self (Array.getElem?_eq_some_iff.mp h.object_at).1 _
  claimed := rfl
  placed := rfl
  cell := by
    intro c v hCell
    by_cases hSelf : r = c
    · subst hSelf
      rw [Machine.get?, Machine.put, Array.getElem?_setIfInBounds_self_of_lt
        (Array.getElem?_eq_some_iff.mp h.object_at).1] at hCell
      cases hCell
    · rw [Machine.get?_put_of_ne hSelf] at hCell
      exact h.cell c v hCell

/-- Something was stored in a cell. -/
theorem Shown.put_cell (h : Shown s r x) {v : Cell} (hCell : s.get? Cell c = some v) (value : Int) :
    Shown (s.put c { v with value }) r (x.withCell? c (some value)) where
  lock := (Machine.get?_put_of_ne (h.ne_of_cell hCell).symm _).trans h.lock
  claimed := h.claimed
  placed := h.placed
  cell := by
    intro c' v' hCell'
    obtain ⟨object, hObject, -⟩ := Option.bind_eq_some_iff.mp hCell
    by_cases hSelf : c = c'
    · subst hSelf
      rw [Machine.get?_put_self (Array.getElem?_eq_some_iff.mp hObject).1] at hCell'
      cases hCell'
      exact Function.update_self ..
    · rw [Machine.get?_put_of_ne hSelf] at hCell'
      exact (Function.update_of_ne (Ne.symm hSelf) ..).trans (h.cell c' v' hCell')

/-- Somebody has looked at the mutex. -/
theorem Shown.settleMutex (h : Shown s r x) (hMutex : x.lock.mutex = some m)
    (o : Outcome Mutex β) :
    Shown (s.settleMutex r o) r (x.withMutex o.object) := by
  have hThere : x.lock.mutex.isSome = true := by rw [hMutex, Option.isSome_some]
  have hObject : (s.objects.modify r (·.withMutex o.object))[r]? =
      some (.global (x.withMutex o.object).lock) := by
    rw [Array.getElem?_modify, if_pos rfl, h.object_at]
    rfl
  have hOther : ∀ c, r ≠ c →
      (s.objects.modify r (·.withMutex o.object))[c]? = s.objects[c]? := by
    intro c hNe
    rw [Array.getElem?_modify, if_neg hNe]
  have hBefore : Shown { s with objects := s.objects.modify r (·.withMutex o.object) } r
      (x.withMutex o.object) := by
    refine ⟨?_, ?_, ?_, ?_⟩
    · rw [Machine.get?, hObject]
      rfl
    · exact h.claimed.trans hThere
    · exact h.placed.trans hThere
    · intro c v hCell
      have hNe : r ≠ c := by
        rintro rfl
        rw [Machine.get?, hObject] at hCell
        cases hCell
      rw [Machine.get?, hOther c hNe] at hCell
      exact h.cell c v hCell
  rw [Machine.settleMutex, Machine.deliver_eq]
  exact hBefore.of_objects rfl

theorem Shown.currentTask (h : Shown s r x) (worker : Worker) :
    Shown (s.currentTask worker).1 r x := by
  rcases Machine.currentTask_cases s worker with hSame | hNumbered
  · rwa [hSame]
  · rw [hNumbered]
    exact h.of_objects rfl

-- ---------------------------------------------------------------------------
-- Setting up
-- ---------------------------------------------------------------------------

/-- Initialising a lock is a first look, or three looks with nobody in between. -/
theorem perform_initialise (hShown : Shown s r w.object)
    (hAt : s.named? GlobalLock id = some (r, w.object.lock)) (hAwake : w.crew.asleep t = none) :
    ∃ s' d moves, s.performGlobal worker id .initialise = s'.finish (Deed.result s d) ∧
      (moves = [.start t s.now .initialise] ∨
        moves = [.start t s.now .initialise, .resume t s.now, .resume t s.now]) ∧
      Shown s' r (w.run (protocol Int s.checks) moves).object ∧
      (w.run (protocol Int s.checks) moves).deeds = w.deeds ++ [d] := by
  cases hClaim : w.object.lock.storage.claim .normal with
  | error e =>
    have hStart : Request.start s.checks s.now t w.object .initialise =
        .still w.object (.finished (.initialised t (.error .alreadyInitialised))) := by
      rw [Request.start, hClaim]
    obtain ⟨hObject, -, hDeeds⟩ := ends_of_start hAwake hStart
    refine ⟨s, _, _, ?_, Or.inl rfl, hShown.of_eq hObject, hDeeds⟩
    show s.onObject GlobalLock id _ = _
    rw [Machine.onObject_eq hAt, initialise, hClaim]
    rfl
  | ok room =>
    obtain ⟨storage, m⟩ := room
    obtain ⟨hUnclaimed, rfl, rfl⟩ := MutexStorage.claim_eq_ok_iff.mp hClaim
    have hEmpty := hShown.placed.trans (hShown.claimed.symm.trans hUnclaimed)
    obtain ⟨hObject, -, hDeeds⟩ :=
      run_claiming hEmpty hAwake (start_initialise hUnclaimed s.now t) s.now s.now
    refine ⟨s.put r _, _, _, ?_, Or.inr rfl, (hShown.put_lock _).of_eq hObject, hDeeds⟩
    show s.onObject GlobalLock id _ = _
    rw [Machine.onObject_eq hAt, initialise, hClaim]
    rfl

/-- How a machine makes a global lock ready for a use. -/
inductive Readied (s : Machine) (r : Ref) (w : World Int) (t : TaskId) (u : Use Int) :
    Except Fault Machine → Prop
  | faulted {f : Fault} :
      Ends w (w.step (protocol Int s.checks) (.start t s.now (.use u))) (.faulted t u f) →
      Readied s r w t u (.error f)
  /-- The lock is set up in three looks, and the use goes on to look for the mutex. -/
  | setUp {s' : Machine} {w' : World Int} :
      w' = w.run (protocol Int s.checks)
        [.start t s.now (.use u), .resume t s.now, .resume t s.now] →
      Shown s' r w'.object → (w'.crew.asleep t).map (·.call) = some (.seeking u) →
      w'.deeds = w.deeds → Readied s r w t u (.ok s')
  | ready : w.object.lock.mutex ≠ none → Readied s r w t u (.ok s)

theorem readied_readyGlobal (hShown : Shown s r w.object) (hAwake : w.crew.asleep t = none)
    (u : Use Int) : Readied s r w t u (s.readyGlobal r w.object.lock) := by
  unfold Machine.readyGlobal ready
  cases hMutex : w.object.lock.mutex with
  | some m =>
    rw [isInitialised, hMutex, Option.isSome_some, if_pos rfl]
    show Readied s r w t u (.ok (s.put r w.object.lock))
    rw [Machine.put_self hShown.lock]
    exact .ready (hMutex ▸ Option.some_ne_none m)
  | none =>
    rw [isInitialised, hMutex, Option.isSome_none, if_neg Bool.false_ne_true]
    cases hChecks : s.checks with
    | true =>
      refine .faulted (ends_of_start hAwake ?_)
      rw [Request.start, hMutex, hChecks]
      rfl
    | false =>
      have hUnclaimed : w.object.lock.storage.claimed = false := by
        rw [hShown.claimed, hMutex]
        rfl
      have hEmpty : w.object.placed = false := by
        rw [hShown.placed, hMutex]
        rfl
      have hInitialise : w.object.lock.initialise = .ok ⟨⟨true⟩, some (.create .normal)⟩ := by
        rw [initialise, MutexStorage.claim_eq_ok_iff.mpr ⟨hUnclaimed, rfl, rfl⟩]
      rw [hInitialise]
      have hStart := start_first_use hUnclaimed hMutex s.now t u
      rw [← hChecks] at hStart
      obtain ⟨hObject, hAsleep, hDeeds⟩ := run_claiming hEmpty hAwake hStart s.now s.now
      refine .setUp rfl ((hShown.put_lock _).of_eq hObject) ?_ ?_
      · exact congrArg (Option.map (·.call)) hAsleep
      · exact hDeeds.trans (List.append_nil _)

-- ---------------------------------------------------------------------------
-- Looks at the mutex
-- ---------------------------------------------------------------------------

/-- A use begins with the protocol's first look at the mutex, whether it has had to look for it
or not. -/
theorem start_use (hMutex : x.lock.mutex = some m) (checks : Bool) (now : Ticks) (t : TaskId)
    (u : Use Int) :
    (protocol Int checks).start (.use u) now t x =
        x.atMutex ((Mutex.protocol checks).start u.request now t m) (u.next t) ∧
      (protocol Int checks).resume (.seeking u) now t x =
        x.atMutex ((Mutex.protocol checks).start u.request now t m) (u.next t) := by
  constructor
  · show Request.start checks now t x (.use u) = _
    rw [Request.start, hMutex]
    rfl
  · show Call.round checks now t x (.seeking u) = _
    rw [Call.round, Shared.awaitMutex, hMutex]
    rfl

theorem resume_locking (hMutex : x.lock.mutex = some m) (checks : Bool) (now : Ticks) (t : TaskId)
    (u : Use Int) (k : Mutex.Call) :
    (protocol Int checks).resume (.locking u k) now t x =
      x.atMutex (k.round checks now t m) (u.next t) := by
  show Call.round checks now t x (.locking u k) = _
  rw [Call.round, Shared.awaitMutex, hMutex]

/-- A use goes on as long as its call does. -/
theorem Use.not_ended {u : Use Int} {a : Round Mutex.Call Mutex.Deed} (h : a.deed? = none) :
    (u.next t a).deed? = none := by
  cases a with
  | suspended => rfl
  | finished => cases h

/-- The look that ends an attempt and the look that begins the next come to one look. -/
theorem look_restarting (checks : Bool) (now : Ticks) (u : Use Int) (hBusy : m.BusyFor t) :
    (w.look t (w.object.atMutex (.still (m.without t) (.suspended .restarting (some 0)))
        (u.next t))).run (protocol Int checks) [.resume t now] =
      w.look t (w.object.atMutex (Mutex.Call.restarting.round checks now t (m.without t))
        (u.next t)) := by
  have hNotEnded :
      (u.next t (Mutex.Call.restarting.round checks now t (m.without t)).answer).deed? = none :=
    Use.not_ended ((Mutex.turn_round checks .restarting now t (m.without t)).not_ended rfl hBusy)
  have hMutex : (w.object.withMutex (m.without t)).lock.mutex = some (m.without t) := rfl
  show (w.look t (.still (w.object.withMutex (m.without t))
    (.suspended (.locking u .restarting) (some 0)))).step _ (.resume t now) = _
  rw [World.look_suspended, World.step_resume (Crew.asleep_look_self _), resume_locking hMutex]
  generalize Mutex.Call.restarting.round checks now t (m.without t) = o at hNotEnded ⊢
  have hEnded : ∀ y : Shared Int, (y.atMutex o (u.next t)).answer.deed? = none :=
    fun _ => hNotEnded
  rw [World.look, World.look, hEnded, hEnded, Crew.look_look]
  rfl

/-- A round of a call in a machine is one look by the protocol, or two at the same time. -/
theorem round_at (hShown : Shown s r w.object) (hMutex : w.object.lock.mutex = some m)
    (k : Mutex.Call) (u : Use Int) {limit : Option Ticks}
    (hAsleep : w.crew.asleep t = some ⟨.locking u k, limit⟩) :
    ∃ o : Outcome Mutex (Round Mutex.Call Mutex.Deed),
      s.round t (k.at r) =
        (s.settleMutex r o, o.answer.map (Mutex.Call.at r) (Mutex.Deed.result s)) ∧
      Shown (s.settleMutex r o) r (w.object.withMutex o.object) ∧
      (w.look t (w.object.atMutex o (u.next t)) =
          w.run (protocol Int s.checks) [.resume t s.now] ∨
        w.look t (w.object.atMutex o (u.next t)) =
          w.run (protocol Int s.checks) [.resume t s.now, .resume t s.now]) := by
  obtain ⟨o, hRound, hLooks⟩ := Mutex.round_at (hShown.mutex_at.trans hMutex) k t
  refine ⟨o, hRound, hShown.settleMutex hMutex o, ?_⟩
  have hFirst : w.step (protocol Int s.checks) (.resume t s.now) =
      w.look t (w.object.atMutex (k.round s.checks s.now t m) (u.next t)) := by
    rw [World.step_resume hAsleep, resume_locking hMutex]
  rw [World.run_cons, World.run_cons, hFirst]
  cases hLooks with
  | once hOnce =>
    rw [hOnce]
    exact Or.inl rfl
  | twice hBusy hGaveUp =>
    rw [hGaveUp]
    exact Or.inr (look_restarting s.checks s.now u hBusy).symm

-- ---------------------------------------------------------------------------
-- Leaving and accesses
-- ---------------------------------------------------------------------------

/-- Leaving a lock, by hand or by dropping a guard, is the protocol's look. -/
theorem unlock_at (hKernel : s.installed.isSome) (hShown : Shown s r x)
    (hMutex : x.lock.mutex = some m) (hTask : (s.currentTask worker).2 = t) :
    ∃ s', s.unlock worker r = (s', Deed.result s (.released t (m.unlock t).answer)) ∧
      Shown s' r (x.withMutex (m.unlock t).object) ∧
      (protocol Int s.checks).start (.use .leave) s.now t x =
        x.atMutex (m.unlock t) fun answer => .finished (.released t answer) := by
  have hCurrent := hShown.currentTask worker
  have hPair : s.currentTask worker = ((s.currentTask worker).1, t) := by rw [← hTask]
  have hUnlock := Mutex.unlock_at hKernel hPair (hCurrent.mutex_at.trans hMutex)
  have hContract : (s.currentTask worker).1.contract = s.contract := by
    rcases Machine.currentTask_cases s worker with hSame | hNumbered
    · rw [hSame]
    · rw [hNumbered]
      rfl
  refine ⟨_, hUnlock.trans ?_, hCurrent.settleMutex hMutex _, (start_use hMutex ..).1⟩
  rw [Mutex.Deed.result, hContract]
  rfl

/-- The owner leaves a normal mutex for good. -/
theorem leave_at (hShown : Shown s r x) (hMutex : x.lock.mutex = some m) (hSane : Sane m)
    (hOwner : m.owner = some t) (hKernel : s.installed.isSome)
    (hTask : (s.currentTask worker).2 = t) :
    ∃ s', s.unlock worker r = (s', .ok .done) ∧ Shown s' r (x.withMutex m.handedOn) := by
  obtain ⟨s', hUnlock, hShown', -⟩ := unlock_at hKernel hShown hMutex hTask
  rw [unlock_of_owner hSane hOwner] at hUnlock hShown'
  refine ⟨s', hUnlock.trans ?_, hShown'⟩
  rw [Deed.result, Machine.contract_ok]
  rfl

theorem currentTask_put {σ : Type} [Stored σ] (s : Machine) (worker : Worker) (c : Ref) (y : σ) :
    (s.put c y).currentTask worker =
      ((s.currentTask worker).1.put c y, (s.currentTask worker).2) := by
  unfold Machine.currentTask
  split <;> rename_i hHost
  · rw [if_pos (show s.onHost = true from hHost)]
    rfl
  · rw [if_neg (show ¬ s.onHost = true from hHost)]

/-- The task that has the lock makes its access in three looks with nobody in between. -/
theorem run_access (checks : Bool) {cell : Nat} {a : Access Int} {limit : Option Ticks}
    (hSane : Sane m) (hMutex : w.object.lock.mutex = some m) (hOwner : m.owner = some t)
    (hAsleep : w.crew.asleep t = some ⟨.reading cell a, limit⟩) (now : Ticks) :
    let w' := w.run (protocol Int checks) [.resume t now, .resume t now, .resume t now]
    w'.object = (w.object.withCell? cell (a.stored? (w.object.cells cell))).withMutex m.handedOn ∧
      w'.deeds = w.deeds ++ [.accessed t cell a (a.answer (w.object.cells cell))] := by
  let stored := w.object.withCell? cell (a.stored? (w.object.cells cell))
  have hRead : (protocol Int checks).resume (.reading cell a) now t w.object =
      .still w.object (.suspended (.writing cell a (w.object.cells cell)) none) := rfl
  have hWrite : (protocol Int checks).resume (.writing cell a (w.object.cells cell)) now t
      w.object = .still stored
        (.suspended (.releasing cell a (a.answer (w.object.cells cell))) (some 0)) := rfl
  have hRelease : (protocol Int checks).resume
      (.releasing cell a (a.answer (w.object.cells cell))) now t stored =
        ⟨stored.withMutex m.handedOn, m.waiters.firstNotice,
          .finished (.accessed t cell a (a.answer (w.object.cells cell)))⟩ := by
    show Call.round checks now t stored (.releasing cell a _) = _
    rw [Call.round, Shared.awaitMutex, show stored.lock.mutex = some m from hMutex]
    dsimp only
    rw [unlock_of_owner hSane hOwner]
    rfl
  dsimp only
  rw [World.run_cons, World.step_resume hAsleep, hRead, World.look_suspended, World.run_cons,
    World.step_resume (Crew.asleep_look_self _), hWrite, World.look_suspended, World.run_cons,
    World.step_resume (Crew.asleep_look_self _), hRelease]
  exact ⟨rfl, World.deeds_look ..⟩

/-- Whoever is at fault stores nothing. -/
theorem Access.stored_of_fault {a : Access Int} {value : Int} {f : Fault}
    (h : a.answer value = .error f) : a.stored? value = none := by
  cases a with
  | get | set => cases h
  | update g =>
    show (g value).toOption = none
    rw [show g value = .error f from h]
    rfl

theorem Shared.withCell_none (x : Shared Int) (cell : Nat) : x.withCell? cell none = x := by
  rw [Shared.withCell?, Option.getD_none, Function.update_eq_self]

/-- What a machine does once the call of an access has the lock is what the protocol does in
three looks. -/
theorem complete_cell {change : CellChange} {v : Cell} {limit : Option Ticks} {answer : Answer}
    (hKernel : s.installed.isSome) (hTask : (s.currentTask worker).2 = t)
    (hShown : Shown s r w.object) (hMutex : w.object.lock.mutex = some m) (hSane : Sane m)
    (hOwner : m.owner = some t) (hCell : s.get? Cell c = some v)
    (hAsleep : w.crew.asleep t = some ⟨.reading c change.access, limit⟩) :
    ∃ s' d, s.complete worker (.cell c r change) (.ok answer) =
        (s', .answered (Deed.result s d)) ∧
      let w' := w.run (protocol Int s.checks) [.resume t s.now, .resume t s.now, .resume t s.now]
      Shown s' r w'.object ∧ w'.deeds = w.deeds ++ [d] := by
  obtain ⟨hObject, hDeeds⟩ := run_access s.checks hSane hMutex hOwner hAsleep s.now
  rw [hShown.cell c v hCell] at hObject hDeeds
  rw [Machine.complete, hCell]
  dsimp only
  rw [CellChange.apply_eq]
  cases hAnswer : change.access.answer v.value with
  | error f =>
    rw [hAnswer] at hDeeds
    rw [Access.stored_of_fault hAnswer, Shared.withCell_none] at hObject
    obtain ⟨s', hUnlock, hShown'⟩ := leave_at hShown hMutex hSane hOwner hKernel hTask
    refine ⟨s', _, ?_, hShown'.of_eq hObject, hDeeds⟩
    dsimp only [Except.map]
    rw [hUnlock]
    rfl
  | ok a =>
    rw [hAnswer] at hDeeds
    have hStored : w.object.withCell? c (change.access.stored? v.value) =
        w.object.withCell? c (some (change.access.after v.value)) := by
      rw [Shared.withCell?, hShown.cell c v hCell]
      rfl
    rw [hStored] at hObject
    have hPut := hShown.put_cell hCell (change.access.after v.value)
    obtain ⟨s', hUnlock, hShown'⟩ := leave_at hPut hMutex hSane hOwner hKernel
      ((congrArg Prod.snd (currentTask_put s worker c _)).trans hTask)
    refine ⟨s', _, ?_, hShown'.of_eq hObject, hDeeds⟩
    dsimp only [Except.map]
    rw [hUnlock]
    rfl

end GlobalLock

end TaskSync
