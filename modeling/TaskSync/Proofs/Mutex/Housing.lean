import TaskSync.Machine.Perform
import TaskSync.Proofs.Mutex.Rooms

/-!
# TaskSync — operations leave the rooms in order

Only creating, naming and removing objects has to do with rooms and tenants. All
other steps put an object in the place of one of the same kind, and a mutex in the
place of the same mutex, so rooms and tenants are as before
(`Machine.SameHousing`).

There is one write to a place that nothing has been read from: a watch that has
waited for its signal gets the new value. So a call that an operation comes down
to must not write over a room or a tenant (`Machine.Orderly`).

* `Machine.orderly_perform` — every operation keeps the rooms in order.
-/

namespace TaskSync

namespace Machine

variable {s s' : Machine} {worker : Worker} {id : Name} {r : Ref}

/-- After an operation the rooms are in order, and the call it comes down to writes over none. -/
def Orderly : Machine × Step → Prop
  | (s, .answered ..) => Housed none s
  | (s, .calling call _) => Housed none s ∧ s.Spares call

-- ---------------------------------------------------------------------------
-- What the operations on all kinds of objects share
-- ---------------------------------------------------------------------------

section Shared

variable {σ τ : Type} [Stored σ] [Stored τ] {x : σ}

theorem plain_of_get? [Roomless σ] (hAt : s.get? σ r = some x) : s.Plain r := by
  obtain ⟨o, hObject, -⟩ := Option.bind_eq_some_iff.mp hAt
  exact ⟨(Array.getElem?_eq_some_iff.mp hObject).1, clear_of_get? hAt⟩

theorem Housed.put [Roomless σ] [Roomless τ] (h : Housed none s) (hAt : s.get? σ r = some x)
    (y : τ) : Housed none (s.put r y) := h.of_same (.put (clear_of_get? hAt) y)

/-- An object is put back, and interrupts are switched on or off. -/
theorem SameHousing.putMasked [Roomless σ] [Roomless τ] (hAt : s.get? σ r = some x) (core : Core)
    (y : τ) : SameHousing s ({ s with core }.put r y) := by
  have hCore : SameHousing s { s with core } := .of_objects rfl rfl rfl
  exact hCore.trans (.put (hCore.clear (clear_of_get? hAt)) y)

theorem Housed.settle [Roomless σ] (h : Housed none s) (hAt : s.get? σ r = some x) {α : Type}
    (o : Outcome σ α) : Housed none (s.settle r o) := h.of_same (.settle (clear_of_get? hAt) o)

theorem Housed.settleDeferring [Roomless σ] (h : Housed none s) (hAt : s.get? σ r = some x)
    {α : Type} (o : Outcome σ α) : Housed none (s.settleDeferring r o) :=
  h.of_same (.settleDeferring (clear_of_get? hAt) o)

theorem Housed.onObject (h : Housed none s) {act : Ref → σ → Machine × Step}
    (hAct : ∀ r x, s.get? σ r = some x → Orderly (act r x)) : Orderly (s.onObject σ id act) := by
  unfold Machine.onObject
  split
  · exact hAct _ _ (get?_of_named? ‹_›)
  · exact h

theorem Housed.finishCreate [Roomless σ] (h : Housed none s) (created : Except CreateError σ) :
    Orderly (s.finishCreate id created) := by
  cases created with
  | ok x => exact h.createClear id x
  | error e => exact h

theorem Housed.finishPoll [Roomless σ] (h : Housed none s) (hClear : s.Clear r) {α : Type}
    (name : Name) (o : Outcome σ (Option α)) (still : Future) (result : α → Result) :
    Orderly (s.finishPoll name r o still result) := by
  have hSettled := SameHousing.settle hClear o
  unfold Machine.finishPoll
  dsimp only
  split <;> exact h.of_same (hSettled.trans (.of_objects rfl rfl rfl))

end Shared

theorem SameHousing.note (s : Machine) (e : Event) : SameHousing s (s.note e) := by
  rw [note_eq]
  exact .happened ..

theorem SameHousing.wake (s : Machine) (t : TaskId) : SameHousing s (s.wake t) := by
  rw [wake_eq]
  exact .happened ..

theorem SameHousing.yieldFromInterrupt (s : Machine) : SameHousing s s.yieldFromInterrupt := by
  rw [yieldFromInterrupt_eq]
  exact .happened ..

theorem SameHousing.currentTask (s : Machine) (worker : Worker) :
    SameHousing s (s.currentTask worker).1 := by
  unfold Machine.currentTask hostTask
  split <;> exact .of_objects rfl rfl rfl

theorem SameHousing.withActive (s : Machine) (k : Kernel) : SameHousing s (s.withActive k) := by
  unfold Machine.withActive
  split <;> exact .of_objects rfl rfl rfl

-- ---------------------------------------------------------------------------
-- Locks and guards
-- ---------------------------------------------------------------------------

theorem SameHousing.unlock (s : Machine) (worker : Worker) (r : Ref) :
    SameHousing s (s.unlock worker r).1 := by
  unfold Machine.unlock
  split
  · exact .refl s
  · have hTask := SameHousing.currentTask s worker
    dsimp only
    split
    · exact hTask
    · exact hTask.trans (.settleMutex ..)

theorem SameHousing.dropGuard (s : Machine) (worker : Worker) (g : Guard) :
    SameHousing s (s.dropGuard worker g).1 := by
  cases g with
  | mutex r => exact .unlock s worker r
  | taskMutex r =>
    unfold Machine.dropGuard
    dsimp only
    split
    · exact .settle (clear_of_get? ‹_›) _
    · exact .refl s

theorem SameHousing.nameGuard (s : Machine) (worker : Worker) (name : Name) (g : Guard) :
    SameHousing s (s.nameGuard worker name g).1 := by
  have hNamed : SameHousing s { s with guards := s.guards.insert name g } :=
    .of_objects rfl rfl rfl
  unfold Machine.nameGuard
  dsimp only
  split
  · exact hNamed
  · exact hNamed.trans (.dropGuard ..)

theorem SameHousing.readyGlobal {g : GlobalLock} (hAt : s.get? GlobalLock r = some g)
    (hReady : s.readyGlobal r g = .ok s') : SameHousing s s' := by
  unfold Machine.readyGlobal at hReady
  cases hLock : g.ready s.checks with
  | error f =>
    rw [hLock] at hReady
    cases hReady
  | ok g' =>
    rw [hLock] at hReady
    cases hReady
    exact .put (clear_of_get? hAt) g'

theorem Housed.lockGlobal {g : GlobalLock} (h : Housed none s) (hAt : s.get? GlobalLock r = some g)
    (next : Continuation) : Orderly (s.lockGlobal r g next) := by
  unfold Machine.lockGlobal
  split
  · exact h
  · exact ⟨h.of_same (.readyGlobal hAt ‹_›), nofun⟩

/-- The value behind a guard does not touch the room of its mutex. -/
theorem SameHousing.setGuardedValue (s : Machine) (value : Int) (g : Guard) :
    SameHousing s (s.setGuardedValue value g) := by
  cases g with
  | mutex r =>
    unfold Machine.setGuardedValue
    dsimp only
    split
    · rename_i g hAt
      refine .replace fun o hObject => ?_
      rw [get?, hObject] at hAt
      cases o <;> cases hAt
      exact ⟨rfl, rfl⟩
    · exact .refl s
  | taskMutex r =>
    unfold Machine.setGuardedValue
    dsimp only
    split
    · exact .put (clear_of_get? ‹_›) _
    · exact .refl s

-- ---------------------------------------------------------------------------
-- One kind of object after the other
-- ---------------------------------------------------------------------------

section Operations

variable (h : Housed none s)

include h

theorem orderly_performRing (a : RingAction) : Orderly (s.performRing id a) := by
  cases a with
  | create capacity => exact h.finishCreate _
  | write | read | discard | clear => exact h.onObject fun _ _ hAt => h.put hAt _

theorem orderly_addFuture (name : Name) (f : Future) : Orderly (s.addFuture name f) :=
  h.of_same (.of_objects rfl rfl rfl)

theorem orderly_performQueue (a : QueueAction) : Orderly (s.performQueue id a) := by
  cases a with
  | create capacity itemSize => exact h.finishCreate _
  | send =>
    refine h.onObject fun r q _ => ?_
    split
    · exact h
    · exact ⟨h, nofun⟩
  | receive =>
    refine h.onObject fun r q _ => ?_
    dsimp only
    split
    · exact h
    · exact ⟨h, nofun⟩
  | sendLater | receiveLater => exact h.onObject fun _ _ _ => orderly_addFuture h ..
  | sendDeferring item brief =>
    refine h.onObject fun r q hAt => ?_
    cases brief <;> exact h.settleDeferring hAt _
  | overwriteDeferring | receiveDeferring => exact h.onObject fun _ _ hAt => h.settleDeferring hAt _
  | delete => exact h.onObject fun _ _ _ => h.remove id

theorem orderly_performStream (a : StreamAction) : Orderly (s.performStream id a) := by
  cases a with
  | create capacity trigger => exact h.finishCreate _
  | send => exact h.onObject fun _ _ _ => ⟨h, nofun⟩
  | receive room wait =>
    refine h.onObject fun r x _ => ?_
    split
    · exact h
    · exact ⟨h, nofun⟩
  | sendLater | receiveLater => exact h.onObject fun _ _ _ => orderly_addFuture h ..
  | flush =>
    refine h.onObject fun r x hAt => ?_
    split
    · exact h
    · exact h.settle hAt _
  | close | reset | setTrigger => exact h.onObject fun _ _ hAt => h.settle hAt _
  | sendDeferring | receiveDeferring => exact h.onObject fun _ _ hAt => h.settleDeferring hAt _

theorem orderly_performEvents (a : EventAction) : Orderly (s.performEvents worker id a) := by
  cases a with
  | create bits => exact h.createClear id _
  | get => exact h.onObject fun _ _ _ => h
  | clear bits => exact h.onObject fun _ _ hAt => h.settle hAt _
  | set bits =>
    refine h.onObject fun r g hAt => ?_
    split
    · exact h
    · exact h.settle hAt _
  | wait wish wait =>
    refine h.onObject fun r g _ => ?_
    split
    · exact h
    · exact ⟨h, nofun⟩
  | arrive bits waitFor wait =>
    refine h.onObject fun r g hAt => ?_
    have hTask := SameHousing.currentTask s worker
    have hSettled (o : Outcome EventGroup (Option (Except EventBits EventBits))) :
        Housed none ((s.currentTask worker).1.settle r o) :=
      h.of_same (hTask.trans (.settle (hTask.clear (clear_of_get? hAt)) o))
    split
    · exact h
    · split
      · exact h
      · dsimp only
        split
        · exact hSettled _
        · exact ⟨hSettled _, nofun⟩
  | setDeferring bits =>
    refine h.onObject fun r g hAt => ?_
    split
    · exact h
    · exact h.settleDeferring hAt _

theorem orderly_performSignal (a : SignalAction) : Orderly (s.performSignal id a) := by
  cases a with
  | create value => exact h.createClear id _
  | get => exact h.onObject fun _ _ _ => h
  | set value => exact h.onObject fun _ _ hAt => h.settle hAt _
  | watch watch => exact h.onObject fun _ _ _ => h.createClear watch _
  | setDeferring value => exact h.onObject fun _ _ hAt => h.settleDeferring hAt _

theorem orderly_performWatch (a : WatchAction) : Orderly (s.performWatch id a) := by
  cases a with
  | seen => exact h.onObject fun _ _ _ => h
  | glance =>
    refine h.onObject fun r w hAt => ?_
    split
    · exact h
    · split
      · exact h
      · exact h.put hAt _
  | wait wait =>
    refine h.onObject fun r w hAt => ⟨h, ?_⟩
    rintro _ ⟨⟩
    exact plain_of_get? hAt
  | waitLater future => exact h.onObject fun _ _ _ => orderly_addFuture h ..

theorem orderly_performMutex (a : MutexAction) : Orderly (s.performMutex worker id a) := by
  cases a with
  | createStorage => exact h.create id (fun hClaimed => by cases hClaimed) rfl
  | create kind storage =>
    unfold performMutex
    dsimp only
    split
    · exact h
    · rename_i hPlace
      exact (housed_placeMutex h hPlace).create id nofun rfl
  | lock recursiveOnly =>
    refine h.onObject fun r m _ => ?_
    split
    · exact h
    · exact ⟨h, nofun⟩
  | lockWithin wait brief => exact h.onObject fun _ _ _ => ⟨h, nofun⟩
  | unlock => exact h.onObject fun r _ _ => h.of_same (.unlock s worker r)
  | delete | drop => exact h.onObject fun _ _ _ => h.remove id

theorem orderly_performGuarded (a : GuardedAction) : Orderly (s.performGuarded id a) := by
  cases a with
  | create kind value storage =>
    unfold performGuarded
    dsimp only
    split
    · exact h
    · rename_i hPlace
      exact (housed_placeMutex h hPlace).create id nofun rfl
  | lock | lockWithin => exact h.onObject fun _ _ _ => ⟨h, nofun⟩
  | unwrap | drop => exact h.onObject fun _ _ _ => h.remove id

theorem orderly_performGlobal (a : GlobalAction) : Orderly (s.performGlobal worker id a) := by
  cases a with
  | create shared =>
    unfold performGlobal
    dsimp only
    split
    · exact h.name id h.shared.1 h.shared.2.1
    · exact h.createClear id _
  | initialise =>
    refine h.onObject fun r g hAt => ?_
    split
    · exact h
    · exact h.put hAt _
  | lock | lockBare => exact h.onObject fun _ _ hAt => h.lockGlobal hAt _
  | unlock =>
    refine h.onObject fun r g hAt => ?_
    split
    · exact h
    · rename_i hReady
      exact h.of_same ((SameHousing.readyGlobal hAt hReady).trans (.unlock ..))

theorem orderly_performCell (a : CellAction) : Orderly (s.performCell id a) := by
  cases a with
  | create lock value =>
    cases lock with
    | none => exact h.createClear id _
    | some g => exact h.onObject fun _ _ _ => h.createClear id _
  | change change =>
    refine h.onObject fun r c _ => ?_
    split
    · exact h
    · exact h.lockGlobal ‹_› _

theorem orderly_performTaskMutex (a : TaskMutexAction) :
    Orderly (s.performTaskMutex worker id a) := by
  cases a with
  | create value => exact h.createClear id _
  | lockNow guard =>
    refine h.onObject fun r m hAt => ?_
    have hSettled := SameHousing.settle (clear_of_get? hAt) m.lockNow
    have hNamed := hSettled.trans (.nameGuard (s.settle r m.lockNow) worker guard (.taskMutex r))
    dsimp only
    split
    · split <;> rename_i hGuard <;> rw [hGuard] at hNamed <;> exact h.of_same hNamed
    · exact h.of_same hSettled
  | lockLater future guard => exact h.onObject fun _ _ _ => orderly_addFuture h ..
  | addDirectly value =>
    refine h.onObject fun r m hAt => ?_
    split
    · exact h
    · exact h.put hAt _
  | unwrap => exact h.onObject fun _ _ _ => h.remove id

theorem orderly_inCritical (act : Int → Int × Result) : Orderly (s.inCritical id act) := by
  refine h.onObject fun r c hAt => ?_
  split
  · exact h
  · exact h.of_same (.putMasked hAt ..)

theorem orderly_performCritical (a : CriticalAction) : Orderly (s.performCritical id a) := by
  cases a with
  | createSpinlock | create => exact h.createClear id _
  | get | set =>
    unfold performCritical
    exact orderly_inCritical h _
  | unwrap => exact h.onObject fun _ _ _ => h.remove id

theorem orderly_performGuard (name : Name) (a : GuardAction) :
    Orderly (s.performGuard worker name a) := by
  unfold performGuard
  split
  · exact h
  · rename_i g _
    cases a with
    | drop =>
      have hErased : SameHousing s { s with guards := s.guards.erase name } :=
        .of_objects rfl rfl rfl
      exact h.of_same (hErased.trans (.dropGuard _ worker g))
    | get =>
      dsimp only
      split <;> exact h
    | set new =>
      dsimp only
      split
      · exact h.of_same (.setGuardedValue s new g)
      · exact h

-- ---------------------------------------------------------------------------
-- Pending operations and the kernel
-- ---------------------------------------------------------------------------

theorem orderly_poll (name : Name) (waker : WakerId) (f : Future) :
    Orderly (s.poll worker name waker f) := by
  unfold poll
  cases f with
  | queueSend | queueReceive | streamSend | streamReceive =>
    dsimp only
    split
    · exact h
    · exact h.finishPoll (clear_of_get? ‹_›) ..
  | watch w change =>
    dsimp only
    split
    · exact h
    · rename_i hWatch
      split
      · exact h
      · rename_i hSignal
        have hClear := clear_of_get? hSignal
        split
        · have hPut (seen : Watch) := SameHousing.put (clear_of_get? hWatch) seen
          exact (h.of_same (hPut _)).finishPoll ((hPut _).clear hClear) ..
        · exact h.finishPoll hClear ..
  | taskLock r guard =>
    dsimp only
    split
    · exact h
    · rename_i m hAt
      have hSettled := SameHousing.settle (clear_of_get? hAt) (m.pollLock waker)
      have hForgotten (s : Machine) (futures : Directory Name Future) :
          SameHousing s { s with futures } := .of_objects rfl rfl rfl
      split
      · exact h.of_same ((hSettled.trans (hForgotten _ _)).trans (.nameGuard ..))
      · exact h.of_same hSettled

theorem orderly_performFuture (name : Name) (a : FutureAction) :
    Orderly (s.performFuture worker name a) := by
  cases a with
  | poll waker =>
    unfold performFuture
    dsimp only
    split
    · exact h
    · exact orderly_poll h ..
  | drop => exact h.of_same (.of_objects rfl rfl rfl)

theorem orderly_performKernel (a : KernelAction) : Orderly (s.performKernel worker a) := by
  have hAsked (answer : Machine → Machine × Answer) (hAnswer : SameHousing s (answer s).1) :
      Orderly (s.askKernel answer) := by
    unfold askKernel
    split
    · exact h
    · exact h.of_same hAnswer
  have hSlept (s' : Machine) (hSame : SameHousing s s') (ticks : Ticks) :
      Orderly (s'.performSleep worker ticks) := by
    unfold performSleep
    split
    · exact ⟨h.of_same hSame, nofun⟩
    · exact h.of_same (hSame.trans (.of_objects rfl rfl rfl))
  cases a with
  | install which =>
    unfold performKernel
    dsimp only
    split
    · exact h.of_same (.of_objects rfl rfl rfl)
    · exact h
  | isInstalled => exact h
  | tickCount | inInterrupt =>
    unfold performKernel
    exact hAsked _ (.refl s)
  | currentTask =>
    unfold performKernel
    exact hAsked _ (.currentTask s worker)
  | hostWakeSelf =>
    unfold performKernel hostTask
    refine hSlept _ ?_ selfWakeLimit
    exact .of_objects rfl rfl rfl
  | hostSleep ticks => exact hSlept s (.refl s) ticks
  | installHost | hostWake | hostDefer | hostYield => exact h.of_same (.of_objects rfl rfl rfl)

/-- Every operation keeps the rooms in order. -/
theorem orderly_perform (a : Action) : Orderly (s.perform worker a) := by
  cases a with
  | ring _ a => exact orderly_performRing h a
  | queue _ a => exact orderly_performQueue h a
  | stream _ a => exact orderly_performStream h a
  | events _ a => exact orderly_performEvents h a
  | signal _ a => exact orderly_performSignal h a
  | watch _ a => exact orderly_performWatch h a
  | mutex _ a => exact orderly_performMutex h a
  | guarded _ a => exact orderly_performGuarded h a
  | global _ a => exact orderly_performGlobal h a
  | cell _ a => exact orderly_performCell h a
  | taskMutex _ a => exact orderly_performTaskMutex h a
  | critical _ a => exact orderly_performCritical h a
  | guard name a => exact orderly_performGuard h name a
  | future name a => exact orderly_performFuture h name a
  | kernel a => exact orderly_performKernel h a
  | pure | senseless => exact h

end Operations

end Machine

end TaskSync
