import TaskSync.Proofs.Refusals.Untouched

/-!
# TaskSync — operations that are refused in time

What an operation comes to at once is harmless (`Harmless`) if it leaves every
object that tasks can wait at untouched where it is refused, and where it comes
down to a call, which may still be refused. So is every operation that does not
come too late (`Action.comesLate`).

* `harmless_perform` — for all of them, one lemma per kind of object.
-/

namespace TaskSync

/-- An operation that has changed its object before it is known whether it is refused. -/
def Action.comesLate : Action → Bool
  | .stream _ .flush | .stream _ .close | .stream _ .reset | .events _ (.arrive ..) => true
  | _ => false

/-- What an operation comes to leaves everything untouched where it is refused or comes down to a
call. A bare suspension has nothing to be done after it. -/
def Harmless (s : Machine) (out : Machine × Step) : Prop :=
  match out.2 with
  | .answered r _ => r.isRefusal = true → Untouched s out.1
  | .calling c next => Untouched s out.1 ∧ (c.isSleep = true → next = .plain)

variable {s s' : Machine} {worker : Worker} {id : Name}

-- ---------------------------------------------------------------------------
-- Ways in which operations end
-- ---------------------------------------------------------------------------

theorem harmless_still (s : Machine) (result : Result) : Harmless s (s.finish result) :=
  fun _ => .refl s

theorem harmless_of_not_refused {result : Result} (h : result.isRefusal = false) (s' : Machine) :
    Harmless s (s'.finish result) := by
  intro hRefused
  rw [h] at hRefused
  cases hRefused

theorem harmless_calling {c : Call} (hWaits : c.isSleep = false) (hUntouched : Untouched s s')
    (next : Continuation) : Harmless s (s', .calling c next) := by
  refine ⟨hUntouched, fun hSleep => ?_⟩
  rw [hWaits] at hSleep
  cases hSleep

theorem harmless_onObject {σ : Type} [Stored σ] {act : Ref → σ → Machine × Step}
    (h : ∀ r x, s.get? σ r = some x → Harmless s (act r x)) : Harmless s (s.onObject σ id act) := by
  cases hAt : s.named? σ id with
  | none =>
    rw [Machine.onObject, hAt]
    exact harmless_still s _
  | some found =>
    rw [Machine.onObject_eq hAt]
    exact h _ _ (Machine.get?_of_named? hAt)

theorem harmless_finishCreate {σ : Type} [Stored σ] (s : Machine) (id : Name)
    (created : Except CreateError σ) : Harmless s (s.finishCreate id created) := by
  cases created <;> exact harmless_of_not_refused rfl _

theorem harmless_finishDeferring {σ ε α : Type} [Stored σ] (s : Machine) (r : Ref)
    (o : Outcome σ (Except ε α)) (failure : ε → Failure) (answer : α → Answer) :
    Harmless s (s.finishDeferring r o failure answer) := by
  unfold Machine.finishDeferring
  cases o.answer <;> exact nofun

theorem harmless_addFuture (s : Machine) (name : Name) (f : Future) :
    Harmless s (s.addFuture name f) := harmless_of_not_refused rfl _

theorem harmless_finishPoll {σ α : Type} [Stored σ] (s s' : Machine) (name : Name) (r : Ref)
    (o : Outcome σ (Option α)) (still : Future) {result : α → Result}
    (h : ∀ a, (result a).isRefusal = false) :
    Harmless s (s'.finishPoll name r o still result) := by
  unfold Machine.finishPoll
  cases o.answer with
  | none => exact harmless_of_not_refused rfl _
  | some a => exact harmless_of_not_refused (h a) _

-- ---------------------------------------------------------------------------
-- One kind of object after the other
-- ---------------------------------------------------------------------------

namespace Machine

theorem harmless_performRing (s : Machine) (id : Name) (a : RingAction) :
    Harmless s (s.performRing id a) := by
  cases a with
  | create capacity => exact harmless_finishCreate s id _
  | write | read | discard | clear =>
    exact harmless_onObject fun _ _ _ => harmless_of_not_refused rfl _

theorem harmless_performQueue (s : Machine) (id : Name) (a : QueueAction) :
    Harmless s (s.performQueue id a) := by
  cases a with
  | create capacity itemSize => exact harmless_finishCreate s id _
  | send item wait brief =>
    refine harmless_onObject fun r q _ => ?_
    split
    · exact harmless_still s _
    · exact harmless_calling rfl (.refl s) _
  | receive size wait brief =>
    refine harmless_onObject fun r q _ => ?_
    dsimp only
    split
    · exact harmless_still s _
    · exact harmless_calling rfl (.refl s) _
  | sendLater | receiveLater => exact harmless_onObject fun _ _ _ => harmless_addFuture s _ _
  | sendDeferring item brief =>
    refine harmless_onObject fun r q _ => ?_
    cases brief with
    | true => exact nofun
    | false => exact harmless_finishDeferring s r _ _ _
  | overwriteDeferring | receiveDeferring =>
    exact harmless_onObject fun r _ _ => harmless_finishDeferring s r _ _ _
  | delete =>
    exact harmless_onObject fun _ q _ =>
      harmless_of_not_refused (isRefusal_contract s q.checkDelete_refuses) _

theorem harmless_performStream (s : Machine) (id : Name) (a : StreamAction)
    (hEarly : (Action.stream id a).comesLate = false) : Harmless s (s.performStream id a) := by
  cases a with
  | create capacity trigger => exact harmless_finishCreate s id _
  | send data wait => exact harmless_onObject fun _ _ _ => harmless_calling rfl (.refl s) _
  | receive room wait =>
    refine harmless_onObject fun r x _ => ?_
    split
    · exact harmless_still s _
    · exact harmless_calling rfl (.refl s) _
  | sendLater | receiveLater => exact harmless_onObject fun _ _ _ => harmless_addFuture s _ _
  | flush | close | reset => cases hEarly
  | setTrigger level =>
    exact harmless_onObject fun _ _ _ => harmless_of_not_refused (isRefusal_ofExcept ..) _
  | sendDeferring | receiveDeferring =>
    exact harmless_onObject fun r _ _ => harmless_finishDeferring s r _ _ _

theorem harmless_performEvents (s : Machine) (worker : Worker) (id : Name) (a : EventAction)
    (hEarly : (Action.events id a).comesLate = false) :
    Harmless s (s.performEvents worker id a) := by
  cases a with
  | create bits => exact harmless_of_not_refused rfl _
  | get => exact harmless_onObject fun _ _ _ => harmless_still s _
  | set bits =>
    refine harmless_onObject fun r g _ => ?_
    split
    · exact harmless_still s _
    · exact harmless_of_not_refused rfl _
  | clear bits => exact harmless_onObject fun _ _ _ => harmless_of_not_refused rfl _
  | wait wish wait =>
    refine harmless_onObject fun r g _ => ?_
    split
    · exact harmless_still s _
    · exact harmless_calling rfl (.refl s) _
  | arrive => cases hEarly
  | setDeferring bits =>
    refine harmless_onObject fun r g _ => ?_
    split
    · exact harmless_still s _
    · exact harmless_finishDeferring s r _ _ _

theorem harmless_performSignal (s : Machine) (id : Name) (a : SignalAction) :
    Harmless s (s.performSignal id a) := by
  cases a with
  | create value => exact harmless_of_not_refused rfl _
  | get => exact harmless_onObject fun _ _ _ => harmless_still s _
  | set | watch => exact harmless_onObject fun _ _ _ => harmless_of_not_refused rfl _
  | setDeferring value => exact harmless_onObject fun _ _ _ => nofun

theorem harmless_performWatch (s : Machine) (id : Name) (a : WatchAction) :
    Harmless s (s.performWatch id a) := by
  cases a with
  | seen => exact harmless_onObject fun _ _ _ => harmless_still s _
  | glance =>
    refine harmless_onObject fun r w _ => ?_
    split
    · exact harmless_still s _
    · split
      · exact harmless_still s _
      · exact harmless_of_not_refused rfl _
  | wait wait => exact harmless_onObject fun _ _ _ => harmless_calling rfl (.refl s) _
  | waitLater future => exact harmless_onObject fun _ _ _ => harmless_addFuture s _ _

theorem harmless_performMutex (s : Machine) (worker : Worker) (id : Name) (a : MutexAction) :
    Harmless s (s.performMutex worker id a) := by
  cases a with
  | createStorage => exact harmless_of_not_refused rfl _
  | create kind storage =>
    unfold performMutex
    dsimp only
    split
    · exact harmless_still s _
    · exact harmless_of_not_refused rfl _
  | lock recursiveOnly =>
    refine harmless_onObject fun r m _ => ?_
    split
    · exact harmless_still s _
    · exact harmless_calling rfl (.refl s) _
  | lockWithin wait brief => exact harmless_onObject fun _ _ _ => harmless_calling rfl (.refl s) _
  | unlock =>
    refine harmless_onObject fun r m _ hRefused => ?_
    exact .of_objects (congrArg objects (unlock_refused hRefused).2)
  | delete =>
    exact harmless_onObject fun _ m _ =>
      harmless_of_not_refused (isRefusal_contract s m.object.checkDelete_refuses) _
  | drop => exact harmless_onObject fun _ _ _ => harmless_of_not_refused rfl _

theorem harmless_performGuarded (s : Machine) (id : Name) (a : GuardedAction) :
    Harmless s (s.performGuarded id a) := by
  cases a with
  | create kind value storage =>
    unfold performGuarded
    dsimp only
    split
    · exact harmless_still s _
    · exact harmless_of_not_refused rfl _
  | lock | lockWithin => exact harmless_onObject fun _ _ _ => harmless_calling rfl (.refl s) _
  | unwrap | drop => exact harmless_onObject fun _ _ _ => harmless_of_not_refused rfl _

theorem harmless_lockGlobal {r : Ref} {g : GlobalLock} (hAt : s.get? GlobalLock r = some g)
    (next : Continuation) : Harmless s (s.lockGlobal r g next) := by
  unfold lockGlobal
  split
  · exact harmless_still s _
  · rename_i hReady
    exact harmless_calling rfl (readyGlobal_eq_ok hAt hReady) _

theorem harmless_performGlobal (s : Machine) (worker : Worker) (id : Name) (a : GlobalAction) :
    Harmless s (s.performGlobal worker id a) := by
  cases a with
  | create shared =>
    cases shared <;> exact harmless_of_not_refused rfl _
  | initialise =>
    refine harmless_onObject fun r g _ => ?_
    split
    · exact harmless_still s _
    · exact harmless_of_not_refused rfl _
  | lock | lockBare => exact harmless_onObject fun _ _ hAt => harmless_lockGlobal hAt _
  | unlock =>
    refine harmless_onObject fun r g hAt => ?_
    split
    · exact harmless_still s _
    · rename_i ready hReady
      intro hRefused
      have hReleased : (ready.unlock worker r).1 = ready := (unlock_refused hRefused).2
      exact (readyGlobal_eq_ok hAt hReady).trans (.of_objects (congrArg objects hReleased))

theorem harmless_performCell (s : Machine) (id : Name) (a : CellAction) :
    Harmless s (s.performCell id a) := by
  cases a with
  | create lock value =>
    cases lock with
    | none => exact harmless_of_not_refused rfl _
    | some g => exact harmless_onObject fun _ _ _ => harmless_of_not_refused rfl _
  | change change =>
    refine harmless_onObject fun r c _ => ?_
    split
    · exact harmless_still s _
    · rename_i hAt
      exact harmless_lockGlobal hAt _

theorem harmless_performTaskMutex (s : Machine) (worker : Worker) (id : Name)
    (a : TaskMutexAction) : Harmless s (s.performTaskMutex worker id a) := by
  cases a with
  | create value => exact harmless_of_not_refused rfl _
  | lockNow guard =>
    refine harmless_onObject fun r m hAt => ?_
    have hTaken : Untouched s (s.settle r m.lockNow) := Untouched.settle hAt rfl _
    dsimp only
    split
    · split
      · exact harmless_of_not_refused rfl _
      · rename_i hNamed
        intro hRefused
        have hDropped : ((s.settle r m.lockNow).nameGuard worker guard
            (.taskMutex r)).2.isRefusal = true := by
          rw [hNamed]
          exact hRefused
        have hGuarded := nameGuard_refused hDropped
        rw [hNamed] at hGuarded
        exact hTaken.trans hGuarded.2
    · exact harmless_of_not_refused rfl _
  | lockLater future guard => exact harmless_onObject fun _ _ _ => harmless_addFuture s _ _
  | addDirectly value =>
    refine harmless_onObject fun r m _ => ?_
    split
    · exact harmless_still s _
    · exact harmless_of_not_refused rfl _
  | unwrap => exact harmless_onObject fun _ _ _ => harmless_of_not_refused rfl _

theorem harmless_inCritical {act : Int → Int × Result}
    (h : ∀ value, (act value).2.isRefusal = false) : Harmless s (s.inCritical id act) := by
  refine harmless_onObject fun r c _ => ?_
  split
  · exact harmless_still s _
  · exact harmless_of_not_refused (h c.value) _

theorem harmless_performCritical (s : Machine) (id : Name) (a : CriticalAction) :
    Harmless s (s.performCritical id a) := by
  cases a with
  | createSpinlock | create => exact harmless_of_not_refused rfl _
  | get | set => exact harmless_inCritical fun _ => rfl
  | unwrap => exact harmless_onObject fun _ _ _ => harmless_of_not_refused rfl _

-- ---------------------------------------------------------------------------
-- Guards, pending operations and the kernel
-- ---------------------------------------------------------------------------

theorem harmless_performGuard (s : Machine) (worker : Worker) (name : Name) (a : GuardAction) :
    Harmless s (s.performGuard worker name a) := by
  unfold performGuard
  split
  · exact harmless_still s _
  · cases a with
    | drop =>
      intro hRefused
      have hDropped := congrArg objects (dropGuard_refused hRefused).2
      exact .of_objects hDropped
    | get =>
      dsimp only
      split <;> exact harmless_still s _
    | set new =>
      dsimp only
      split
      · exact harmless_of_not_refused rfl _
      · exact harmless_still s _

theorem harmless_poll (s : Machine) (worker : Worker) (name : Name) (waker : WakerId)
    (f : Future) : Harmless s (s.poll worker name waker f) := by
  unfold poll
  cases f with
  | queueSend | queueReceive | streamSend | streamReceive =>
    dsimp only
    split
    · exact harmless_still s _
    · exact harmless_finishPoll s _ _ _ _ _ fun _ => isRefusal_ofExcept ..
  | watch w change =>
    dsimp only
    split
    · exact harmless_still s _
    · split
      · exact harmless_still s _
      · exact harmless_finishPoll s _ _ _ _ _ fun _ => rfl
  | taskLock r guard =>
    dsimp only
    split
    · exact harmless_still s _
    · rename_i m hAt
      have hTaken : Untouched s (s.settle r (m.pollLock waker)) := Untouched.settle hAt rfl _
      split
      · intro hRefused
        exact (hTaken.trans (.of_objects rfl)).trans (nameGuard_refused hRefused).2
      · exact harmless_of_not_refused rfl _

theorem harmless_performFuture (s : Machine) (worker : Worker) (name : Name) (a : FutureAction) :
    Harmless s (s.performFuture worker name a) := by
  unfold performFuture
  cases a with
  | poll waker =>
    dsimp only
    split
    · exact harmless_still s _
    · exact harmless_poll s worker name waker _
  | drop => exact harmless_of_not_refused rfl _

theorem harmless_askKernel (s : Machine) (answer : Machine → Machine × Answer) :
    Harmless s (s.askKernel answer) := by
  unfold askKernel
  split
  · exact harmless_still s _
  · exact harmless_of_not_refused rfl _

theorem harmless_performSleep (hObjects : s'.objects = s.objects) (worker : Worker)
    (ticks : Ticks) : Harmless s (s'.performSleep worker ticks) := by
  unfold performSleep
  split
  · exact ⟨.of_objects hObjects, fun _ => rfl⟩
  · exact harmless_of_not_refused rfl _

theorem harmless_performKernel (s : Machine) (worker : Worker) (a : KernelAction) :
    Harmless s (s.performKernel worker a) := by
  unfold performKernel
  cases a with
  | install which =>
    dsimp only
    split
    · exact harmless_of_not_refused rfl _
    · exact harmless_still s _
  | isInstalled => exact harmless_still s _
  | tickCount | inInterrupt | currentTask => exact harmless_askKernel s _
  | hostWakeSelf => exact harmless_performSleep rfl worker _
  | hostSleep ticks => exact harmless_performSleep rfl worker ticks
  | installHost | hostWake | hostDefer | hostYield => exact harmless_of_not_refused rfl _

/-- An operation that does not come too late. -/
theorem harmless_perform {a : Action} (hEarly : a.comesLate = false) :
    Harmless s (s.perform worker a) := by
  cases a with
  | ring id a => exact harmless_performRing s id a
  | queue id a => exact harmless_performQueue s id a
  | stream id a => exact harmless_performStream s id a hEarly
  | events id a => exact harmless_performEvents s worker id a hEarly
  | signal id a => exact harmless_performSignal s id a
  | watch id a => exact harmless_performWatch s id a
  | mutex id a => exact harmless_performMutex s worker id a
  | guarded id a => exact harmless_performGuarded s id a
  | global id a => exact harmless_performGlobal s worker id a
  | cell id a => exact harmless_performCell s id a
  | taskMutex id a => exact harmless_performTaskMutex s worker id a
  | critical id a => exact harmless_performCritical s id a
  | guard name a => exact harmless_performGuard s worker name a
  | future name a => exact harmless_performFuture s worker name a
  | kernel a => exact harmless_performKernel s worker a
  | pure a => exact harmless_still s _
  | senseless why => exact harmless_still s _

end Machine

end TaskSync
