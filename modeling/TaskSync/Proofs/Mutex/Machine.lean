import TaskSync.Proofs.Mutex.Runs
import TaskSync.Proofs.Runs.Machine
import TaskSync.Machine.Mutexes

/-!
# TaskSync — mutexes inside a machine

A machine deals with its mutexes by their protocol. It has them inside several
kinds of objects, and a guard stands for an `unlock` to come.

A machine that goes on with a call of `lock` whose quantum is over begins the
next quantum in the same round. By the protocol this is two looks, so a run of
the machine is a run by the protocol in which nobody comes between the two.

* `Mutex.round_at` — a round of a call is a look at the mutex, or two (`Mutex.Looks`).
* `Mutex.perform_request`, `Mutex.performGuarded_request` — operations begin
  with the protocol's first look.
* `Mutex.unlock_at`, `Mutex.dropGuard_at` — releasing a mutex and dropping a
  guard are the protocol's `unlock`.
-/

namespace TaskSync

namespace Mutex

/-- A call as the machine keeps it that has the mutex at `r`. A call of `lock` between two attempts
goes on like one that has slept because its task is the owner. -/
def Call.at (r : Ref) : Call → TaskSync.Call
  | .trying w => .lockWithin r w
  | .locking k => .lock r k
  | .restarting => .lock r .selfBlocked

/-- The result that a machine reports for a deed. -/
def Deed.result (s : Machine) : Deed → Result
  | .locked _ answer => .ofCheck answer
  | .tried _ _ answer => .ofExcept .lock (fun _ => .done) answer
  | .unlocked _ answer => .ofCheck (s.contract answer)

variable {checks : Bool} {s : Machine} {r : Ref} {m : Mutex} {id : Name}

-- ---------------------------------------------------------------------------
-- Rounds
-- ---------------------------------------------------------------------------

/-- A call of `lock` does not end while somebody else has the mutex. -/
theorem Turn.not_ended {t : TaskId} {req : Request} {o : Outcome Mutex (Round Call Deed)}
    (hTurn : Turn checks t m req o) (hReq : req = .lock) (hBusy : m.BusyFor t) :
    o.answer.deed? = none := by
  cases hTurn with
  | selfBlocked | joined | crowded | restarting => rfl
  | taken _ hFree => exact absurd hFree hBusy.1
  | deepened _ hOwner | faulted _ hOwner => exact absurd hOwner hBusy.2
  | deadlocked | gaveUp | refused | heldOn | handedOn => cases hReq

/-- The look that ends an attempt and the look that begins the next come to one look. -/
theorem look_restarting (now : Ticks) (t : TaskId) {w : World} (hBusy : w.object.BusyFor t) :
    (w.look t (.still (w.object.without t) (.suspended .restarting (some 0)))).run (protocol checks)
        [.resume t now] =
      w.look t ((protocol checks).resume .restarting now t (w.object.without t)) := by
  have hNotEnded := (turn_round checks .restarting now t
    (w.object.without t)).not_ended rfl hBusy
  rw [TaskSync.World.run_cons, TaskSync.World.look_still, TaskSync.World.step]
  simp only [Round.sleep?, Crew.asleep_look_self]
  show TaskSync.World.look _ t _ = _
  rw [TaskSync.World.look, TaskSync.World.look, hNotEnded, Crew.look_look]
  simp only [TaskSync.World.logged_none, Round.deed?]

/-- What a round of a call comes to: one look by the protocol, or two at the same time, of which
the first ends an attempt and the second begins the next. -/
inductive Looks (checks : Bool) (now : Ticks) (t : TaskId) (m : Mutex) (k : Call) :
    Outcome Mutex (Round Call Deed) → Prop
  | once {o : Outcome Mutex (Round Call Deed)} :
      k.round checks now t m = o → Looks checks now t m k o
  | twice :
      m.BusyFor t →
      k.round checks now t m = .still (m.without t) (.suspended .restarting (some 0)) →
      Looks checks now t m k (Call.restarting.round checks now t (m.without t))

theorem looks_round (k : LockCall) (now : Ticks) (t : TaskId) (m : Mutex) :
    Looks checks now t m (.locking k)
      ((k.round checks now t m).map (.map .locking (.locked t))) := by
  cases k with
  | selfBlocked => exact .once rfl
  | attempt call =>
    have hAttempted := attempted_round call now t m
    have hCall : (Call.locking (.attempt call)).round checks now t m =
        (call.round now t m).map (Call.ofAttempt checks t) := rfl
    simp only [LockCall.round]
    generalize call.round now t m = attempt at hAttempted hCall ⊢
    cases hAttempted with
    | taken | deepened | deadlocked | joined | crowded => exact .once hCall
    | gaveUp hBusy =>
      rw [map_ofAttempt_gaveUp] at hCall
      by_cases hWait : call.deadline.wait = 0
      · rw [if_pos hWait]
        exact .twice hBusy hCall
      · rw [if_neg hWait]
        exact .twice hBusy hCall

theorem Looks.look {now : Ticks} {t : TaskId} {w : World} {k : Call}
    {o : Outcome Mutex (Round Call Deed)} (h : Looks checks now t w.object k o)
    {limit : Option Ticks} (hAsleep : w.crew.asleep t = some ⟨k, limit⟩) :
    w.look t o = w.run (protocol checks) [.resume t now] ∨
      w.look t o = w.run (protocol checks) [.resume t now, .resume t now] := by
  have hFirst : w.step (protocol checks) (.resume t now) =
      w.look t (k.round checks now t w.object) := TaskSync.World.step_resume hAsleep now
  rw [TaskSync.World.run_cons, TaskSync.World.run_cons, hFirst]
  cases h with
  | once hOnce => exact Or.inl (congrArg (w.look t) hOnce.symm)
  | twice hBusy hGaveUp =>
    right
    rw [hGaveUp]
    exact (look_restarting now t hBusy).symm

/-- A round of a call in a machine is one look by the protocol, or two at the same time. -/
theorem round_at (hAt : s.mutexAt? r = some m) (k : Call) (t : TaskId) :
    ∃ o : Outcome Mutex (Round Call Deed),
      s.round t (k.at r) = (s.settleMutex r o, o.answer.map (Call.at r) (Deed.result s)) ∧
      Looks s.checks s.now t m k o := by
  cases k with
  | trying call =>
    refine ⟨(protocol s.checks).resume (.trying call) s.now t m, ?_, .once rfl⟩
    simp only [Call.at, Machine.round, hAt, protocol, Call.round]
    generalize call.round s.now t m = o
    obtain ⟨object, notices, answer⟩ := o
    cases answer <;> rfl
  | locking call =>
    refine ⟨(call.round s.checks s.now t m).map (.map .locking (.locked t)), ?_,
      looks_round call s.now t m⟩
    simp only [Call.at, Machine.round, hAt]
    generalize call.round s.checks s.now t m = o
    obtain ⟨object, notices, answer⟩ := o
    cases answer <;> rfl
  | restarting =>
    refine ⟨(protocol s.checks).resume .restarting s.now t m, ?_, .once rfl⟩
    simp only [Call.at, Machine.round, hAt, protocol, Call.round, LockCall.round]
    generalize LockCall.firstLook s.checks s.now t m = o
    obtain ⟨object, notices, answer⟩ := o
    cases answer <;> rfl

-- ---------------------------------------------------------------------------
-- Operations
-- ---------------------------------------------------------------------------

/-- The machine's action for a blocking operation. -/
def Request.action? : Request → Option MutexAction
  | .lock => some (.lock false)
  | .tryLock wait => some (.lockWithin wait false)
  | .unlock => none

/-- The action that makes a guard, for a value behind a mutex. -/
def Request.guardedAction? (guard : Name) : Request → Option GuardedAction
  | .lock => some (.lock guard)
  | .tryLock wait => some (.lockWithin guard wait)
  | .unlock => none

/-- A blocking operation comes down to a call whose first round is the protocol's first look. -/
theorem perform_request {placed : Placed Mutex}
    (hAt : s.named? (Placed Mutex) id = some (r, placed)) {req : Request} {action : MutexAction}
    (hAction : req.action? = some action) (worker : Worker) (t : TaskId) :
    ∃ k : Call, s.performMutex worker id action = (s, .calling (k.at r) .plain) ∧
      (protocol s.checks).start req s.now t m = (protocol s.checks).resume k s.now t m := by
  cases req with
  | lock =>
    obtain rfl := Option.some.inj hAction
    refine ⟨.locking (.start s.now), ?_, rfl⟩
    show s.onObject (Placed Mutex) id _ = _
    rw [Machine.onObject_eq hAt]
    simp only [Bool.false_eq_true, if_false, Machine.contract_ok]
    rfl
  | tryLock wait =>
    obtain rfl := Option.some.inj hAction
    refine ⟨.trying (.start {} wait s.now), ?_, rfl⟩
    show s.onObject (Placed Mutex) id _ = _
    rw [Machine.onObject_eq hAt]
    rfl
  | unlock => cases hAction

/-- So does an operation on a value behind a mutex; the guard is made when the call has the lock. -/
theorem performGuarded_request {placed : Placed (Guarded Int)}
    (hAt : s.named? (Placed (Guarded Int)) id = some (r, placed)) {req : Request} {guard : Name}
    {action : GuardedAction} (hAction : req.guardedAction? guard = some action) (t : TaskId) :
    ∃ k : Call, s.performGuarded id action = (s, .calling (k.at r) (.guard guard (.mutex r))) ∧
      (protocol s.checks).start req s.now t m = (protocol s.checks).resume k s.now t m := by
  cases req with
  | lock =>
    obtain rfl := Option.some.inj hAction
    refine ⟨.locking (.start s.now), ?_, rfl⟩
    exact Machine.onObject_eq hAt _
  | tryLock wait =>
    obtain rfl := Option.some.inj hAction
    refine ⟨.trying (.start {} wait s.now), ?_, rfl⟩
    exact Machine.onObject_eq hAt _
  | unlock => cases hAction

/-- Releasing a mutex is the protocol's `unlock`. -/
theorem unlock_at {worker : Worker} {t : TaskId} {s' : Machine} (hKernel : s.installed.isSome)
    (hTask : s.currentTask worker = (s', t)) (hAt : s'.mutexAt? r = some m) :
    s.unlock worker r = (s'.settleMutex r (m.unlock t),
      (Deed.unlocked t (m.unlock t).answer).result s') := by
  have hInstalled : s.installed.isNone = false := Option.isNone_eq_false_iff.mpr hKernel
  rw [Machine.unlock, hInstalled, hTask]
  simp only [Bool.false_eq_true, if_false, hAt]
  rfl

/-- So is dropping a guard. -/
theorem dropGuard_at {worker : Worker} {t : TaskId} {s' : Machine} (hKernel : s.installed.isSome)
    (hTask : s.currentTask worker = (s', t)) (hAt : s'.mutexAt? r = some m) :
    s.dropGuard worker (.mutex r) = (s'.settleMutex r (m.unlock t),
      (Deed.unlocked t (m.unlock t).answer).result s') := unlock_at hKernel hTask hAt

end Mutex

end TaskSync
