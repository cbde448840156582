import TaskSync.Proofs.Runs.Rounds
import TaskSync.Proofs.Runs.World
import TaskSync.Mutex.Lock

/-!
# TaskSync — runs of a mutex

The operations on a mutex, and how the mutex answers them (`Mutex.protocol`),
in a system that checks contracts or in one that does not.

A call of `lock` makes one bounded attempt after the other. Two attempts are
two looks at the mutex, and other tasks may run in between, so a call whose
attempt has run out is in a state of its own (`Call.restarting`).

All that a bounded attempt can come to is an `Attempted`, and all that any look
of a task can come to is a `Turn`. `Mutex.turn_start` and `Mutex.turn_round` say
so once for all proofs.
-/

namespace TaskSync

namespace Mutex

/-- An operation on a mutex. -/
inductive Request
  | lock
  /-- A bounded attempt; it does not wait if `wait` is 0. -/
  | tryLock (wait : Ticks)
  | unlock
deriving DecidableEq

/-- A blocking call on a mutex. -/
inductive Call
  | trying (w : Waiting TryLock)
  | locking (k : LockCall)
  /-- A call of `lock` between two of its bounded attempts. -/
  | restarting

/-- An operation on a mutex that has ended, with its answer. -/
inductive Deed
  | locked (t : TaskId) (answer : Except Fault Unit)
  | tried (t : TaskId) (wait : Ticks) (answer : Except LockError Unit)
  | unlocked (t : TaskId) (answer : Except Fault Unit)

/-- What a bounded attempt comes to for the call of `lock` that makes it. -/
def Call.ofAttempt (checks : Bool) (t : TaskId) :
    Round (Waiting TryLock) (Except LockError Unit) → Round Call Deed
  | .finished (.ok ()) => .finished (.locked t (.ok ()))
  | .finished (.error .deadlock) => (LockCall.atSelfBlock checks).map .locking (.locked t)
  | .finished (.error _) => .suspended .restarting (some 0)
  | .suspended w limit => .suspended (.locking (.attempt w)) limit

/-- The next look of a blocking call. -/
def Call.round (checks : Bool) (now : Ticks) (t : TaskId) (m : Mutex) :
    Call → Outcome Mutex (Round Call Deed)
  | .trying w => (w.round now t m).map (.map .trying (.tried t w.deadline.wait))
  | .locking (.attempt w) => (w.round now t m).map (ofAttempt checks t)
  | .locking .selfBlocked | .restarting =>
    (LockCall.firstLook checks now t m).map (.map .locking (.locked t))

/-- The first look of an operation. -/
def Request.start (checks : Bool) (now : Ticks) (t : TaskId) (m : Mutex) :
    Request → Outcome Mutex (Round Call Deed)
  | .lock => (Call.locking (.start now)).round checks now t m
  | .tryLock wait => (Call.trying (.start {} wait now)).round checks now t m
  | .unlock => (m.unlock t).map fun answer => .finished (.unlocked t answer)

/-- How a mutex answers. All its operations are operations of a task. -/
def protocol (checks : Bool) : Protocol Mutex Request Call Empty Deed where
  start r now t m := r.start checks now t m
  resume k now t m := k.round checks now t m
  act a _ := nomatch a

/-- A mutex in use. -/
abbrev World := TaskSync.World Mutex Call Deed

/-- A move in a run of a mutex. -/
abbrev Move := TaskSync.Move Request Empty

/-- A mutex that nobody has used before, after some moves. -/
def after (checks : Bool) (m : Mutex) (moves : List Move) : World :=
  TaskSync.World.run (protocol checks) (.fresh m) moves

/-- The request that a call is for. -/
def Call.request : Call → Request
  | .trying w => .tryLock w.deadline.wait
  | .locking _ | .restarting => .lock

theorem Call.request_ne (k : Call) : k.request ≠ .unlock := by
  cases k <;> exact nofun

/-- Whether a call is in a bounded attempt, with its task on the wait list or off it for want of
room. -/
def Call.contends : Call → Bool
  | .trying _ | .locking (.attempt _) => true
  | .locking .selfBlocked | .restarting => false

/-- The deed of a request that was granted. -/
def Request.granted (t : TaskId) : Request → Deed
  | .lock => .locked t (.ok ())
  | .tryLock wait => .tried t wait (.ok ())
  | .unlock => .unlocked t (.ok ())

/-- Somebody else has the mutex. -/
def BusyFor (m : Mutex) (t : TaskId) : Prop := m.owner ≠ none ∧ m.owner ≠ some t

/-- The mutex in the hands of a task that found it free. -/
def takenBy (m : Mutex) (t : TaskId) : Mutex :=
  { m with owner := some t, depth := 1, waiters := m.waiters.remove t }

/-- The mutex without a task among those that wait for it. -/
def without (m : Mutex) (t : TaskId) : Mutex := { m with waiters := m.waiters.remove t }

/-- The mutex released for good. -/
def handedOn (m : Mutex) : Mutex :=
  { m with owner := none, depth := 0, waiters := m.waiters.dropFirst }

-- ---------------------------------------------------------------------------
-- What a bounded attempt comes to
-- ---------------------------------------------------------------------------

/-- All that an attempt to serve a task can come to. -/
inductive Served (t : TaskId) (m : Mutex) :
    Option (Outcome Mutex (Except LockError Unit)) → Prop
  | taken : m.owner = none → Served t m (some (.still (m.takenBy t) (.ok ())))
  | deepened :
      m.owner = some t → m.kind = .recursive →
      Served t m (some (.still { m with depth := m.depth + 1 } (.ok ())))
  | deadlocked :
      m.owner = some t → m.kind = .normal → Served t m (some (.still m (.error .deadlock)))
  | busy : m.BusyFor t → Served t m none

theorem served_serve (r : TryLock) (look : Look) (m : Mutex) :
    Served look.task m (Blocks.serve r look m) := by
  simp only [Blocks.serve]
  split
  · exact .taken ‹_›
  · rename_i owner hOwner
    split
    · rename_i hSelf
      subst hSelf
      split
      · exact .deepened hOwner ‹_›
      · exact .deadlocked hOwner ‹_›
    · rename_i hOther
      refine .busy ⟨?_, ?_⟩
      · rw [hOwner]
        exact nofun
      · rw [hOwner]
        exact fun hSelf => hOther (Option.some.inj hSelf)

/-- All that a look in a bounded attempt can come to. -/
inductive Attempted (t : TaskId) (now : Ticks) (m : Mutex) (w : Waiting TryLock) :
    Outcome Mutex (Round (Waiting TryLock) (Except LockError Unit)) → Prop
  | taken : m.owner = none → Attempted t now m w (.still (m.takenBy t) (.finished (.ok ())))
  | deepened :
      m.owner = some t → m.kind = .recursive →
      Attempted t now m w (.still { m with depth := m.depth + 1 } (.finished (.ok ())))
  | deadlocked :
      m.owner = some t → m.kind = .normal →
      Attempted t now m w (.still m (.finished (.error .deadlock)))
  | joined {limit : Option Ticks} {waiters : WaitList} :
      m.BusyFor t → m.waiters.register t = some waiters →
      Attempted t now m w (.still { m with waiters } (.suspended { w with again := true } limit))
  /-- The wait list is full and the task not on it. -/
  | crowded :
      m.BusyFor t → t ∉ m.waiters.tasks → WaitList.limit ≤ m.waiters.size →
      Attempted t now m w (.still m (.suspended { w with again := true } (some 1)))
  | gaveUp :
      m.BusyFor t → w.isOver now = true →
      Attempted t now m w (.still (m.without t)
        (.finished (.error (if w.deadline.wait = 0 then .wouldBlock else .timeout))))

theorem attempted_round (w : Waiting TryLock) (now : Ticks) (t : TaskId) (m : Mutex) :
    Attempted t now m w (w.round now t m) := by
  have hComes := w.comes_round now t m
  have hServed := served_serve w.request (w.look now t) m
  generalize w.round now t m = o at hComes ⊢
  cases hComes with
  | served hServe =>
    rw [hServe] at hServed
    cases hServed with
    | taken hFree => exact .taken hFree
    | deepened hOwner hKind => exact .deepened hOwner hKind
    | deadlocked hOwner hKind => exact .deadlocked hOwner hKind
  | joined hServe hOver hJoin =>
    rw [hServe] at hServed
    cases hServed with
    | busy hBusy =>
      obtain ⟨waiters, hReg, rfl⟩ := Option.map_eq_some_iff.mp hJoin
      exact .joined hBusy hReg
  | crowded hServe hOver hJoin =>
    rw [hServe] at hServed
    cases hServed with
    | busy hBusy =>
      have hOut := WaitList.register_eq_none_iff.mp (Option.map_eq_none_iff.mp hJoin)
      exact .crowded hBusy hOut.1 hOut.2
  | gaveUp hServe hOver =>
    rw [hServe] at hServed
    cases hServed with
    | busy hBusy => exact .gaveUp hBusy hOver

-- ---------------------------------------------------------------------------
-- What a look comes to
-- ---------------------------------------------------------------------------

/-- All that a look of a task at a mutex can come to, by the request that it is for. -/
inductive Turn (checks : Bool) (t : TaskId) (m : Mutex) :
    Request → Outcome Mutex (Round Call Deed) → Prop
  | taken {r : Request} :
      r ≠ .unlock → m.owner = none →
      Turn checks t m r (.still (m.takenBy t) (.finished (r.granted t)))
  | deepened {r : Request} :
      r ≠ .unlock → m.owner = some t → m.kind = .recursive →
      Turn checks t m r (.still { m with depth := m.depth + 1 } (.finished (r.granted t)))
  | deadlocked {wait : Ticks} :
      m.owner = some t → m.kind = .normal →
      Turn checks t m (.tryLock wait) (.still m (.finished (.tried t wait (.error .deadlock))))
  | faulted :
      checks = true → m.owner = some t → m.kind = .normal →
      Turn checks t m .lock (.still m (.finished (.locked t (.error .lockedTwice))))
  | selfBlocked :
      checks = false → m.owner = some t → m.kind = .normal →
      Turn checks t m .lock (.still m (.suspended (.locking .selfBlocked) (some lockQuantum)))
  | joined {k : Call} {limit : Option Ticks} {waiters : WaitList} :
      k.contends = true → m.BusyFor t → m.waiters.register t = some waiters →
      Turn checks t m k.request (.still { m with waiters } (.suspended k limit))
  | crowded {k : Call} :
      k.contends = true → m.BusyFor t → t ∉ m.waiters.tasks → WaitList.limit ≤ m.waiters.size →
      Turn checks t m k.request (.still m (.suspended k (some 1)))
  | gaveUp {wait : Ticks} :
      m.BusyFor t →
      Turn checks t m (.tryLock wait) (.still (m.without t)
        (.finished (.tried t wait (.error (if wait = 0 then .wouldBlock else .timeout)))))
  | restarting :
      m.BusyFor t → Turn checks t m .lock (.still (m.without t) (.suspended .restarting (some 0)))
  | refused :
      m.owner ≠ some t →
      Turn checks t m .unlock (.still m (.finished (.unlocked t (.error .notOwner))))
  | heldOn :
      m.owner = some t → 0 < m.depth - 1 →
      Turn checks t m .unlock
        (.still { m with depth := m.depth - 1 } (.finished (Request.unlock.granted t)))
  | handedOn :
      m.owner = some t → m.depth - 1 = 0 →
      Turn checks t m .unlock
        ⟨m.handedOn, m.waiters.firstNotice, .finished (Request.unlock.granted t)⟩

variable {checks : Bool}

/-- A call of `lock` whose attempt has run out makes another. -/
theorem map_ofAttempt_gaveUp (t : TaskId) (m : Mutex) (wait : Ticks) :
    (Outcome.still m (.finished (.error (if wait = 0 then .wouldBlock else .timeout)))).map
        (Call.ofAttempt checks t) = .still m (.suspended .restarting (some 0)) := by
  split <;> rfl

/-- What a call of `lock` comes to when its task turns out to be the owner. -/
theorem turn_atSelfBlock {t : TaskId} {m : Mutex} (hOwner : m.owner = some t)
    (hKind : m.kind = .normal) :
    Turn checks t m .lock (.still m ((LockCall.atSelfBlock checks).map .locking (.locked t))) := by
  cases checks with
  | true => exact .faulted rfl hOwner hKind
  | false => exact .selfBlocked rfl hOwner hKind

theorem turn_firstLook (checks : Bool) (now : Ticks) (t : TaskId) (m : Mutex) :
    Turn checks t m .lock
      ((LockCall.firstLook checks now t m).map (.map .locking (.locked t))) := by
  have hFinite : lockQuantum ≠ waitForever := by decide
  have hLeft := Waiting.remaining_start hFinite ({} : TryLock) now
  have hOver : (Waiting.start {} lockQuantum now : Waiting TryLock).isOver now = false := by
    rw [Waiting.isOver, hLeft]
    decide
  have hAttempted := attempted_round (.start {} lockQuantum now) now t m
  rw [Waiting.round_of_not_over hOver, hLeft] at hAttempted
  unfold LockCall.firstLook
  generalize (Waiting.start {} lockQuantum now : Waiting TryLock).lookOrJoin _ t m = o
    at hAttempted ⊢
  cases hAttempted with
  | taken hFree => exact .taken (r := .lock) (by decide) hFree
  | deepened hOwner hKind => exact .deepened (r := .lock) (by decide) hOwner hKind
  | deadlocked hOwner hKind => exact turn_atSelfBlock hOwner hKind
  | joined hBusy hReg => exact .joined (k := .locking (.attempt _)) rfl hBusy hReg
  | crowded hBusy hOut hFull => exact .crowded (k := .locking (.attempt _)) rfl hBusy hOut hFull
  | gaveUp hBusy hOver' =>
    -- the whole quantum is still to come
    rw [hOver] at hOver'
    cases hOver'

theorem turn_round (checks : Bool) (k : Call) (now : Ticks) (t : TaskId) (m : Mutex) :
    Turn checks t m k.request ((protocol checks).resume k now t m) := by
  show Turn checks t m k.request (k.round checks now t m)
  cases k with
  | trying w =>
    have hAttempted := attempted_round w now t m
    rw [Call.round]
    generalize w.round now t m = o at hAttempted ⊢
    cases hAttempted with
    | taken hFree => exact .taken (r := .tryLock w.deadline.wait) nofun hFree
    | deepened hOwner hKind =>
      exact .deepened (r := .tryLock w.deadline.wait) nofun hOwner hKind
    | deadlocked hOwner hKind => exact .deadlocked hOwner hKind
    | joined hBusy hReg => exact .joined (k := .trying { w with again := true }) rfl hBusy hReg
    | crowded hBusy hOut hFull =>
      exact .crowded (k := .trying { w with again := true }) rfl hBusy hOut hFull
    | gaveUp hBusy hOver => exact .gaveUp hBusy
  | locking call =>
    cases call with
    | attempt w =>
      have hAttempted := attempted_round w now t m
      show Turn checks t m .lock ((w.round now t m).map (Call.ofAttempt checks t))
      generalize w.round now t m = o at hAttempted ⊢
      cases hAttempted with
      | taken hFree => exact .taken (r := .lock) (by decide) hFree
      | deepened hOwner hKind => exact .deepened (r := .lock) (by decide) hOwner hKind
      | deadlocked hOwner hKind => exact turn_atSelfBlock hOwner hKind
      | joined hBusy hReg => exact .joined (k := .locking (.attempt _)) rfl hBusy hReg
      | crowded hBusy hOut hFull => exact .crowded (k := .locking (.attempt _)) rfl hBusy hOut hFull
      | gaveUp hBusy hOver =>
        rw [map_ofAttempt_gaveUp]
        exact .restarting hBusy
    | selfBlocked => exact turn_firstLook checks now t m
  | restarting => exact turn_firstLook checks now t m

theorem turn_unlock (t : TaskId) (m : Mutex) :
    Turn checks t m .unlock ((m.unlock t).map fun answer => .finished (.unlocked t answer)) := by
  unfold unlock
  split
  · exact .refused ‹_›
  · rename_i hOwner
    rw [Decidable.not_not] at hOwner
    dsimp only
    split
    · exact .heldOn hOwner ‹_›
    · rename_i hLast
      have hZero : m.depth - 1 = 0 := UInt32.le_zero_iff.mp (UInt32.not_lt.mp hLast)
      rw [hZero]
      exact .handedOn hOwner hZero

theorem turn_start (checks : Bool) (r : Request) (now : Ticks) (t : TaskId) (m : Mutex) :
    Turn checks t m r ((protocol checks).start r now t m) := by
  cases r with
  | lock => exact turn_round checks (.locking (.start now)) now t m
  | tryLock wait => exact turn_round checks (.trying (.start {} wait now)) now t m
  | unlock => exact turn_unlock t m

end Mutex

end TaskSync
