import TaskSync.Proofs.EventGroup.Runs
import TaskSync.Proofs.Runs.Machine
import TaskSync.Machine.Events

/-!
# TaskSync — event groups inside a machine

A machine deals with its event groups by their protocol, as it does with its
queues (`TaskSync.Proofs.Queue.Machine`). An operation that breaks its contract
is a fault where contracts are checked, and then the machine is as before.

* `EventGroup.perform_breach`, `EventGroup.perform_act_breach` — a fault changes nothing.
* `EventGroup.perform_await`, `EventGroup.perform_arrive`, `EventGroup.round_at`
  — blocking operations.
* `EventGroup.perform_act`, `EventGroup.perform_deferring` — the steps that do
  not wait, of tasks and of interrupt handlers.
-/

namespace TaskSync

namespace EventGroup

/-- A call as the machine keeps it that has the group at `r`, the tick counter showing `now`. -/
def Call.at (r : Ref) (now : Ticks) (k : Call) : TaskSync.Call := .events r (k.waitAt now)

/-- The result that a machine reports for a deed. -/
def Deed.result : Deed → Result
  | .waited _ _ answer => .ofExcept .eventTimeout (fun bits => .number bits.toNat) answer
  | .set _ left => .ok (.number left.toNat)
  | .cleared _ before => .ok (.number before.toNat)

/-- The machine's action for a blocking operation. -/
def Request.action : Request → EventAction
  | .await wish wait => .wait wish wait
  | .arrive bits waitFor wait => .arrive bits waitFor wait

/-- The contract of a blocking operation. -/
def Request.check : Request → Except Fault Unit
  | .await wish _ => Machine.checkWait wish.wanted wish.wanted
  | .arrive bits waitFor _ => Machine.checkWait waitFor (bits ||| waitFor)

/-- The machine's action for a step that does not wait. -/
def Act.action : Act → EventAction
  | .set bits => .set bits
  | .clear bits => .clear bits

/-- The contract of a step that does not wait. -/
def Act.check : Act → Except Fault Unit
  | .set bits => checkBits bits
  | .clear _ => .ok ()

variable {s s' : Machine} {r : Ref} {g : EventGroup} {id : Name} {worker : Worker} {f : Fault}

-- ---------------------------------------------------------------------------
-- Breaches of contract
-- ---------------------------------------------------------------------------

/-- A blocking operation that breaks its contract changes nothing. -/
theorem perform_breach (hAt : s.named? EventGroup id = some (r, g)) {req : Request}
    (hBreach : s.contract req.check = .error f) (worker : Worker) :
    s.performEvents worker id req.action = s.finish (.fault f) := by
  cases req with
  | await wish wait =>
    show s.onObject EventGroup id _ = _
    have hBreach : s.contract (Machine.checkWait wish.wanted wish.wanted) = .error f := hBreach
    rw [Machine.onObject_eq hAt, hBreach]
  | arrive bits waitFor wait =>
    show s.onObject EventGroup id _ = _
    have hBreach : s.contract (Machine.checkWait waitFor (bits ||| waitFor)) = .error f := hBreach
    rw [Machine.onObject_eq hAt, hBreach]

/-- Neither does a set. -/
theorem perform_act_breach (hAt : s.named? EventGroup id = some (r, g)) {a : Act}
    (hBreach : s.contract a.check = .error f) (worker : Worker) :
    s.performEvents worker id a.action = s.finish (.fault f) := by
  cases a with
  | set bits =>
    show s.onObject EventGroup id _ = _
    have hBreach : s.contract (checkBits bits) = .error f := hBreach
    rw [Machine.onObject_eq hAt, hBreach]
  | clear bits =>
    rw [Act.check, Machine.contract_ok] at hBreach
    cases hBreach

-- ---------------------------------------------------------------------------
-- Blocking operations
-- ---------------------------------------------------------------------------

/-- A round of a call in a machine is a look by the protocol. -/
theorem round_at (hAt : s.get? EventGroup r = some g) (k : Call) (t : TaskId) :
    s.round t (k.at r s.now) =
      (s.settle r (protocol.resume k s.now t g),
        (protocol.resume k s.now t g).answer.map (Call.at r s.now) Deed.result) := by
  show s.roundAt t r (k.waitAt s.now) (.events r) _ = _
  rw [Machine.roundAt_eq hAt]
  show _ = (_, (((k.waitAt s.now).round s.now t g).answer.map _ _).map (Call.at r s.now)
    Deed.result)
  rw [Round.map_map]
  rfl

/-- A wait comes down to a call whose first round is the protocol's first look. -/
theorem perform_await (hAt : s.named? EventGroup id = some (r, g)) {wish : EventWish}
    {wait : Ticks} (hKept : s.contract (Request.await wish wait).check = .ok ()) (worker : Worker)
    (t : TaskId) :
    ∃ k : Call, s.performEvents worker id (Request.await wish wait).action =
        (s, .calling (k.at r s.now) .plain) ∧
      protocol.start (.await wish wait) s.now t g = protocol.resume k s.now t g := by
  refine ⟨.waiting (.start wish wait s.now), ?_, rfl⟩
  show s.onObject EventGroup id _ = _
  have hKept : s.contract (Machine.checkWait wish.wanted wish.wanted) = .ok () := hKept
  rw [Machine.onObject_eq hAt, hKept]
  rfl

/-- What is left to do for an operation after its first step, when the tick counter shows `now`. -/
def nextStep (r : Ref) (now : Ticks) : Round Call Deed → Step
  | .finished d => .plain d.result
  | .suspended k _ => .calling (k.at r now) .plain

/-- An arrival is the protocol's, and who has to wait begins to look. -/
theorem perform_arrive (hAt : s.named? EventGroup id = some (r, g)) {bits waitFor : EventBits}
    {wait : Ticks} (hKept : s.contract (Request.arrive bits waitFor wait).check = .ok ())
    (hKernel : s.installed.isSome) {t : TaskId} (hTask : s.currentTask worker = (s', t)) :
    let o := protocol.start (.arrive bits waitFor wait) s.now t g
    s.performEvents worker id (Request.arrive bits waitFor wait).action =
      (s'.settle r o, nextStep r (s'.settle r o).now o.answer) := by
  have hInstalled : s.installed.isNone = false := Option.isNone_eq_false_iff.mpr hKernel
  have hKept : s.contract (Machine.checkWait waitFor (bits ||| waitFor)) = .ok () := hKept
  intro o
  show s.onObject EventGroup id _ = _
  rw [Machine.onObject_eq hAt]
  simp only [hKept, hInstalled, hTask, Bool.false_eq_true, if_false, o, protocol, Request.start]
  generalize g.arrive t bits waitFor wait = arrival
  obtain ⟨object, notices, answer⟩ := arrival
  cases answer <;> rfl

-- ---------------------------------------------------------------------------
-- Steps that do not wait
-- ---------------------------------------------------------------------------

/-- A step that does not wait is a step by the protocol. -/
theorem perform_act (hAt : s.named? EventGroup id = some (r, g)) {a : Act}
    (hKept : s.contract a.check = .ok ()) (worker : Worker) :
    ∃ d, (protocol.act a g).answer = some d ∧
      s.performEvents worker id a.action = (s.settle r (protocol.act a g)).finish d.result := by
  cases a with
  | set bits =>
    refine ⟨_, rfl, ?_⟩
    show s.onObject EventGroup id _ = _
    have hKept : s.contract (checkBits bits) = .ok () := hKept
    rw [Machine.onObject_eq hAt, hKept]
    rfl
  | clear bits =>
    refine ⟨_, rfl, ?_⟩
    exact Machine.onObject_eq hAt _

/-- So is a set by an interrupt handler, with the wakes deferred. -/
theorem perform_deferring (hAt : s.named? EventGroup id = some (r, g)) {bits : EventBits}
    (hKept : s.contract (checkBits bits) = .ok ()) (worker : Worker) :
    (s.performEvents worker id (.setDeferring bits)).1 =
      s.settleDeferring r (protocol.act (.set bits) g) := by
  show (s.onObject EventGroup id _).1 = _
  rw [Machine.onObject_eq hAt, hKept]
  rfl

end EventGroup

end TaskSync
