import TaskSync.Proofs.Interrupts.Registrations
import TaskSync.Proofs.Interrupts.Wakes
import TaskSync.Proofs.Runs.Frames

/-!
# TaskSync — interrupt handlers account for the wakes they defer

An interrupt handler takes steps on queues, byte streams, event groups and
signals (`HandlerOp`), each of which defers the wakes it causes and reports
whether there are any. The law of one step (`HandlerStep.Accounted`) is the same
for all of them: whom it defers has been taken off the object's lists, what it
reports is whether there was anybody, an error defers nobody, and nothing else
happens. What a handler does as a whole follows from the chain of its steps.

* `HandlerOp.exists_step` — each operation obeys the law, in every state.
* `handler_accounts` — what a handler of any number of operations comes to.
-/

namespace TaskSync

/-- An operation of an interrupt handler. -/
inductive HandlerOp
  | queueSend (id : Name) (item : List UInt8) (brief : Bool)
  | queueOverwrite (id : Name) (item : List UInt8)
  | queueReceive (id : Name) (size : Option Nat)
  | streamSend (id : Name) (data : List UInt8)
  | streamReceive (id : Name) (room : Nat)
  | setEvents (id : Name) (bits : EventBits)
  | setSignal (id : Name) (value : Datum)

namespace HandlerOp

/-- The machine's action for the operation. -/
def action : HandlerOp → Action
  | queueSend id item brief => .queue id (.sendDeferring item brief)
  | queueOverwrite id item => .queue id (.overwriteDeferring item)
  | queueReceive id size => .queue id (.receiveDeferring size)
  | streamSend id data => .stream id (.sendDeferring data)
  | streamReceive id room => .stream id (.receiveDeferring room)
  | setEvents id bits => .events id (.setDeferring bits)
  | setSignal id value => .signal id (.setDeferring value)

/-- Whether the operation raises the caller's own flag when it defers a wake. -/
def isBrief : HandlerOp → Bool
  | queueSend _ _ brief => brief
  | _ => false

/-- The place of the object that the operation is about. -/
def place? (s : Machine) : HandlerOp → Option Ref
  | queueSend id .. | queueOverwrite id _ | queueReceive id _ => (s.named? Queue id).map (·.1)
  | streamSend id _ | streamReceive id _ => (s.named? ByteStream id).map (·.1)
  | setEvents id _ => (s.named? EventGroup id).map (·.1)
  | setSignal id _ => (s.named? (Signal Datum) id).map (·.1)

/-- All results in which an operation reports whether it deferred a wake. An
error, a fault or a missing object never goes with one. -/
inductive Reports : HandlerOp → Result → Bool → Prop
  | ok (op : HandlerOp) (a : Answer) (needWake : Bool) :
      Reports op (.okDeferring a needWake) needWake
  | error (op : HandlerOp) (e : Failure) : Reports op (.errorDeferring e false) false
  | sent (id : Name) (item : List UInt8) (needWake : Bool) :
      Reports (.queueSend id item true) (.ok (.flag true)) needWake
  | notSent (id : Name) (item : List UInt8) :
      Reports (.queueSend id item true) (.ok (.flag false)) false
  | signal (id : Name) (value : Datum) (needWake : Bool) :
      Reports (.setSignal id value) (.ok (.flag needWake)) needWake
  | fault (op : HandlerOp) (f : Fault) : Reports op (.fault f) false
  | missing (op : HandlerOp) : Reports op Machine.missing false

end HandlerOp

/-- The tasks registered at the object at a place. -/
def Machine.registeredAt (s : Machine) (r : Ref) : List TaskId :=
  (s.objects[r]?.map Object.registered).getD []

/-- From `s` to `s'` the machine has deferred the wakes of the tasks `pended` at a place. -/
structure Defers (s s' : Machine) (place? : Option Ref) (pended : List TaskId) : Prop where
  /-- The kernel has the wakes, wakers were called, and nothing else has changed but objects. -/
  happened : ∃ objects, ∃ ns : List Notice, ns.filterMap Notice.task? = pended ∧
    s' = ({ s with objects } : Machine).happened
      { s.active with deferred := s.active.deferred ++ pended } (ns.map Notice.deferral)
  /-- Who is pended was registered at an object and is not any longer. -/
  placed : pended ≠ [] → place?.isSome
  takenOff : ∀ r, (s.registeredAt r).Perm
    ((if place? = some r then pended else []) ++ s'.registeredAt r)
  elsewhere : ∀ r, place? ≠ some r → s'.objects[r]? = s.objects[r]?

/-- One operation of a handler, with the machine before and after it. -/
structure HandlerStep where
  op : HandlerOp
  before : Machine
  after : Machine
  result : Result
  /-- The tasks whose wakes it deferred, in order. -/
  pended : List TaskId

namespace HandlerStep

/-- Whether a wake was deferred. -/
def needWake (e : HandlerStep) : Bool := !e.pended.isEmpty

/-- What the operation adds to the handler. -/
def gathered (e : HandlerStep) : InterruptContext := ⟨e.needWake, e.op.isBrief && e.needWake⟩

/-- The place of the object that the operation is about. -/
def place? (e : HandlerStep) : Option Ref := e.op.place? e.before

/-- The law of an operation in an interrupt handler. -/
structure Accounted (worker : Worker) (e : HandlerStep) : Prop where
  performed : e.before.perform worker e.op.action = (e.after, .answered e.result e.gathered)
  reports : e.op.Reports e.result e.needWake
  defers : Defers e.before e.after e.place? e.pended

end HandlerStep

-- ---------------------------------------------------------------------------
-- One operation
-- ---------------------------------------------------------------------------

section

variable {s : Machine} {worker : Worker} {op : HandlerOp}

/-- Who does nothing defers nobody. -/
theorem Defers.refl (s : Machine) (place? : Option Ref) : Defers s s place? [] where
  happened := ⟨s.objects, [], rfl, by
    rw [List.append_nil]
    exact s.happened_nil.symm⟩
  placed hSome := absurd rfl hSome
  takenOff r := by
    rw [ite_self]
    exact .refl _
  elsewhere _ _ := rfl

/-- A step that takes off whom it wakes defers the wakes of those. -/
theorem defers_settleDeferring {σ α : Type} [Stored σ] [StoredOnly σ] {r : Ref} {x : σ}
    (hAt : s.get? σ r = some x) {o : Outcome σ α} (hTakesOff : o.TakesOff x) :
    Defers s (s.settleDeferring r o) (some r) o.tasks where
  happened := ⟨_, o.notices, rfl, s.settleDeferring_eq r o⟩
  placed _ := rfl
  takenOff r' := by
    rw [Machine.settleDeferring_eq]
    unfold Machine.registeredAt
    rw [Machine.objects_happened]
    by_cases hSame : r = r'
    · subst hSame
      have hObject := Machine.objects_of_get? hAt
      have hBound : r < s.objects.size := (Array.getElem?_eq_some_iff.mp hObject).1
      have hPut : (s.put r o.object).objects[r]? = some (Stored.store o.object) := by
        simp [Machine.put, hBound]
      rw [if_pos rfl, hObject, hPut]
      exact hTakesOff
    · have hPut : (s.put r o.object).objects[r']? = s.objects[r']? := by
        simp [Machine.put, hSame]
      rw [if_neg fun h => hSame (Option.some.inj h), hPut]
      exact .refl _
  elsewhere r' hElsewhere := by
    have hSame : r ≠ r' := fun h => hElsewhere (congrArg some h)
    rw [Machine.settleDeferring_eq, Machine.objects_happened]
    simp [Machine.put, hSame]

/-- An operation that changes nothing. -/
theorem exists_step_of_finish {r : Result} (hPerform : s.perform worker op.action = s.finish r)
    (hReports : op.Reports r false) :
    ∃ e : HandlerStep, e.op = op ∧ e.before = s ∧ e.Accounted worker := by
  refine ⟨⟨op, s, s, r, []⟩, rfl, rfl, ?_, hReports, Defers.refl s _⟩
  rw [hPerform]
  show _ = (s, Step.answered r ⟨false, op.isBrief && false⟩)
  rw [Bool.and_false]
  rfl

/-- An operation that ends with `finishDeferring`. -/
theorem exists_step_of_deferring {σ ε α : Type} [Stored σ] [StoredOnly σ] {r : Ref} {x : σ}
    (hAt : s.get? σ r = some x) (hPlace : op.place? s = some r) (hPlain : op.isBrief = false)
    {o : Outcome σ (Except ε α)} (hAccounted : o.Accounted x) {failure : ε → Failure}
    {answer : α → Answer}
    (hPerform : s.perform worker op.action = s.finishDeferring r o failure answer) :
    ∃ e : HandlerStep, e.op = op ∧ e.before = s ∧ e.Accounted worker := by
  have hDefers := defers_settleDeferring hAt hAccounted.takesOff
  rw [← hPlace] at hDefers
  have hEnd : ∀ {result : Result}, op.Reports result (!o.tasks.isEmpty) →
      s.finishDeferring r o failure answer =
        (s.settleDeferring r o, .answered result ⟨!o.tasks.isEmpty, false⟩) →
      ∃ e : HandlerStep, e.op = op ∧ e.before = s ∧ e.Accounted worker := by
    intro result hReports hFinish
    refine ⟨⟨op, s, s.settleDeferring r o, result, o.tasks⟩, rfl, rfl, ?_, hReports, hDefers⟩
    rw [hPerform, hFinish]
    show _ = (_, Step.answered _ ⟨_, op.isBrief && _⟩)
    rw [hPlain, Bool.false_and]
    rfl
  cases hAnswer : o.answer with
  | ok a =>
    refine hEnd (.ok op (answer a) _) ?_
    rw [Machine.finishDeferring, hAnswer]
  | error e =>
    have hReports : op.Reports (.errorDeferring (failure e) (!o.tasks.isEmpty))
        (!o.tasks.isEmpty) := by
      rw [hAccounted.spares e hAnswer]
      exact .error op _
    refine hEnd hReports ?_
    rw [Machine.finishDeferring, hAnswer]

/-- An operation on a named object, which may be missing. -/
theorem exists_step_of_onObject {σ : Type} [Stored σ] {id : Name}
    {act : Ref → σ → Machine × Step} (hPerform : s.perform worker op.action = s.onObject σ id act)
    (hPlace : op.place? s = (s.named? σ id).map (·.1))
    (hFound : ∀ r x, s.get? σ r = some x → op.place? s = some r →
      s.perform worker op.action = act r x →
      ∃ e : HandlerStep, e.op = op ∧ e.before = s ∧ e.Accounted worker) :
    ∃ e : HandlerStep, e.op = op ∧ e.before = s ∧ e.Accounted worker := by
  cases hAt : s.named? σ id with
  | none =>
    refine exists_step_of_finish ?_ (.missing op)
    rw [hPerform, Machine.onObject, hAt]
    rfl
  | some found =>
    obtain ⟨r, x⟩ := found
    rw [hAt] at hPlace
    rw [Machine.onObject_eq hAt] at hPerform
    exact hFound r x (Machine.get?_of_named? hAt) hPlace hPerform

/-- Each operation of a handler obeys the law, in every state. -/
theorem HandlerOp.exists_step (s : Machine) (worker : Worker) (op : HandlerOp) :
    ∃ e : HandlerStep, e.op = op ∧ e.before = s ∧ e.Accounted worker := by
  cases op with
  | queueSend id item brief =>
    refine exists_step_of_onObject (σ := Queue) rfl rfl fun r q hAt hPlace hPerform => ?_
    have hAccounted := q.accounted_sendNow item
    cases brief with
    | false => exact exists_step_of_deferring hAt hPlace rfl hAccounted hPerform
    | true =>
      -- the result says only whether the item was sent
      have hDefers := defers_settleDeferring hAt hAccounted.takesOff
      rw [← hPlace] at hDefers
      refine ⟨⟨_, s, s.settleDeferring r (q.sendNow item), _, (q.sendNow item).tasks⟩, rfl, rfl,
        hPerform, ?_, hDefers⟩
      show HandlerOp.Reports _ (.ok (.flag (q.sendNow item).answer.isOk)) (!_)
      cases hAnswer : (q.sendNow item).answer with
      | ok => exact .sent id item _
      | error e =>
        rw [hAccounted.spares e hAnswer]
        exact .notSent id item
  | queueOverwrite id item =>
    exact exists_step_of_onObject (σ := Queue) rfl rfl fun r q hAt hPlace hPerform =>
      exists_step_of_deferring hAt hPlace rfl (q.accounted_sendOverwriting item) hPerform
  | queueReceive id size =>
    exact exists_step_of_onObject (σ := Queue) rfl rfl fun r q hAt hPlace hPerform =>
      exists_step_of_deferring hAt hPlace rfl (q.accounted_receiveNow _) hPerform
  | streamSend id data =>
    exact exists_step_of_onObject (σ := ByteStream) rfl rfl fun r x hAt hPlace hPerform =>
      exists_step_of_deferring hAt hPlace rfl (x.accounted_sendNow data) hPerform
  | streamReceive id room =>
    exact exists_step_of_onObject (σ := ByteStream) rfl rfl fun r x hAt hPlace hPerform =>
      exists_step_of_deferring hAt hPlace rfl (x.accounted_receiveNow room) hPerform
  | setEvents id bits =>
    refine exists_step_of_onObject (σ := EventGroup) rfl rfl fun r g hAt hPlace hPerform => ?_
    cases hContract : s.contract (EventGroup.checkBits bits) with
    | error f =>
      rw [hContract] at hPerform
      exact exists_step_of_finish hPerform (.fault _ f)
    | ok =>
      rw [hContract] at hPerform
      exact exists_step_of_deferring hAt hPlace rfl
        ((g.takesOff_set bits).accounted fun now => now) hPerform
  | setSignal id value =>
    refine exists_step_of_onObject (σ := Signal Datum) rfl rfl fun r x hAt hPlace hPerform => ?_
    have hDefers := defers_settleDeferring hAt (x.takesOff_set value)
    rw [← hPlace] at hDefers
    exact ⟨⟨_, s, s.settleDeferring r (x.set value), _, (x.set value).tasks⟩, rfl, rfl, hPerform,
      .signal id value _, hDefers⟩

end

-- ---------------------------------------------------------------------------
-- The two ends of a handler
-- ---------------------------------------------------------------------------

/-- A kind of interrupt handler. -/
inductive Handler
  /-- It makes the deferred wakes good at its end only if it `yields`. -/
  | plain (yields : Bool)
  /-- A handler of the host, which always does. -/
  | host

namespace Handler

/-- The block that runs the handler. -/
def kind : Handler → BlockKind
  | plain yields => .interrupt yields
  | host => .hostInterrupt

/-- The block in the middle of the handler. -/
def block (cx : InterruptContext) : Handler → Block
  | plain yields => .interrupt yields cx
  | host => .hostInterrupt cx

def yields : Handler → Bool
  | plain yields => yields
  | host => true

/-- The machine with a worker inside the handler, or no longer. -/
def mark (s : Machine) (worker : Worker) (inside : Bool) : Handler → Machine
  | plain _ => { s with inHandler := inside }
  | host => { s with host := s.host.markHandler worker inside }

/-- The machine after the end of the handler; `due` if a wake was deferred. -/
def exit (h : Handler) (s : Machine) (worker : Worker) (due : Bool) : Machine :=
  if h.yields && due then (h.mark s worker false).yieldFromInterrupt else h.mark s worker false

/-- The result of the handler, from those of its operations. -/
def result (results : List Result) (cx : InterruptContext) (final : Machine) : Handler → Result
  | plain _ => .interrupt results cx cx.needWake
  | host => .hostInterrupt results cx.needWake final.host.kernel.deferred.length

variable (h : Handler) (s : Machine) (worker : Worker)

@[simp] theorem active_mark (inside : Bool) : (h.mark s worker inside).active = s.active := by
  cases h <;> rfl

@[simp] theorem log_mark (inside : Bool) : (h.mark s worker inside).log = s.log := by
  cases h <;> rfl

@[simp] theorem objects_mark (inside : Bool) : (h.mark s worker inside).objects = s.objects := by
  cases h <;> rfl

@[simp] theorem shows_mark (inside : Bool) : (h.mark s worker inside).shows = s.shows := by
  cases h <;> rfl

@[simp] theorem workerOf?_mark (inside : Bool) :
    (h.mark s worker inside).workerOf? = s.workerOf? := by
  cases h <;> rfl

@[simp] theorem rouse_mark (inside : Bool) : (h.mark s worker inside).rouse = s.rouse := by
  cases h <;> rfl

theorem exit_of_due {due : Bool} (hDue : (h.yields && due) = true) :
    h.exit s worker due = (h.mark s worker false).happened
      (s.active.deferred.foldl s.rouse { s.active with deferred := [] })
      (.yield :: s.active.deferred.map .wake) := by
  rw [exit, if_pos hDue, Machine.yieldFromInterrupt_eq, active_mark, rouse_mark]

theorem exit_of_not_due {due : Bool} (hDue : ¬ (h.yields && due) = true) :
    h.exit s worker due = h.mark s worker false := if_neg hDue

/-- The end of a handler changes no object. -/
@[simp] theorem objects_exit (due : Bool) : (h.exit s worker due).objects = s.objects := by
  by_cases hDue : (h.yields && due) = true
  · rw [exit_of_due h s worker hDue, Machine.objects_happened, objects_mark]
  · rw [exit_of_not_due h s worker hDue, objects_mark]

theorem openBlock_kind (body : List Command) :
    s.openBlock worker body h.kind =
      (h.mark s worker true, .opened (h.block .fresh)) := by
  cases h <;> rfl

theorem closeBlock_block (results : List Result) (cx : InterruptContext) :
    s.closeBlock worker results (h.block cx) =
      (h.exit s worker cx.needWake, h.result results cx (h.exit s worker cx.needWake)) := by
  cases h <;> rfl

end Handler

-- ---------------------------------------------------------------------------
-- A whole handler
-- ---------------------------------------------------------------------------

/-- The steps follow one another from `s` to `last`. -/
def Chained (s : Machine) : List HandlerStep → Machine → Prop
  | [], last => last = s
  | e :: steps, last => e.before = s ∧ Chained e.after steps last

/-- What the steps of a handler have gathered, after what was there before. -/
def gatheredBy (cx : InterruptContext) (steps : List HandlerStep) : InterruptContext :=
  steps.foldl (fun cx e => cx.merge e.gathered) cx

/-- What a handler has gathered is the disjunction over its steps. -/
theorem gatheredBy_eq (cx : InterruptContext) (steps : List HandlerStep) :
    gatheredBy cx steps =
      ⟨cx.needWake || steps.any (·.needWake),
        cx.flag || steps.any fun e => e.op.isBrief && e.needWake⟩ := by
  induction steps generalizing cx with
  | nil => simp [gatheredBy]
  | cons e steps ih =>
    show gatheredBy (cx.merge e.gathered) steps = _
    rw [ih]
    simp [InterruptContext.merge, HandlerStep.gathered, Bool.or_assoc]

/-- Any operations of a handler run one after the other, each by the law. -/
theorem exists_steps (s : Machine) (worker : Worker) (ops : List HandlerOp) :
    ∃ steps last, steps.map (·.op) = ops ∧ Chained s steps last ∧
      ∀ e ∈ steps, e.Accounted worker := by
  induction ops generalizing s with
  | nil => exact ⟨[], s, rfl, rfl, List.forall_mem_nil _⟩
  | cons op ops ih =>
    obtain ⟨e, rfl, rfl, hLawful⟩ := op.exists_step s worker
    obtain ⟨steps, last, rfl, hChained, hRest⟩ := ih e.after
    exact ⟨e :: steps, last, rfl, ⟨rfl, hChained⟩, List.forall_mem_cons.mpr ⟨hLawful, hRest⟩⟩

/-- The body of a handler runs the steps and gathers what they report. -/
theorem runFrames_steps {s last : Machine} {worker : Worker} (h : Handler)
    {steps : List HandlerStep} (hChained : Chained s steps last)
    (hLawful : ∀ e ∈ steps, e.Accounted worker) (cx : InterruptContext) (results : List Result)
    (frames : List Frame) :
    s.runFrames worker
        (⟨h.block cx, results, steps.map fun e => .action e.op.action⟩ :: frames) =
      last.runFrames worker
        (⟨h.block (gatheredBy cx steps), results ++ steps.map (·.result), []⟩ :: frames) := by
  induction steps generalizing s cx results with
  | nil =>
    obtain rfl := hChained
    rw [List.map_nil, List.map_nil, List.append_nil, gatheredBy, List.foldl_nil]
  | cons e steps ih =>
    obtain ⟨rfl, hChained⟩ := hChained
    obtain ⟨hLawful, hRest⟩ := List.forall_mem_cons.mp hLawful
    have hNext : addGathered e.gathered (recordTop e.result
          (⟨h.block cx, results, steps.map fun e => .action e.op.action⟩ :: frames)) =
        ⟨h.block (cx.merge e.gathered), results ++ [e.result],
          steps.map fun e => .action e.op.action⟩ :: frames := by
      cases h <;> rfl
    rw [List.map_cons, Machine.runFrames_answered hLawful.performed, hNext, ih hChained hRest,
      List.append_assoc]
    rfl

/-- A handler runs its steps between its two ends. -/
theorem runCommand_handler {s last : Machine} {worker : Worker} (h : Handler)
    {steps : List HandlerStep} (hChained : Chained (h.mark s worker true) steps last)
    (hLawful : ∀ e ∈ steps, e.Accounted worker) :
    s.runCommand worker (.block h.kind (steps.map fun e => .action e.op.action)) =
      (h.exit last worker (steps.any (·.needWake)),
        .finished (h.result (steps.map (·.result))
          ⟨steps.any (·.needWake), steps.any fun e => e.op.isBrief && e.needWake⟩
          (h.exit last worker (steps.any (·.needWake))))) := by
  have hGathered := gatheredBy_eq .fresh steps
  simp only [InterruptContext.fresh, Bool.false_or] at hGathered
  unfold Machine.runCommand
  rw [Machine.runFrames_opened (h.openBlock_kind s worker _),
    runFrames_steps h hChained hLawful, InterruptContext.fresh, hGathered,
    Machine.runFrames_closed (h.closeBlock_block last worker _ _)]
  exact Machine.runFrames_operation

variable {s last : Machine} {worker : Worker} {steps : List HandlerStep}

/-- The steps of a handler defer wakes, call wakers and change objects, and that is all. -/
theorem Chained.happened (hChained : Chained s steps last)
    (hLawful : ∀ e ∈ steps, e.Accounted worker) :
    ∃ objects, ∃ ns : List Notice, ns.filterMap Notice.task? = steps.flatMap (·.pended) ∧
      last = ({ s with objects } : Machine).happened
        { s.active with deferred := s.active.deferred ++ steps.flatMap (·.pended) }
        (ns.map Notice.deferral) := by
  induction steps generalizing s with
  | nil =>
    obtain rfl := hChained
    refine ⟨last.objects, [], rfl, ?_⟩
    rw [List.flatMap_nil, List.append_nil]
    exact last.happened_nil.symm
  | cons e steps ih =>
    obtain ⟨rfl, hChained⟩ := hChained
    obtain ⟨hLawful, hRest⟩ := List.forall_mem_cons.mp hLawful
    obtain ⟨objects, ns, hTasks, hAfter⟩ := hLawful.defers.happened
    obtain ⟨objects', ns', hTasks', rfl⟩ := ih hChained hRest
    refine ⟨objects', ns ++ ns', ?_, ?_⟩
    · rw [List.filterMap_append, hTasks, hTasks', List.flatMap_cons]
    · have hActive : e.after.active =
          { e.before.active with deferred := e.before.active.deferred ++ e.pended } := by
        rw [hAfter, Machine.active_happened]
      have hObjects : ({ e.after with objects := objects' } : Machine) =
          ({ e.before with objects := objects' } : Machine).happened e.after.active
            (ns.map Notice.deferral) := by
        rw [hActive, hAfter]
        rfl
      rw [hObjects, Machine.happened_happened, hActive, List.map_append, List.flatMap_cons,
        List.append_assoc]

/-- A registration is used up by one deferred wake. -/
theorem Chained.takenOff (hChained : Chained s steps last)
    (hLawful : ∀ e ∈ steps, e.Accounted worker) (r : Ref) :
    (s.registeredAt r).Perm
      ((steps.filter (·.place? = some r)).flatMap (·.pended) ++ last.registeredAt r) := by
  induction steps generalizing s with
  | nil =>
    obtain rfl := hChained
    exact .refl _
  | cons e steps ih =>
    obtain ⟨rfl, hChained⟩ := hChained
    obtain ⟨hLawful, hRest⟩ := List.forall_mem_cons.mp hLawful
    have hStep := hLawful.defers.takenOff r
    have hLater := ih hChained hRest
    by_cases hPlace : e.place? = some r
    · rw [if_pos hPlace] at hStep
      rw [List.filter_cons_of_pos (by simpa using hPlace), List.flatMap_cons, List.append_assoc]
      exact hStep.trans (hLater.append_left _)
    · rw [if_neg hPlace] at hStep
      rw [List.filter_cons_of_neg (by simpa using hPlace)]
      exact hStep.trans hLater

/-- What an interrupt handler comes to that begins in `s`, takes `steps` to `last` and leaves the
machine as `final`. -/
structure Handled (h : Handler) (worker : Worker) (s : Machine) (steps : List HandlerStep)
    (last final : Machine) : Prop where
  chained : Chained (h.mark s worker true) steps last
  lawful : ∀ e ∈ steps, e.Accounted worker
  /-- Before its end the handler has suspended and woken nobody. -/
  deferred : last.active =
    { s.active with deferred := s.active.deferred ++ steps.flatMap (·.pended) }
  /-- A registration is used up by one deferred wake. -/
  once : ∀ r, (s.registeredAt r).Perm
    ((steps.filter (·.place? = some r)).flatMap (·.pended) ++ final.registeredAt r)
  /-- The kernel is told to yield once if a wake is due at an end that yields, else never. -/
  log : ∃ ns : List Notice, ns.filterMap Notice.task? = steps.flatMap (·.pended) ∧
    final.log = s.log ++ (ns.map Notice.deferral ++
      if h.yields && steps.any (·.needWake) then
        Event.yield :: (s.active.deferred ++ steps.flatMap (·.pended)).map Event.wake
      else []).filter s.shows
  /-- Then nothing stays deferred, and every task whose wake was may go on. -/
  woken : (h.yields && steps.any (·.needWake)) = true → final.active.deferred = [] ∧
    ∀ t ∈ s.active.deferred ++ steps.flatMap (·.pended), ∀ w, s.workerOf? t = some w →
      final.active.GoesOn w

/-- The steps of a handler account for what it comes to. -/
theorem handled_of_steps (h : Handler) (hChained : Chained (h.mark s worker true) steps last)
    (hLawful : ∀ e ∈ steps, e.Accounted worker) :
    Handled h worker s steps last (h.exit last worker (steps.any (·.needWake))) := by
  obtain ⟨objects, ns, hTasks, hLast⟩ := hChained.happened hLawful
  have hActive : last.active =
      { s.active with deferred := s.active.deferred ++ steps.flatMap (·.pended) } := by
    rw [hLast, Machine.active_happened, h.active_mark]
  have hLog : last.log = s.log ++ (ns.map Notice.deferral).filter s.shows := by
    rw [hLast, Machine.log_happened]
    show (h.mark s worker true).log ++ List.filter (h.mark s worker true).shows _ = _
    rw [h.log_mark, h.shows_mark]
  have hShows : last.shows = s.shows := by
    rw [hLast, Machine.shows_happened]
    exact h.shows_mark s worker true
  have hWorkerOf : last.workerOf? = s.workerOf? := by
    rw [hLast]
    exact h.workerOf?_mark s worker true
  refine ⟨hChained, hLawful, hActive, fun r => ?_, ⟨ns, hTasks, ?_⟩, fun hDue => ?_⟩
  · have hOnce := hChained.takenOff hLawful r
    unfold Machine.registeredAt at hOnce ⊢
    rw [h.objects_mark] at hOnce
    rw [h.objects_exit]
    exact hOnce
  · by_cases hDue : (h.yields && steps.any (·.needWake)) = true
    · rw [h.exit_of_due last worker hDue, Machine.log_happened, h.log_mark, h.shows_mark, hLog,
        hShows, hActive, if_pos hDue, List.append_assoc, List.filter_append]
    · rw [h.exit_of_not_due last worker hDue, h.log_mark, hLog, if_neg hDue, List.append_nil]
  · rw [h.exit_of_due last worker hDue, Machine.active_happened, hActive]
    refine ⟨Machine.deferred_foldl_rouse _ _, fun t hMem w hWorker => ?_⟩
    rw [← hWorkerOf] at hWorker
    exact Machine.goesOn_of_woken hMem hWorker

/-- Any handler, in every state, accounts for the wakes it defers. -/
theorem handler_accounts (s : Machine) (worker : Worker) (h : Handler) (ops : List HandlerOp) :
    ∃ steps last, steps.map (·.op) = ops ∧
      Handled h worker s steps last (h.exit last worker (steps.any (·.needWake))) ∧
      s.runCommand worker (.block h.kind (ops.map fun op => .action op.action)) =
        (h.exit last worker (steps.any (·.needWake)),
          .finished (h.result (steps.map (·.result))
            ⟨steps.any (·.needWake), steps.any fun e => e.op.isBrief && e.needWake⟩
            (h.exit last worker (steps.any (·.needWake))))) := by
  obtain ⟨steps, last, rfl, hChained, hLawful⟩ := exists_steps (h.mark s worker true) worker ops
  refine ⟨steps, last, rfl, handled_of_steps h hChained hLawful, ?_⟩
  rw [List.map_map]
  exact runCommand_handler h hChained hLawful

end TaskSync
