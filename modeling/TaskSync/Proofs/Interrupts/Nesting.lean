import TaskSync.Proofs.Interrupts.Handlers

/-!
# TaskSync — interrupts inside interrupt handlers of the host

An interrupt handler of the host may be interrupted itself, between any two of its
steps and to any depth (`Routine`). The host has one flag for a worker that says
whether it is in a handler: the beginning of a handler raises it and the end lowers
it, that of a nested handler too. So the host says that the worker is in a handler
as long as no handler has ended inside the one that it is in, and denies it from
then on to the end of that handler (`Routine.Tells`). The wakes are another
matter: the end of a handler that has deferred any makes good all that are deferred,
those of the handlers around it included.

* `Routine.Tells` — what a handler is told, and who stays deferred.
* `Routine.Tells.left_suffix` — the wakes of handlers that have ended are not among them.

Main result:

* `interrupted_run` — what an interrupt of the host comes to, with all that are
  nested in it.
-/

namespace TaskSync

/-- What an interrupt handler of the host does, step by step. -/
inductive Routine
  | done
  | step (op : HandlerOp) (rest : Routine)
  /-- Asks the kernel whether the worker is in an interrupt handler. -/
  | ask (rest : Routine)
  /-- Is interrupted by a handler that does `inner`. -/
  | interrupted (inner rest : Routine)

namespace Routine

/-- The commands that a machine is given for it. -/
def commands : Routine → List Command
  | done => []
  | step op rest => .action op.action :: rest.commands
  | ask rest => .action (.kernel .inInterrupt) :: rest.commands
  | interrupted inner rest => .block .hostInterrupt inner.commands :: rest.commands

/-- The wakes that stay deferred at the end of a handler that has deferred `own`, of `left`. -/
def settled (own left : List TaskId) : List TaskId := if own = [] then left else []

/-- `Tells inside pending routine results own left`: a routine that begins when the host says
`inside` and has deferred the wakes of `pending` has these results, defers the wakes of `own` by
itself, and leaves those of `left` deferred. -/
inductive Tells : Bool → List TaskId → Routine → List Result → List TaskId → List TaskId → Prop
  | done {inside : Bool} {pending : List TaskId} : Tells inside pending done [] [] pending
  | step {inside : Bool} {pending pended own left : List TaskId} {op : HandlerOp} {r : Result}
      {rest : Routine} {results : List Result} (hReports : op.Reports r (!pended.isEmpty))
      (hRest : Tells inside (pending ++ pended) rest results own left) :
      Tells inside pending (step op rest) (r :: results) (pended ++ own) left
  | ask {inside : Bool} {pending own left : List TaskId} {rest : Routine} {results : List Result}
      (hRest : Tells inside pending rest results own left) :
      Tells inside pending (ask rest) (.ok (.flag inside) :: results) own left
  /-- A nested handler is in a handler, and when it has ended the host says of nobody that he is. -/
  | interrupted {inside : Bool} {pending own left own' left' : List TaskId} {inner rest : Routine}
      {results results' : List Result} (hInner : Tells true pending inner results' own' left')
      (hRest : Tells false (settled own' left') rest results own left) :
      Tells inside pending (interrupted inner rest)
        (.hostInterrupt results' (!own'.isEmpty) (settled own' left').length :: results) own left

variable {inside : Bool} {pending own left : List TaskId} {routine : Routine}
  {results : List Result}

/-- At the end of a handler only those stay deferred that were before, if what else there is
are its own. -/
theorem settled_suffix (h : left <:+ pending ++ own) : settled own left <:+ pending := by
  unfold settled
  split
  · rename_i hNobody
    rwa [hNobody, List.append_nil] at h
  · exact List.nil_suffix

/-- What stays deferred was deferred before or by the routine itself: the wakes of the handlers
that have ended inside it are not there any longer. -/
theorem Tells.left_suffix (h : Tells inside pending routine results own left) :
    left <:+ pending ++ own := by
  induction h with
  | done => rw [List.append_nil]
  | step hReports hRest ih =>
    rw [List.append_assoc] at ih
    exact ih
  | ask hRest ih => exact ih
  | @interrupted _ pending own left own' left' _ _ _ _ hInner hRest ihInner ihRest =>
    obtain ⟨gone, rfl⟩ := settled_suffix ihInner
    rw [List.append_assoc]
    exact ihRest.trans (List.suffix_append _ _)

end Routine

-- ---------------------------------------------------------------------------
-- What the machine does
-- ---------------------------------------------------------------------------

section

variable {s : Machine} {worker : Worker}

/-- What the host says of a worker. -/
theorem contains_mark (s : Machine) (worker : Worker) (inside : Bool) :
    (Handler.host.mark s worker inside).host.inHandler.contains worker = inside := by
  cases inside <;> simp [Handler.mark, Host.markHandler]

/-- The host is the active kernel where it is installed. -/
theorem active_of_onHost (hHost : s.onHost = true) : s.active = s.host.kernel := if_pos hHost

/-- The end of a handler of the host that has deferred the wakes of `own`. -/
theorem host_exit (s : Machine) (worker : Worker) (own : List TaskId) :
    (Handler.host.exit s worker (!own.isEmpty)).host.inHandler.contains worker = false ∧
      (Handler.host.exit s worker (!own.isEmpty)).onHost = s.onHost ∧
      (Handler.host.exit s worker (!own.isEmpty)).active.deferred =
        Routine.settled own s.active.deferred := by
  cases own with
  | nil =>
    rw [Handler.host.exit_of_not_due s worker (by decide)]
    exact ⟨contains_mark s worker false, rfl, congrArg Kernel.deferred (Handler.active_mark ..)⟩
  | cons t own =>
    have hDue : (Handler.host.yields && !(t :: own).isEmpty) = true := rfl
    rw [Handler.host.exit_of_due s worker hDue]
    refine ⟨contains_mark s worker false, rfl, ?_⟩
    rw [Machine.active_happened, Machine.deferred_foldl_rouse]
    rfl

/-- The frames of a worker that begins a routine in a handler of the host come to those at its end,
with the results `told`. -/
structure Routine.RunsTo (routine : Routine) (worker : Worker) (s last : Machine)
    (told : List Result) (own : List TaskId) : Prop where
  tells : routine.Tells (s.host.inHandler.contains worker) s.active.deferred told own
    last.active.deferred
  onHost : last.onHost = true
  frames : ∀ cx results frames, ∃ cx', cx'.needWake = (cx.needWake || !own.isEmpty) ∧
    s.runFrames worker (⟨.hostInterrupt cx, results, routine.commands⟩ :: frames) =
      last.runFrames worker (⟨.hostInterrupt cx', results ++ told, []⟩ :: frames)

namespace Routine

variable {last : Machine} {rest : Routine} {told : List Result} {own : List TaskId}

/-- An operation, and the rest of the routine after it. -/
theorem RunsTo.step {e : HandlerStep} (hLawful : e.Accounted worker)
    (hRest : rest.RunsTo worker e.after last told own) :
    (Routine.step e.op rest).RunsTo worker e.before last (e.result :: told) (e.pended ++ own) := by
  obtain ⟨objects, ns, -, hAfter⟩ := hLawful.defers.happened
  have hTells := hRest.tells
  rw [hAfter, Machine.active_happened] at hTells
  refine ⟨.step hLawful.reports hTells, hRest.onHost, fun cx results frames => ?_⟩
  obtain ⟨cx', hGathered, hFrames⟩ :=
    hRest.frames (cx.merge e.gathered) (results ++ [e.result]) frames
  refine ⟨cx', ?_, ?_⟩
  · have hBoth : (e.pended ++ own).isEmpty = (e.pended.isEmpty && own.isEmpty) := by
      cases e.pended <;> rfl
    rw [hGathered, hBoth, Bool.not_and, ← Bool.or_assoc]
    rfl
  · rw [commands, Machine.runFrames_answered hLawful.performed]
    show e.after.runFrames worker
      (⟨.hostInterrupt (cx.merge e.gathered), results ++ [e.result], rest.commands⟩ :: frames) = _
    rw [hFrames, List.append_assoc]
    rfl

/-- A question, and the rest of the routine after it. -/
theorem RunsTo.ask (hHost : s.onHost = true) (hRest : rest.RunsTo worker s last told own) :
    (Routine.ask rest).RunsTo worker s last
      (.ok (.flag (s.host.inHandler.contains worker)) :: told) own := by
  have hPerform : s.perform worker (.kernel .inInterrupt) =
      (s, .answered (.ok (.flag (s.host.inHandler.contains worker))) .fresh) := by
    have hInstalled : s.installed = some .host := beq_iff_eq.mp hHost
    simp [Machine.perform, Machine.performKernel, Machine.askKernel, Machine.finish, Step.plain,
      Machine.inInterrupt, hHost, hInstalled]
  refine ⟨.ask hRest.tells, hRest.onHost, fun cx results frames => ?_⟩
  have hSame : cx.merge .fresh = cx := by simp [InterruptContext.merge, InterruptContext.fresh]
  obtain ⟨cx', hGathered, hFrames⟩ := hRest.frames cx
    (results ++ [.ok (.flag (s.host.inHandler.contains worker))]) frames
  refine ⟨cx', hGathered, ?_⟩
  rw [List.append_assoc] at hFrames
  rw [commands, Machine.runFrames_answered hPerform]
  show s.runFrames worker (⟨.hostInterrupt (cx.merge .fresh), _, rest.commands⟩ :: frames) = _
  rw [hSame]
  exact hFrames

/-- A handler that does the routine, from its beginning to its end, in any frame. -/
theorem RunsTo.handled {routine : Routine}
    (h : routine.RunsTo worker (Handler.host.mark s worker true) last told own) (block : Block)
    (results : List Result) (after : List Command) (frames : List Frame) :
    s.runFrames worker (⟨block, results, .block .hostInterrupt routine.commands :: after⟩ ::
        frames) =
      (Handler.host.exit last worker (!own.isEmpty)).runFrames worker
        (⟨block, results ++ [.hostInterrupt told (!own.isEmpty)
          (settled own last.active.deferred).length], after⟩ :: frames) := by
  obtain ⟨-, hExitHost, hSettled⟩ := host_exit last worker own
  rw [active_of_onHost (hExitHost.trans h.onHost)] at hSettled
  obtain ⟨cx, hGathered, hFrames⟩ := h.frames .fresh [] (⟨block, results, after⟩ :: frames)
  have hDue : cx.needWake = !own.isEmpty := hGathered
  have hClose := Handler.host.closeBlock_block last worker told cx
  rw [hDue, Handler.result, hDue, hSettled] at hClose
  have hOpen := Handler.host.openBlock_kind s worker routine.commands
  exact ((Machine.runFrames_opened hOpen).trans hFrames).trans (Machine.runFrames_closed hClose _)

/-- A nested handler, and the rest of the routine after it. -/
theorem RunsTo.interrupted {inner : Routine} {mid : Machine} {told' : List Result}
    {own' : List TaskId}
    (hInner : inner.RunsTo worker (Handler.host.mark s worker true) mid told' own')
    (hRest : rest.RunsTo worker (Handler.host.exit mid worker (!own'.isEmpty)) last told own) :
    (Routine.interrupted inner rest).RunsTo worker s last
      (.hostInterrupt told' (!own'.isEmpty) (settled own' mid.active.deferred).length :: told)
      own := by
  obtain ⟨hLowered, -, hSettled⟩ := host_exit mid worker own'
  have hInnerTells := hInner.tells
  rw [contains_mark, Handler.active_mark] at hInnerTells
  have hRestTells := hRest.tells
  rw [hLowered, hSettled] at hRestTells
  refine ⟨.interrupted hInnerTells hRestTells, hRest.onHost, fun cx results frames => ?_⟩
  obtain ⟨cx', hGathered, hFrames⟩ := hRest.frames cx (results ++
    [.hostInterrupt told' (!own'.isEmpty) (settled own' mid.active.deferred).length]) frames
  refine ⟨cx', hGathered, ?_⟩
  rw [commands, hInner.handled, hFrames, List.append_assoc]
  rfl

/-- Any routine is carried out by the machine. -/
theorem exists_runsTo (routine : Routine) (s : Machine) (worker : Worker)
    (hHost : s.onHost = true) : ∃ last told own, routine.RunsTo worker s last told own := by
  induction routine generalizing s with
  | done =>
    refine ⟨s, [], [], .done, hHost, fun cx results frames => ⟨cx, ?_, ?_⟩⟩
    · simp
    · rw [List.append_nil]
      rfl
  | step op rest ih =>
    obtain ⟨e, rfl, rfl, hLawful⟩ := op.exists_step s worker
    obtain ⟨objects, ns, -, hAfter⟩ := hLawful.defers.happened
    have hAfterHost : e.after.onHost = true := by
      rw [hAfter]
      exact hHost
    obtain ⟨last, told, own, hRest⟩ := ih e.after hAfterHost
    exact ⟨last, _, _, hRest.step hLawful⟩
  | ask rest ih =>
    obtain ⟨last, told, own, hRest⟩ := ih s hHost
    exact ⟨last, _, _, hRest.ask hHost⟩
  | interrupted inner rest ihInner ihRest =>
    obtain ⟨mid, told', own', hInner⟩ := ihInner (Handler.host.mark s worker true) hHost
    obtain ⟨last, told, own, hRest⟩ := ihRest (Handler.host.exit mid worker (!own'.isEmpty))
      ((host_exit mid worker _).2.1.trans hInner.onHost)
    exact ⟨last, _, _, hInner.interrupted hRest⟩

end Routine

-- ---------------------------------------------------------------------------
-- A whole interrupt
-- ---------------------------------------------------------------------------

/-- An interrupt of the host that begins in `s`, whose handler has the results `told`, defers the
wakes of `own` by itself, and leaves the machine as `final`. -/
structure Interrupted (routine : Routine) (worker : Worker) (s final : Machine)
    (told : List Result) (own : List TaskId) : Prop where
  tells : ∃ left, routine.Tells true s.host.kernel.deferred told own left ∧
    final.host.kernel.deferred = Routine.settled own left
  /-- Who stays deferred was deferred before the interrupt. -/
  suffix : final.host.kernel.deferred <:+ s.host.kernel.deferred
  outside : final.inInterrupt worker = false
  runs : s.runCommand worker (.block .hostInterrupt routine.commands) =
    (final, .finished (.hostInterrupt told (!own.isEmpty) final.host.kernel.deferred.length))

/-- An interrupt of the host, with whatever is nested in its handler. -/
theorem interrupted_run (hHost : s.onHost = true) (routine : Routine) (worker : Worker) :
    ∃ final told own, Interrupted routine worker s final told own := by
  have hMarked : (Handler.host.mark s worker true).onHost = true := hHost
  obtain ⟨last, told, own, hRuns⟩ := routine.exists_runsTo _ worker hMarked
  obtain ⟨hLowered, hExitHost, hSettled⟩ := host_exit last worker own
  have hFinalHost := hExitHost.trans hRuns.onHost
  rw [active_of_onHost hFinalHost] at hSettled
  have hTells := hRuns.tells
  rw [contains_mark, Handler.active_mark, active_of_onHost hHost] at hTells
  refine ⟨Handler.host.exit last worker (!own.isEmpty), told, own, ⟨_, hTells, hSettled⟩, ?_, ?_,
    ?_⟩
  · rw [hSettled]
    exact Routine.settled_suffix hTells.left_suffix
  · rw [Machine.inInterrupt, if_pos hFinalHost]
    exact hLowered
  · unfold Machine.runCommand
    rw [hRuns.handled, hSettled]
    exact Machine.runFrames_operation

end

/-- A machine on the host with an event group at which task 5 waits for the first bit. -/
def attended : Machine :=
  (Machine.boot true (some .host) 0).create "g"
    (⟨0, [⟨⟨5⟩, EventGroup.barrierWish 1, none⟩]⟩ : EventGroup)

/-- A handler that asks, is interrupted by one that asks and wakes the task, and asks again. -/
def asksThrice : Routine :=
  .ask (.interrupted (.ask (.step (.setEvents "g" 1) .done)) (.ask .done))

theorem interrupted_run_asksThrice : attended.onHost = true ∧
    ∃ final r due left own, Interrupted asksThrice 0 attended final
      [.ok (.flag true), .hostInterrupt [.ok (.flag true), r] due left, .ok (.flag false)] own ∧
      final.host.kernel.deferred = [] := by
  obtain ⟨final, told, own, hRun⟩ := interrupted_run (s := attended) rfl asksThrice 0
  have hNobody : final.host.kernel.deferred = [] := List.suffix_nil.mp hRun.suffix
  obtain ⟨left, hTells, -⟩ := hRun.tells
  cases hTells with | ask hTells =>
  cases hTells with | interrupted hInner hRest =>
  cases hInner with | ask hInner =>
  cases hInner with | step hReports hInner =>
  cases hInner
  cases hRest with | ask hRest =>
  cases hRest
  exact ⟨rfl, final, _, _, _, _, hRun, hNobody⟩

/-- The host denies that a worker is in a handler when another handler has ended inside it. -/
theorem denied_inside_handler :
    ((Machine.boot true (some .host) 0).runCommand 0 (.block .hostInterrupt
      [.block .hostInterrupt [], .action (.kernel .inInterrupt)])).2 =
    .finished (.hostInterrupt [.hostInterrupt [] false 0, .ok (.flag false)] false 0) := by
  obtain ⟨last, told, own, hRuns⟩ := (Routine.interrupted .done (.ask .done)).exists_runsTo
    (Handler.host.mark (.boot true (some .host) 0) 0 true) 0 rfl
  have hFrames := hRuns.handled .operation [] [] []
  have hTells := hRuns.tells
  generalize last.active.deferred = left at hTells hFrames
  cases hTells with | interrupted hInner hRest =>
  cases hInner
  cases hRest with | ask hRest =>
  cases hRest
  unfold Machine.runCommand
  exact congrArg Prod.snd (hFrames.trans Machine.runFrames_operation)

end TaskSync
