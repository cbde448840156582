import TaskSync.Proofs.ByteStream.Delivery
import TaskSync.Proofs.Interrupts.Handlers

/-!
# TaskSync — handlers and tasks agree

Some operations come in two forms (`Twin`): an interrupt handler takes a step on
the object and defers the wakes to its end; a task makes a call that does not
wait. The call runs the loop of all blocking calls, whose only look is its last,
so it serves, gives up and leaves the wait lists in ways of its own.

Main result:

* `twins_agree` — the two come to the same, in every state of the object: result,
  object, wakers called, tasks woken and their order.
-/

namespace TaskSync

-- ---------------------------------------------------------------------------
-- The look of a call that does not wait
-- ---------------------------------------------------------------------------

namespace Queue

variable {q : Queue} {t : TaskId}

/-- A send that does not wait is the handler's step. -/
theorem round_send_zero {item : List UInt8} (hSize : q.checkSize item.length = .ok ())
    (hOut : t ∉ q.senders.tasks) (now : Ticks) :
    (Waiting.start (⟨item⟩ : Send) 0 now).round now t q = (q.sendNow item).map .finished := by
  have hOver := Waiting.isOver_start_zero (⟨item⟩ : Send) now
  have hLeft : { q with senders := q.senders.remove t } = q := by
    rw [WaitList.remove_of_not_mem hOut]
  rw [Waiting.round_of_over hOver, Waiting.lastLook, sendNow, hSize]
  cases hFull : q.isFull with
  | true => simp [Blocks.serve, Blocks.leave, Blocks.giveUp, hFull, hLeft, Waiting.start]
  | false => simp [Blocks.serve, hFull, hLeft, Waiting.start]

/-- A receive that does not wait is the handler's step. -/
theorem round_receive_zero {size : Nat} (hSize : q.checkSize size = .ok ())
    (hOut : t ∉ q.receivers.tasks) (now : Ticks) :
    (Waiting.start ({} : Receive) 0 now).round now t q = (q.receiveNow size).map .finished := by
  have hOver := Waiting.isOver_start_zero ({} : Receive) now
  have hLeft : { q with receivers := q.receivers.remove t } = q := by
    rw [WaitList.remove_of_not_mem hOut]
  rw [Waiting.round_of_over hOver, Waiting.lastLook, receiveNow, hSize]
  cases hEmpty : q.isEmpty with
  | true => simp [Blocks.serve, Blocks.leave, Blocks.giveUp, hEmpty, hLeft, Waiting.start]
  | false => simp [Blocks.serve, hEmpty, hLeft]

end Queue

namespace ByteStream

variable {s : ByteStream} {t : TaskId}

theorem dropSender_of_not_mem (hOut : t ∉ s.senders.tasks) : s.dropSender t = s := by
  rw [dropSender, WaitList.remove_of_not_mem hOut]

theorem dropReceiver_of_not_mem (hOut : t ∉ s.receivers.tasks) : s.dropReceiver t = s := by
  rw [dropReceiver, WaitList.remove_of_not_mem hOut]

/-- A stream is full if it has no space. -/
theorem isFull_iff (hValid : s.ring.Valid) : s.ring.isFull = true ↔ s.space = 0 := by
  have hLe := hValid.length_le
  rw [ByteRing.isFull, beq_iff_eq, space, ByteRing.space]
  omega

/-- A send that does not wait is the handler's step: it is content with part of its bytes, and with
no space if it has none. -/
theorem round_send_zero {data : List UInt8} (hValid : s.ring.Valid) (hPos : 0 < s.capacity)
    (hOut : t ∉ s.senders.tasks) (now : Ticks) :
    (Waiting.start (⟨data⟩ : Send) 0 now).round now t s = (s.sendNow data).map .finished := by
  have hOver := Waiting.isOver_start_zero (⟨data⟩ : Send) now
  have hLeft := dropSender_of_not_mem hOut
  rw [Waiting.round_of_over hOver, Waiting.lastLook]
  rcases serve_send_cases ⟨data⟩ ⟨t, false, true⟩ s with
    ⟨hClosed, hServe⟩ | ⟨hOpen, hFits, hServe⟩ | ⟨hOpen, hShort, hNone, hServe⟩
  · rw [hLeft] at hServe
    rw [sendNow, if_pos hClosed]
    simp only [Waiting.start, hServe]
  · have hRoom : ¬ (!data.isEmpty && s.ring.isFull) = true := by
      intro hRefused
      obtain ⟨hSome, hFull⟩ := Bool.and_eq_true_iff.mp hRefused
      have hNone := (isFull_iff hValid).mp hFull
      have hShort := (space_lt_needed_iff hPos hNone).mpr (by simpa using hSome)
      simp only [true_and] at hFits
      omega
    rw [hLeft] at hServe
    rw [sendNow, if_neg (Bool.eq_false_iff.mp hOpen), if_neg hRoom]
    simp only [Waiting.start, hServe]
  · have hNone := hNone rfl
    have hSome := (space_lt_needed_iff hPos hNone).mp hShort
    have hRefused : (!data.isEmpty && s.ring.isFull) = true := by
      simp [hSome, (isFull_iff hValid).mpr hNone]
    rw [sendNow, if_neg (Bool.eq_false_iff.mp hOpen), if_pos hRefused]
    simp only [Waiting.start, hServe]
    show Outcome.map _ (.still (s.dropSender t) (Except.error StreamError.full)) = _
    rw [hLeft]

/-- A receive that does not wait is the handler's step: it takes whatever there is. -/
theorem round_receive_zero (room : Nat) (hOut : t ∉ s.receivers.tasks) (now : Ticks) :
    (Waiting.start (⟨room⟩ : Receive) 0 now).round now t s = (s.receiveNow room).map .finished := by
  have hOver := Waiting.isOver_start_zero (⟨room⟩ : Receive) now
  have hLeft := dropReceiver_of_not_mem hOut
  rw [Waiting.round_of_over hOver, Waiting.lastLook, receiveNow]
  rcases serve_receive_cases ⟨room⟩ ⟨t, false, true⟩ s with
    ⟨hReady, hServe⟩ | ⟨hNotReady, hNone, hServe⟩
  · rw [hLeft] at hServe
    simp only [Waiting.start, hServe]
    cases hEmpty : s.ring.isEmpty with
    | true =>
      -- only a closed stream serves without bytes
      have hClosed : s.closed = true := by simpa [readable, hEmpty] using hReady
      rw [take_of_isEmpty hEmpty, if_pos rfl, if_pos hClosed]
    | false => simp
  · have hEmpty := hNone rfl
    have hOpen : s.closed = false := by simpa [readable, hEmpty] using hNotReady
    simp only [Waiting.start, hServe, hEmpty, hOpen]
    show Outcome.map _ (.still (s.dropReceiver t) (Except.error StreamError.empty)) = _
    rw [hLeft]
    rfl

end ByteStream

-- ---------------------------------------------------------------------------
-- The machine with a worker that has a number
-- ---------------------------------------------------------------------------

namespace Machine

variable {s s' : Machine} {worker : Worker}

/-- What a worker's asking for its number changes is nothing to other tasks. -/
structure Peer (s s' : Machine) (ts : List TaskId) : Prop where
  installed : s'.installed = s.installed
  objects : s'.objects = s.objects
  active : s'.active = s.active
  log : s'.log = s.log
  workerOf : ∀ t ∈ ts, s'.workerOf? t = s.workerOf? t

theorem Peer.refl (s : Machine) (ts : List TaskId) : Peer s s ts :=
  ⟨rfl, rfl, rfl, rfl, fun _ _ => rfl⟩

/-- A worker's asking for its number changes nothing but that number. -/
theorem peer_currentTask {ts : List TaskId} (hOut : (s.currentTask worker).2 ∉ ts) :
    Peer s (s.currentTask worker).1 ts := by
  rcases s.currentTask_cases worker with hSame | hNumbered
  · rw [hSame]
    exact .refl s ts
  · rw [hNumbered]
    refine ⟨rfl, rfl, rfl, rfl, fun t hMem => ?_⟩
    have hNe : (s.currentTask worker).2 ≠ t := fun h => hOut (h ▸ hMem)
    have hFind : (s.host.numbered ++ [(worker, (s.currentTask worker).2)]).find? (·.2 == t) =
        s.host.numbered.find? (·.2 == t) := by
      rw [List.find?_append, List.find?_singleton]
      simp [hNe]
    unfold workerOf? Host.worker?
    show (if s.onHost then _ else _) = _
    rw [hFind]

/-- Two runs have come to the same: the objects, the kernel with its workers, the wakers that were
called and the tasks that were woken. -/
structure Agrees (a b : Machine) : Prop where
  objects : a.objects = b.objects
  active : a.active = b.active
  called : a.log.filterMap Event.called? = b.log.filterMap Event.called?
  woken : a.log.filterMap Event.woken? = b.log.filterMap Event.woken?

-- ---------------------------------------------------------------------------
-- One step, taken by a handler and by a task
-- ---------------------------------------------------------------------------

/-- What happens at the end of a handler that has deferred the wakes of `ts`. -/
def exitEvents (ts : List TaskId) : List Event :=
  if ts = [] then [] else .yield :: ts.map .wake

/-- A handler that finds no wake deferred makes its own wakes good and no others. -/
theorem exit_of_deferred (worker : Worker) {last : Machine} {k : Kernel} {ts : List TaskId}
    (hActive : last.active = { k with deferred := ts }) (hNone : k.deferred = []) :
    ((Handler.plain true).exit last worker (!ts.isEmpty)).active = ts.foldl last.rouse k ∧
      ((Handler.plain true).exit last worker (!ts.isEmpty)).log =
        last.log ++ (exitEvents ts).filter last.shows := by
  have hFresh : ({ k with deferred := [] } : Kernel) = k := by rw [← hNone]
  cases ts with
  | nil =>
    rw [Handler.exit_of_not_due _ _ _ (by simp), Handler.active_mark, Handler.log_mark, hActive,
      hFresh]
    exact ⟨rfl, (List.append_nil _).symm⟩
  | cons t ts =>
    rw [Handler.exit_of_due _ _ _ (by simp [Handler.yields]), active_happened, log_happened,
      Handler.log_mark, Handler.shows_mark, hActive, hFresh]
    exact ⟨rfl, rfl⟩

/-- What is read off the events that show. -/
theorem filterMap_shown {α : Type} (s : Machine) (f : Event → Option α) (events : List Event) :
    (events.filter s.shows).filterMap f =
      events.filterMap fun e => if s.shows e then f e else none :=
  List.filterMap_filter

/-- The wakers that a handler calls are those that a task calls. -/
theorem called_deferral (s : Machine) (ns : List Notice) :
    ((ns.map Notice.deferral).filter s.shows).filterMap Event.called? =
      ((ns.map Notice.event).filter s.shows).filterMap Event.called? := by
  rw [filterMap_shown, filterMap_shown, List.filterMap_map, List.filterMap_map]
  congr 1
  funext n
  cases n with
  | waker w => rfl
  | task t => exact (ite_self none).trans (ite_self none).symm

/-- Before its end a handler wakes nobody. -/
theorem woken_deferral (s : Machine) (ns : List Notice) :
    ((ns.map Notice.deferral).filter s.shows).filterMap Event.woken? = [] := by
  rw [filterMap_shown, List.filterMap_map, List.filterMap_eq_nil_iff]
  intro n _
  have hNobody : (Notice.deferral n).woken? = none := by cases n <;> rfl
  show (if s.shows (Notice.deferral n) then (Notice.deferral n).woken? else none) = none
  rw [hNobody, ite_self]

/-- The end of a handler calls no waker. -/
theorem called_exitEvents (s : Machine) (ts : List TaskId) :
    ((exitEvents ts).filter s.shows).filterMap Event.called? = [] := by
  rw [filterMap_shown, List.filterMap_eq_nil_iff]
  intro e hMem
  have hNobody : e.called? = none := by
    unfold exitEvents at hMem
    split at hMem
    · cases hMem
    · rcases List.mem_cons.mp hMem with rfl | hMem
      · rfl
      · obtain ⟨t, -, rfl⟩ := List.mem_map.mp hMem
        rfl
  rw [hNobody, ite_self]

/-- The end of a handler wakes the tasks that a task wakes, in the same order. -/
theorem woken_exitEvents (s : Machine) (ns : List Notice) :
    ((exitEvents (ns.filterMap Notice.task?)).filter s.shows).filterMap Event.woken? =
      ((ns.map Notice.event).filter s.shows).filterMap Event.woken? := by
  have hEvents : ((exitEvents (ns.filterMap Notice.task?)).filter s.shows).filterMap Event.woken? =
      (((ns.filterMap Notice.task?).map Event.wake).filter s.shows).filterMap Event.woken? := by
    unfold exitEvents
    split
    · rename_i hNobody
      rw [hNobody, List.map_nil]
    · rw [List.filter_cons]
      split <;> rfl
  rw [hEvents, filterMap_shown, filterMap_shown, List.filterMap_map, List.filterMap_map,
    List.filterMap_filterMap]
  congr 1
  funext n
  cases n with
  | waker w =>
    show none = if s.shows (.waker w) then none else (none : Option TaskId)
    rw [ite_self]
  | task t => rfl

/-- A step that a handler takes, with its end, agrees with the same step of a task. -/
theorem agrees_settle {σ α β : Type} [Stored σ] {r : Ref} {o : Outcome σ α} {o' : Outcome σ β}
    (hPeer : Peer s s' o.tasks) (hNone : s.active.deferred = []) (hObject : o'.object = o.object)
    (hNotices : o'.notices = o.notices) :
    Agrees
      ((Handler.plain true).exit (((Handler.plain true).mark s worker true).settleDeferring r o)
        worker (!o.tasks.isEmpty))
      (s'.settle r o') := by
  have hTasks : o'.tasks = o.tasks := congrArg (List.filterMap Notice.task?) hNotices
  have hShows : s'.shows = s.shows := by
    funext e
    simp only [shows, isSimulated, hPeer.installed]
  generalize hLast : ((Handler.plain true).mark s worker true).settleDeferring r o = last
  rw [settleDeferring_eq, Handler.active_mark, hNone, List.nil_append] at hLast
  have hLastActive : last.active = { s.active with deferred := o.tasks } := by
    rw [← hLast, active_happened]
  obtain ⟨hExitActive, hExitLog⟩ := exit_of_deferred worker hLastActive hNone
  have hTask : (s'.settle r o').log = s.log ++ (o.notices.map Notice.event).filter s.shows := by
    rw [settle_eq, log_happened, ← hShows, ← hPeer.log, hNotices]
    rfl
  refine ⟨?_, ?_, ?_, ?_⟩
  · rw [Handler.objects_exit, ← hLast, settle_eq, objects_happened, objects_happened]
    show (s.put r o.object).objects = (s'.put r o'.object).objects
    rw [put, put, hPeer.objects, hObject]
  · rw [hExitActive, ← hLast, settle_eq, active_happened, hTasks, hPeer.active,
      foldl_rouse_congr hPeer.workerOf]
    rfl
  · rw [hTask, hExitLog, List.filterMap_append, List.filterMap_append, called_exitEvents,
      List.append_nil, ← called_deferral, ← List.filterMap_append, ← hLast]
    rfl
  · have hLastLog : last.log = s.log ++ (o.notices.map Notice.deferral).filter s.shows := by
      rw [← hLast]
      rfl
    have hLastShows : last.shows = s.shows := by
      rw [← hLast]
      rfl
    rw [hTask, hExitLog, hLastLog, hLastShows, List.filterMap_append, List.filterMap_append,
      List.filterMap_append, woken_deferral, List.append_nil, Outcome.tasks, woken_exitEvents]

end Machine

-- ---------------------------------------------------------------------------
-- The two runs
-- ---------------------------------------------------------------------------

/-- An operation that an interrupt handler and a task both have. -/
inductive Twin
  | queueSend (item : List UInt8)
  /-- Without a `size` the buffer has the queue's item size. -/
  | queueReceive (size : Option Nat)
  | streamSend (data : List UInt8)
  | streamReceive (room : Nat) (some_room : room ≠ 0)
  | setEvents (bits : EventBits)
  | setSignal (value : Datum)

namespace Twin

/-- The handler's operation. -/
def byHandler (id : Name) : Twin → HandlerOp
  | queueSend item => .queueSend id item false
  | queueReceive size => .queueReceive id size
  | streamSend data => .streamSend id data
  | streamReceive room _ => .streamReceive id room
  | setEvents bits => .setEvents id bits
  | setSignal value => .setSignal id value

/-- The task's operation, which does not wait. -/
def byTask (id : Name) : Twin → Action
  | queueSend item => .queue id (.send item 0 false)
  | queueReceive size => .queue id (.receive size 0 false)
  | streamSend data => .stream id (.send data 0)
  | streamReceive room _ => .stream id (.receive room 0)
  | setEvents bits => .events id (.set bits)
  | setSignal value => .signal id (.set value)

/-- The handler's result for a result of the task: the report of wakes is added. A set of a signal
has no answer but that report. -/
def report (twin : Twin) (needWake : Bool) : Result → Result
  | .ok a =>
    match twin with
    | setSignal _ => .ok (.flag needWake)
    | _ => .okDeferring a needWake
  | .error e => .errorDeferring e needWake
  | r => r

/-- The handler's run and the task's run of a twin come to the same. -/
def Agree (twin : Twin) (s : Machine) (worker : Worker) (id : Name) : Prop :=
  ∃ result needWake,
    (s.runCommand worker (.action (twin.byTask id))).2 = .finished result ∧
    (s.runCommand worker (.block (.interrupt true) [.action (twin.byHandler id).action])).2 =
      .finished (.interrupt [twin.report needWake result] ⟨needWake, false⟩ needWake) ∧
    Machine.Agrees
      (s.runCommand worker (.block (.interrupt true) [.action (twin.byHandler id).action])).1
      (s.runCommand worker (.action (twin.byTask id))).1

end Twin

namespace Machine

variable {s s' : Machine} {worker : Worker} {a : Action} {r : Result}

/-- An operation whose call is finished at its first look. -/
theorem runCommand_called {call : Call} (hPerform : s.perform worker a = (s, .calling call .plain))
    (hEnter : s.enter worker = .ok ()) (hWaits : call.isSleep = false)
    (hRound : (s.currentTask worker).1.round (s.currentTask worker).2 call = (s', .finished r)) :
    s.runCommand worker (.action a) = (s', .finished r) := by
  rw [runCommand_calling hPerform, callFrom, beginCall_of_round hEnter hWaits hRound]
  rfl

/-- A handler of one operation. -/
theorem runCommand_handling {gathered : InterruptContext}
    (hPerform : ((Handler.plain true).mark s worker true).perform worker a =
      (s', .answered r gathered)) :
    s.runCommand worker (.block (.interrupt true) [.action a]) =
      ((Handler.plain true).exit s' worker gathered.needWake,
        .finished (.interrupt [r] gathered gathered.needWake)) := by
  have hOpen : s.openBlock worker [.action a] (.interrupt true) =
      ((Handler.plain true).mark s worker true, .opened ((Handler.plain true).block .fresh)) :=
    (Handler.plain true).openBlock_kind s worker _
  have hMerge : InterruptContext.fresh.merge gathered = gathered := by
    simp [InterruptContext.merge, InterruptContext.fresh]
  have hNext : addGathered gathered (recordTop r
        [⟨(Handler.plain true).block .fresh, [], []⟩, ⟨.operation, [], []⟩]) =
      [⟨(Handler.plain true).block gathered, [r], []⟩, ⟨.operation, [], []⟩] := by
    show [(⟨.interrupt true (InterruptContext.fresh.merge gathered), _, _⟩ : Frame), _] = _
    rw [hMerge]
    rfl
  unfold runCommand
  rw [runFrames_opened hOpen, runFrames_answered hPerform, hNext,
    runFrames_closed ((Handler.plain true).closeBlock_block s' worker [r] gathered)]
  exact runFrames_operation

end Machine

theorem registeredAt_of_get? {σ : Type} [Stored σ] [StoredOnly σ] {s : Machine} {r : Ref} {x : σ}
    (hAt : s.get? σ r = some x) : s.registeredAt r = (Stored.store x).registered := by
  unfold Machine.registeredAt
  rw [Machine.objects_of_get? hAt]
  rfl

/-- Who is not registered at an object is not woken by a step that takes off whom it wakes. -/
theorem Outcome.TakesOff.not_mem {σ α : Type} [Stored σ] {x : σ} {o : Outcome σ α} {t : TaskId}
    (h : o.TakesOff x) (hOut : t ∉ (Stored.store x).registered) : t ∉ o.tasks :=
  fun hMem => hOut (h.mem_iff.mpr (List.mem_append_left _ hMem))

namespace Twin

variable {twin : Twin} {s s' : Machine} {worker : Worker} {id : Name}

/-- A twin that takes a step on the object. -/
theorem agree_of_step {σ α β : Type} [Stored σ] (result : Result) {r : Ref} {o : Outcome σ α}
    {o' : Outcome σ β}
    (hHandler : ((Handler.plain true).mark s worker true).perform worker
        (twin.byHandler id).action =
      (((Handler.plain true).mark s worker true).settleDeferring r o,
        .answered (twin.report (!o.tasks.isEmpty) result) ⟨!o.tasks.isEmpty, false⟩))
    (hTask : s.runCommand worker (.action (twin.byTask id)) = (s'.settle r o', .finished result))
    (hPeer : Machine.Peer s s' o.tasks) (hNone : s.active.deferred = [])
    (hObject : o'.object = o.object) (hNotices : o'.notices = o.notices) :
    twin.Agree s worker id := by
  refine ⟨result, !o.tasks.isEmpty, ?_, ?_, ?_⟩
  · rw [hTask]
  · rw [Machine.runCommand_handling hHandler]
  · rw [Machine.runCommand_handling hHandler, hTask]
    exact Machine.agrees_settle hPeer hNone hObject hNotices

/-- A twin that changes nothing. -/
theorem agree_of_finish (result : Result)
    (hHandler : ((Handler.plain true).mark s worker true).perform worker
        (twin.byHandler id).action =
      ((Handler.plain true).mark s worker true, .answered (twin.report false result) .fresh))
    (hTask : s.runCommand worker (.action (twin.byTask id)) = (s, .finished result)) :
    twin.Agree s worker id := by
  refine ⟨result, false, ?_, ?_, ?_⟩
  · rw [hTask]
  · rw [Machine.runCommand_handling hHandler]
    rfl
  · rw [Machine.runCommand_handling hHandler, hTask]
    exact ⟨rfl, rfl, rfl, rfl⟩

/-- The worker's task is not registered at the object. -/
def Idle (twin : Twin) (s : Machine) (worker : Worker) (id : Name) : Prop :=
  ∀ r, (twin.byHandler id).place? s = some r → (s.currentTask worker).2 ∉ s.registeredAt r

/-- A twin on a named object, which may be missing. -/
theorem agree_of_onObject {σ : Type} [Stored σ] [StoredOnly σ] {act : Ref → σ → Machine × Step}
    {act' : Machine → Ref → σ → Machine × Step}
    (hTask : s.perform worker (twin.byTask id) = s.onObject σ id act)
    (hHandler : ∀ s : Machine, s.perform worker (twin.byHandler id).action =
      s.onObject σ id (act' s))
    (hPlace : (twin.byHandler id).place? s = (s.named? σ id).map (·.1))
    (hIdle : twin.Idle s worker id)
    (hFound : ∀ r x, s.named? σ id = some (r, x) → s.get? σ r = some x →
      (s.currentTask worker).2 ∉ (Stored.store x).registered →
      s.perform worker (twin.byTask id) = act r x →
      ((Handler.plain true).mark s worker true).perform worker (twin.byHandler id).action =
        act' ((Handler.plain true).mark s worker true) r x →
      twin.Agree s worker id) :
    twin.Agree s worker id := by
  have hHandler := hHandler ((Handler.plain true).mark s worker true)
  cases hAt : s.named? σ id with
  | none =>
    rw [Machine.onObject, hAt] at hTask
    have hAt : ((Handler.plain true).mark s worker true).named? σ id = none := hAt
    rw [Machine.onObject, hAt] at hHandler
    exact agree_of_finish Machine.missing hHandler (Machine.runCommand_answered hTask)
  | some found =>
    obtain ⟨r, x⟩ := found
    have hAt' : ((Handler.plain true).mark s worker true).named? σ id = some (r, x) := hAt
    rw [Machine.onObject_eq hAt] at hTask
    rw [Machine.onObject_eq hAt'] at hHandler
    rw [hAt] at hPlace
    have hGet := Machine.get?_of_named? hAt
    have hOut := hIdle r hPlace
    rw [registeredAt_of_get? hGet] at hOut
    exact hFound r x hAt hGet hOut hTask hHandler

variable {σ ρ ε α : Type} [Stored σ] {r : Ref} {x : σ} {o : Outcome σ (Except ε α)}
  {failure : ε → Failure}

/-- The report of a handler's step on an object. -/
theorem report_ofExcept
    (hReport : ∀ needWake a, twin.report needWake (.ok a) = .okDeferring a needWake)
    (needWake : Bool) (failure : ε → Failure) (answer : α → Answer) (a : Except ε α) :
    twin.report needWake (Result.ofExcept failure answer a) =
      match a with
      | .ok a => .okDeferring (answer a) needWake
      | .error e => .errorDeferring (failure e) needWake := by
  cases a with
  | ok a => exact hReport needWake _
  | error e => rfl

/-- A twin whose task makes a call. -/
theorem agree_of_call [Blocks ρ σ (Except ε α)] {w : Waiting ρ} {answer : α → Answer}
    (resume : Waiting ρ → Call) (hAt : s.get? σ r = some x)
    (hReport : ∀ needWake a, twin.report needWake (.ok a) = .okDeferring a needWake)
    (hTask : s.perform worker (twin.byTask id) = (s, .calling (resume w) .plain))
    (hHandler : ((Handler.plain true).mark s worker true).perform worker
        (twin.byHandler id).action =
      ((Handler.plain true).mark s worker true).finishDeferring r o failure answer)
    (hWaits : (resume w).isSleep = false)
    (hCall : ∀ (s : Machine) (t : TaskId),
      s.round t (resume w) = s.roundAt t r w resume (.ofExcept failure answer))
    (hRound : w.round s.now (s.currentTask worker).2 x = o.map .finished)
    (hEnter : s.enter worker = .ok ()) (hNone : s.active.deferred = [])
    (hOut : (s.currentTask worker).2 ∉ o.tasks) : twin.Agree s worker id := by
  have hPeer := Machine.peer_currentTask hOut
  have hAt' : (s.currentTask worker).1.get? σ r = some x := by
    rw [Machine.get?, hPeer.objects]
    exact hAt
  have hNow : (s.currentTask worker).1.now = s.now := congrArg Kernel.now hPeer.active
  have hFirst : (s.currentTask worker).1.round (s.currentTask worker).2 (resume w) =
      ((s.currentTask worker).1.settle r (o.map fun a => (Round.finished a : Round (Waiting ρ) _)),
        .finished (Result.ofExcept failure answer o.answer)) := by
    rw [hCall, Machine.roundAt_eq hAt', hNow, hRound]
    rfl
  refine agree_of_step (Result.ofExcept failure answer o.answer) ?_
    (Machine.runCommand_called hTask hEnter hWaits hFirst) hPeer hNone rfl rfl
  rw [hHandler, report_ofExcept hReport]
  rfl

/-- A twin that is refused. -/
theorem agree_of_refusal [StoredOnly σ] {e : ε} (answer : α → Answer) (hAt : s.get? σ r = some x)
    (hTask : s.perform worker (twin.byTask id) = s.finish (.error (failure e)))
    (hHandler : ((Handler.plain true).mark s worker true).perform worker
        (twin.byHandler id).action =
      ((Handler.plain true).mark s worker true).finishDeferring r (.still x (.error e)) failure
        answer) : twin.Agree s worker id := by
  have hAt' : ((Handler.plain true).mark s worker true).get? σ r = some x := hAt
  refine agree_of_finish (.error (failure e)) ?_ (Machine.runCommand_answered hTask)
  rw [hHandler]
  show (((Handler.plain true).mark s worker true).put r x, _) = _
  rw [Machine.put_self hAt']
  rfl

end Twin

-- ---------------------------------------------------------------------------
-- All twins
-- ---------------------------------------------------------------------------

/-- A byte stream in a state that a run of some stream has led to. -/
def ByteStream.Reached (x : ByteStream) : Prop :=
  ∃ allocator capacity trigger fresh, create allocator capacity trigger = .ok fresh ∧
    ∃ moves, x = (fresh.after moves).object

/-- A stream that a run has led to holds no more than fits in it, and something fits. -/
theorem ByteStream.Reached.sound {x : ByteStream} (h : x.Reached) :
    x.ring.Valid ∧ 0 < x.capacity := by
  obtain ⟨_, _, _, fresh, hCreate, moves, rfl⟩ := h
  have hSound := sound_run hCreate moves
  exact ⟨hSound.valid, hSound.capacity_eq ▸ hSound.positive⟩

namespace Twin

variable {s : Machine} {worker : Worker} {id : Name}

theorem agree_queueSend {item : List UInt8} (hEnter : s.enter worker = .ok ())
    (hNone : s.active.deferred = []) (hIdle : (queueSend item).Idle s worker id) :
    (queueSend item).Agree s worker id := by
  refine agree_of_onObject (σ := Queue) rfl (fun _ => rfl) rfl hIdle
    fun r q _ hAt hOut hTask hHandler => ?_
  cases hSize : q.checkSize item.length with
  | error e =>
    have hStill : q.sendNow item = .still q (.error e) := by rw [Queue.sendNow, hSize]
    rw [hSize] at hTask
    rw [hStill] at hHandler
    exact agree_of_refusal (fun _ => .done) hAt hTask hHandler
  | ok =>
    have hSenders : (s.currentTask worker).2 ∉ q.senders.tasks :=
      fun hMem => hOut (List.mem_append_right _ hMem)
    rw [hSize] at hTask
    exact agree_of_call (.queueSend r) hAt (fun _ _ => rfl) hTask hHandler rfl
      (fun _ _ => rfl) (Queue.round_send_zero hSize hSenders s.now) hEnter hNone
      ((q.accounted_sendNow item).takesOff.not_mem hOut)

theorem agree_queueReceive {size : Option Nat} (hEnter : s.enter worker = .ok ())
    (hNone : s.active.deferred = []) (hIdle : (queueReceive size).Idle s worker id) :
    (queueReceive size).Agree s worker id := by
  refine agree_of_onObject (σ := Queue) rfl (fun _ => rfl) rfl hIdle
    fun r q _ hAt hOut hTask hHandler => ?_
  cases hSize : q.checkSize (size.getD q.itemSize) with
  | error e =>
    have hStill : q.receiveNow (size.getD q.itemSize) = .still q (.error e) := by
      rw [Queue.receiveNow, hSize]
    simp only [hSize] at hTask
    rw [hStill] at hHandler
    exact agree_of_refusal .bytes hAt hTask hHandler
  | ok =>
    have hReceivers : (s.currentTask worker).2 ∉ q.receivers.tasks :=
      fun hMem => hOut (List.mem_append_left _ hMem)
    simp only [hSize] at hTask
    exact agree_of_call (.queueReceive r) hAt (fun _ _ => rfl) hTask hHandler rfl
      (fun _ _ => rfl) (Queue.round_receive_zero hSize hReceivers s.now) hEnter hNone
      ((q.accounted_receiveNow _).takesOff.not_mem hOut)

theorem agree_streamSend {data : List UInt8} (hEnter : s.enter worker = .ok ())
    (hNone : s.active.deferred = [])
    (hReached : ∀ r x, s.named? ByteStream id = some (r, x) → x.Reached)
    (hIdle : (streamSend data).Idle s worker id) : (streamSend data).Agree s worker id := by
  refine agree_of_onObject (σ := ByteStream) rfl (fun _ => rfl) rfl hIdle
    fun r x hNamed hAt hOut hTask hHandler => ?_
  obtain ⟨hValid, hPos⟩ := (hReached r x hNamed).sound
  have hSenders : (s.currentTask worker).2 ∉ x.senders.tasks :=
    fun hMem => hOut (List.mem_append_right _ hMem)
  exact agree_of_call (.streamSend r) hAt (fun _ _ => rfl) hTask hHandler rfl
    (fun _ _ => rfl) (ByteStream.round_send_zero hValid hPos hSenders s.now) hEnter hNone
    ((x.accounted_sendNow data).takesOff.not_mem hOut)

theorem agree_streamReceive {room : Nat} {hRoom : room ≠ 0} (hEnter : s.enter worker = .ok ())
    (hNone : s.active.deferred = []) (hIdle : (streamReceive room hRoom).Idle s worker id) :
    (streamReceive room hRoom).Agree s worker id := by
  refine agree_of_onObject (σ := ByteStream) rfl (fun _ => rfl) rfl hIdle
    fun r x _ hAt hOut hTask hHandler => ?_
  have hReceivers : (s.currentTask worker).2 ∉ x.receivers.tasks :=
    fun hMem => hOut (List.mem_append_left _ hMem)
  rw [if_neg hRoom] at hTask
  exact agree_of_call (.streamReceive r) hAt (fun _ _ => rfl) hTask hHandler rfl
    (fun _ _ => rfl) (ByteStream.round_receive_zero room hReceivers s.now) hEnter hNone
    ((x.accounted_receiveNow room).takesOff.not_mem hOut)

theorem agree_setEvents {bits : EventBits} (hNone : s.active.deferred = [])
    (hIdle : (setEvents bits).Idle s worker id) : (setEvents bits).Agree s worker id := by
  refine agree_of_onObject (σ := EventGroup) rfl (fun _ => rfl) rfl hIdle
    fun r g _ _ _ hTask hHandler => ?_
  have hContract' : ((Handler.plain true).mark s worker true).contract
      (EventGroup.checkBits bits) = s.contract (EventGroup.checkBits bits) := rfl
  cases hContract : s.contract (EventGroup.checkBits bits) with
  | error f =>
    rw [hContract] at hTask hContract'
    rw [hContract'] at hHandler
    exact agree_of_finish (.fault f) hHandler (Machine.runCommand_answered hTask)
  | ok =>
    rw [hContract] at hTask hContract'
    rw [hContract'] at hHandler
    exact agree_of_step (.ok (.number (g.set bits).answer.toNat)) hHandler
      (Machine.runCommand_answered hTask) (.refl s _) hNone rfl rfl

theorem agree_setSignal {value : Datum} (hNone : s.active.deferred = [])
    (hIdle : (setSignal value).Idle s worker id) : (setSignal value).Agree s worker id := by
  refine agree_of_onObject (σ := Signal Datum) rfl (fun _ => rfl) rfl hIdle
    fun r x _ _ _ hTask hHandler => ?_
  exact agree_of_step (.ok .done) hHandler (Machine.runCommand_answered hTask) (.refl s _)
    hNone rfl rfl

end Twin

/-- A handler and a task that is not waiting on the object come to the same, in every state. -/
theorem twins_agree (twin : Twin) {s : Machine} {worker : Worker} {id : Name}
    (hKernel : s.installed.isSome = true) (hOutside : s.inInterrupt worker = false)
    (hNone : s.active.deferred = [])
    (hReached : ∀ r x, s.named? ByteStream id = some (r, x) → x.Reached)
    (hIdle : ∀ r, (twin.byHandler id).place? s = some r →
      (s.currentTask worker).2 ∉ s.registeredAt r) :
    twin.Agree s worker id := by
  have hEnter : s.enter worker = .ok () := by
    obtain ⟨kernel, hInstalled⟩ := Option.isSome_iff_exists.mp hKernel
    simp [Machine.enter, hInstalled, hOutside]
  cases twin with
  | queueSend => exact Twin.agree_queueSend hEnter hNone hIdle
  | queueReceive => exact Twin.agree_queueReceive hEnter hNone hIdle
  | streamSend => exact Twin.agree_streamSend hEnter hNone hReached hIdle
  | streamReceive => exact Twin.agree_streamReceive hEnter hNone hIdle
  | setEvents => exact Twin.agree_setEvents hNone hIdle
  | setSignal => exact Twin.agree_setSignal hNone hIdle

/-- A machine with one stream, at which the first worker is asleep. -/
def listening (x : ByteStream) : Machine :=
  { (Machine.boot true (some .simulated) 0).create "s" x with
    kernel := { Kernel.boot 0 with sleepers := [⟨1, none⟩] } }

/-- The first task receives from an empty stream. -/
def firstReceives : List ByteStream.Move := [.start ⟨1⟩ 0 (.receive 4 waitForever)]

theorem twins_agree_listening : ∃ fresh, ByteStream.create .standard 4 1 = .ok fresh ∧
    let s := listening (fresh.after firstReceives).object
    let handled := (s.runCommand 2 (.block (.interrupt true)
      [.action ((Twin.streamSend [1, 2]).byHandler "s").action])).1
    (Twin.streamSend [1, 2]).Agree s 2 "s" ∧
      (s.get? ByteStream 1).map (·.receivers.tasks) = some [⟨1⟩] ∧
      (handled.get? ByteStream 1).map (fun x => (x.ring.toList, x.receivers.tasks)) =
        some ([1, 2], []) ∧
      handled.log.filterMap Event.woken? = [⟨1⟩] ∧ handled.kernel.ready = [1] := by
  obtain ⟨fresh, hCreate⟩ : ∃ fresh, ByteStream.create .standard 4 1 = .ok fresh := ⟨_, rfl⟩
  have hReached : (fresh.after firstReceives).object.Reached :=
    ⟨.standard, 4, 1, fresh, hCreate, firstReceives, rfl⟩
  obtain rfl := Except.ok.inj hCreate
  refine ⟨_, hCreate, twins_agree (.streamSend [1, 2]) rfl rfl rfl ?_ ?_, by decide, ?_⟩
  · rintro r x ⟨⟩
    exact hReached
  · rintro r ⟨⟩
    decide
  · exact ⟨by decide +kernel, by decide +kernel, by decide +kernel⟩

end TaskSync
