import TaskSync.Proofs.Runs.Machine

/-!
# TaskSync — wakes, deferred wakes and the end of a handler

The parties that a step wants woken are woken at once (`Machine.deliver`) or, in
an interrupt handler, have their wakes deferred (`Machine.deliverDeferring`) until
the handler makes them good (`Machine.yieldFromInterrupt`). Each of these changes
the active kernel, adds events to the log and leaves the rest of the machine alone
(`Machine.happened`), whichever kernel is installed.

* `deliver_eq`, `deliverDeferring_eq`, `yieldFromInterrupt_eq` — what each comes to.
* `goesOn_of_woken` — a worker whose task is woken may go on.
-/

namespace TaskSync

/-- What the log says of a party that is woken at once. -/
def Notice.event : Notice → Event
  | .waker w => .waker w
  | .task t => .wake t

/-- What the log says of a party whose wake is deferred if it is a task. -/
def Notice.deferral : Notice → Event
  | .waker w => .waker w
  | .task t => .defer t

namespace Event

/-- The waker that is called. -/
def called? : Event → Option WakerId
  | .waker w => some w
  | _ => none

/-- The task that is woken. -/
def woken? : Event → Option TaskId
  | .wake t => some t
  | _ => none

end Event

namespace Machine

variable {s s' : Machine} {k : Kernel} {t : TaskId} {w : Worker}

/-- Whether an event shows in the log. -/
def shows (s : Machine) : Event → Bool
  | .waker _ => true
  | _ => s.isSimulated

/-- The worker that the active kernel knows under a task number. -/
def workerOf? (s : Machine) (t : TaskId) : Option Worker :=
  if s.onHost then s.host.worker? t else some t.number

/-- The active kernel after the wake of a task. -/
def rouse (s : Machine) (k : Kernel) (t : TaskId) : Kernel := (s.workerOf? t).elim k k.wake

/-- The machine after its active kernel has become `k` and `events` have happened. -/
def happened (s : Machine) (k : Kernel) (events : List Event) : Machine :=
  { s with
    kernel := if s.onHost then s.kernel else k
    host := { s.host with kernel := if s.onHost then k else s.host.kernel }
    log := s.log ++ events.filter s.shows }

-- ---------------------------------------------------------------------------
-- What happens leaves the rest alone
-- ---------------------------------------------------------------------------

section

variable (s k) (events : List Event)

@[simp] theorem objects_happened : (s.happened k events).objects = s.objects := rfl

@[simp] theorem onHost_happened : (s.happened k events).onHost = s.onHost := rfl

@[simp] theorem shows_happened : (s.happened k events).shows = s.shows := rfl

@[simp] theorem rouse_happened : (s.happened k events).rouse = s.rouse := rfl

@[simp] theorem log_happened : (s.happened k events).log = s.log ++ events.filter s.shows := rfl

@[simp] theorem active_happened : (s.happened k events).active = k := by
  rw [active, onHost_happened]
  by_cases hHost : s.onHost = true <;> simp [happened, hHost]

end

/-- What happens in two steps happens in one. -/
theorem happened_happened (s : Machine) (k k' : Kernel) (events events' : List Event) :
    (s.happened k events).happened k' events' = s.happened k' (events ++ events') := by
  rw [happened, onHost_happened, shows_happened, log_happened, List.append_assoc,
    ← List.filter_append]
  by_cases hHost : s.onHost = true <;> simp [happened, hHost]

/-- When nothing happens, the machine stays as it is. -/
theorem happened_nil (s : Machine) : s.happened s.active [] = s := by
  by_cases hHost : s.onHost = true <;> simp [happened, active, hHost]

/-- What happens beside the active kernel's work. -/
theorem happened_active (s : Machine) (events : List Event) :
    s.happened s.active events = { s with log := s.log ++ events.filter s.shows } := by
  by_cases hHost : s.onHost = true <;> simp [happened, active, hHost]

-- ---------------------------------------------------------------------------
-- Notes, wakes and deferred wakes
-- ---------------------------------------------------------------------------

theorem note_eq (s : Machine) (e : Event) : s.note e = s.happened s.active [e] := by
  rw [happened_active]
  cases e with
  | waker v => rfl
  | _ => by_cases hShown : s.isSimulated = true <;> simp [note, shows, hShown]

/-- The host's doings do not show, but for the call of a waker. -/
theorem isSimulated_of_onHost (hHost : s.onHost = true) : s.isSimulated = false := by
  have hInstalled : s.installed = some .host := beq_iff_eq.mp hHost
  rw [isSimulated, hInstalled]

theorem wake_eq (s : Machine) (t : TaskId) :
    s.wake t = s.happened (s.rouse s.active t) [.wake t] := by
  rw [wake, note_eq]
  by_cases hHost : s.onHost = true
  · have hHidden := isSimulated_of_onHost hHost
    cases hWorker : s.host.worker? t <;>
      simp [happened, rouse, workerOf?, active, shows, Host.wake, hHost, hHidden, hWorker]
  · simp [happened, rouse, workerOf?, active, hHost]

theorem defer_eq (s : Machine) (t : TaskId) :
    s.defer t = s.happened (s.active.defer t) [.defer t] := by
  rw [defer, note_eq]
  by_cases hHost : s.onHost = true
  · have hHidden := isSimulated_of_onHost hHost
    simp [happened, active, shows, Host.defer, hHost, hHidden]
  · simp [happened, active, hHost]

/-- Whoever is to be woken at once is woken in order. -/
theorem deliver_eq (s : Machine) (ns : List Notice) :
    s.deliver ns =
      s.happened ((ns.filterMap Notice.task?).foldl s.rouse s.active) (ns.map Notice.event) := by
  induction ns generalizing s with
  | nil => exact s.happened_nil.symm
  | cons n ns ih =>
    cases n with
    | waker v =>
      show (s.note (.waker v)).deliver ns = _
      rw [note_eq, ih, happened_happened, active_happened]
      rfl
    | task t =>
      show (s.wake t).deliver ns = _
      rw [wake_eq, ih, happened_happened, active_happened]
      rfl

/-- The wakes of an interrupt handler are deferred in order. -/
theorem deliverDeferring_eq (s : Machine) (ns : List Notice) :
    s.deliverDeferring ns =
      s.happened
        { s.active with deferred := s.active.deferred ++ ns.filterMap Notice.task? }
        (ns.map Notice.deferral) := by
  induction ns generalizing s with
  | nil =>
    rw [List.filterMap_nil, List.append_nil]
    exact s.happened_nil.symm
  | cons n ns ih =>
    cases n with
    | waker v =>
      show (s.note (.waker v)).deliverDeferring ns = _
      rw [note_eq, ih, happened_happened, active_happened]
      rfl
    | task t =>
      show (s.defer t).deliverDeferring ns = _
      rw [defer_eq, ih, happened_happened, active_happened, Kernel.defer, List.append_assoc]
      rfl

theorem foldl_wake_eq (s : Machine) (ts : List TaskId) :
    ts.foldl wake s = s.happened (ts.foldl s.rouse s.active) (ts.map .wake) := by
  induction ts generalizing s with
  | nil => exact s.happened_nil.symm
  | cons t ts ih =>
    rw [List.foldl_cons, wake_eq, ih, happened_happened, active_happened]
    rfl

/-- The host wakes the workers of the tasks that have a number. -/
theorem host_foldl_wake_eq (h : Host) (ts : List TaskId) :
    ts.foldl Host.wake h =
      { h with kernel := ts.foldl (fun k t => (h.worker? t).elim k k.wake) h.kernel } := by
  induction ts generalizing h with
  | nil => rfl
  | cons t ts ih =>
    rw [List.foldl_cons, ih, List.foldl_cons, Host.wake]
    cases h.worker? t <;> rfl

/-- At the end of a handler the deferred wakes are made good in order. -/
theorem yieldFromInterrupt_eq (s : Machine) :
    s.yieldFromInterrupt =
      s.happened (s.active.deferred.foldl s.rouse { s.active with deferred := [] })
        (.yield :: s.active.deferred.map .wake) := by
  by_cases hHost : s.onHost = true
  · have hHidden := isSimulated_of_onHost hHost
    have hRouse : s.rouse = fun k t => (s.host.worker? t).elim k k.wake := by
      funext k t
      rw [rouse, workerOf?, if_pos hHost]
    rw [yieldFromInterrupt, if_pos hHost, Host.yieldFromInterrupt, host_foldl_wake_eq, hRouse]
    simp [happened, active, shows, hHost, hHidden, Host.worker?]
  · have hFresh : { s.note .yield with kernel := { s.kernel with deferred := [] } } =
        s.happened { s.active with deferred := [] } [.yield] := by
      rw [note_eq, happened_active]
      simp [happened, active, hHost]
    rw [yieldFromInterrupt, if_neg hHost]
    have hKernel : (s.note .yield).kernel = s.kernel := by
      rw [note_eq, happened_active]
    simp only [hKernel, hFresh, foldl_wake_eq, happened_happened, active_happened, rouse_happened]
    simp [active, hHost]

/-- A worker has its number already, or the host gives it one. -/
theorem currentTask_cases (s : Machine) (worker : Worker) :
    (s.currentTask worker).1 = s ∨
      (s.currentTask worker).1 = { s with host := { s.host with
        numbered := s.host.numbered ++ [(worker, (s.currentTask worker).2)] } } := by
  unfold currentTask
  split
  · unfold hostTask Host.number
    cases s.host.numbered.lookup worker with
    | some t => exact Or.inl rfl
    | none => exact Or.inr rfl
  · exact Or.inl rfl

-- ---------------------------------------------------------------------------
-- Steps on objects
-- ---------------------------------------------------------------------------

theorem settle_eq {σ α : Type} [Stored σ] (s : Machine) (r : Ref) (o : Outcome σ α) :
    s.settle r o =
      (s.put r o.object).happened (o.tasks.foldl s.rouse s.active) (o.notices.map Notice.event) :=
  deliver_eq _ _

theorem settleDeferring_eq {σ α : Type} [Stored σ] (s : Machine) (r : Ref) (o : Outcome σ α) :
    s.settleDeferring r o =
      (s.put r o.object).happened { s.active with deferred := s.active.deferred ++ o.tasks }
        (o.notices.map Notice.deferral) :=
  deliverDeferring_eq _ _

end Machine

-- ---------------------------------------------------------------------------
-- Workers that may go on
-- ---------------------------------------------------------------------------

namespace Kernel

/-- A worker may go on: it is ready, or its next suspension returns at once. -/
def GoesOn (k : Kernel) (w : Worker) : Prop := w ∈ k.ready ∨ w ∈ k.permits

variable {k : Kernel} {w v : Worker}

/-- A worker that is woken may go on. -/
theorem goesOn_wake_self (k : Kernel) (w : Worker) : (k.wake w).GoesOn w := by
  unfold wake makeReady GoesOn
  split
  · split
    · exact Or.inl ‹_›
    · exact Or.inl (List.mem_append_right _ List.mem_cons_self)
  · split
    · exact Or.inr ‹_›
    · exact Or.inr (List.mem_append_right _ List.mem_cons_self)

/-- A wake stops nobody. -/
theorem GoesOn.wake (h : k.GoesOn w) (v : Worker) : (k.wake v).GoesOn w := by
  unfold Kernel.wake makeReady GoesOn at *
  split
  · split
    · exact h
    · exact h.imp_left (List.mem_append_left _)
  · split
    · exact h
    · exact h.imp_right (List.mem_append_left _)

@[simp] theorem deferred_wake (k : Kernel) (v : Worker) : (k.wake v).deferred = k.deferred := by
  unfold wake makeReady
  split
  · split <;> rfl
  · split <;> rfl

end Kernel

namespace Machine

variable {s : Machine} {k : Kernel} {t : TaskId} {w : Worker}

/-- Waking tasks defers nothing. -/
theorem deferred_foldl_rouse (k : Kernel) (ts : List TaskId) :
    (ts.foldl s.rouse k).deferred = k.deferred := by
  induction ts generalizing k with
  | nil => rfl
  | cons t ts ih =>
    rw [List.foldl_cons, ih, rouse]
    cases s.workerOf? t with
    | none => rfl
    | some v => exact k.deferred_wake v

theorem goesOn_rouse (h : k.GoesOn w) (t : TaskId) : (s.rouse k t).GoesOn w := by
  unfold rouse
  cases s.workerOf? t with
  | none => exact h
  | some v => exact h.wake v

theorem goesOn_foldl_rouse (h : k.GoesOn w) (ts : List TaskId) :
    (ts.foldl s.rouse k).GoesOn w := by
  induction ts generalizing k with
  | nil => exact h
  | cons t ts ih => exact ih (goesOn_rouse h t)

/-- Of the tasks that are woken one after the other, each may go on in the end. -/
theorem goesOn_of_woken {ts : List TaskId} (hWoken : t ∈ ts) (hWorker : s.workerOf? t = some w) :
    (ts.foldl s.rouse k).GoesOn w := by
  induction ts generalizing k with
  | nil => cases hWoken
  | cons u ts ih =>
    rcases List.mem_cons.mp hWoken with rfl | hLater
    · refine goesOn_foldl_rouse ?_ ts
      rw [rouse, hWorker]
      exact k.goesOn_wake_self w
    · exact ih hLater

/-- Only the number of a worker counts for whom a wake reaches. -/
theorem foldl_rouse_congr {s' : Machine} {ts : List TaskId}
    (h : ∀ t ∈ ts, s'.workerOf? t = s.workerOf? t) (k : Kernel) :
    ts.foldl s'.rouse k = ts.foldl s.rouse k := by
  induction ts generalizing k with
  | nil => rfl
  | cons t ts ih =>
    rw [List.forall_mem_cons] at h
    rw [List.foldl_cons, List.foldl_cons, rouse, rouse, h.1, ih h.2]

end Machine

end TaskSync
