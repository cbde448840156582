import TaskSync.Proofs.Mutex.Ownership
import TaskSync.Proofs.Mutex.Wakeups
import TaskSync.Proofs.Runs.Since

/-!
# TaskSync — in which order a mutex is granted

A task that finds the mutex taken stands in line, and releasing the mutex wakes
the first of the line. If a woken task looks before any other task does, and the
line has room for all, the mutex goes round in the order of the line.

A task stands in line for one bounded attempt. A call of `lock` whose attempt
has run out begins another at the end of the line (`Restarted`), so those who
came later are now before it: the order of the line is that of the attempts
(`attemptSince`), and that of the calls (`callSince`) only for as long as no
attempt runs out.

Main results:

* `Mutex.inTurn_run` — in every such run each release for good wakes the task
  whose attempt has been waiting longest, and nobody else gets the mutex before
  it; a call that has been blocked for longer has begun another attempt.
* `Mutex.not_longest_call_first` — that call is passed over.
-/

namespace TaskSync

namespace Mutex

/-- The task that a move lets look for the mutex. -/
def attempter? : Move → Option TaskId
  | .start _ _ .unlock => none
  | .start t _ _ | .resume t _ => some t
  | .act _ | .abandon _ => none

/-- A task is blocked: it sleeps in a bounded attempt. -/
def Blocked (w : World) (t : TaskId) : Prop := w.crew.isIn Call.contends t = true

instance (w : World) (t : TaskId) : Decidable (Blocked w t) :=
  inferInstanceAs (Decidable (w.crew.isIn Call.contends t = true))

/-- Nobody looks before who has been woken. -/
def Prompt (w : World) (mv : Move) : Prop := ∀ t ∈ attempter? mv, ∀ u ∈ w.crew.woken, t = u

instance (w : World) (mv : Move) : Decidable (Prompt w mv) :=
  inferInstanceAs (Decidable (∀ t ∈ attempter? mv, ∀ u ∈ w.crew.woken, t = u))

/-- Besides, after the move no more tasks are blocked than the wait list has room for. -/
structure Orderly (checks : Bool) (w : World) (mv : Move) : Prop where
  prompt : Prompt w mv
  few : ∃ ts : Finset TaskId, ts.card ≤ WaitList.limit ∧
    ∀ t, Blocked (w.step (protocol checks) mv) t → t ∈ ts

/-- When the call that a task sleeps in blocked, as a number of moves. -/
def callSince (checks : Bool) (kind : MutexKind) (moves : List Move) (t : TaskId) : Nat :=
  TaskSync.World.asleepSince (protocol checks) (fun _ => true) (.fresh (create kind)) moves t

/-- When the attempt that a task is blocked in began to wait. -/
def attemptSince (checks : Bool) (kind : MutexKind) (moves : List Move) (t : TaskId) : Nat :=
  TaskSync.World.asleepSince (protocol checks) Call.contends (.fresh (create kind)) moves t

/-- Since the call of a task blocked, an attempt of it has run out. -/
def Restarted (checks : Bool) (kind : MutexKind) (moves : List Move) (t : TaskId) : Prop :=
  ∃ n, callSince checks kind moves t < n ∧ n < moves.length ∧ ∃ limit,
    (after checks (create kind) (moves.take n)).crew.asleep t = some ⟨.restarting, limit⟩

/-- A blocked task that none of the others has any right to come before. -/
structure Foremost (checks : Bool) (kind : MutexKind) (moves : List Move) (t : TaskId) : Prop where
  blocked : Blocked (after checks (create kind) moves) t
  /-- Its attempt has been waiting longest. -/
  attempt : ∀ u, Blocked (after checks (create kind) moves) u → u ≠ t →
    attemptSince checks kind moves t < attemptSince checks kind moves u
  /-- So has its call, but for calls that have begun another attempt. -/
  call : ∀ u, Blocked (after checks (create kind) moves) u → u ≠ t →
    callSince checks kind moves t < callSince checks kind moves u ∨
      Restarted checks kind moves u

/-- The mutex goes round in the order of the attempts. -/
structure InTurn (checks : Bool) (kind : MutexKind) (moves : List Move) : Prop where
  /-- A release for good wakes the foremost of the blocked tasks. -/
  released : let w := after checks (create kind) moves
    ∀ t now, w.crew.asleep t = none → w.object.owner = some t →
      (w.step (protocol checks) (.start t now .unlock)).object.owner = none →
      (∃ u, Blocked w u) →
      ∃ u, (w.step (protocol checks) (.start t now .unlock)).crew.woken = {u} ∧
        Foremost checks kind moves u
  /-- Who has been woken has the mutex when it goes on. -/
  granted : let w := after checks (create kind) moves
    ∀ t ∈ w.crew.woken, ∀ now,
      (w.step (protocol checks) (.resume t now)).object.owner = some t
  /-- Whoever gets the free mutex was the foremost, or nobody was blocked. -/
  acquired : let w := after checks (create kind) moves
    ∀ mv t, (∀ u, mv ≠ .abandon u) → Orderly checks w mv → w.object.owner = none →
      (w.step (protocol checks) mv).object.owner = some t →
      Foremost checks kind moves t ∨ ∀ u, ¬ Blocked w u

variable {checks : Bool} {kind : MutexKind} {c : Crew Call} {m m' : Mutex} {t u : TaskId}
  {r : Request} {o : Outcome Mutex (Round Call Deed)} {since since' : TaskId → Nat}

-- ---------------------------------------------------------------------------
-- The line
-- ---------------------------------------------------------------------------

/-- Who is blocked stands in line, or is the one who has been woken; whoever joined later stands
further back. -/
structure Lineup (c : Crew Call) (m : Mutex) (since : TaskId → Nat) : Prop where
  present : ∀ t, c.isIn Call.contends t = true → t ∈ m.waiters.tasks ∨ t ∈ c.woken
  unclaimed : m.owner ≠ none → c.woken = ∅
  ordered : m.waiters.tasks.Pairwise fun t u => since t < since u
  ahead : ∀ t ∈ c.woken, ∀ u, c.isIn Call.contends u = true → u ≠ t → since t < since u

/-- Those who are blocked now and were before have the same rank among themselves, and those who
were not come after them. -/
structure Later (c c' : Crew Call) (since since' : TaskId → Nat) : Prop where
  kept : ∀ u, c.isIn Call.contends u = true → c'.isIn Call.contends u = true →
    since' u = since u
  new : ∀ u v, c.isIn Call.contends u = false → c'.isIn Call.contends u = true →
    c.isIn Call.contends v = true → c'.isIn Call.contends v = true → since' v < since' u

theorem Lineup.mem_of_nobody (h : Lineup c m since) (hNobody : c.woken = ∅)
    (hIn : c.isIn Call.contends t = true) : t ∈ m.waiters.tasks := by
  rcases h.present t hIn with hMem | hWoken
  · exact hMem
  · rw [hNobody] at hWoken
    cases hWoken

theorem Lineup.first_lt (h : Lineup c m since) (hNobody : c.woken = ∅) {rest : List TaskId}
    (hTasks : m.waiters.tasks = t :: rest) (hIn : c.isIn Call.contends u = true) (hNe : u ≠ t) :
    since t < since u := by
  have hMem := h.mem_of_nobody hNobody hIn
  have hOrdered := h.ordered
  rw [hTasks] at hMem hOrdered
  rcases List.mem_cons.mp hMem with rfl | hRest
  · exact absurd rfl hNe
  · exact List.rel_of_pairwise_cons hOrdered hRest

theorem Lineup.congr (h : Lineup c m since) (hLine : c.Line Call.contends m.waiters)
    (hLocated : Located c m) (hSame : ∀ u, c.isIn Call.contends u = true → since' u = since u) :
    Lineup c m since' where
  present := h.present
  unclaimed := h.unclaimed
  ordered := by
    refine List.Pairwise.imp_of_mem ?_ h.ordered
    intro u v hu hv hLt
    rw [hSame u (hLine.asleep u hu), hSame v (hLine.asleep v hv)]
    exact hLt
  ahead := by
    intro u hWoken v hIn hNe
    rw [hSame u (hLocated.woken u hWoken), hSame v hIn]
    exact h.ahead u hWoken v hIn hNe

/-- A task that looks and is not blocked afterwards leaves the line in order. -/
theorem Lineup.leave (h : Lineup c m since) (hLine : c.Line Call.contends m.waiters)
    (hLocated : Located c m) {fate : Option (Sleep Call)}
    (hOut : (c.look t fate).isIn Call.contends t = false)
    (hLater : Later c (c.look t fate) since since') (hWaiters : m'.waiters = m.waiters.remove t)
    (hUnclaimed : m'.owner ≠ none → ∀ u ∈ c.woken, u = t) : Lineup (c.look t fate) m' since' := by
  -- the others are where they were
  have hOther : ∀ u, (c.look t fate).isIn Call.contends u = true →
      u ≠ t ∧ c.isIn Call.contends u = true := by
    intro u hIn
    have hNe : u ≠ t := by
      rintro rfl
      rw [hOut] at hIn
      cases hIn
    rw [Crew.isIn_look_of_ne hNe] at hIn
    exact ⟨hNe, hIn⟩
  have hKept : ∀ u, (c.look t fate).isIn Call.contends u = true → since' u = since u :=
    fun u hIn => hLater.kept u (hOther u hIn).2 hIn
  refine ⟨?_, ?_, ?_, ?_⟩
  · intro u hIn
    obtain ⟨hNe, hBefore⟩ := hOther u hIn
    rw [hWaiters, Crew.mem_woken_look]
    rcases h.present u hBefore with hMem | hWoken
    · exact Or.inl (List.mem_filter.mpr ⟨hMem, decide_eq_true hNe⟩)
    · exact Or.inr ⟨hNe, hWoken⟩
  · intro hOwned
    refine Finset.eq_empty_of_forall_notMem fun u hWoken => ?_
    obtain ⟨hNe, hWoken⟩ := (Crew.mem_woken_look fate).mp hWoken
    exact hNe (hUnclaimed hOwned u hWoken)
  · have hLeft := hLine.leave t fate
    rw [hWaiters]
    refine List.Pairwise.imp_of_mem ?_ (h.ordered.filter _)
    intro u v hu hv hLt
    rw [hKept u (hLeft.asleep u hu), hKept v (hLeft.asleep v hv)]
    exact hLt
  · intro u hWoken v hIn hNe
    obtain ⟨hNe', hWoken⟩ := (Crew.mem_woken_look fate).mp hWoken
    have hIn' : (c.look t fate).isIn Call.contends u = true := by
      rw [Crew.isIn_look_of_ne hNe']
      exact hLocated.woken u hWoken
    rw [hKept u hIn', hKept v hIn]
    exact h.ahead u hWoken v (hOther v hIn).2 hNe

/-- A task that is blocked from now on goes to the end of the line; one that was before keeps its
place. -/
theorem Lineup.join (h : Lineup c m since) (hLine : c.Line Call.contends m.waiters)
    (hOwned : m.owner ≠ none) {waiters : WaitList} (hReg : m.waiters.register t = some waiters)
    {s : Sleep Call} (hContends : s.call.contends = true)
    (hLater : Later c (c.look t (some s)) since since') :
    Lineup (c.look t (some s)) { m with waiters } since' := by
  have hNobody := h.unclaimed hOwned
  have hListed : ∀ u, c.isIn Call.contends u = true → u ∈ m.waiters.tasks :=
    fun u => h.mem_of_nobody hNobody
  have hSelf : (c.look t (some s)).isIn Call.contends t = true := by simpa using hContends
  have hStill : ∀ u, c.isIn Call.contends u = true →
      (c.look t (some s)).isIn Call.contends u = true := by
    intro u hIn
    by_cases hSame : u = t
    · exact hSame ▸ hSelf
    · rw [Crew.isIn_look_of_ne hSame]
      exact hIn
  have hNobody' : (c.look t (some s)).woken = ∅ := by
    show c.woken.erase t = ∅
    rw [hNobody, Finset.erase_empty]
  have hBefore : m.waiters.tasks.Pairwise fun u v => since' u < since' v := by
    refine List.Pairwise.imp_of_mem ?_ h.ordered
    intro u v hu hv hLt
    have hIn := hLine.asleep u hu
    have hIn' := hLine.asleep v hv
    rw [hLater.kept u hIn (hStill u hIn), hLater.kept v hIn' (hStill v hIn')]
    exact hLt
  refine ⟨?_, fun _ => hNobody', ?_, ?_⟩
  · intro u hIn
    left
    obtain ⟨hJoined, hMore⟩ := WaitList.mem_of_register hReg
    by_cases hSame : u = t
    · exact hSame ▸ hJoined
    · rw [Crew.isIn_look_of_ne hSame] at hIn
      exact hMore u (hListed u hIn)
  · show waiters.tasks.Pairwise fun u v => since' u < since' v
    rcases WaitList.register_cases hReg with ⟨rfl, -⟩ | ⟨rfl, hOut⟩
    · exact hBefore
    · -- the task was not blocked before, so it comes after all who were
      have hNew : c.isIn Call.contends t = false := by
        rw [← Bool.not_eq_true]
        exact fun hIn => hOut (hListed t hIn)
      refine List.pairwise_append.mpr ⟨hBefore, List.pairwise_singleton _ _, ?_⟩
      intro u hu v hv
      obtain rfl := List.mem_singleton.mp hv
      have hIn := hLine.asleep u hu
      exact hLater.new v u hNew hSelf hIn (hStill u hIn)
  · intro u hWoken
    rw [hNobody'] at hWoken
    cases hWoken

/-- A release for good takes the first of the line off it and wakes him. -/
theorem Lineup.handOn (h : Lineup c m since) (hNobody : c.woken = ∅) :
    Lineup (c.notify m.waiters.first?.toList) m.handedOn since := by
  refine ⟨?_, fun hOwned => absurd rfl hOwned, h.ordered.tail, ?_⟩
  · intro u hIn
    have hMem := h.mem_of_nobody hNobody hIn
    show u ∈ m.waiters.tasks.tail ∨ _
    rw [Crew.mem_woken_notify]
    unfold WaitList.first?
    cases hTasks : m.waiters.tasks with
    | nil =>
      rw [hTasks] at hMem
      cases hMem
    | cons first rest =>
      rw [hTasks] at hMem
      rcases List.mem_cons.mp hMem with rfl | hRest
      · exact Or.inr (Or.inr List.mem_cons_self)
      · exact Or.inl hRest
  · intro u hWoken v hIn hNe
    rcases (Crew.mem_woken_notify _).mp hWoken with hBefore | hFirst
    · rw [hNobody] at hBefore
      cases hBefore
    · obtain ⟨rest, hTasks⟩ := List.head?_eq_some_iff.mp (Option.mem_toList.mp hFirst)
      exact h.first_lt hNobody hTasks hIn hNe

/-- The line has room for all who are blocked. -/
theorem not_crowded (hLine : c.Line Call.contends m.waiters) {s : Sleep Call}
    (hContends : s.call.contends = true) (hOut : t ∉ m.waiters.tasks)
    (hFull : WaitList.limit ≤ m.waiters.size) {ts : Finset TaskId}
    (hFew : ts.card ≤ WaitList.limit)
    (hAll : ∀ u, (c.look t (some s)).isIn Call.contends u = true → u ∈ ts) : False := by
  have hSub : insert t m.waiters.tasks.toFinset ⊆ ts := by
    intro u hu
    refine hAll u ?_
    rcases Finset.mem_insert.mp hu with rfl | hu
    · simpa using hContends
    · have hMem := List.mem_toFinset.mp hu
      have hNe : u ≠ t := by
        rintro rfl
        exact hOut hMem
      rw [Crew.isIn_look_of_ne hNe]
      exact hLine.asleep u hMem
  have hNew : t ∉ m.waiters.tasks.toFinset := fun hMem => hOut (List.mem_toFinset.mp hMem)
  have hCard := Finset.card_le_card hSub
  rw [Finset.card_insert_of_notMem hNew, List.toFinset_card_of_nodup hLine.nodup] at hCard
  unfold WaitList.size at hFull
  omega

theorem Turn.lineup (hTurn : Turn checks t m r o) (h : Lineup c m since)
    (hLine : c.Line Call.contends m.waiters) (hLocated : Located c m)
    (hAwake : r = .unlock → c.asleep t = none) (hPrompt : r ≠ .unlock → ∀ u ∈ c.woken, t = u)
    {ts : Finset TaskId} (hFew : ts.card ≤ WaitList.limit)
    (hAll : ∀ u, (c.look t o.answer.sleep?).isIn Call.contends u = true → u ∈ ts)
    (hLater : Later c (c.look t o.answer.sleep?) since since') :
    Lineup ((c.look t o.answer.sleep?).notify o.tasks) o.object since' := by
  have hUnclaimed : m.owner ≠ none → ∀ u ∈ c.woken, u = t := by
    intro hOwned u hWoken
    rw [h.unclaimed hOwned] at hWoken
    cases hWoken
  have hDone : ∀ fate : Option (Sleep Call), (∀ s ∈ fate, s.call.contends = false) →
      (c.look t fate).isIn Call.contends t = false := by
    intro fate hFate
    rw [Crew.isIn_look_self, Option.any_eq_false]
    intro s hs
    rw [hFate s hs]
  have hStays : c.isIn Call.contends t = false → m.waiters = m.waiters.remove t :=
    fun hOut => (WaitList.remove_of_not_mem (hLine.not_mem hOut)).symm
  cases hTurn with
  | taken hReq hFree =>
    rw [Outcome.tasks_still, Crew.notify_nil]
    exact h.leave hLine hLocated (hDone none nofun) hLater rfl
      fun _ u hWoken => (hPrompt hReq u hWoken).symm
  | deepened _ hOwner | deadlocked hOwner | faulted _ hOwner | heldOn hOwner =>
    rw [Outcome.tasks_still, Crew.notify_nil]
    exact h.leave hLine hLocated (hDone none nofun) hLater
      (hStays (not_isIn_of_owner hLocated hOwner)) hUnclaimed
  | selfBlocked _ hOwner =>
    rw [Outcome.tasks_still, Crew.notify_nil]
    refine h.leave hLine hLocated (hDone (some _) ?_) hLater
      (hStays (not_isIn_of_owner hLocated hOwner)) hUnclaimed
    rintro s ⟨⟩
    rfl
  | refused hOther =>
    rw [Outcome.tasks_still, Crew.notify_nil]
    exact h.leave hLine hLocated (hDone none nofun) hLater
      (hStays (Crew.isIn_of_none (hAwake rfl))) hUnclaimed
  | gaveUp hBusy =>
    rw [Outcome.tasks_still, Crew.notify_nil]
    exact h.leave hLine hLocated (hDone none nofun) hLater rfl hUnclaimed
  | restarting hBusy =>
    rw [Outcome.tasks_still, Crew.notify_nil]
    refine h.leave hLine hLocated (hDone (some _) ?_) hLater rfl hUnclaimed
    rintro s ⟨⟩
    rfl
  | joined hContends hBusy hReg =>
    rw [Outcome.tasks_still, Crew.notify_nil]
    exact h.join hLine hBusy.1 hReg hContends hLater
  | crowded hContends hBusy hOut hFull =>
    exact (not_crowded hLine hContends hOut hFull hFew hAll).elim
  | handedOn hOwner hLast =>
    have hOwned : m.owner ≠ none := by
      rw [hOwner]
      exact nofun
    have hLeft : Lineup (c.look t none) m since' :=
      h.leave hLine hLocated (hDone none nofun) hLater
        (hStays (Crew.isIn_of_none (hAwake rfl))) hUnclaimed
    rw [tasks_handedOn]
    exact hLeft.handOn (hLeft.unclaimed hOwned)

-- ---------------------------------------------------------------------------
-- Moves
-- ---------------------------------------------------------------------------

variable {w : World} {mv : Move} {moves : List Move}

/-- A move that gives no task up is a look of some task or changes nothing. -/
theorem kept_cases (checks : Bool) (w : World) (hKept : ∀ t, mv ≠ .abandon t) :
    w.step (protocol checks) mv = w ∨
      ∃ t r o, Turn checks t w.object r o ∧ w.step (protocol checks) mv = w.look t o ∧
        (r = .unlock → w.crew.asleep t = none) ∧ (r ≠ .unlock → t ∈ attempter? mv) := by
  have hStepped := TaskSync.World.stepped_step (protocol checks) w mv
  generalize w.step (protocol checks) mv = w' at hStepped ⊢
  cases hStepped with
  | idle => exact Or.inl rfl
  | @started t now r hAwake =>
    refine Or.inr ⟨t, r, _, turn_start checks r now t w.object, rfl, fun _ => hAwake, ?_⟩
    intro hReq
    cases r with
    | lock | tryLock => rfl
    | unlock => exact absurd rfl hReq
  | @resumed t now s hAsleep =>
    exact Or.inr ⟨t, _, _, turn_round checks s.call now t w.object, rfl,
      fun hUnlock => absurd hUnlock s.call.request_ne, fun _ => rfl⟩
  | @acted a => nomatch a
  | @abandoned t => exact absurd rfl (hKept t)

/-- With a move the stamps of those who are blocked stay, and who is blocked anew has the latest. -/
theorem later_step (checks : Bool) (kind : MutexKind) (moves : List Move) (mv : Move) :
    Later (after checks (create kind) moves).crew
      ((after checks (create kind) moves).step (protocol checks) mv).crew
      (attemptSince checks kind moves) (attemptSince checks kind (moves ++ [mv])) := by
  have hNext : (after checks (create kind) moves).step (protocol checks) mv =
      TaskSync.World.run (protocol checks) (.fresh (create kind)) (moves ++ [mv]) :=
    (TaskSync.World.run_concat ..).symm
  rw [hNext]
  refine ⟨fun u _ hIn => TaskSync.World.asleepSince_concat hIn, ?_⟩
  intro u v hOut hIn hBefore hIn'
  have hLength := TaskSync.World.asleepSince_of_out hOut
  have hLt := TaskSync.World.asleepSince_lt (TaskSync.World.isIn_fresh ..) hBefore
  unfold attemptSince
  rw [TaskSync.World.asleepSince_concat hIn, TaskSync.World.asleepSince_concat hIn', hLength]
  exact hLt

/-- What holds after orderly moves. -/
structure Queued (checks : Bool) (kind : MutexKind) (moves : List Move) : Prop where
  tended : Tended (after checks (create kind) moves)
  lineup : Lineup (after checks (create kind) moves).crew (after checks (create kind) moves).object
    (attemptSince checks kind moves)
  /-- Who waits for himself has the mutex. -/
  selfish : ∀ t limit,
    (after checks (create kind) moves).crew.asleep t = some ⟨.locking .selfBlocked, limit⟩ →
      (after checks (create kind) moves).object.owner = some t

theorem Turn.selfish {limit : Option Ticks} (hTurn : Turn checks t m r o)
    (hSleep : o.answer.sleep? = some ⟨.locking .selfBlocked, limit⟩) : o.object.owner = some t := by
  cases hTurn with
  | selfBlocked _ hOwner => exact hOwner
  | joined hContends | crowded hContends =>
    cases hSleep
    cases hContends
  | restarting | taken | deepened | deadlocked | faulted | gaveUp | refused | heldOn | handedOn =>
    cases hSleep

/-- The owner does not wait in an attempt after a look either. -/
theorem Turn.not_contending {s : Sleep Call} (hTurn : Turn checks t m r o)
    (hOwner : m.owner = some t) (hSleep : o.answer.sleep? = some s) : s.call.contends = false := by
  cases hTurn with
  | selfBlocked | restarting =>
    cases hSleep
    rfl
  | joined _ hBusy | crowded _ hBusy => exact absurd hOwner hBusy.2
  | taken | deepened | deadlocked | faulted | gaveUp | refused | heldOn | handedOn => cases hSleep

/-- Who gets the free mutex is the one who looks. -/
theorem Turn.taker (hTurn : Turn checks t m r o) (hFree : m.owner = none)
    (hTaken : o.object.owner = some u) : r ≠ .unlock ∧ u = t := by
  cases hTurn with
  | taken hReq =>
    cases hTaken
    exact ⟨hReq, rfl⟩
  | deepened _ hOwner | deadlocked hOwner | faulted _ hOwner | selfBlocked _ hOwner
  | heldOn hOwner | handedOn hOwner =>
    rw [hFree] at hOwner
    cases hOwner
  | joined _ hBusy | crowded _ hBusy | gaveUp hBusy | restarting hBusy =>
    exact absurd hFree hBusy.1
  | refused =>
    rw [Outcome.still, hFree] at hTaken
    cases hTaken

/-- A call of `unlock` that leaves the mutex free hands it on. -/
theorem Turn.eq_handedOn (hTurn : Turn checks t m r o) (hReq : r = .unlock)
    (hOwner : m.owner = some t) (hFree : o.object.owner = none) :
    o = ⟨m.handedOn, m.waiters.firstNotice, .finished (Request.unlock.granted t)⟩ := by
  cases hTurn with
  | handedOn => rfl
  | refused hOther => exact absurd hOwner hOther
  | heldOn =>
    rw [Outcome.still, hOwner] at hFree
    cases hFree
  | taken hNot | deepened hNot => exact absurd hReq hNot
  | deadlocked | faulted | selfBlocked | gaveUp | restarting => cases hReq
  | joined | crowded => exact absurd hReq (Call.request_ne _)

/-- The owner does not come to be blocked. -/
theorem not_blocked_step (hKept : ∀ u, mv ≠ .abandon u) (hOwner : w.object.owner = some t)
    (hOut : ¬ Blocked w t) : ¬ Blocked (w.step (protocol checks) mv) t := by
  rcases kept_cases checks w hKept with hIdle | ⟨u, r, o, hTurn, hStep, -, -⟩
  · rwa [hIdle]
  · rw [hStep]
    intro hIn
    have hIn' : (w.crew.look u o.answer.sleep?).isIn Call.contends t = true := hIn
    by_cases hSelf : t = u
    · subst hSelf
      rw [Crew.isIn_look_self, Option.any_eq_true] at hIn'
      obtain ⟨s, hSleep, hContends⟩ := hIn'
      rw [hTurn.not_contending hOwner hSleep] at hContends
      cases hContends
    · rw [Crew.isIn_look_of_ne hSelf] at hIn'
      exact hOut hIn'

theorem selfish_step (hKept : ∀ u, mv ≠ .abandon u)
    (h : ∀ t limit, w.crew.asleep t = some ⟨.locking .selfBlocked, limit⟩ →
      w.object.owner = some t) (t : TaskId) (limit : Option Ticks)
    (hAsleep : (w.step (protocol checks) mv).crew.asleep t =
      some ⟨.locking .selfBlocked, limit⟩) :
    (w.step (protocol checks) mv).object.owner = some t := by
  rcases kept_cases checks w hKept with hIdle | ⟨u, r, o, hTurn, hStep, -, -⟩
  · rw [hIdle] at hAsleep ⊢
    exact h t limit hAsleep
  · rw [hStep] at hAsleep ⊢
    have hAsleep' : (w.crew.look u o.answer.sleep?).asleep t =
        some ⟨.locking .selfBlocked, limit⟩ := hAsleep
    by_cases hSelf : t = u
    · subst hSelf
      rw [Crew.asleep_look_self] at hAsleep'
      exact hTurn.selfish hAsleep'
    · rw [Crew.asleep_look_of_ne hSelf] at hAsleep'
      have hOwner := h t limit hAsleep'
      exact (hTurn.eq_of_other hOwner (Ne.symm hSelf)).2.1.trans hOwner

theorem Queued.step (h : Queued checks kind moves) (hKept : ∀ t, mv ≠ .abandon t)
    (hOrderly : Orderly checks (after checks (create kind) moves) mv) :
    Queued checks kind (moves ++ [mv]) := by
  have hNext : after checks (create kind) (moves ++ [mv]) =
      (after checks (create kind) moves).step (protocol checks) mv :=
    TaskSync.World.run_concat ..
  have hLater := later_step checks kind moves mv
  obtain ⟨ts, hFew, hAll⟩ := hOrderly.few
  refine ⟨hNext ▸ h.tended.step hKept, ?_, hNext ▸ selfish_step hKept h.selfish⟩
  rw [hNext]
  rcases kept_cases checks (after checks (create kind) moves) hKept with
    hIdle | ⟨t, r, o, hTurn, hStep, hAwake, hAttempt⟩
  · rw [hIdle] at hLater ⊢
    exact h.lineup.congr h.tended.attended.line h.tended.located
      fun u hIn => hLater.kept u hIn hIn
  · rw [hStep] at hLater hAll ⊢
    exact hTurn.lineup h.lineup h.tended.attended.line h.tended.located hAwake
      (fun hReq => hOrderly.prompt t (hAttempt hReq)) hFew hAll ⟨hLater.kept, hLater.new⟩

theorem queued_run (hKept : ∀ t, .abandon t ∉ moves)
    (hOrderly : TaskSync.World.Allows (protocol checks) (Orderly checks) (.fresh (create kind))
      moves) : Queued checks kind moves := by
  -- by the last move, since the stamps count from the first
  induction moves using List.reverseRecOn with
  | nil =>
    refine ⟨tended_fresh kind, ⟨nofun, fun _ => rfl, List.Pairwise.nil, ?_⟩, nofun⟩
    intro t hWoken
    cases hWoken
  | append_singleton before mv ih =>
    obtain ⟨hBefore, hLast, -⟩ := TaskSync.World.allows_append.mp hOrderly
    refine (ih (fun t hMem => hKept t (List.mem_append_left _ hMem)) hBefore).step ?_ hLast
    rintro t rfl
    exact hKept t (List.mem_append_right _ List.mem_cons_self)

-- ---------------------------------------------------------------------------
-- Runs
-- ---------------------------------------------------------------------------

/-- A task that is asleep in no attempt and comes to be blocked was between two attempts. -/
theorem restarting_of_blocked_step (hKept : ∀ u, mv ≠ .abandon u)
    (hSelfish : ∀ limit, w.crew.asleep t = some ⟨.locking .selfBlocked, limit⟩ →
      w.object.owner = some t)
    (hAsleep : w.crew.isIn (fun _ => true) t = true) (hOut : w.crew.isIn Call.contends t = false)
    (hNext : Blocked (w.step (protocol checks) mv) t) :
    ∃ limit, w.crew.asleep t = some ⟨.restarting, limit⟩ := by
  cases hSleep : w.crew.asleep t with
  | none =>
    rw [Crew.isIn_of_none hSleep] at hAsleep
    cases hAsleep
  | some s =>
    obtain ⟨call, limit⟩ := s
    have hContends := hOut
    rw [Crew.isIn_of_some hSleep] at hContends
    cases call with
    | trying => cases hContends
    | restarting => exact ⟨limit, rfl⟩
    | locking call =>
      cases call with
      | attempt => cases hContends
      | selfBlocked =>
        -- a task that waits for itself would have gone on doing so
        have hNot : ¬ Blocked w t := by
          rw [Blocked, hOut]
          exact nofun
        exact absurd hNext (not_blocked_step hKept (hSelfish limit hSleep) hNot)

/-- A call that has been blocked for longer than its attempt has waited has begun another. -/
theorem Restarted.of_lt (hKept : ∀ u, .abandon u ∉ moves)
    (hQueued : ∀ n, Queued checks kind (moves.take n))
    (hBlocked : Blocked (after checks (create kind) moves) t)
    (hLt : callSince checks kind moves t < attemptSince checks kind moves t) :
    Restarted checks kind moves t := by
  -- the attempt began to wait with the move that the call was woken up for from between two
  have hBefore : attemptSince checks kind moves t < moves.length :=
    TaskSync.World.asleepSince_lt (TaskSync.World.isIn_fresh ..) hBlocked
  have hNext : Blocked (after checks (create kind)
      (moves.take (attemptSince checks kind moves t + 1))) t :=
    TaskSync.World.isIn_of_asleepSince_lt (Nat.lt_succ_self _) hBefore
  have hStep : after checks (create kind) (moves.take (attemptSince checks kind moves t + 1)) =
      (after checks (create kind) (moves.take (attemptSince checks kind moves t))).step
        (protocol checks) (moves[attemptSince checks kind moves t]) := by
    rw [List.take_succ_eq_append_getElem hBefore]
    exact TaskSync.World.run_concat ..
  rw [hStep] at hNext
  refine ⟨_, hLt, hBefore, restarting_of_blocked_step ?_ ((hQueued _).selfish t) ?_ ?_ hNext⟩
  · intro u hAbandon
    exact hKept u (hAbandon ▸ List.getElem_mem hBefore)
  · exact TaskSync.World.isIn_of_asleepSince_lt hLt (Nat.le_of_lt hBefore)
  · exact TaskSync.World.isIn_asleepSince (TaskSync.World.isIn_fresh ..)

/-- Whose attempt has been waiting longest is the foremost. -/
theorem foremost_of_attempt (hKept : ∀ u, .abandon u ∉ moves)
    (hQueued : ∀ n, Queued checks kind (moves.take n))
    (hBlocked : Blocked (after checks (create kind) moves) t)
    (hAttempt : ∀ u, Blocked (after checks (create kind) moves) u → u ≠ t →
      attemptSince checks kind moves t < attemptSince checks kind moves u) :
    Foremost checks kind moves t where
  blocked := hBlocked
  attempt := hAttempt
  call := by
    intro u hBlocked' hNe
    have hLe : callSince checks kind moves t ≤ attemptSince checks kind moves t :=
      TaskSync.World.asleepSince_mono fun _ _ => rfl
    have hLt := hAttempt u hBlocked' hNe
    rcases Nat.lt_or_ge (callSince checks kind moves u) (attemptSince checks kind moves u) with
      hLonger | hSame
    · exact Or.inr (.of_lt hKept hQueued hBlocked' hLonger)
    · left
      omega

/-- The task that a release for good wakes is the foremost. -/
theorem Queued.released (h : Queued checks kind moves) {now : Ticks}
    (hAwake : (after checks (create kind) moves).crew.asleep t = none)
    (hOwner : (after checks (create kind) moves).object.owner = some t)
    (hFree : ((after checks (create kind) moves).step (protocol checks)
      (.start t now .unlock)).object.owner = none)
    (hBlocked : Blocked (after checks (create kind) moves) u) :
    ∃ first, ((after checks (create kind) moves).step (protocol checks)
        (.start t now .unlock)).crew.woken = {first} ∧
      Blocked (after checks (create kind) moves) first ∧
      ∀ v, Blocked (after checks (create kind) moves) v → v ≠ first →
        attemptSince checks kind moves first < attemptSince checks kind moves v := by
  have hTended := h.tended
  have hLineup := h.lineup
  generalize after checks (create kind) moves = w at *
  rw [TaskSync.World.step_start hAwake] at hFree ⊢
  have hTurn := turn_start checks .unlock now t w.object
  rw [hTurn.eq_handedOn rfl hOwner hFree]
  have hNobody : w.crew.woken = ∅ := hLineup.unclaimed (hOwner ▸ nofun)
  have hMem := hLineup.mem_of_nobody hNobody hBlocked
  obtain ⟨first, rest, hTasks⟩ := List.exists_cons_of_ne_nil (List.ne_nil_of_mem hMem)
  have hFirst : w.object.waiters.first?.toList = [first] := by
    rw [WaitList.first?, hTasks]
    rfl
  refine ⟨first, ?_, ?_, fun v hIn hNe => hLineup.first_lt hNobody hTasks hIn hNe⟩
  · show w.crew.woken.erase t ∪ (Outcome.tasks _).toFinset = {first}
    rw [tasks_handedOn, hFirst, hNobody]
    rfl
  · refine hTended.attended.line.asleep first ?_
    rw [hTasks]
    exact List.mem_cons_self

/-- A task that has been woken finds the mutex free. -/
theorem Queued.granted (h : Queued checks kind moves)
    (hWoken : t ∈ (after checks (create kind) moves).crew.woken) (now : Ticks) :
    ((after checks (create kind) moves).step (protocol checks) (.resume t now)).object.owner =
      some t := by
  have hIn := h.tended.located.woken t hWoken
  have hFree : (after checks (create kind) moves).object.owner = none := by
    by_contra hOwned
    rw [h.lineup.unclaimed hOwned] at hWoken
    cases hWoken
  cases hSleep : (after checks (create kind) moves).crew.asleep t with
  | none =>
    rw [Crew.isIn_of_none hSleep] at hIn
    cases hIn
  | some s =>
    rw [TaskSync.World.step_resume hSleep]
    exact (turn_round checks s.call now t _).owner_of_free hFree s.call.request_ne

/-- Nobody is blocked at a free mutex that nobody has been woken for. -/
theorem Queued.nobody_blocked (h : Queued checks kind moves)
    (hFree : (after checks (create kind) moves).object.owner = none)
    (hNobody : (after checks (create kind) moves).crew.woken = ∅) :
    ¬ Blocked (after checks (create kind) moves) t := by
  intro hBlocked
  have hMem := h.lineup.mem_of_nobody hNobody hBlocked
  obtain ⟨u, hWoken⟩ := h.tended.someone hFree (List.ne_nil_of_mem hMem)
  rw [hNobody] at hWoken
  cases hWoken

/-- If no task is given up in a call, whoever has been woken looks first and no more tasks are
blocked than the wait list has room for, the mutex goes round in the order of the attempts. -/
theorem inTurn_run (checks : Bool) (kind : MutexKind) {moves : List Move}
    (hKept : ∀ t, .abandon t ∉ moves)
    (hOrderly : TaskSync.World.Allows (protocol checks) (Orderly checks) (.fresh (create kind))
      moves) : InTurn checks kind moves := by
  have hQueued : ∀ n, Queued checks kind (moves.take n) := by
    intro n
    rw [← List.take_append_drop n moves] at hOrderly
    exact queued_run (fun t hMem => hKept t (List.mem_of_mem_take hMem))
      (TaskSync.World.allows_append.mp hOrderly).1
  have hNow := hQueued moves.length
  rw [List.take_length] at hNow
  refine ⟨?_, ?_, ?_⟩
  · intro w t now hAwake hOwner hFree ⟨u, hBlocked⟩
    obtain ⟨first, hWoken, hFirst, hAttempt⟩ := hNow.released hAwake hOwner hFree hBlocked
    exact ⟨first, hWoken, foremost_of_attempt hKept hQueued hFirst hAttempt⟩
  · intro w t hWoken now
    exact hNow.granted hWoken now
  · intro w mv t hKept' hOrderly' hFree hTaken
    rcases kept_cases checks w hKept' with hIdle | ⟨u, r, o, hTurn, hStep, -, hAttempt⟩
    · rw [hIdle, hFree] at hTaken
      cases hTaken
    · rw [hStep] at hTaken
      obtain ⟨hReq, rfl⟩ := hTurn.taker hFree hTaken
      rcases w.crew.woken.eq_empty_or_nonempty with hNobody | ⟨v, hWoken⟩
      · exact Or.inr fun v => hNow.nobody_blocked hFree hNobody
      · -- somebody has been woken, and it is this task that looks
        obtain rfl := hOrderly'.prompt t (hAttempt hReq) v hWoken
        exact Or.inl (foremost_of_attempt hKept hQueued (hNow.tended.located.woken t hWoken)
          (hNow.lineup.ahead t hWoken))

/-- Moves of a few tasks are orderly if nobody looks before who has been woken. -/
theorem allows_orderly {ts : Finset TaskId} (hFew : ts.card ≤ WaitList.limit)
    (hIn : ∀ t, w.crew.asleep t ≠ none → t ∈ ts)
    (hStarters : ∀ t now r, .start t now r ∈ moves → t ∈ ts)
    (hPrompt : TaskSync.World.Allows (protocol checks) Prompt w moves) :
    TaskSync.World.Allows (protocol checks) (Orderly checks) w moves := by
  induction moves generalizing w with
  | nil => trivial
  | cons mv rest ih =>
    have hIn' : ∀ t, (w.step (protocol checks) mv).crew.asleep t ≠ none → t ∈ ts := by
      intro t hAsleep
      rcases TaskSync.World.asleep_or_started hAsleep with hBefore | ⟨now, r, rfl⟩
      · exact hIn t hBefore
      · exact hStarters t now r List.mem_cons_self
    refine ⟨⟨hPrompt.1, ts, hFew, fun t hBlocked => hIn' t fun hNone => ?_⟩,
      ih hIn' (fun t now r hMem => hStarters t now r (List.mem_cons_of_mem mv hMem)) hPrompt.2⟩
    rw [Blocked, Crew.isIn_of_none hNone] at hBlocked
    cases hBlocked

/-- The second task is blocked before the third, and its attempt runs out while the first has the
mutex. -/
def staggered : List Move :=
  [.start ⟨1⟩ 0 .lock, .start ⟨2⟩ 0 .lock, .start ⟨3⟩ 500 .lock, .resume ⟨2⟩ 1000,
    .resume ⟨2⟩ 1000]

theorem allows_staggered :
    TaskSync.World.Allows (protocol true) (Orderly true) (.fresh (create .normal)) staggered := by
  have hFew : ({⟨1⟩, ⟨2⟩, ⟨3⟩} : Finset TaskId).card ≤ WaitList.limit := by decide
  refine allows_orderly hFew (fun t hAsleep => absurd rfl hAsleep) ?_ (by decide)
  intro t now r hMem
  have hThree : t = ⟨1⟩ ∨ t = ⟨2⟩ ∨ t = ⟨3⟩ := by
    simp only [staggered, List.mem_cons, Move.start.injEq] at hMem
    rcases hMem with ⟨hFirst, -⟩ | ⟨hSecond, -⟩ | ⟨hThird, -⟩ | hNot
    · exact Or.inl hFirst
    · exact Or.inr (Or.inl hSecond)
    · exact Or.inr (Or.inr hThird)
    · simp at hNot
  simpa using hThree

theorem inTurn_run_staggered :
    (∀ t, .abandon t ∉ staggered) ∧
      TaskSync.World.Allows (protocol true) (Orderly true) (.fresh (create .normal)) staggered ∧
      InTurn true .normal staggered := by
  have hKept : ∀ t, .abandon t ∉ staggered := by simp [staggered]
  exact ⟨hKept, allows_staggered, inTurn_run true .normal hKept allows_staggered⟩

/-- A release does not always wake the task whose call has been blocked longest. -/
theorem not_longest_call_first :
    ¬ ∀ moves : List Move, (∀ t, .abandon t ∉ moves) →
      (∀ t now wait, .start t now (.tryLock wait) ∉ moves) →
      TaskSync.World.Allows (protocol true) (Orderly true) (.fresh (create .normal)) moves →
      let w := after true (create .normal) moves
      ∀ t now, w.crew.asleep t = none → w.object.owner = some t →
        ∀ u ∈ (w.step (protocol true) (.start t now .unlock)).crew.woken, ∀ v, Blocked w v →
          callSince true .normal moves u ≤ callSince true .normal moves v := by
  intro hLongest
  have hAll := hLongest staggered (by simp [staggered]) (by simp [staggered]) allows_staggered
  exact absurd (hAll ⟨1⟩ 1000 (by decide) (by decide) ⟨3⟩ (by decide) ⟨2⟩ (by decide)) (by decide)

end Mutex

end TaskSync
