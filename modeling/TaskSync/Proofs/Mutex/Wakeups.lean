import TaskSync.Proofs.Mutex.Runs

/-!
# TaskSync — a mutex loses no wakeup

Releasing a mutex for good wakes one task, and that task may be beaten to the
lock, wait for another quantum or run out of time. None of this leaves a free
mutex to nobody: a look finds the mutex free and takes it, or finds it taken,
and then its next release wakes somebody again.

The invariant of the wait list is `Crew.Attended`, for one unit while the mutex
is free (`due`). `Located` says where else a suspended task can be.

Main result:

* `Mutex.wakeful_run` — in every state of every run in which no task is given
  up in a call, a free mutex that tasks wait for has a task on its way to it,
  whom a release has taken off the wait list and woken.
-/

namespace TaskSync

namespace Mutex

/-- How many tasks have to be on their way to the mutex, if anybody waits for it. -/
def due (m : Mutex) : Nat := if m.owner = none then 1 else 0

/-- A mutex in use is left to nobody. -/
structure Wakeful (checks : Bool) (w : World) : Prop where
  /-- Who is on the wait list sleeps in a bounded attempt and has not been woken. -/
  line : w.crew.Line Call.contends w.object.waiters
  /-- Who has been woken and has not looked since was the first on the wait list at a release
  for good, and sleeps in a bounded attempt. -/
  called : ∀ t ∈ w.crew.woken, w.crew.isIn Call.contends t = true ∧
    ∃ r ∈ w.log, ∃ u, r.deed = .unlocked u (.ok ()) ∧ r.before.owner = some u ∧
      r.before.waiters.first? = some t
  free : w.object.owner = none → w.object.waiters.tasks ≠ [] → ∃ t, t ∈ w.crew.woken
  /-- While the mutex is free, whoever sleeps wakes up by himself in a tick, or somebody has been
  woken. -/
  asleep : w.object.owner = none → ∀ t s, w.crew.asleep t = some s →
    (∃ u, u ∈ w.crew.woken) ∨ ∃ n ≤ 1, s.limit = some n
  /-- Whoever goes on and finds the mutex free has it. -/
  takes : w.object.owner = none → ∀ t s now, w.crew.asleep t = some s →
    (w.step (protocol checks) (.resume t now)).object.owner = some t

variable {checks : Bool} {c : Crew Call} {m m' : Mutex} {t : TaskId} {r : Request}
  {o : Outcome Mutex (Round Call Deed)}

-- ---------------------------------------------------------------------------
-- Where a suspended task can be
-- ---------------------------------------------------------------------------

/-- Where the tasks at a mutex are. -/
structure Located (c : Crew Call) (m : Mutex) : Prop where
  busy : ∀ t, c.isIn Call.contends t = true → m.owner ≠ some t
  woken : ∀ t ∈ c.woken, c.isIn Call.contends t = true
  asleep : ∀ t s, c.asleep t = some s →
    t ∈ m.waiters.tasks ∨ t ∈ c.woken ∨ m.owner = some t ∨ ∃ n ≤ 1, s.limit = some n

/-- A look keeps all in place if it concerns its own task only. -/
theorem Located.look (h : Located c m) {fate : Option (Sleep Call)}
    (hOwner : ∀ u, u ≠ t → (m'.owner = some u ↔ m.owner = some u))
    (hKeep : ∀ u ∈ m.waiters.tasks, u ≠ t → u ∈ m'.waiters.tasks)
    (hBusy : ∀ s, fate = some s → s.call.contends = true → m'.owner ≠ some t)
    (hSelf : ∀ s, fate = some s →
      t ∈ m'.waiters.tasks ∨ m'.owner = some t ∨ ∃ n ≤ 1, s.limit = some n) :
    Located (c.look t fate) m' where
  busy := by
    intro u hIn
    by_cases hNe : u = t
    · subst hNe
      rw [Crew.isIn_look_self, Option.any_eq_true] at hIn
      obtain ⟨s, hFate, hContends⟩ := hIn
      exact hBusy s hFate hContends
    · rw [Crew.isIn_look_of_ne hNe] at hIn
      exact fun hOwned => h.busy u hIn ((hOwner u hNe).mp hOwned)
  woken := by
    intro u hWoken
    obtain ⟨hNe, hWoken⟩ := (Crew.mem_woken_look fate).mp hWoken
    rw [Crew.isIn_look_of_ne hNe]
    exact h.woken u hWoken
  asleep := by
    intro u s hAsleep
    by_cases hNe : u = t
    · subst hNe
      rw [Crew.asleep_look_self] at hAsleep
      rcases hSelf s hAsleep with hListed | hOwned | hBrief
      · exact Or.inl hListed
      · exact Or.inr (Or.inr (Or.inl hOwned))
      · exact Or.inr (Or.inr (Or.inr hBrief))
    · rw [Crew.asleep_look_of_ne hNe] at hAsleep
      rcases h.asleep u s hAsleep with hListed | hWoken | hOwned | hBrief
      · exact Or.inl (hKeep u hListed hNe)
      · exact Or.inr (Or.inl ((Crew.mem_woken_look fate).mpr ⟨hNe, hWoken⟩))
      · exact Or.inr (Or.inr (Or.inl ((hOwner u hNe).mpr hOwned)))
      · exact Or.inr (Or.inr (Or.inr hBrief))

theorem Located.finish (h : Located c m)
    (hOwner : ∀ u, u ≠ t → (m'.owner = some u ↔ m.owner = some u))
    (hKeep : ∀ u ∈ m.waiters.tasks, u ≠ t → u ∈ m'.waiters.tasks) :
    Located (c.look t none) m' := h.look hOwner hKeep nofun nofun

/-- The longest waiter is off the list and woken. -/
theorem Located.first (h : Located c m) (hLine : c.Line Call.contends m.waiters) :
    Located (c.notify m.waiters.first?.toList) { m with waiters := m.waiters.dropFirst } where
  busy := h.busy
  woken := by
    intro u hWoken
    rcases (Crew.mem_woken_notify _).mp hWoken with hWoken | hFirst
    · exact h.woken u hWoken
    · exact hLine.asleep u (List.mem_of_mem_head? (Option.mem_toList.mp hFirst))
  asleep := by
    intro u s hAsleep
    rw [Crew.mem_woken_notify]
    rcases h.asleep u s hAsleep with hListed | hWoken | hElse
    · unfold WaitList.first?
      show u ∈ m.waiters.tasks.tail ∨ _
      cases hTasks : m.waiters.tasks with
      | nil =>
        rw [hTasks] at hListed
        cases hListed
      | cons first rest =>
        -- the first of the list is now among those who have been woken
        rw [hTasks] at hListed
        rcases List.mem_cons.mp hListed with rfl | hRest
        · exact Or.inr (Or.inl (Or.inr List.mem_cons_self))
        · exact Or.inl hRest
    · exact Or.inr (Or.inl (Or.inl hWoken))
    · exact Or.inr (Or.inr hElse)

theorem tasks_handedOn {α : Type} (m : Mutex) (answer : α) :
    Outcome.tasks ⟨m.handedOn, m.waiters.firstNotice, answer⟩ = m.waiters.first?.toList :=
  WaitList.tasks_firstNotice _

theorem not_isIn_of_owner (h : Located c m) (hOwner : m.owner = some t) :
    c.isIn Call.contends t = false := by
  rw [← Bool.not_eq_true]
  exact fun hIn => h.busy t hIn hOwner

theorem Turn.located (hTurn : Turn checks t m r o) (h : Located c m)
    (hLine : c.Line Call.contends m.waiters) (hAwake : r = .unlock → c.asleep t = none) :
    Located ((c.look t o.answer.sleep?).notify o.tasks) o.object := by
  have hKeepAll : ∀ u ∈ m.waiters.tasks, u ≠ t → u ∈ m.waiters.tasks := fun u hu _ => hu
  have hKeepOthers : ∀ u ∈ m.waiters.tasks, u ≠ t → u ∈ (m.waiters.remove t).tasks :=
    fun u hu hNe => List.mem_filter.mpr ⟨hu, decide_eq_true hNe⟩
  have hSameOwner : ∀ u, u ≠ t → (m.owner = some u ↔ m.owner = some u) := fun _ _ => Iff.rfl
  cases hTurn with
  | taken hReq hFree =>
    rw [Outcome.tasks_still, Crew.notify_nil]
    refine h.finish (fun u hNe => ?_) hKeepOthers
    rw [hFree]
    exact ⟨fun hOwned => absurd (Option.some.inj hOwned).symm hNe, nofun⟩
  | deepened | deadlocked | faulted | refused | heldOn =>
    rw [Outcome.tasks_still, Crew.notify_nil]
    exact h.finish hSameOwner hKeepAll
  | gaveUp =>
    rw [Outcome.tasks_still, Crew.notify_nil]
    exact h.finish hSameOwner hKeepOthers
  | selfBlocked _ hOwner =>
    rw [Outcome.tasks_still, Crew.notify_nil]
    refine h.look hSameOwner hKeepAll ?_ fun s _ => Or.inr (Or.inl hOwner)
    intro s hFate hContends
    obtain rfl := Option.some.inj hFate
    cases hContends
  | restarting hBusy =>
    rw [Outcome.tasks_still, Crew.notify_nil]
    refine h.look hSameOwner hKeepOthers (fun _ _ _ => hBusy.2) fun s hFate => ?_
    obtain rfl := Option.some.inj hFate
    exact Or.inr (Or.inr ⟨0, by decide, rfl⟩)
  | crowded hContends hBusy =>
    rw [Outcome.tasks_still, Crew.notify_nil]
    refine h.look hSameOwner hKeepAll (fun _ _ _ => hBusy.2) fun s hFate => ?_
    obtain rfl := Option.some.inj hFate
    exact Or.inr (Or.inr ⟨1, UInt32.le_refl 1, rfl⟩)
  | joined hContends hBusy hReg =>
    rw [Outcome.tasks_still, Crew.notify_nil]
    obtain ⟨hJoined, hMore⟩ := WaitList.mem_of_register hReg
    exact h.look hSameOwner (fun u hu _ => hMore u hu) (fun _ _ _ => hBusy.2)
      fun _ _ => Or.inl hJoined
  | handedOn hOwner hLast =>
    have hOut : c.isIn Call.contends t = false := Crew.isIn_of_none (hAwake rfl)
    have hFree : Located (c.look t none) { m with owner := none, depth := 0 } := by
      refine h.finish (fun u hNe => ?_) hKeepAll
      rw [hOwner]
      exact ⟨nofun, fun hOwned => absurd (Option.some.inj hOwned).symm hNe⟩
    have hFirst := hFree.first (hLine.pass (hLine.not_mem hOut) none)
    rw [tasks_handedOn]
    exact hFirst

theorem Turn.attended (hTurn : Turn checks t m r o) (h : c.Attended Call.contends m.waiters (due m))
    (hLocated : Located c m) (hAwake : r = .unlock → c.asleep t = none) :
    ((c.look t o.answer.sleep?).notify o.tasks).Attended Call.contends o.object.waiters
      (due o.object) := by
  cases hTurn with
  | taken =>
    rw [Outcome.tasks_still, Crew.notify_nil]
    exact h.leave (Nat.zero_le _) t none
  | deepened _ hOwner | deadlocked hOwner | faulted _ hOwner | selfBlocked _ hOwner
  | heldOn hOwner =>
    rw [Outcome.tasks_still, Crew.notify_nil]
    exact h.pass (Nat.le_refl _) (not_isIn_of_owner hLocated hOwner) _
  | joined hContends hBusy hReg =>
    rw [Outcome.tasks_still, Crew.notify_nil]
    -- nobody is due while somebody has the mutex
    show Crew.Attended _ _ _ (due m)
    rw [due, if_neg hBusy.1]
    exact (h.line.join hReg hContends).attended
  | crowded hContends hBusy hOut =>
    rw [Outcome.tasks_still, Crew.notify_nil]
    show Crew.Attended _ _ _ (due m)
    rw [due, if_neg hBusy.1]
    exact (h.line.pass hOut _).attended
  | gaveUp hBusy | restarting hBusy =>
    rw [Outcome.tasks_still, Crew.notify_nil]
    show Crew.Attended _ _ _ (due m)
    rw [due, if_neg hBusy.1]
    exact h.leave (Nat.zero_le _) t _
  | refused =>
    rw [Outcome.tasks_still, Crew.notify_nil]
    exact h.pass (Nat.le_refl _) (Crew.isIn_of_none (hAwake rfl)) _
  | handedOn hOwner hLast =>
    have hOut : c.isIn Call.contends t = false := Crew.isIn_of_none (hAwake rfl)
    -- from now on one task is due, and the first of the list is on its way
    have hLeft := h.pass (Nat.zero_le _) hOut none
    rw [tasks_handedOn]
    exact hLeft.first (Nat.le_refl 1) (fun u hu => Option.mem_toList.mpr hu)
      hLeft.line.first_not_mem_tail

/-- Only a release for good wakes anybody, and whom it wakes is the longest waiter. -/
theorem Turn.called {u : TaskId} (hTurn : Turn checks t m r o) (hCalled : u ∈ o.tasks) :
    o.answer.deed? = some (.unlocked t (.ok ())) ∧ m.owner = some t ∧
      m.waiters.first? = some u := by
  cases hTurn with
  | handedOn hOwner =>
    rw [tasks_handedOn] at hCalled
    exact ⟨rfl, hOwner, Option.mem_toList.mp hCalled⟩
  | taken | deepened | deadlocked | faulted | selfBlocked | joined | crowded | gaveUp | restarting
  | refused | heldOn =>
    rw [Outcome.tasks_still] at hCalled
    cases hCalled

/-- Whoever finds the mutex free has it. -/
theorem Turn.owner_of_free (hTurn : Turn checks t m r o) (hFree : m.owner = none)
    (hReq : r ≠ .unlock) : o.object.owner = some t := by
  cases hTurn with
  | taken => rfl
  | deepened _ hOwner | deadlocked hOwner | faulted _ hOwner | selfBlocked _ hOwner =>
    rw [hFree] at hOwner
    cases hOwner
  | joined _ hBusy | crowded _ hBusy | gaveUp hBusy | restarting hBusy =>
    exact absurd hFree hBusy.1
  | refused | heldOn | handedOn => exact absurd rfl hReq

-- ---------------------------------------------------------------------------
-- Runs
-- ---------------------------------------------------------------------------

variable {w : World} {mv : Move}

/-- What holds of a mutex in use, if no task has been given up in a call. -/
structure Tended (w : World) : Prop where
  attended : w.crew.Attended Call.contends w.object.waiters (due w.object)
  located : Located w.crew w.object
  called : ∀ t ∈ w.crew.woken, ∃ r ∈ w.log, ∃ u, r.deed = .unlocked u (.ok ()) ∧
    r.before.owner = some u ∧ r.before.waiters.first? = some t

theorem Tended.look (h : Tended w) (hTurn : Turn checks t w.object r o)
    (hAwake : r = .unlock → w.crew.asleep t = none) : Tended (w.look t o) where
  attended := hTurn.attended h.attended h.located hAwake
  located := hTurn.located h.located h.attended.line hAwake
  called := by
    intro u hWoken
    show ∃ r ∈ w.logged o.answer.deed?, _
    rcases (Crew.mem_woken_notify _).mp hWoken with hWoken | hCalled
    · obtain ⟨-, hWoken⟩ := (Crew.mem_woken_look _).mp hWoken
      obtain ⟨r, hMem, hRelease⟩ := h.called u hWoken
      exact ⟨r, List.mem_append_left _ hMem, hRelease⟩
    · obtain ⟨hDeed, hOwner, hFirst⟩ := hTurn.called hCalled
      rw [hDeed, TaskSync.World.logged_some]
      exact ⟨_, List.mem_append_right _ List.mem_cons_self, t, rfl, hOwner, hFirst⟩

theorem Tended.step (h : Tended w) (hKept : ∀ t, mv ≠ .abandon t) :
    Tended (w.step (protocol checks) mv) := by
  have hStepped := TaskSync.World.stepped_step (protocol checks) w mv
  generalize w.step (protocol checks) mv = w' at hStepped ⊢
  cases hStepped with
  | idle => exact h
  | @started t now r hAwake => exact h.look (turn_start checks r now t w.object) fun _ => hAwake
  | @resumed t now s hAsleep =>
    exact h.look (turn_round checks s.call now t w.object)
      fun hUnlock => absurd hUnlock s.call.request_ne
  | @acted a => nomatch a
  | @abandoned t => exact absurd rfl (hKept t)

theorem tended_fresh (kind : MutexKind) : Tended (.fresh (create kind)) where
  attended := ⟨.of_empty _ _, fun hSome => absurd rfl hSome⟩
  located := ⟨nofun, nofun, nofun⟩
  called := nofun

theorem Tended.someone (h : Tended w) (hFree : w.object.owner = none)
    (hSome : w.object.waiters.tasks ≠ []) : ∃ t, t ∈ w.crew.woken := by
  have hEnough := h.attended.enough hSome
  rw [due, if_pos hFree] at hEnough
  obtain ⟨t, hMem⟩ := Finset.card_pos.mp hEnough
  exact ⟨t, (Crew.mem_wokenIn.mp hMem).1⟩

theorem Tended.wakeful (h : Tended w) : Wakeful checks w where
  line := h.attended.line
  called := fun t hWoken => ⟨h.located.woken t hWoken, h.called t hWoken⟩
  free := h.someone
  asleep := by
    intro hFree t s hAsleep
    rcases h.located.asleep t s hAsleep with hListed | hWoken | hOwner | hBrief
    · exact Or.inl (h.someone hFree (List.ne_nil_of_mem hListed))
    · exact Or.inl ⟨t, hWoken⟩
    · rw [hFree] at hOwner
      cases hOwner
    · exact Or.inr hBrief
  takes := by
    intro hFree t s now hAsleep
    have hTurn := turn_round checks s.call now t w.object
    rw [TaskSync.World.step_resume hAsleep]
    exact hTurn.owner_of_free hFree s.call.request_ne

/-- In every state of every run in which no task is given up in a call, a mutex is left to
nobody. -/
theorem wakeful_run (checks : Bool) (kind : MutexKind) {moves : List Move}
    (hKept : ∀ t, .abandon t ∉ moves) : Wakeful checks (after checks (create kind) moves) := by
  have hTended : Tended (after checks (create kind) moves) := by
    refine TaskSync.World.run_induction (fun w mv hMem h => h.step ?_) (tended_fresh kind)
    rintro t rfl
    exact hKept t hMem
  exact hTended.wakeful

/-- A task that has been woken is beaten to the lock and makes another attempt. The next release
wakes somebody else. -/
def beaten : List Move :=
  [.start ⟨1⟩ 0 .lock, .start ⟨2⟩ 0 .lock, .start ⟨3⟩ 0 (.tryLock 5000), .start ⟨1⟩ 10 .unlock,
    .start ⟨4⟩ 10 .lock, .resume ⟨2⟩ 1000, .resume ⟨2⟩ 1000, .start ⟨4⟩ 1001 .unlock]

theorem wakeful_run_beaten :
    (∀ t, .abandon t ∉ beaten) ∧
      Wakeful false (after false (create .normal) beaten) ∧
      (after false (create .normal) beaten).object.owner = none ∧
      (after false (create .normal) beaten).object.waiters.tasks = [⟨2⟩] ∧
      (after false (create .normal) beaten).crew.woken = {⟨3⟩} := by
  have hKept : ∀ t, .abandon t ∉ beaten := by simp [beaten]
  exact ⟨hKept, wakeful_run false .normal hKept, by decide, by decide, by decide⟩

end Mutex

end TaskSync
