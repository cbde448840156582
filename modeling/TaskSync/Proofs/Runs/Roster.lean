import TaskSync.Proofs.Runs.World

/-!
# TaskSync — who waits where

An object keeps lists of the tasks that wait at it, and a call belongs to one of
them (`Roster`). A list is right if it has nobody on it but tasks in calls of
its own, each once (`Roster.Exact`). What a step may do to the lists is said of
the step alone (`Roster.Passed`, `Roster.Settled`):

* it takes off a list nobody but its own task and those to whom it sends a
  notice, and sends notices to nobody else;
* a task that goes to sleep is on its list, or found the list full and polls.

An object of which this is known in every state keeps its roster
(`Roster.Kept`).
-/

namespace TaskSync

/-- The lists on which an object of type `σ` keeps the tasks that wait in calls `κ`. -/
structure Roster (σ κ : Type) where
  Place : Type
  /-- The list that a call belongs to. -/
  place : κ → Place
  /-- Whether a task in a call sleeps until it is woken or out of time. It does not between two
  looks, nor if it waits for itself. -/
  waits : κ → Bool
  listed : σ → Place → List TaskId
  /-- The tasks on a list to whom no notice has been sent. -/
  waiting : σ → Place → List TaskId
  waiting_sub : ∀ x p, ∀ t ∈ waiting x p, t ∈ listed x p

/-- The tasks that a step wants woken are those to whom it sends a notice. -/
theorem Outcome.mem_tasks {σ α : Type} {o : Outcome σ α} {t : TaskId} :
    t ∈ o.tasks ↔ .task t ∈ o.notices := by
  rw [Outcome.tasks, List.mem_filterMap]
  constructor
  · rintro ⟨_ | _, hMem, ⟨⟩⟩
    exact hMem
  · exact fun hMem => ⟨_, hMem, rfl⟩

namespace WaitList

variable {l l' : WaitList} {looker? : Option TaskId} {called : List TaskId} {t : TaskId}

theorem mem_of_first (h : t ∈ l.first?.toList) : t ∈ l.tasks :=
  List.mem_of_mem_head? (Option.mem_toList.mp h)

/-- Whoever was on a list still is, but for the task that looks and those who are called. -/
def KeptBy (looker? : Option TaskId) (called : List TaskId) (l l' : WaitList) : Prop :=
  ∀ t ∈ l.tasks, looker? ≠ some t → t ∈ l'.tasks ∨ t ∈ called

theorem KeptBy.refl : KeptBy looker? called l l := fun _ hMem _ => Or.inl hMem

theorem KeptBy.mono {called' : List TaskId} (h : KeptBy looker? called l l')
    (hSub : ∀ u ∈ called, u ∈ called') : KeptBy looker? called' l l' :=
  fun u hMem hOther => (h u hMem hOther).imp_right (hSub u)

theorem KeptBy.trans {l'' : WaitList} (h : KeptBy looker? called l l')
    (h' : KeptBy looker? called l' l'') : KeptBy looker? called l l'' := by
  intro u hMem hOther
  rcases h u hMem hOther with hThere | hCalled
  · exact h' u hThere hOther
  · exact Or.inr hCalled

theorem KeptBy.remove : KeptBy (some t) called l (l.remove t) := by
  intro u hMem hNe
  exact Or.inl (List.mem_filter.mpr ⟨hMem, decide_eq_true fun hSame => hNe (hSame ▸ rfl)⟩)

theorem KeptBy.register (hReg : l.register t = some l') : KeptBy looker? called l l' :=
  fun u hMem _ => Or.inl ((mem_of_register hReg).2 u hMem)

theorem KeptBy.empty (hCalled : ∀ u ∈ l.tasks, u ∈ called) : KeptBy looker? called l l' :=
  fun u hMem _ => Or.inr (hCalled u hMem)

theorem KeptBy.dropFirst (hFirst : ∀ u ∈ l.first?.toList, u ∈ called) :
    KeptBy looker? called l l.dropFirst := by
  intro u hMem _
  rw [tasks_dropFirst]
  rw [first?] at hFirst
  cases hTasks : l.tasks with
  | nil =>
    rw [hTasks] at hMem
    cases hMem
  | cons first rest =>
    rw [hTasks] at hMem hFirst
    rcases List.mem_cons.mp hMem with rfl | hRest
    · exact Or.inr (hFirst u List.mem_cons_self)
    · exact Or.inl hRest

end WaitList

namespace Roster

variable {σ ρ κ ι δ α : Type}

/-- Nobody is on a list but tasks in calls that belong to it, each once. -/
structure Exact (L : Roster σ κ) (c : Crew κ) (x : σ) : Prop where
  nodup : ∀ p, (L.listed x p).Nodup
  inside : ∀ p, ∀ t ∈ L.listed x p, ∃ s, c.asleep t = some s ∧ L.place s.call = p

/-- There is no room on a list for a task. -/
def Full (L : Roster σ κ) (x : σ) (p : L.Place) (t : TaskId) : Prop :=
  t ∉ L.listed x p ∧ WaitList.limit ≤ (L.listed x p).length

/-- What a step does to the lists, a look of `looker?` or a step that does not wait. -/
structure Passed (L : Roster σ κ) (looker? : Option TaskId) (x : σ) (o : Outcome σ α) :
    Prop where
  /-- Notices are sent to other tasks that wait. -/
  called : ∀ t ∈ o.tasks, looker? ≠ some t ∧ ∃ p, t ∈ L.waiting x p
  /-- They wait no longer. -/
  gone : ∀ t ∈ o.tasks, ∀ p, t ∉ L.waiting o.object p
  /-- All others wait on. -/
  kept : ∀ p, ∀ t ∈ L.waiting x p, looker? ≠ some t → t ∈ L.waiting o.object p ∨ t ∈ o.tasks

/-- A task that goes to sleep after a look is on its list, or found no room and polls. -/
def Settled (L : Roster σ κ) (t : TaskId) (x : σ) (o : Outcome σ (Round κ δ)) : Prop :=
  ∀ s, o.answer.sleep? = some s → L.waits s.call = true →
    t ∈ L.waiting o.object (L.place s.call) ∨ s.limit = some 1 ∧ L.Full x (L.place s.call) t

/-- An object of which `I` is known keeps its roster. -/
structure Kept (L : Roster σ κ) (P : Protocol σ ρ κ ι δ) (I : World σ κ δ → Prop) : Prop where
  step : ∀ w m, I w → (∀ t, m ≠ .abandon t) → I (w.step P m)
  exact : ∀ w, I w → L.Exact w.crew w.object
  starts : ∀ w t now r, I w → w.crew.asleep t = none →
    L.Passed (some t) w.object (P.start r now t w.object) ∧
      L.Settled t w.object (P.start r now t w.object)
  resumes : ∀ w t now s, I w → w.crew.asleep t = some s →
    L.Passed (some t) w.object (P.resume s.call now t w.object) ∧
      L.Settled t w.object (P.resume s.call now t w.object)
  acts : ∀ w a, I w → L.Passed none w.object (P.act a w.object)

variable {L : Roster σ κ} {P : Protocol σ ρ κ ι δ} {I : World σ κ δ → Prop} {w : World σ κ δ}
  {m : Move ρ ι} {t : TaskId}

/-- A step that touches no list and sends no notice to a task. -/
theorem Passed.of_eq {looker? : Option TaskId} {x : σ} {o : Outcome σ α}
    (hSame : ∀ p, L.waiting o.object p = L.waiting x p) (hNone : o.tasks = []) :
    L.Passed looker? x o where
  called := by
    rw [hNone]
    exact nofun
  gone := by
    rw [hNone]
    exact nofun
  kept p t hMem _ := Or.inl (hSame p ▸ hMem)

/-- A task that does not go to sleep need not be on any list. -/
theorem Settled.of_none {x : σ} {o : Outcome σ (Round κ δ)} (hNone : o.answer.sleep? = none) :
    L.Settled t x o := by
  intro s hSleep
  rw [hNone] at hSleep
  cases hSleep

/-- What a move does to the lists. -/
theorem Kept.passed (h : L.Kept P I) (hI : I w) (m : Move ρ ι) :
    L.Passed m.looker? w.object
      (⟨(w.step P m).object, w.notices P m, ()⟩ : Outcome σ Unit) := by
  have hStep : ∀ {α : Type} {o : Outcome σ α}, L.Passed m.looker? w.object o →
      L.Passed m.looker? w.object (⟨o.object, o.notices, ()⟩ : Outcome σ Unit) :=
    fun hPassed => ⟨hPassed.called, hPassed.gone, hPassed.kept⟩
  have hIdle : L.Passed m.looker? w.object (⟨w.object, [], ()⟩ : Outcome σ Unit) :=
    .of_eq (fun _ => rfl) rfl
  cases m with
  | start t now r =>
    rw [World.notices, World.step]
    cases hAsleep : w.crew.asleep t with
    | none => exact hStep (h.starts w t now r hI hAsleep).1
    | some s => exact hIdle
  | resume t now =>
    rw [World.notices, World.step]
    cases hAsleep : w.crew.asleep t with
    | none => exact hIdle
    | some s => exact hStep (h.resumes w t now s hI hAsleep).1
  | act a => exact hStep (h.acts w a hI)
  | abandon t => exact hIdle

/-- A task that sleeps after its look is on its list, or found no room and polls. -/
theorem Kept.settled (h : L.Kept P I) (hI : I w) (hLooks : m.looker? = some t)
    (hAwake : ∀ now r, m = .start t now r → w.crew.asleep t = none) {s : Sleep κ}
    (hAsleep : (w.step P m).crew.asleep t = some s) (hWaits : L.waits s.call = true) :
    t ∈ L.waiting (w.step P m).object (L.place s.call) ∨
      s.limit = some 1 ∧ L.Full w.object (L.place s.call) t := by
  have hSleep : ∀ {o : Outcome σ (Round κ δ)},
      (w.look t o).crew.asleep t = some s → o.answer.sleep? = some s :=
    fun hSlept => (Crew.asleep_look_self _).symm.trans hSlept
  cases m with
  | start u now r =>
    obtain rfl := Option.some.inj hLooks
    have hOut := hAwake now r rfl
    rw [World.step_start hOut] at hAsleep ⊢
    exact (h.starts w u now r hI hOut).2 s (hSleep hAsleep) hWaits
  | resume u now =>
    obtain rfl := Option.some.inj hLooks
    cases hSlept : w.crew.asleep u with
    | none =>
      rw [World.step_resume_of_awake hSlept, hSlept] at hAsleep
      cases hAsleep
    | some s' =>
      rw [World.step_resume hSlept] at hAsleep ⊢
      exact (h.resumes w u now s' hI hSlept).2 s (hSleep hAsleep) hWaits
  | act | abandon => cases hLooks

-- ---------------------------------------------------------------------------
-- Rosters of wait lists
-- ---------------------------------------------------------------------------

/-- The roster of an object that keeps a wait list for each kind of call. -/
def ofLists {Place : Type} (place : κ → Place) (waits : κ → Bool) (list : σ → Place → WaitList) :
    Roster σ κ where
  Place := Place
  place := place
  waits := waits
  listed x p := (list x p).tasks
  waiting x p := (list x p).tasks
  waiting_sub _ _ _ hMem := hMem

variable {Place : Type} {place : κ → Place} {waits : κ → Bool} {list : σ → Place → WaitList}
  {c : Crew κ} {x : σ} {kind : Place → κ → Bool}

/-- Wait lists that are lines for the calls that belong to them are in order. -/
theorem Exact.of_lines (hKind : ∀ p k, kind p k = true → place k = p)
    (hLines : ∀ p, c.Line (kind p) (list x p)) : (ofLists place waits list).Exact c x where
  nodup p := (hLines p).nodup
  inside p t hMem := by
    obtain ⟨s, hAsleep, hIn⟩ := (Option.any_eq_true ..).mp ((hLines p).asleep t hMem)
    exact ⟨s, hAsleep, hKind p s.call hIn⟩

/-- A step that leaves the wait lists lines sends no notice to a task that is still on one. -/
theorem Passed.of_lines {looker? : Option TaskId} {o : Outcome σ α}
    (hLines : ∀ p, (c.notify o.tasks).Line (kind p) (list o.object p))
    (hCalled : ∀ t ∈ o.tasks, looker? ≠ some t ∧ ∃ p, t ∈ (list x p).tasks)
    (hKept : ∀ p, (list x p).KeptBy looker? o.tasks (list o.object p)) :
    (ofLists place waits list).Passed looker? x o where
  called := hCalled
  gone _ hMem p := (hLines p).not_mem_of_called hMem
  kept := hKept

end Roster

end TaskSync
