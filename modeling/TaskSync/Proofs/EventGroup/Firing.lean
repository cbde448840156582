import TaskSync.Proofs.EventGroup.Runs

/-!
# TaskSync — an event group forgets no event

A task in the wait table is not judged by the bits when it runs again but by
what its entry has kept. So its answer is right only if the table is: an entry
that has not fired must not be satisfied by the bits (`Table`), whatever sets,
clears and waiters that clear have made of them.

The values by which a run judges who waits are `valuesSet`. An entry keeps the
first of them that satisfies its wish (`entry_step`), as long as its task has
not looked.

Main result:

* `EventGroup.remembers_run` — in every state of every run in which no task is
  given up in a call the table is right, and whatever task has been in the table
  since some move is answered with the first value set since then that satisfies
  its wish, or, if there was none, waits on or runs out of time.
-/

namespace TaskSync

namespace EventGroup

/-- The value by which a move judges who waits, if it sets bits. -/
def valueSet? (w : World) : Move → Option EventBits
  | .act (.set bits) => some (w.object.setValue bits)
  | .start t _ (.arrive bits _ _) =>
    if (w.crew.asleep t).isNone then some (w.object.setValue bits) else none
  | _ => none

@[simp] theorem valueSet?_resume (w : World) (t : TaskId) (now : Ticks) :
    valueSet? w (.resume t now) = none := rfl

/-- The values by which the moves of a run judge who waits, in order. -/
def valuesSet (w : World) : List Move → List EventBits
  | [] => []
  | mv :: rest => (valueSet? w mv).toList ++ valuesSet (w.step protocol mv) rest

/-- The wait table agrees with the bits and with the calls that are under way. -/
structure Table (c : Crew Call) (g : EventGroup) : Prop where
  /-- No task is in the table twice. -/
  nodup : g.tasks.Nodup
  /-- An entry is that of a suspended call. -/
  asleep : ∀ e ∈ g.waiters, ∃ s, c.asleep e.task = some s ∧ s.call.wish = e.wish
  unfired : ∀ e ∈ g.waiters, e.fired = none → e.wish.holds g.bits = false
  /-- An entry that has fired keeps a value that satisfies it, and its task has been woken. -/
  fired : ∀ e ∈ g.waiters, ∀ value, e.fired = some value →
    e.wish.holds value = true ∧ e.task ∈ c.woken

/-- After each of the moves the task is in the wait table. -/
def Listed (t : TaskId) (w : World) (moves : List Move) : Prop :=
  w.Allows protocol (fun w mv => t ∈ (w.step protocol mv).object.tasks) moves

/-- What becomes of a task with a wish that has been in the wait table while bits were set to
`values`. -/
structure Answered (t : TaskId) (wish : EventWish) (values : List EventBits) (w : World) :
    Prop where
  call : ∃ s, w.crew.asleep t = some s ∧ s.call.wish = wish
  entry : w.object.entryOf? t = some ⟨t, wish, values.find? wish.holds⟩
  /-- Nobody else takes the task out of the table. -/
  stays : ∀ mv, (∀ now, mv ≠ .resume t now) → t ∈ (w.step protocol mv).object.tasks
  /-- The next look ends the call with the first value that satisfies the wish. -/
  served : ∀ value, values.find? wish.holds = some value → ∀ now,
    let w' := w.step protocol (.resume t now)
    w'.crew.asleep t = none ∧ t ∉ w'.object.tasks ∧
      w'.log = w.log ++ [⟨w.object, .waited t wish (.ok value)⟩]
  /-- Without such a value the call waits on, or runs out of time. -/
  waits : values.find? wish.holds = none → ∀ now,
    let w' := w.step protocol (.resume t now)
    ((w'.crew.asleep t).isSome ∧ t ∈ w'.object.tasks ∧ w'.log = w.log) ∨
      (w'.crew.asleep t = none ∧ t ∉ w'.object.tasks ∧
        w'.log = w.log ++ [⟨w.object, .waited t wish (.error w.object.bits)⟩])

-- ---------------------------------------------------------------------------
-- What keeps the table right
-- ---------------------------------------------------------------------------

section Tables

variable {c : Crew Call} {g g' : EventGroup} {t u : TaskId} {e : EventWaiter} {wish : EventWish}

theorem Table.not_mem (h : Table c g) (hAwake : c.asleep t = none) : t ∉ g.tasks := by
  intro hIn
  obtain ⟨e, hMem, rfl⟩ := mem_tasks.mp hIn
  obtain ⟨s, hAsleep, -⟩ := h.asleep e hMem
  rw [hAwake] at hAsleep
  cases hAsleep

/-- A look of a task that is not in the table. -/
theorem Table.pass (h : Table c g) (hOut : t ∉ g.tasks) (fate : Option (Sleep Call)) :
    Table (c.look t fate) g := by
  have hNe : ∀ e ∈ g.waiters, e.task ≠ t := fun e hMem hTask =>
    hOut (mem_tasks.mpr ⟨e, hMem, hTask⟩)
  refine ⟨h.nodup, ?_, h.unfired, ?_⟩
  · intro e hMem
    rw [Crew.asleep_look_of_ne (hNe e hMem)]
    exact h.asleep e hMem
  · intro e hMem value hFired
    obtain ⟨hHolds, hWoken⟩ := h.fired e hMem value hFired
    exact ⟨hHolds, (Crew.mem_woken_look fate).mpr ⟨hNe e hMem, hWoken⟩⟩

theorem Table.leave (h : Table c g) (t : TaskId) (fate : Option (Sleep Call)) :
    Table (c.look t fate) (g.dismiss t) := by
  have hLeft : Table c (g.dismiss t) := by
    refine ⟨nodup_dismiss h.nodup, ?_, ?_, ?_⟩
    · exact fun e hMem => h.asleep e ((mem_dismiss h.nodup).mp hMem).1
    · intro e hMem hUnfired
      rw [bits_dismiss]
      exact h.unfired e ((mem_dismiss h.nodup).mp hMem).1 hUnfired
    · exact fun e hMem => h.fired e ((mem_dismiss h.nodup).mp hMem).1
  refine hLeft.pass ?_ fate
  exact entryOf?_eq_none_iff.mp (entryOf?_dismiss_self h.nodup)

/-- A look of a task in the table that has not fired and goes on waiting. -/
theorem Table.stay (h : Table c g) (hEntry : g.entryOf? t = some e) (hUnfired : e.fired = none)
    {s : Sleep Call} (hWish : s.call.wish = e.wish) : Table (c.look t (some s)) g := by
  have hOwn : ∀ e' ∈ g.waiters, e'.task = t → e' = e := by
    intro e' hMem hTask
    have hEntry' := (entryOf?_eq_some_iff h.nodup).mpr ⟨hMem, hTask⟩
    exact Option.some.inj (hEntry'.symm.trans hEntry)
  refine ⟨h.nodup, ?_, h.unfired, ?_⟩
  · intro e' hMem
    by_cases hTask : e'.task = t
    · rw [hOwn e' hMem hTask, (entry_of_some hEntry).2]
      exact ⟨s, Crew.asleep_look_self _, hWish⟩
    · rw [Crew.asleep_look_of_ne hTask]
      exact h.asleep e' hMem
  · intro e' hMem value hFired
    obtain ⟨hHolds, hWoken⟩ := h.fired e' hMem value hFired
    refine ⟨hHolds, (Crew.mem_woken_look _).mpr ⟨fun hTask => ?_, hWoken⟩⟩
    rw [hOwn e' hMem hTask, hUnfired] at hFired
    cases hFired

theorem Table.clear (h : Table c g) (cleared : EventBits) :
    Table c { g with bits := g.bits &&& ~~~cleared } := by
  refine ⟨h.nodup, h.asleep, fun e hMem hUnfired => ?_, h.fired⟩
  rw [← Bool.not_eq_true]
  intro hHolds
  -- whom the rest satisfies the bits have satisfied before
  have hHeld := EventWish.holds_of_clear hHolds
  rw [h.unfired e hMem hUnfired] at hHeld
  cases hHeld

theorem Table.enlist (h : Table c g) (hOut : t ∉ g.tasks) {s : Sleep Call}
    (hAsleep : c.asleep t = some s) (hHolds : s.call.wish.holds g.bits = false)
    (hEnlist : g.enlist t s.call.wish = some g') : Table c g' := by
  have hNodup := nodup_enlist h.nodup hOut hEnlist
  obtain ⟨-, rfl⟩ := enlist_eq_some_iff.mp hEnlist
  refine ⟨hNodup, ?_, ?_, ?_⟩
  · intro e hMem
    rcases List.mem_append.mp hMem with hMem | hNew
    · exact h.asleep e hMem
    · rw [List.mem_singleton.mp hNew]
      exact ⟨s, hAsleep, rfl⟩
  · intro e hMem hUnfired
    rcases List.mem_append.mp hMem with hMem | hNew
    · exact h.unfired e hMem hUnfired
    · rw [List.mem_singleton.mp hNew]
      exact hHolds
  · intro e hMem value hFired
    rcases List.mem_append.mp hMem with hMem | hNew
    · exact h.fired e hMem value hFired
    · rw [List.mem_singleton.mp hNew] at hFired
      cases hFired

/-- An entry that is judged by a value keeps it if it has kept none and the value satisfies it. -/
theorem fire_eq (e : EventWaiter) (value : EventBits) :
    e.fire value = { e with fired := e.fired.or ((some value).filter e.wish.holds) } := by
  obtain ⟨task, wish, fired⟩ := e
  cases fired with
  | some v => rfl
  | none =>
    rw [EventWaiter.fire, EventWaiter.fires, Option.filter_some]
    by_cases hHolds : wish.holds value = true
    · simp [hHolds]
    · simp [hHolds]

theorem Table.set (h : Table c g) (bits : EventBits) :
    Table (c.notify (g.set bits).tasks) (g.set bits).object := by
  refine ⟨by rw [tasks_set]; exact h.nodup, ?_, ?_, ?_⟩
  · intro e' hIn
    rw [waiters_set] at hIn
    obtain ⟨e, hMem, rfl⟩ := List.mem_map.mp hIn
    rw [EventWaiter.task_fire, EventWaiter.wish_fire]
    exact h.asleep e hMem
  · intro e' hIn hUnfired
    rw [waiters_set] at hIn
    obtain ⟨e, hMem, rfl⟩ := List.mem_map.mp hIn
    obtain ⟨cleared, hBits⟩ := g.bits_set bits
    rw [EventWaiter.wish_fire, hBits, ← Bool.not_eq_true]
    intro hHolds
    -- what is left satisfies no more than the value that the entry was judged by
    have hHolds := EventWish.holds_of_clear hHolds
    rw [fire_eq] at hUnfired
    simp [hHolds] at hUnfired
  · intro e' hIn value hFired
    rw [waiters_set] at hIn
    obtain ⟨e, hMem, rfl⟩ := List.mem_map.mp hIn
    rw [EventWaiter.task_fire, EventWaiter.wish_fire, Crew.mem_woken_notify, notified_set]
    by_cases hFires : e.fires (g.setValue bits) = true
    · rw [EventWaiter.fire, if_pos hFires] at hFired
      obtain rfl := Option.some.inj hFired
      refine ⟨(Bool.and_eq_true_iff.mp hFires).2, Or.inr ?_⟩
      exact List.mem_map.mpr ⟨e, List.mem_filter.mpr ⟨hMem, hFires⟩, rfl⟩
    · rw [EventWaiter.fire, if_neg hFires] at hFired
      obtain ⟨hHolds, hWoken⟩ := h.fired e hMem value hFired
      exact ⟨hHolds, Or.inl hWoken⟩

variable {now wait : Ticks} {bits waitFor : EventBits} {w : Waiting EventWish}
  {o : Outcome EventGroup (Round Call Deed)}

theorem Looked.tasks_eq (hLooked : Looked t now g w o) : o.tasks = [] := by
  cases hLooked <;> rfl

theorem Table.looked (h : Table c g) (hCall : ∀ s, c.asleep t = some s → s.call.wish = w.request)
    (hLooked : Looked t now g w o) :
    Table ((c.look t o.answer.sleep?).notify o.tasks) o.object := by
  rw [hLooked.tasks_eq, Crew.notify_nil]
  cases hLooked with
  | collected | expired => exact h.leave t none
  | stayed hEntry hUnfired =>
    obtain ⟨hMem, hTask⟩ := entry_of_some hEntry
    obtain ⟨s, hAsleep, hWish⟩ := h.asleep _ hMem
    rw [hTask] at hAsleep
    exact h.stay hEntry hUnfired ((hCall s hAsleep).symm.trans hWish)
  | satisfied hNone => exact (h.pass (entryOf?_eq_none_iff.mp hNone) none).clear _
  | joined hNone hHolds _ hEnlist =>
    have hOut := entryOf?_eq_none_iff.mp hNone
    exact (h.pass hOut _).enlist hOut (Crew.asleep_look_self _) hHolds hEnlist
  | crowded hNone | gaveUp hNone => exact h.pass (entryOf?_eq_none_iff.mp hNone) _

/-- Nobody is entered at a barrier that his arrival completes. -/
theorem not_holds_barrierWish (h : (g.bits ||| bits) &&& waitFor ≠ waitFor) :
    (barrierWish waitFor).holds (g.set bits).object.bits = false := by
  obtain ⟨cleared, hBits⟩ := g.bits_set bits
  rw [hBits, ← Bool.not_eq_true]
  intro hHolds
  have hView := EventWish.holds_of_le (g.setValue_and bits) (EventWish.holds_of_clear hHolds)
  exact h (beq_iff_eq.mp hView)

theorem Table.arrived (h : Table c g) (hAwake : c.asleep t = none)
    (hArrived : Arrived t g bits waitFor wait o) :
    Table ((c.look t o.answer.sleep?).notify o.tasks) o.object := by
  have hOut := h.not_mem hAwake
  cases hArrived with
  | completed => exact ((h.pass hOut none).set bits).clear waitFor
  | declined => exact (h.pass hOut none).set bits
  | enlisted hMore _ hEnlist =>
    have hOut' : t ∉ (g.set bits).object.tasks := by
      rw [tasks_set]
      exact hOut
    exact ((h.pass hOut _).set bits).enlist hOut' (Crew.asleep_look_self _)
      (not_holds_barrierWish hMore) hEnlist
  | crowded => exact (h.pass hOut _).set bits

end Tables

variable {w : World} {mv : Move} {t : TaskId}

theorem Table.step (h : Table w.crew w.object) (hKept : ∀ t, mv ≠ .abandon t) :
    Table (w.step protocol mv).crew (w.step protocol mv).object := by
  have hStepped := TaskSync.World.stepped_step protocol w mv
  generalize w.step protocol mv = w' at hStepped ⊢
  cases hStepped with
  | idle => exact h
  | @started t now r hAwake =>
    cases r with
    | await wish wait =>
      refine h.looked (fun s hAsleep => ?_) (looked_look (.start wish wait now) now t w.object)
      rw [hAwake] at hAsleep
      cases hAsleep
    | arrive bits waitFor wait =>
      exact h.arrived hAwake (arrived_start now t w.object bits waitFor wait)
  | @resumed t now s hAsleep =>
    refine h.looked (fun s' hAsleep' => ?_) (looked_look (s.call.waitAt now) now t w.object)
    obtain rfl := Option.some.inj (hAsleep.symm.trans hAsleep')
    exact (s.call.request_waitAt now).symm
  | @acted a =>
    cases a with
    | set bits => exact h.set bits
    | clear bits =>
      show Table (w.crew.notify []) _
      rw [Crew.notify_nil]
      exact h.clear bits
  | @abandoned t => exact absurd rfl (hKept t)

theorem table_fresh (initial : EventBits) :
    Table (TaskSync.World.fresh (create initial) : World).crew
      (TaskSync.World.fresh (create initial) : World).object :=
  ⟨List.nodup_nil, nofun, nofun, nofun⟩

-- ---------------------------------------------------------------------------
-- What an entry keeps
-- ---------------------------------------------------------------------------

section Entries

variable {g : EventGroup} {u : TaskId} {now wait : Ticks} {bits waitFor : EventBits}
  {call : Waiting EventWish} {e : EventWaiter} {o : Outcome EventGroup (Round Call Deed)}

theorem Looked.entry_of_ne (hLooked : Looked u now g call o) (hNodup : g.tasks.Nodup)
    (hNe : t ≠ u) : o.object.entryOf? t = g.entryOf? t := by
  cases hLooked with
  | collected | expired => exact entryOf?_dismiss_of_ne hNodup hNe
  | joined _ _ _ hEnlist => exact entryOf?_enlist_of_ne hNe hEnlist
  | stayed | satisfied | crowded | gaveUp => rfl

theorem Arrived.entry_of_ne (hArrived : Arrived u g bits waitFor wait o) (hNe : t ≠ u) :
    o.object.entryOf? t = (g.set bits).object.entryOf? t := by
  cases hArrived with
  | enlisted _ _ hEnlist => exact entryOf?_enlist_of_ne hNe hEnlist
  | completed | declined | crowded => rfl

theorem entry_set (hEntry : g.entryOf? t = some e) (bits : EventBits) :
    (g.set bits).object.entryOf? t =
      some { e with fired := e.fired.or ((some (g.setValue bits)).filter e.wish.holds) } := by
  rw [entryOf?_set, hEntry, Option.map_some, fire_eq]

/-- An entry keeps the value by which a move judges who waits if it has kept none and the value
satisfies it. The moves of its own task apart, nothing takes it out of the table. -/
theorem entry_step (h : Table w.crew w.object) (hEntry : w.object.entryOf? t = some e)
    (hMove : ∀ now, mv ≠ .resume t now) :
    (w.step protocol mv).object.entryOf? t =
      some { e with fired := e.fired.or ((valueSet? w mv).filter e.wish.holds) } := by
  obtain ⟨hMem, hTask⟩ := entry_of_some hEntry
  obtain ⟨s, hAsleep, -⟩ := h.asleep e hMem
  rw [hTask] at hAsleep
  -- most moves set nothing
  have hNoSet (hNone : valueSet? w mv = none) :
      some { e with fired := e.fired.or ((valueSet? w mv).filter e.wish.holds) } =
        w.object.entryOf? t := by
    rw [hNone, Option.filter_none, Option.or_none, hEntry]
  cases mv with
  | start u now r =>
    rw [TaskSync.World.step]
    cases hOther : w.crew.asleep u with
    | some s' =>
      refine (hNoSet ?_).symm
      cases r with
      | await => rfl
      | arrive => rw [valueSet?, hOther]; rfl
    | none =>
      have hNe : t ≠ u := by
        rintro rfl
        rw [hAsleep] at hOther
        cases hOther
      cases r with
      | await wish wait =>
        rw [hNoSet rfl]
        exact (looked_look (.start wish wait now) now u w.object).entry_of_ne h.nodup hNe
      | arrive bits waitFor wait =>
        rw [valueSet?, hOther]
        exact ((arrived_start now u w.object bits waitFor wait).entry_of_ne hNe).trans
          (entry_set hEntry bits)
  | resume u now =>
    have hNe : t ≠ u := by
      rintro rfl
      exact hMove now rfl
    rw [hNoSet rfl, TaskSync.World.step]
    cases w.crew.asleep u with
    | none => rfl
    | some s' => exact (looked_look (s'.call.waitAt now) now u w.object).entry_of_ne h.nodup hNe
  | act a =>
    cases a with
    | set bits => exact entry_set hEntry bits
    | clear bits => exact (hNoSet rfl).symm
  | abandon u => exact (hNoSet rfl).symm

/-- All that a look of a task in the table can come to. -/
theorem resume_cases (h : Table w.crew w.object) (hEntry : w.object.entryOf? t = some e)
    (now : Ticks) :
    let w' := w.step protocol (.resume t now)
    (∃ value, e.fired = some value ∧ w'.crew.asleep t = none ∧ t ∉ w'.object.tasks ∧
        w'.log = w.log ++ [⟨w.object, .waited t e.wish (.ok value)⟩]) ∨
      (e.fired = none ∧ (w'.crew.asleep t).isSome ∧ w'.object = w.object ∧ w'.log = w.log) ∨
      (e.fired = none ∧ w'.crew.asleep t = none ∧ t ∉ w'.object.tasks ∧
        w'.log = w.log ++ [⟨w.object, .waited t e.wish (.error w.object.bits)⟩]) := by
  obtain ⟨hMem, hTask⟩ := entry_of_some hEntry
  obtain ⟨s, hAsleep, hWish⟩ := h.asleep e hMem
  rw [hTask] at hAsleep
  have hStep : w.step protocol (.resume t now) =
      w.look t (look (s.call.waitAt now) now t w.object) :=
    TaskSync.World.step_resume hAsleep now
  intro w'
  have hLooked := looked_look (s.call.waitAt now) now t w.object
  have hRequest : (s.call.waitAt now).request = e.wish := (s.call.request_waitAt now).trans hWish
  have hGone := entryOf?_eq_none_iff.mp (entryOf?_dismiss_self (t := t) h.nodup)
  simp only [w', hStep]
  generalize look (s.call.waitAt now) now t w.object = o at hLooked ⊢
  cases hLooked with
  | @collected e' value hEntry' hFired =>
    obtain rfl := Option.some.inj (hEntry.symm.trans hEntry')
    rw [TaskSync.World.look_still, hRequest]
    exact Or.inl ⟨value, hFired, Crew.asleep_look_self _, hGone, rfl⟩
  | stayed hEntry' hUnfired =>
    obtain rfl := Option.some.inj (hEntry.symm.trans hEntry')
    rw [TaskSync.World.look_suspended]
    refine Or.inr (Or.inl ⟨hUnfired, ?_, rfl, rfl⟩)
    rw [Crew.asleep_look_self]
    rfl
  | expired hEntry' hUnfired =>
    obtain rfl := Option.some.inj (hEntry.symm.trans hEntry')
    rw [TaskSync.World.look_still, hRequest]
    exact Or.inr (Or.inr ⟨hUnfired, Crew.asleep_look_self _, hGone, rfl⟩)
  | satisfied hNone | joined hNone | crowded hNone | gaveUp hNone =>
    rw [hEntry] at hNone
    cases hNone

/-- The same for any move after which the task is still in the table. -/
theorem entry_listed (h : Table w.crew w.object) (hEntry : w.object.entryOf? t = some e)
    (hListed : t ∈ (w.step protocol mv).object.tasks) :
    (w.step protocol mv).object.entryOf? t =
      some { e with fired := e.fired.or ((valueSet? w mv).filter e.wish.holds) } := by
  by_cases hMove : ∃ now, mv = .resume t now
  · obtain ⟨now, rfl⟩ := hMove
    rcases resume_cases h hEntry now with ⟨value, -, -, hGone, -⟩ | ⟨-, -, hObject, -⟩ |
      ⟨-, -, hGone, -⟩
    · exact absurd hListed hGone
    · rw [hObject, hEntry, valueSet?_resume, Option.filter_none, Option.or_none]
    · exact absurd hListed hGone
  · exact entry_step h hEntry fun now hSame => hMove ⟨now, hSame⟩

theorem find?_toList {α : Type} (x : Option α) (p : α → Bool) : x.toList.find? p = x.filter p := by
  cases x with
  | none => rfl
  | some a =>
    rw [Option.toList_some, List.find?_singleton, Option.filter_some]

/-- An entry that stays in the table keeps the first value that satisfies its wish. -/
theorem entry_run {later : List Move} (h : Table w.crew w.object)
    (hEntry : w.object.entryOf? t = some e) (hKept : ∀ u, .abandon u ∉ later)
    (hListed : Listed t w later) :
    (w.run protocol later).object.entryOf? t =
      some { e with fired := e.fired.or ((valuesSet w later).find? e.wish.holds) } := by
  -- each move may fire the entry, so the induction is for any entry
  induction later generalizing w e with
  | nil =>
    rw [valuesSet, List.find?_nil, Option.or_none]
    exact hEntry
  | cons mv rest ih =>
    obtain ⟨hMove, hRest⟩ := hListed
    have hFirst : ∀ u, mv ≠ .abandon u := by
      rintro u rfl
      exact hKept u List.mem_cons_self
    have hRun := ih (h.step hFirst) (entry_listed h hEntry hMove)
      (fun u hMem => hKept u (List.mem_cons_of_mem mv hMem)) hRest
    rw [TaskSync.World.run_cons, hRun, valuesSet, List.find?_append, find?_toList, Option.or_assoc]

theorem Looked.unfired_of_entered (hLooked : Looked u now g call o) (hNodup : g.tasks.Nodup)
    (hOut : g.entryOf? t = none) (hEntry : o.object.entryOf? t = some e) : e.fired = none := by
  by_cases hSelf : t = u
  · subst hSelf
    cases hLooked with
    | collected hEntry' | stayed hEntry' | expired hEntry' =>
      rw [hOut] at hEntry'
      cases hEntry'
    | joined _ _ _ hEnlist =>
      have hNew := entryOf?_enlist_self (entryOf?_eq_none_iff.mp hOut) hEnlist
      obtain rfl := Option.some.inj (hNew.symm.trans hEntry)
      rfl
    | satisfied | crowded | gaveUp =>
      have hNone : some e = none := hEntry.symm.trans hOut
      cases hNone
  · rw [hLooked.entry_of_ne hNodup hSelf, hOut] at hEntry
    cases hEntry

theorem entry_set_of_none (hOut : g.entryOf? t = none) (bits : EventBits) :
    (g.set bits).object.entryOf? t = none := by
  rw [entryOf?_set, hOut, Option.map_none]

theorem Arrived.unfired_of_entered (hArrived : Arrived u g bits waitFor wait o)
    (hOut : g.entryOf? t = none) (hEntry : o.object.entryOf? t = some e) : e.fired = none := by
  have hOut' := entry_set_of_none hOut bits
  by_cases hSelf : t = u
  · subst hSelf
    cases hArrived with
    | enlisted _ _ hEnlist =>
      have hNew := entryOf?_enlist_self (entryOf?_eq_none_iff.mp hOut') hEnlist
      obtain rfl := Option.some.inj (hNew.symm.trans hEntry)
      rfl
    | completed | declined | crowded =>
      have hNone : some e = none := hEntry.symm.trans hOut'
      cases hNone
  · rw [hArrived.entry_of_ne hSelf, hOut'] at hEntry
    cases hEntry

theorem unfired_of_entered (h : Table w.crew w.object) (hOut : w.object.entryOf? t = none)
    (hEntry : (w.step protocol mv).object.entryOf? t = some e) : e.fired = none := by
  have hStepped := TaskSync.World.stepped_step protocol w mv
  generalize w.step protocol mv = w' at hStepped hEntry
  have hSame : w.object.entryOf? t ≠ some e := by
    rw [hOut]
    exact nofun
  cases hStepped with
  | idle | abandoned => exact absurd hEntry hSame
  | @started u now r hAwake =>
    cases r with
    | await wish wait =>
      exact (looked_look (.start wish wait now) now u w.object).unfired_of_entered h.nodup hOut
        hEntry
    | arrive bits waitFor wait =>
      exact (arrived_start now u w.object bits waitFor wait).unfired_of_entered hOut hEntry
  | @resumed u now s hAsleep =>
    exact (looked_look (s.call.waitAt now) now u w.object).unfired_of_entered h.nodup hOut hEntry
  | @acted a =>
    cases a with
    | set bits =>
      have hNone := (entry_set_of_none hOut bits).symm.trans hEntry
      cases hNone
    | clear bits => exact absurd hEntry hSame

end Entries

-- ---------------------------------------------------------------------------
-- Runs
-- ---------------------------------------------------------------------------

theorem answered_of_entry {wish : EventWish} {values : List EventBits}
    (h : Table w.crew w.object)
    (hEntry : w.object.entryOf? t = some ⟨t, wish, values.find? wish.holds⟩) :
    Answered t wish values w where
  call := h.asleep _ (entry_of_some hEntry).1
  entry := hEntry
  stays := by
    intro mv hMove
    have hStays := entry_step h hEntry hMove
    obtain ⟨hMem, hTask⟩ := entry_of_some hStays
    exact mem_tasks.mpr ⟨_, hMem, hTask⟩
  served := by
    intro value hFound now
    rcases resume_cases h hEntry now with ⟨value', hFired, hServed⟩ | ⟨hUnfired, -⟩ | ⟨hUnfired, -⟩
    · obtain rfl := Option.some.inj (hFound.symm.trans hFired)
      exact hServed
    · rw [hFound] at hUnfired
      cases hUnfired
    · rw [hFound] at hUnfired
      cases hUnfired
  waits := by
    intro hNone now
    rcases resume_cases h hEntry now with ⟨value, hFired, -⟩ | ⟨-, hAsleep, hObject, hLog⟩ |
      ⟨-, hOver⟩
    · rw [hNone] at hFired
      cases hFired
    · refine Or.inl ⟨hAsleep, ?_, hLog⟩
      rw [hObject]
      exact mem_tasks.mpr ⟨_, (entry_of_some hEntry).1, rfl⟩
    · exact Or.inr hOver

/-- The state of an event group in use that forgets nothing. -/
structure Remembering (w : World) : Prop where
  table : Table w.crew w.object
  /-- Whatever task a move brings into the table is answered by what is set after that, for as long
  as it is there. -/
  answered : ∀ (mv : Move) (t : TaskId) (e : EventWaiter),
    w.object.entryOf? t = none → (w.step protocol mv).object.entryOf? t = some e →
    ∀ later : List Move, (∀ u, .abandon u ∉ later) → Listed t (w.step protocol mv) later →
      Answered t e.wish (valuesSet (w.step protocol mv) later)
        ((w.step protocol mv).run protocol later)

theorem table_run {later : List Move} (h : Table w.crew w.object)
    (hKept : ∀ t, .abandon t ∉ later) :
    Table (w.run protocol later).crew (w.run protocol later).object :=
  TaskSync.World.run_induction (I := fun w => Table w.crew w.object)
    (fun _ _ hMem hw => hw.step fun t hSame => hKept t (hSame ▸ hMem)) h

theorem Table.remembering (h : Table w.crew w.object) : Remembering w where
  table := h
  answered := by
    intro mv t e hOut hEntry later hKept hListed
    have hMove : ∀ u, mv ≠ .abandon u := by
      rintro u rfl
      have hNone : some e = none := hEntry.symm.trans hOut
      cases hNone
    have hTable := h.step hMove
    have hTable' := table_run hTable hKept
    have hRun := entry_run hTable hEntry hKept hListed
    rw [unfired_of_entered h hOut hEntry, Option.none_or, (entry_of_some hEntry).2] at hRun
    exact answered_of_entry hTable' hRun

/-- In every state of every run in which no task is given up in a call, an event group has
forgotten no event that a task in its table waits for. -/
theorem remembers_run (initial : EventBits) {moves : List Move}
    (hKept : ∀ t, .abandon t ∉ moves) : Remembering (after (create initial) moves) :=
  (table_run (table_fresh initial) hKept).remembering

/-- A task has been waiting and has run out of time. -/
def earlier : List Move := [.start ⟨1⟩ 0 (.await ⟨3, .all, true⟩ 2), .act (.set 4), .resume ⟨1⟩ 2]

/-- It waits again, for less. -/
def secondWait : Move := .start ⟨1⟩ 2 (.await ⟨3, .any, true⟩ 5)

/-- A party at a barrier sets a bit that the task waits for, and the bit is cleared before the task
looks. -/
def beforeLook : List Move :=
  [.resume ⟨1⟩ 3, .act (.set 8), .start ⟨2⟩ 4 (.arrive 1 3 10), .act (.clear 13), .act (.set 2)]

theorem remembers_run_secondWait :
    (∀ t, .abandon t ∉ earlier) ∧ Remembering (after (create 0) earlier) ∧
      Answered ⟨1⟩ ⟨3, .any, true⟩ [12, 13, 2]
        (((after (create 0) earlier).step protocol secondWait).run protocol beforeLook) := by
  have hKept : ∀ t, .abandon t ∉ earlier := by simp [earlier]
  have hRemembering : Remembering (after (create 0) earlier) := remembers_run 0 hKept
  have hLater : ∀ u, .abandon u ∉ beforeLook := by simp [beforeLook]
  have hListed : Listed ⟨1⟩ ((after (create 0) earlier).step protocol secondWait) beforeLook := by
    refine ⟨?_, ?_, ?_, ?_, ?_, trivial⟩ <;> decide
  have hAnswered := hRemembering.answered secondWait ⟨1⟩ ⟨⟨1⟩, ⟨3, .any, true⟩, none⟩ (by decide)
    (by decide) beforeLook hLater hListed
  exact ⟨hKept, hRemembering, hAnswered⟩

end EventGroup

end TaskSync
