import TaskSync.Proofs.EventGroup.Firing
import TaskSync.Proofs.Runs.Roster

/-!
# TaskSync — who waits at an event group

The wait table is the one list of an event group (`EventGroup.roster`). An entry
that has fired stays in the table until its task collects it, so the tasks that
wait are those whose entries have not fired. A set calls the tasks of the
entries that it fires, and nobody else. Between its arrival at a barrier and its
first look a task is in the table without being asleep.

* `EventGroup.kept` — an event group keeps its roster (`Roster.Kept`).
-/

namespace TaskSync

namespace EventGroup

/-- The tasks whose entries have not fired. -/
def unfired (g : EventGroup) : List TaskId :=
  (g.waiters.filter fun e => e.fired.isNone).map (·.task)

/-- Whether a call is a wait, and not on its way to one. -/
def Call.isWait : Call → Bool
  | .waiting _ => true
  | .arrived .. => false

/-- The wait table of an event group. -/
def roster : Roster EventGroup Call where
  Place := Unit
  place _ := ()
  waits := Call.isWait
  listed g _ := g.tasks
  waiting g _ := g.unfired
  waiting_sub _ _ _ hMem := (List.filter_sublist.map _).subset hMem

variable {c : Crew Call} {g g' : EventGroup} {t u : TaskId} {now wait : Ticks}
  {bits waitFor : EventBits} {w : Waiting EventWish} {o : Outcome EventGroup (Round Call Deed)}

theorem mem_unfired (hNodup : g.tasks.Nodup) :
    t ∈ g.unfired ↔ ∃ e, g.entryOf? t = some e ∧ e.fired = none := by
  rw [unfired, List.mem_map]
  constructor
  · rintro ⟨e, hMem, rfl⟩
    obtain ⟨hMem, hUnfired⟩ := List.mem_filter.mp hMem
    exact ⟨e, (entryOf?_eq_some_iff hNodup).mpr ⟨hMem, rfl⟩, Option.isNone_iff_eq_none.mp hUnfired⟩
  · rintro ⟨e, hEntry, hUnfired⟩
    obtain ⟨hMem, hTask⟩ := entry_of_some hEntry
    exact ⟨e, List.mem_filter.mpr ⟨hMem, Option.isNone_iff_eq_none.mpr hUnfired⟩, hTask⟩

theorem mem_unfired_congr (hNodup : g.tasks.Nodup) (hNodup' : g'.tasks.Nodup)
    (hEntry : g'.entryOf? t = g.entryOf? t) : t ∈ g'.unfired ↔ t ∈ g.unfired := by
  rw [mem_unfired hNodup, mem_unfired hNodup', hEntry]

-- ---------------------------------------------------------------------------
-- What a set does to the table
-- ---------------------------------------------------------------------------

theorem passed_set (hNodup : g.tasks.Nodup) (bits : EventBits) :
    roster.Passed none g (g.set bits) := by
  have hNodup' : (g.set bits).object.tasks.Nodup := by
    rw [tasks_set]
    exact hNodup
  have hCalled : ∀ t, t ∈ (g.set bits).tasks ↔
      ∃ e, g.entryOf? t = some e ∧ e.fires (g.setValue bits) = true := by
    intro t
    rw [notified_set, List.mem_map]
    constructor
    · rintro ⟨e, hMem, rfl⟩
      obtain ⟨hMem, hFires⟩ := List.mem_filter.mp hMem
      exact ⟨e, (entryOf?_eq_some_iff hNodup).mpr ⟨hMem, rfl⟩, hFires⟩
    · rintro ⟨e, hEntry, hFires⟩
      obtain ⟨hMem, hTask⟩ := entry_of_some hEntry
      exact ⟨e, List.mem_filter.mpr ⟨hMem, hFires⟩, hTask⟩
  refine ⟨?_, ?_, ?_⟩
  · intro t ht
    obtain ⟨e, hEntry, hFires⟩ := (hCalled t).mp ht
    have hUnfired := Option.isNone_iff_eq_none.mp (Bool.and_eq_true_iff.mp hFires).1
    exact ⟨nofun, (), (mem_unfired hNodup).mpr ⟨e, hEntry, hUnfired⟩⟩
  · intro t ht _ hMem
    obtain ⟨e, hEntry, hFires⟩ := (hCalled t).mp ht
    obtain ⟨e', hEntry', hUnfired⟩ := (mem_unfired hNodup').mp hMem
    rw [entryOf?_set, hEntry, Option.map_some, EventWaiter.fire, if_pos hFires] at hEntry'
    obtain rfl := Option.some.inj hEntry'
    cases hUnfired
  · intro _ t ht _
    obtain ⟨e, hEntry, hUnfired⟩ := (mem_unfired hNodup).mp ht
    by_cases hFires : e.fires (g.setValue bits) = true
    · exact Or.inr ((hCalled t).mpr ⟨e, hEntry, hFires⟩)
    · refine Or.inl ((mem_unfired hNodup').mpr ⟨e, ?_, hUnfired⟩)
      rw [entryOf?_set, hEntry, Option.map_some, EventWaiter.fire, if_neg hFires]

-- ---------------------------------------------------------------------------
-- What a look does to the table
-- ---------------------------------------------------------------------------

theorem Looked.passed (h : Table c g) (hCall : ∀ s, c.asleep t = some s → s.call.wish = w.request)
    (hLooked : Looked t now g w o) : roster.Passed (some t) g o where
  called := by
    rw [hLooked.tasks_eq]
    exact nofun
  gone := by
    rw [hLooked.tasks_eq]
    exact nofun
  kept := by
    intro _ u hMem hNe
    have hOther : u ≠ t := fun hSame => hNe (hSame ▸ rfl)
    have hEntry := hLooked.entry_of_ne h.nodup hOther
    exact Or.inl ((mem_unfired_congr h.nodup (h.looked hCall hLooked).nodup hEntry).mpr hMem)

theorem Looked.settled (h : Table c g) (hCall : ∀ s, c.asleep t = some s → s.call.wish = w.request)
    (hLooked : Looked t now g w o) : roster.Settled t g o := by
  have hNodup := (h.looked hCall hLooked).nodup
  cases hLooked with
  | collected | expired | satisfied | gaveUp => exact .of_none rfl
  | stayed hEntry hUnfired =>
    rintro _ ⟨⟩ -
    exact Or.inl ((mem_unfired h.nodup).mpr ⟨_, hEntry, hUnfired⟩)
  | joined hNone _ _ hEnlist =>
    rintro _ ⟨⟩ -
    have hEntry := entryOf?_enlist_self (entryOf?_eq_none_iff.mp hNone) hEnlist
    exact Or.inl ((mem_unfired hNodup).mpr ⟨_, hEntry, rfl⟩)
  | crowded hNone _ _ hFull =>
    rintro _ ⟨⟩ -
    refine Or.inr ⟨rfl, entryOf?_eq_none_iff.mp hNone, ?_⟩
    show WaitList.limit ≤ g.tasks.length
    rwa [tasks, List.length_map]

/-- An arrival calls those whom its bits call. -/
theorem Arrived.tasks_eq (hArrived : Arrived t g bits waitFor wait o) :
    o.tasks = (g.set bits).tasks := by
  cases hArrived <;> rfl

theorem Arrived.passed (h : Table c g) (hAwake : c.asleep t = none)
    (hArrived : Arrived t g bits waitFor wait o) : roster.Passed (some t) g o := by
  have hSet := passed_set h.nodup bits
  have hOut := h.not_mem hAwake
  have hNodup := (h.arrived hAwake hArrived).nodup
  have hNodup' : (g.set bits).object.tasks.Nodup := by
    rw [tasks_set]
    exact h.nodup
  have hSame : ∀ u ∈ g.unfired, u ∈ o.object.unfired ↔ u ∈ (g.set bits).object.unfired := by
    intro u hMem
    have hNe : u ≠ t := by
      rintro rfl
      exact hOut (roster.waiting_sub g () u hMem)
    exact mem_unfired_congr hNodup' hNodup (hArrived.entry_of_ne hNe)
  refine ⟨?_, ?_, ?_⟩
  · intro u hu
    rw [hArrived.tasks_eq] at hu
    obtain ⟨-, p, hMem⟩ := hSet.called u hu
    refine ⟨?_, p, hMem⟩
    rintro ⟨⟩
    exact hOut (roster.waiting_sub g p t hMem)
  · intro u hu p hMem
    rw [hArrived.tasks_eq] at hu
    obtain ⟨-, p', hWaits⟩ := hSet.called u hu
    exact hSet.gone u hu p ((hSame u hWaits).mp hMem)
  · intro p u hMem _
    rw [hArrived.tasks_eq]
    exact (hSet.kept p u hMem nofun).imp_left (hSame u hMem).mpr

theorem Arrived.settled (hArrived : Arrived t g bits waitFor wait o) : roster.Settled t g o := by
  cases hArrived with
  | completed | declined => exact .of_none rfl
  | enlisted | crowded => rintro _ ⟨⟩ ⟨⟩

/-- An event group keeps its roster. -/
theorem kept : roster.Kept protocol fun w => Table w.crew w.object where
  step _ _ h hKept := h.step hKept
  exact w h :=
    { nodup := fun _ => h.nodup
      inside := by
        intro _ t hListed
        obtain ⟨e, hMem, rfl⟩ := mem_tasks.mp hListed
        obtain ⟨s, hAsleep, -⟩ := h.asleep e hMem
        exact ⟨s, hAsleep, rfl⟩ }
  starts w t now r h hAwake := by
    cases r with
    | await wish wait =>
      have hLooked := looked_look (.start wish wait now) now t w.object
      have hCall : ∀ s, w.crew.asleep t = some s → s.call.wish = wish := by
        intro s hAsleep
        rw [hAwake] at hAsleep
        cases hAsleep
      exact ⟨hLooked.passed h hCall, hLooked.settled h hCall⟩
    | arrive bits waitFor wait =>
      have hArrived := arrived_start now t w.object bits waitFor wait
      exact ⟨hArrived.passed h hAwake, hArrived.settled⟩
  resumes w t now s h hAsleep := by
    have hLooked := looked_look (s.call.waitAt now) now t w.object
    have hCall : ∀ s', w.crew.asleep t = some s' → s'.call.wish = (s.call.waitAt now).request := by
      intro s' hAsleep'
      obtain rfl := Option.some.inj (hAsleep.symm.trans hAsleep')
      exact (s.call.request_waitAt now).symm
    exact ⟨hLooked.passed h hCall, hLooked.settled h hCall⟩
  acts w a h := by
    cases a with
    | set bits =>
      have hSet := passed_set h.nodup bits
      exact ⟨hSet.called, hSet.gone, hSet.kept⟩
    | clear bits => exact .of_eq (fun _ => rfl) rfl

end EventGroup

end TaskSync
