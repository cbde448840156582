import TaskSync.Proofs.EventGroup.Firing

/-!
# TaskSync — a set is one evaluation

A set goes through the wait table entry by entry (`EventGroup.setInTurns`): it
marks those that fire, gathers the bits that are to be cleared and puts the tasks
to be woken into a queue that has as much room as the table. Nothing of this
shows in the end. The tour comes to one simultaneous evaluation of all entries by
one value (`EventGroup.Simultaneous`).

Nor does the order of the table show, which removals scramble. Groups that differ
in it alone (`EventGroup.Shuffled`) are set to the same bits, fire the same
entries and wake the same tasks, and they answer alike for ever after
(`EventGroup.Alike`); only the order in which a set wakes its tasks is the order
of the table.

Main result:

* `EventGroup.simultaneous_set` — a set is one simultaneous evaluation, the same
  for every order of the wait table.
-/

namespace TaskSync

namespace EventGroup

-- ---------------------------------------------------------------------------
-- Masks together
-- ---------------------------------------------------------------------------

/-- The bits that are in one of the masks. -/
def union (masks : List EventBits) : EventBits := masks.foldr (· ||| ·) 0

theorem getLsbD_union {masks : List EventBits} {i : Nat} :
    (union masks).toBitVec.getLsbD i = true ↔ ∃ m ∈ masks, m.toBitVec.getLsbD i = true := by
  induction masks with
  | nil => simp [union]
  | cons m rest ih =>
    show (m ||| union rest).toBitVec.getLsbD i = true ↔ _
    simp [ih]

theorem union_perm {masks masks' : List EventBits} (h : masks'.Perm masks) :
    union masks' = union masks := by
  apply UInt32.eq_of_toBitVec_eq
  apply BitVec.eq_of_getLsbD_eq
  intro i _
  rw [Bool.eq_iff_iff, getLsbD_union, getLsbD_union]
  simp only [h.mem_iff]

/-- Masks of waiters that clear nothing add nothing. -/
theorem union_cleared (l : List EventWaiter) :
    union (l.map (·.wish.cleared)) = union ((l.filter (·.wish.clear)).map (·.wish.wanted)) := by
  induction l with
  | nil => rfl
  | cons e rest ih =>
    show e.wish.cleared ||| union (rest.map (·.wish.cleared)) = _
    rw [ih, EventWish.cleared]
    by_cases hClear : e.wish.clear = true
    · simp [hClear, union]
    · simp [hClear]

-- ---------------------------------------------------------------------------
-- The tour of the table
-- ---------------------------------------------------------------------------

/-- How far a set has got with the wait table. -/
structure Tour where
  passed : List EventWaiter
  /-- What the waiters fired so far want cleared. -/
  cleared : EventBits
  /-- The tasks to be woken, in a queue that has room for `WaitList.limit` of them. -/
  queue : List TaskId

/-- A task goes to the end of a queue, or is dropped if the queue is full. -/
def enqueue (queue : List TaskId) (t : TaskId) : List TaskId :=
  if queue.length < WaitList.limit then queue ++ [t] else queue

/-- One entry of the table is judged by `value`. -/
def Tour.turn (value : EventBits) (tour : Tour) (e : EventWaiter) : Tour :=
  match e.fired with
  | some _ => { tour with passed := tour.passed ++ [e] }
  | none =>
    if e.wish.mode.holds value e.wish.wanted then
      { passed := tour.passed ++ [{ e with fired := some value }]
        cleared := if e.wish.clear then tour.cleared ||| e.wish.wanted else tour.cleared
        queue := enqueue tour.queue e.task }
    else { tour with passed := tour.passed ++ [e] }

/-- Sets bits, entry by entry of the wait table. -/
def setInTurns (g : EventGroup) (bits : EventBits) : Outcome EventGroup EventBits :=
  let value := g.bits ||| bits
  let tour := g.waiters.foldl (Tour.turn value) ⟨[], 0, []⟩
  let left := value &&& ~~~tour.cleared
  ⟨⟨left, tour.passed⟩, tour.queue.map .task, left⟩

theorem Tour.turn_of_fires {value : EventBits} {tour : Tour} {e : EventWaiter}
    (hFires : e.fires value = true) (hRoom : tour.queue.length < WaitList.limit) :
    tour.turn value e = ⟨tour.passed ++ [e.fire value], tour.cleared ||| e.wish.cleared,
      tour.queue ++ [e.task]⟩ := by
  obtain ⟨hUnfired, hHolds⟩ := Bool.and_eq_true_iff.mp hFires
  have hHolds : e.wish.mode.holds value e.wish.wanted = true := hHolds
  rw [turn, Option.isNone_iff_eq_none.mp hUnfired]
  simp only [hHolds, if_true]
  rw [enqueue, if_pos hRoom, EventWaiter.fire, if_pos hFires, EventWish.cleared]
  by_cases hClear : e.wish.clear = true
  · simp [hClear]
  · simp [hClear]

theorem Tour.turn_of_not_fires {value : EventBits} {tour : Tour} {e : EventWaiter}
    (hFires : e.fires value = false) :
    tour.turn value e = { tour with passed := tour.passed ++ [e.fire value] } := by
  rw [turn, EventWaiter.fire, if_neg (Bool.eq_false_iff.mp hFires)]
  cases hFired : e.fired with
  | some v => rfl
  | none =>
    have hHolds : e.wish.mode.holds value e.wish.wanted = false := by
      simpa [EventWaiter.fires, hFired, EventWish.holds] using hFires
    simp [hHolds]

/-- From any point on, the tour comes to what the sweep of the rest comes to. -/
theorem tour_eq (value : EventBits) (table : List EventWaiter) (tour : Tour)
    (hRoom : tour.queue.length + table.length ≤ WaitList.limit) :
    table.foldl (Tour.turn value) tour =
      ⟨tour.passed ++ (sweep value table).waiters, tour.cleared ||| (sweep value table).cleared,
        tour.queue ++ (sweep value table).woken⟩ := by
  -- each entry that is still to come has room in the queue
  induction table generalizing tour with
  | nil => simp [sweep]
  | cons e rest ih =>
    rw [List.length_cons] at hRoom
    rw [List.foldl_cons, sweep]
    by_cases hFires : e.fires value = true
    · rw [Tour.turn_of_fires hFires (by omega), ih _ (by simp; omega), EventWaiter.fire,
        if_pos hFires]
      simp [UInt32.or_assoc, hFires]
    · have hSame : e.fire value = e := if_neg hFires
      rw [Tour.turn_of_not_fires (Bool.eq_false_iff.mpr hFires), ih _ (by simp; omega), hSame]
      simp [hFires]

-- ---------------------------------------------------------------------------
-- The whole table judged by one value
-- ---------------------------------------------------------------------------

/-- What one sweep of the wait table with `value` comes to. -/
def judge (g : EventGroup) (value : EventBits) : Outcome EventGroup EventBits :=
  let s := sweep value g.waiters
  let left := value &&& ~~~s.cleared
  ⟨⟨left, s.waiters⟩, s.woken.map .task, left⟩

/-- The entries that a value fires: they have not fired, and it satisfies their wishes. -/
def firedBy (g : EventGroup) (value : EventBits) : List EventWaiter :=
  g.waiters.filter fun e => e.fired = none ∧ e.wish.holds value = true

variable {g g' : EventGroup} {t : TaskId} {bits value : EventBits}

theorem set_eq_judge (g : EventGroup) (bits : EventBits) :
    g.set bits = g.judge (g.setValue bits) := rfl

/-- The queue of the tasks to be woken has room for all of them. -/
theorem setInTurns_eq (hRoom : g.waiters.length ≤ WaitList.limit) (bits : EventBits) :
    g.setInTurns bits = g.judge (g.bits ||| bits) := by
  rw [setInTurns, judge, tour_eq _ _ _ (by simpa using hRoom)]
  simp

theorem fires_iff {e : EventWaiter} :
    e.fires value = true ↔ e.fired = none ∧ e.wish.holds value = true := by
  rw [EventWaiter.fires, Bool.and_eq_true, Option.isNone_iff_eq_none]

theorem firedBy_eq (g : EventGroup) (value : EventBits) :
    firedBy g value = g.waiters.filter (·.fires value) := by
  apply List.filter_congr
  intro e _
  rw [Bool.eq_iff_iff, fires_iff, decide_eq_true_iff]

theorem waiters_judge (g : EventGroup) (value : EventBits) :
    (g.judge value).object.waiters = g.waiters.map (·.fire value) := waiters_sweep _ _

theorem notices_judge (g : EventGroup) (value : EventBits) :
    (g.judge value).notices = (firedBy g value).map fun e => .task e.task := by
  show (sweep value g.waiters).woken.map Notice.task = _
  rw [woken_sweep, firedBy_eq, List.map_map]
  rfl

theorem tasks_judge (g : EventGroup) (value : EventBits) :
    (g.judge value).tasks = (firedBy g value).map (·.task) := by
  rw [Outcome.tasks, notices_judge, List.filterMap_map]
  exact congrFun (List.filterMap_eq_map (f := fun e : EventWaiter => e.task)) _

theorem bits_judge (g : EventGroup) (value : EventBits) :
    (g.judge value).object.bits = value &&&
      ~~~union (((firedBy g value).filter (·.wish.clear)).map (·.wish.wanted)) := by
  have hUnion : (sweep value g.waiters).cleared =
      union ((firedBy g value).map (·.wish.cleared)) := by
    rw [cleared_sweep, union, List.foldr_map, firedBy_eq]
  rw [← union_cleared, ← hUnion]
  rfl

/-- Who has not fired has been judged by more bits than are left. -/
theorem unsatisfied_judge (g : EventGroup) (value : EventBits) :
    ∀ e ∈ (g.judge value).object.waiters, e.fired = none →
      e.wish.holds (g.judge value).object.bits = false := by
  intro e' hIn hUnfired
  rw [waiters_judge] at hIn
  obtain ⟨e, -, rfl⟩ := List.mem_map.mp hIn
  rw [fire_eq] at hUnfired
  rw [EventWaiter.wish_fire, bits_judge, ← Bool.not_eq_true]
  intro hHolds
  have hHeld := EventWish.holds_of_clear hHolds
  simp [hHeld] at hUnfired

-- ---------------------------------------------------------------------------
-- The order of the table
-- ---------------------------------------------------------------------------

/-- Groups that differ in the order of their wait tables alone. -/
structure Shuffled (g g' : EventGroup) : Prop where
  bits : g'.bits = g.bits
  waiters : g'.waiters.Perm g.waiters

/-- Steps that differ in the order of the wait table and of the tasks to be woken alone. -/
structure Similar {β : Type} (o o' : Outcome EventGroup β) : Prop where
  object : Shuffled o.object o'.object
  tasks : o'.tasks.Perm o.tasks
  answer : o'.answer = o.answer

theorem Shuffled.tasks (h : Shuffled g g') : g'.tasks.Perm g.tasks := h.waiters.map _

theorem Shuffled.nodup (h : Shuffled g g') (hNodup : g.tasks.Nodup) : g'.tasks.Nodup :=
  h.tasks.nodup_iff.mpr hNodup

/-- A task that is not in the table twice has the same entry, wherever that stands. -/
theorem Shuffled.entryOf?_eq (h : Shuffled g g') (hNodup : g.tasks.Nodup) (t : TaskId) :
    g'.entryOf? t = g.entryOf? t :=
  entryOf?_congr hNodup (h.nodup hNodup) fun _ _ => h.waiters.mem_iff

theorem Shuffled.judge (h : Shuffled g g') (value : EventBits) :
    Similar (g.judge value) (g'.judge value) := by
  have hFired : (firedBy g' value).Perm (firedBy g value) := h.waiters.filter _
  have hBits : (g'.judge value).object.bits = (g.judge value).object.bits := by
    have hMasks := (hFired.filter (·.wish.clear)).map (·.wish.wanted)
    rw [bits_judge, bits_judge, union_perm hMasks]
  refine ⟨⟨hBits, ?_⟩, ?_, hBits⟩
  · rw [waiters_judge, waiters_judge]
    exact h.waiters.map _
  · rw [tasks_judge, tasks_judge]
    exact hFired.map _

theorem Shuffled.set (h : Shuffled g g') (bits : EventBits) :
    Similar (g.set bits) (g'.set bits) := by
  have hValue : g'.setValue bits = g.setValue bits := by rw [setValue, setValue, h.bits]
  rw [set_eq_judge, set_eq_judge, hValue]
  exact h.judge _

theorem Shuffled.clear (h : Shuffled g g') (cleared : EventBits) :
    Shuffled { g with bits := g.bits &&& ~~~cleared }
      { g' with bits := g'.bits &&& ~~~cleared } :=
  ⟨congrArg (· &&& ~~~cleared) h.bits, h.waiters⟩

theorem Shuffled.dismiss (h : Shuffled g g') (hNodup : g.tasks.Nodup) (t : TaskId) :
    Shuffled (g.dismiss t) (g'.dismiss t) where
  bits := by rw [bits_dismiss, bits_dismiss, h.bits]
  waiters :=
    calc (g'.dismiss t).waiters.Perm (g'.waiters.filter fun e => e.task ≠ t) :=
          waiters_dismiss_perm (h.nodup hNodup)
      _ |>.Perm (g.waiters.filter fun e => e.task ≠ t) := h.waiters.filter _
      _ |>.Perm (g.dismiss t).waiters := (waiters_dismiss_perm hNodup).symm

theorem Shuffled.enlist (h : Shuffled g g') (t : TaskId) (wish : EventWish) :
    Option.Rel Shuffled (g.enlist t wish) (g'.enlist t wish) := by
  unfold EventGroup.enlist
  rw [h.waiters.length_eq]
  split
  · exact .some ⟨h.bits, h.waiters.append_right _⟩
  · exact .none

-- ---------------------------------------------------------------------------
-- Operations and runs
-- ---------------------------------------------------------------------------

section Steps

variable {α β : Type}

theorem Similar.map {o o' : Outcome EventGroup α} (h : Similar o o') (f : α → β) :
    Similar (o.map f) (o'.map f) := ⟨h.object, h.tasks, congrArg f h.answer⟩

theorem Shuffled.still (h : Shuffled g g') (a : α) :
    Similar (Outcome.still g a) (Outcome.still g' a) := ⟨h, .refl _, rfl⟩

theorem Shuffled.serve (h : Shuffled g g') (hNodup : g.tasks.Nodup) (wish : EventWish) (l : Look) :
    Option.Rel Similar (Blocks.serve wish l g) (Blocks.serve wish l g') := by
  rw [serve_eq, serve_eq, h.entryOf?_eq hNodup, h.bits]
  cases g.entryOf? l.task with
  | some e =>
    show Option.Rel Similar (e.fired.map _) (e.fired.map _)
    cases e.fired with
    | some value => exact .some ((h.dismiss hNodup l.task).still _)
    | none => exact .none
  | none =>
    show Option.Rel Similar (if _ then _ else _) (if _ then _ else _)
    split
    · exact .some ⟨⟨rfl, h.waiters⟩, .refl _, rfl⟩
    · exact .none

theorem Shuffled.join (h : Shuffled g g') (hNodup : g.tasks.Nodup) (wish : EventWish) (t : TaskId) :
    Option.Rel Shuffled (Blocks.join wish t g) (Blocks.join wish t g') := by
  rw [join_eq, join_eq, h.entryOf?_eq hNodup]
  cases g.entryOf? t with
  | some e => exact .some h
  | none => exact h.enlist t wish

theorem Shuffled.lastLook (h : Shuffled g g') (hNodup : g.tasks.Nodup) (w : Waiting EventWish)
    (t : TaskId) : Similar (w.lastLook t g) (w.lastLook t g') := by
  have hServe := h.serve hNodup w.request ⟨t, w.again, true⟩
  unfold Waiting.lastLook
  generalize Blocks.serve w.request _ g = served at hServe ⊢
  generalize Blocks.serve w.request _ g' = served' at hServe ⊢
  cases hServe with
  | some hSimilar => exact hSimilar
  | none =>
    have hLeft := h.dismiss hNodup t
    exact ⟨hLeft, .refl _, congrArg Except.error hLeft.bits⟩

theorem Shuffled.lookOrJoin (h : Shuffled g g') (hNodup : g.tasks.Nodup) (w : Waiting EventWish)
    (left : Option Ticks) (t : TaskId) :
    Similar (w.lookOrJoin left t g) (w.lookOrJoin left t g') := by
  have hServe := h.serve hNodup w.request ⟨t, w.again, false⟩
  have hJoin := h.join hNodup w.request t
  unfold Waiting.lookOrJoin
  generalize Blocks.serve w.request _ g = served at hServe ⊢
  generalize Blocks.serve w.request _ g' = served' at hServe ⊢
  cases hServe with
  | some hSimilar => exact hSimilar.map _
  | none =>
    generalize Blocks.join w.request t g = joined at hJoin ⊢
    generalize Blocks.join w.request t g' = joined' at hJoin ⊢
    cases hJoin with
    | some hJoined => exact hJoined.still _
    | none => exact h.still _

theorem Shuffled.look (h : Shuffled g g') (hNodup : g.tasks.Nodup) (w : Waiting EventWish)
    (now : Ticks) (t : TaskId) : Similar (look w now t g) (look w now t g') := by
  apply Similar.map
  by_cases hOver : w.isOver now = true
  · rw [Waiting.round_of_over hOver, Waiting.round_of_over hOver]
    exact (h.lastLook hNodup w t).map _
  · have hOver := Bool.eq_false_iff.mpr hOver
    rw [Waiting.round_of_not_over hOver, Waiting.round_of_not_over hOver]
    exact h.lookOrJoin hNodup w _ t

theorem Shuffled.arrive (h : Shuffled g g') (t : TaskId) (bits waitFor : EventBits)
    (wait : Ticks) : Similar (g.arrive t bits waitFor wait) (g'.arrive t bits waitFor wait) := by
  have hSet := h.set bits
  unfold EventGroup.arrive
  rw [h.bits]
  by_cases hAll : (g.bits ||| bits) &&& waitFor = waitFor
  · simp only [if_pos hAll]
    exact ⟨hSet.object.clear waitFor, hSet.tasks, rfl⟩
  by_cases hWait : wait = 0
  · simp only [if_neg hAll, if_pos hWait]
    exact ⟨hSet.object, hSet.tasks, congrArg (some ∘ Except.error) hSet.object.bits⟩
  · simp only [if_neg hAll, if_neg hWait]
    refine ⟨?_, hSet.tasks, rfl⟩
    have hEnlist := hSet.object.enlist t (barrierWish waitFor)
    generalize (g.set bits).object.enlist t _ = entered at hEnlist ⊢
    generalize (g'.set bits).object.enlist t _ = entered' at hEnlist ⊢
    cases hEnlist with
    | some hEntered => exact hEntered
    | none => exact hSet.object

theorem Shuffled.start (h : Shuffled g g') (hNodup : g.tasks.Nodup) (now : Ticks) (t : TaskId)
    (r : Request) : Similar (r.start now t g) (r.start now t g') := by
  cases r with
  | await wish wait => exact h.look hNodup _ now t
  | arrive bits waitFor wait =>
    rw [Request.start, Request.start]
    exact (h.arrive t bits waitFor wait).map _

theorem Shuffled.act (h : Shuffled g g') (a : Act) : Similar (a.perform g) (a.perform g') := by
  cases a with
  | set bits =>
    rw [Act.perform, Act.perform]
    exact (h.set bits).map _
  | clear bits => exact ⟨h.clear bits, .refl _, congrArg (some ∘ Deed.cleared bits) h.bits⟩

end Steps

/-- Groups in use that differ in the order of their wait tables alone: the same tasks sleep, the
same have been woken, and the same operations have ended with the same answers. -/
structure Alike (w w' : World) : Prop where
  object : Shuffled w.object w'.object
  crew : w'.crew = w.crew
  deeds : w'.log.map (·.deed) = w.log.map (·.deed)

section Runs

variable {w w' : World}

/-- The order in which tasks are woken makes no difference to who has been. -/
theorem notify_perm {c : Crew Call} {l l' : List TaskId} (h : l'.Perm l) :
    c.notify l' = c.notify l := by
  have hSame : l'.toFinset = l.toFinset := by
    ext t
    rw [List.mem_toFinset, List.mem_toFinset, h.mem_iff]
  rw [Crew.notify, Crew.notify, hSame]

theorem Alike.logged (h : Alike w w') (ended : Option Deed) :
    (w'.logged ended).map (·.deed) = (w.logged ended).map (·.deed) := by
  simp [TaskSync.World.logged, h.deeds, Function.comp_def]

theorem Alike.look (h : Alike w w') {o o' : Outcome EventGroup (Round Call Deed)}
    (hSimilar : Similar o o') (t : TaskId) : Alike (w.look t o) (w'.look t o') where
  object := hSimilar.object
  crew := by
    show (w'.crew.look t o'.answer.sleep?).notify o'.tasks = _
    rw [hSimilar.answer, h.crew, notify_perm hSimilar.tasks]
    rfl
  deeds := by
    show (w'.logged o'.answer.deed?).map _ = (w.logged o.answer.deed?).map _
    rw [hSimilar.answer, h.logged]

theorem Alike.act (h : Alike w w') {o o' : Outcome EventGroup (Option Deed)}
    (hSimilar : Similar o o') : Alike (w.act o) (w'.act o') where
  object := hSimilar.object
  crew := by
    show w'.crew.notify o'.tasks = _
    rw [h.crew, notify_perm hSimilar.tasks]
    rfl
  deeds := by
    show (w'.logged o'.answer).map _ = (w.logged o.answer).map _
    rw [hSimilar.answer, h.logged]

theorem Alike.step (h : Alike w w') (hNodup : w.object.tasks.Nodup) (mv : Move) :
    Alike (w.step protocol mv) (w'.step protocol mv) := by
  cases mv with
  | start t now r =>
    rw [TaskSync.World.step, TaskSync.World.step, h.crew]
    cases w.crew.asleep t with
    | none => exact h.look (h.object.start hNodup now t r) t
    | some s => exact h
  | resume t now =>
    rw [TaskSync.World.step, TaskSync.World.step, h.crew]
    cases w.crew.asleep t with
    | none => exact h
    | some s => exact h.look (h.object.look hNodup (s.call.waitAt now) now t) t
  | act a => exact h.act (h.object.act a)
  | abandon t => exact ⟨h.object, congrArg (·.look t none) h.crew, h.deeds⟩

/-- No move finds a task in the table twice. -/
def Orderly (w : World) (moves : List Move) : Prop :=
  w.Allows protocol (fun w _ => w.object.tasks.Nodup) moves

theorem Alike.run {moves : List Move} (h : Alike w w') (hOrderly : Orderly w moves) :
    Alike (w.run protocol moves) (w'.run protocol moves) := by
  induction moves generalizing w w' with
  | nil => exact h
  | cons mv rest ih => exact ih (h.step hOrderly.1 mv) hOrderly.2

/-- Only a task that was given up in a call and comes back can be in the table twice. -/
theorem Table.orderly {moves : List Move} (h : Table w.crew w.object)
    (hKept : ∀ t, .abandon t ∉ moves) : Orderly w moves := by
  induction moves generalizing w with
  | nil => trivial
  | cons mv rest ih =>
    have hStep := h.step fun t hSame => hKept t (hSame ▸ List.mem_cons_self)
    exact ⟨h.nodup, ih hStep fun t hMem => hKept t (List.mem_cons_of_mem _ hMem)⟩

end Runs

-- ---------------------------------------------------------------------------
-- One simultaneous evaluation
-- ---------------------------------------------------------------------------

/-- A set of `bits` that comes to one simultaneous evaluation of all entries by one value. -/
structure Simultaneous (g : EventGroup) (bits : EventBits) (o : Outcome EventGroup EventBits) :
    Prop where
  /-- The entries that fire keep that value, the others stay as they are. -/
  entries : o.object.waiters = g.waiters.map fun e =>
    if e.fired = none ∧ e.wish.holds (g.bits ||| bits) = true then
      { e with fired := some (g.bits ||| bits) }
    else e
  /-- The task of each entry that fires is woken for it, and nobody else is. -/
  notices : o.notices = (firedBy g (g.bits ||| bits)).map fun e => .task e.task
  once : g.tasks.Nodup → o.tasks.Nodup
  /-- What the entries that fire want cleared is cleared in the end. -/
  cleared : o.object.bits = (g.bits ||| bits) &&&
    ~~~union (((firedBy g (g.bits ||| bits)).filter (·.wish.clear)).map (·.wish.wanted))
  answer : o.answer = o.object.bits
  /-- Who has not fired is not satisfied by what is left. -/
  unsatisfied : ∀ e ∈ o.object.waiters, e.fired = none → e.wish.holds o.object.bits = false

theorem simultaneous_judge (g : EventGroup) (bits : EventBits) :
    Simultaneous g bits (g.judge (g.bits ||| bits)) where
  entries := by
    rw [waiters_judge]
    apply List.map_congr_left
    intro e _
    simp only [EventWaiter.fire, fires_iff]
  notices := notices_judge _ _
  once := by
    intro hNodup
    rw [tasks_judge]
    exact hNodup.sublist (List.filter_sublist.map _)
  cleared := bits_judge _ _
  answer := rfl
  unsatisfied := unsatisfied_judge _ _

/-- Whatever the bits and whoever waits, a set is one simultaneous evaluation. In another order of
the wait table it comes to the same bits, wakes the same tasks and leaves each task the same entry;
and groups in use that differ in that order alone go on alike. -/
theorem simultaneous_set (g : EventGroup) (hRoom : g.waiters.length ≤ WaitList.limit)
    (bits : EventBits) :
    Simultaneous g bits (g.setInTurns bits) ∧
      g.set bits = g.setInTurns (bits &&& eventMask) ∧
      (∀ g', Shuffled g g' → Similar (g.setInTurns bits) (g'.setInTurns bits) ∧
        (g.tasks.Nodup → ∀ t,
          (g'.setInTurns bits).object.entryOf? t = (g.setInTurns bits).object.entryOf? t)) ∧
      ∀ w w' : World, Alike w w' → ∀ moves, Orderly w moves →
        Alike (w.run protocol moves) (w'.run protocol moves) := by
  rw [setInTurns_eq hRoom, setInTurns_eq hRoom]
  refine ⟨simultaneous_judge g bits, rfl, ?_, fun _ _ hAlike _ => hAlike.run⟩
  intro g' hShuffled
  have hRoom' : g'.waiters.length ≤ WaitList.limit := by
    rw [hShuffled.waiters.length_eq]
    exact hRoom
  rw [setInTurns_eq hRoom', hShuffled.bits]
  have hSimilar := hShuffled.judge (g.bits ||| bits)
  refine ⟨hSimilar, fun hNodup t => hSimilar.object.entryOf?_eq ?_ t⟩
  have hTasks : (g.judge (g.bits ||| bits)).object.tasks = g.tasks := by
    rw [tasks, waiters_judge, List.map_map, tasks]
    exact List.map_congr_left fun e _ => e.task_fire _
  rw [hTasks]
  exact hNodup

/-- Four tasks wait, and the first of them is woken and comes back for its value. -/
def gathered : World :=
  after (create 1) [.start ⟨1⟩ 0 (.await ⟨8, .any, true⟩ 50),
    .start ⟨2⟩ 0 (.await ⟨3, .all, true⟩ 50), .start ⟨3⟩ 0 (.await ⟨2, .any, false⟩ 50),
    .start ⟨4⟩ 0 (.await ⟨20, .any, true⟩ 50), .act (.set 8), .resume ⟨1⟩ 1,
    .start ⟨1⟩ 1 (.await ⟨2, .all, true⟩ 50)]

/-- The same with the wait table as it would be if entries left it without a gap to fill. -/
def gathered' : World :=
  { gathered with object :=
    ⟨1, [⟨⟨2⟩, ⟨3, .all, true⟩, none⟩, ⟨⟨3⟩, ⟨2, .any, false⟩, none⟩,
      ⟨⟨4⟩, ⟨20, .any, true⟩, none⟩, ⟨⟨1⟩, ⟨2, .all, true⟩, none⟩]⟩ }

/-- A bit that three of the tasks wait for is set, and one that the fourth waits for. -/
def afterwards : List Move :=
  [.act (.set 2), .resume ⟨3⟩ 2, .act (.set 4), .resume ⟨4⟩ 3, .resume ⟨2⟩ 3]

theorem simultaneous_set_gathered :
    gathered.object.waiters.length ≤ WaitList.limit ∧
      Simultaneous gathered.object 2 (gathered.object.setInTurns 2) ∧
      Similar (gathered.object.setInTurns 2) (gathered'.object.setInTurns 2) ∧
      (gathered.object.setInTurns 2).answer = 0 ∧
      (gathered.object.setInTurns 2).tasks = [⟨2⟩, ⟨3⟩, ⟨1⟩] ∧
      Alike (gathered.run protocol afterwards) (gathered'.run protocol afterwards) := by
  have hRoom : gathered.object.waiters.length ≤ WaitList.limit := by decide
  obtain ⟨hSet, -, hShuffle, hRun⟩ := simultaneous_set gathered.object hRoom 2
  have hShuffled : Shuffled gathered.object gathered'.object := ⟨by decide, by decide⟩
  have hOrderly : Orderly gathered afterwards := by
    unfold Orderly
    decide
  exact ⟨hRoom, hSet, (hShuffle _ hShuffled).1, by decide, by decide,
    hRun gathered gathered' ⟨hShuffled, rfl, rfl⟩ afterwards hOrderly⟩

end EventGroup

end TaskSync
