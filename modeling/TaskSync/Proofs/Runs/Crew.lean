import Mathlib.Data.Finset.Card
import Mathlib.Logic.Function.Basic
import TaskSync.Ticks
import TaskSync.WaitList

/-!
# TaskSync — the tasks at an object

Which tasks are suspended in calls on an object, and which of them have been
woken and have not looked at the object since (`Crew`). A wait list is a
**line** of a crew (`Crew.Line`) if it holds each task once, and only tasks
that are suspended in calls of its kind and have not been woken. A line is
**attended** for `n` units (`Crew.Attended`) if, as long as anybody stands in
it, at least `n` of its tasks are on their way: an item, a free slot or a free
lock is never left to nobody.

* `Attended.leave` — a task that looks and leaves the line takes one unit at most.
* `Attended.first` — waking the longest waiter attends to one unit more.
* `Line.join` — a task that finds nothing may join.
-/

namespace TaskSync

/-- A suspended call, and how long it sleeps at most (`none`: until it is woken). -/
structure Sleep (κ : Type) where
  call : κ
  limit : Option Ticks

/-- The tasks at an object. -/
structure Crew (κ : Type) where
  asleep : TaskId → Option (Sleep κ)
  /-- The tasks that were sent a notice and have not looked at the object since. -/
  woken : Finset TaskId

namespace Crew

variable {κ : Type}

/-- Nobody is suspended. -/
def empty : Crew κ := ⟨fun _ => none, ∅⟩

/-- The crew after a task has looked at the object: its call is over, or it sleeps on. -/
def look (c : Crew κ) (t : TaskId) (fate : Option (Sleep κ)) : Crew κ :=
  ⟨Function.update c.asleep t fate, c.woken.erase t⟩

/-- The crew after notices to some tasks. -/
def notify (c : Crew κ) (ts : List TaskId) : Crew κ :=
  { c with woken := c.woken ∪ ts.toFinset }

/-- Whether a task is suspended in a call of the kind `p`. -/
def isIn (c : Crew κ) (p : κ → Bool) (t : TaskId) : Bool := (c.asleep t).any fun s => p s.call

/-- The tasks suspended in calls of the kind `p` that have been woken and have not gone on since. -/
def wokenIn (c : Crew κ) (p : κ → Bool) : Finset TaskId := c.woken.filter fun t => c.isIn p t

/-- A wait list of the tasks that are suspended in calls of the kind `p`. -/
structure Line (c : Crew κ) (p : κ → Bool) (l : WaitList) : Prop where
  nodup : l.tasks.Nodup
  asleep : ∀ t ∈ l.tasks, c.isIn p t = true
  unwoken : ∀ t ∈ l.tasks, t ∉ c.woken

/-- A line of which at least `n` tasks are on their way, if anybody stands in it. -/
structure Attended (c : Crew κ) (p : κ → Bool) (l : WaitList) (n : Nat) : Prop where
  line : c.Line p l
  enough : l.tasks ≠ [] → n ≤ (c.wokenIn p).card

-- ---------------------------------------------------------------------------
-- Who is where after a look or a notice
-- ---------------------------------------------------------------------------

variable {c : Crew κ} {p : κ → Bool} {l : WaitList} {t u : TaskId} {n m : Nat}

@[simp] theorem asleep_look_self (fate : Option (Sleep κ)) : (c.look t fate).asleep t = fate :=
  Function.update_self ..

theorem asleep_look_of_ne (h : u ≠ t) (fate : Option (Sleep κ)) :
    (c.look t fate).asleep u = c.asleep u := Function.update_of_ne h ..

theorem look_look (c : Crew κ) (t : TaskId) (fate fate' : Option (Sleep κ)) :
    (c.look t fate).look t fate' = c.look t fate' := by
  simp [look]

/-- Who sleeps after a look has looked, or slept so before. -/
theorem asleep_look_cases {fate : Option (Sleep κ)} {s : Sleep κ}
    (h : (c.look t fate).asleep u = some s) : fate = some s ∧ u = t ∨ c.asleep u = some s := by
  by_cases hSelf : u = t
  · subst hSelf
    rw [asleep_look_self] at h
    exact Or.inl ⟨h, rfl⟩
  · rw [asleep_look_of_ne hSelf] at h
    exact Or.inr h

theorem isIn_of_none (h : c.asleep t = none) : c.isIn p t = false := by rw [isIn, h]; rfl

theorem isIn_of_some {s : Sleep κ} (h : c.asleep t = some s) : c.isIn p t = p s.call := by
  rw [isIn, h]
  rfl

theorem isIn_mono {q : κ → Bool} (hpq : ∀ k, p k = true → q k = true)
    (hIn : c.isIn p t = true) : c.isIn q t = true := by
  unfold isIn at hIn ⊢
  rw [Option.any_eq_true] at hIn ⊢
  obtain ⟨s, hs, hp⟩ := hIn
  exact ⟨s, hs, hpq _ hp⟩

@[simp] theorem notify_nil (c : Crew κ) : c.notify [] = c := by simp [notify]

@[simp] theorem isIn_look_self (fate : Option (Sleep κ)) :
    (c.look t fate).isIn p t = fate.any fun s => p s.call := by
  simp [isIn, look]

theorem isIn_look_of_ne (h : u ≠ t) (fate : Option (Sleep κ)) :
    (c.look t fate).isIn p u = c.isIn p u := by
  simp [isIn, look, Function.update_of_ne h]

theorem mem_woken_look (fate : Option (Sleep κ)) :
    u ∈ (c.look t fate).woken ↔ u ≠ t ∧ u ∈ c.woken := Finset.mem_erase

theorem mem_woken_notify (ts : List TaskId) : u ∈ (c.notify ts).woken ↔ u ∈ c.woken ∨ u ∈ ts := by
  simp [notify]

theorem mem_wokenIn : u ∈ c.wokenIn p ↔ u ∈ c.woken ∧ c.isIn p u = true := Finset.mem_filter

theorem Line.not_mem (h : c.Line p l) (hOut : c.isIn p t = false) : t ∉ l.tasks := by
  intro hMem
  have hIn := h.asleep t hMem
  rw [hOut] at hIn
  cases hIn

/-- A task does not stand in lines for two kinds of calls that exclude each other. -/
theorem Line.disjoint {q : κ → Bool} {l' : WaitList} (h : c.Line p l) (h' : c.Line q l')
    (hpq : ∀ k, p k = true → q k = false) : ∀ u ∈ l.tasks, u ∉ l'.tasks := by
  intro u hu
  have hIn := h.asleep u hu
  refine h'.not_mem ?_
  unfold isIn at hIn ⊢
  cases hSleep : c.asleep u with
  | none => rfl
  | some s =>
    rw [hSleep] at hIn
    exact hpq s.call hIn

-- ---------------------------------------------------------------------------
-- How many are on their way after a look or a notice
-- ---------------------------------------------------------------------------

/-- A look takes one task off those on their way at most. -/
theorem card_wokenIn_look (fate : Option (Sleep κ)) :
    (c.wokenIn p).card ≤ ((c.look t fate).wokenIn p).card + 1 := by
  -- whoever else was on their way still is
  have hSub : (c.wokenIn p).erase t ⊆ (c.look t fate).wokenIn p := by
    intro u hu
    obtain ⟨hNe, hu⟩ := Finset.mem_erase.mp hu
    obtain ⟨hWoken, hIn⟩ := mem_wokenIn.mp hu
    rw [mem_wokenIn, mem_woken_look, isIn_look_of_ne hNe]
    exact ⟨⟨hNe, hWoken⟩, hIn⟩
  have hCard := Finset.card_le_card hSub
  have hErase := Finset.pred_card_le_card_erase (s := c.wokenIn p) (a := t)
  omega

theorem card_wokenIn_look_of_out (hOut : c.isIn p t = false) (fate : Option (Sleep κ)) :
    (c.wokenIn p).card ≤ ((c.look t fate).wokenIn p).card := by
  apply Finset.card_le_card
  intro u hu
  obtain ⟨hWoken, hIn⟩ := mem_wokenIn.mp hu
  have hNe : u ≠ t := by
    rintro rfl
    rw [hOut] at hIn
    cases hIn
  rw [mem_wokenIn, mem_woken_look, isIn_look_of_ne hNe]
  exact ⟨⟨hNe, hWoken⟩, hIn⟩

theorem card_wokenIn_notify (ts : List TaskId) :
    (c.wokenIn p).card ≤ ((c.notify ts).wokenIn p).card := by
  apply Finset.card_le_card
  intro u hu
  obtain ⟨hWoken, hIn⟩ := mem_wokenIn.mp hu
  exact mem_wokenIn.mpr ⟨(mem_woken_notify ts).mpr (Or.inl hWoken), hIn⟩

/-- A notice to somebody in line puts one more on their way. -/
theorem card_wokenIn_notify_of_mem (h : c.Line p l) {ts : List TaskId} (hMem : u ∈ l.tasks)
    (hCalled : u ∈ ts) : (c.wokenIn p).card + 1 ≤ ((c.notify ts).wokenIn p).card := by
  have hNew : u ∉ c.wokenIn p := fun hu => h.unwoken u hMem (mem_wokenIn.mp hu).1
  rw [← Finset.card_insert_of_notMem hNew]
  apply Finset.card_le_card
  intro v hv
  rcases Finset.mem_insert.mp hv with rfl | hv
  · exact mem_wokenIn.mpr ⟨(mem_woken_notify ts).mpr (Or.inr hCalled), h.asleep v hMem⟩
  · obtain ⟨hWoken, hIn⟩ := mem_wokenIn.mp hv
    exact mem_wokenIn.mpr ⟨(mem_woken_notify ts).mpr (Or.inl hWoken), hIn⟩

-- ---------------------------------------------------------------------------
-- Lines
-- ---------------------------------------------------------------------------

theorem Line.of_empty (c : Crew κ) (p : κ → Bool) : c.Line p .empty where
  nodup := List.nodup_nil
  asleep := fun _ hMem => absurd hMem List.not_mem_nil
  unwoken := fun _ hMem => absurd hMem List.not_mem_nil

theorem Line.mono {q : κ → Bool} (h : c.Line p l) (hpq : ∀ k, p k = true → q k = true) :
    c.Line q l where
  nodup := h.nodup
  asleep := fun u hu => isIn_mono hpq (h.asleep u hu)
  unwoken := h.unwoken

/-- A line keeps its order and loses the task that leaves it. -/
theorem Line.leave (h : c.Line p l) (t : TaskId) (fate : Option (Sleep κ)) :
    (c.look t fate).Line p (l.remove t) where
  nodup := h.nodup.filter _
  asleep := by
    intro u hu
    obtain ⟨hu, hNe⟩ := List.mem_filter.mp hu
    rw [isIn_look_of_ne (by simpa using hNe)]
    exact h.asleep u hu
  unwoken := by
    intro u hu
    obtain ⟨hu, -⟩ := List.mem_filter.mp hu
    rw [mem_woken_look]
    exact fun hWoken => h.unwoken u hu hWoken.2

theorem Line.pass (h : c.Line p l) (hOut : t ∉ l.tasks) (fate : Option (Sleep κ)) :
    (c.look t fate).Line p l := by
  have hLeft := h.leave t fate
  rwa [WaitList.remove_of_not_mem hOut] at hLeft

/-- A task that goes to sleep may join the line, or stay where it stands in it. -/
theorem Line.join (h : c.Line p l) {joined : WaitList} (hJoin : l.register t = some joined)
    {s : Sleep κ} (hp : p s.call = true) : (c.look t (some s)).Line p joined := by
  have hSelf : (c.look t (some s)).isIn p t = true := by simpa using hp
  have hSelf' : t ∉ (c.look t (some s)).woken := fun hWoken =>
    ((mem_woken_look _).mp hWoken).1 rfl
  have hOther : ∀ u ∈ l.tasks, (c.look t (some s)).isIn p u = true := by
    intro u hu
    by_cases hNe : u = t
    · exact hNe ▸ hSelf
    · rw [isIn_look_of_ne hNe]
      exact h.asleep u hu
  have hOther' : ∀ u ∈ l.tasks, u ∉ (c.look t (some s)).woken := by
    intro u hu hWoken
    exact h.unwoken u hu ((mem_woken_look _).mp hWoken).2
  rcases WaitList.register_cases hJoin with ⟨rfl, -⟩ | ⟨rfl, hOut⟩
  · -- the task keeps its place
    exact ⟨h.nodup, hOther, hOther'⟩
  · -- the task goes to the end
    refine ⟨?_, ?_, ?_⟩
    · exact List.Nodup.append h.nodup (List.nodup_singleton t)
        (List.disjoint_singleton.mpr hOut)
    · intro u hu
      rcases List.mem_append.mp hu with hu | hu
      · exact hOther u hu
      · rw [List.mem_singleton.mp hu]
        exact hSelf
    · intro u hu
      rcases List.mem_append.mp hu with hu | hu
      · exact hOther' u hu
      · rw [List.mem_singleton.mp hu]
        exact hSelf'

theorem Line.notify (h : c.Line p l) {ts : List TaskId} (hOut : ∀ u ∈ l.tasks, u ∉ ts) :
    (c.notify ts).Line p l where
  nodup := h.nodup
  asleep := h.asleep
  unwoken := by
    intro u hu hWoken
    rcases (mem_woken_notify ts).mp hWoken with hWoken | hCalled
    · exact h.unwoken u hu hWoken
    · exact hOut u hu hCalled

/-- Who is sent a notice is in no line. -/
theorem Line.not_mem_of_called {ts : List TaskId} (h : (c.notify ts).Line p l) (hCalled : u ∈ ts) :
    u ∉ l.tasks := fun hMem => h.unwoken u hMem ((mem_woken_notify ts).mpr (Or.inr hCalled))

theorem Line.dropFirst (h : c.Line p l) {ts : List TaskId} (hOut : ∀ u ∈ l.tasks.tail, u ∉ ts) :
    (c.notify ts).Line p l.dropFirst := by
  have hTail : c.Line p l.dropFirst :=
    ⟨h.nodup.tail, fun u hu => h.asleep u (List.mem_of_mem_tail hu),
      fun u hu => h.unwoken u (List.mem_of_mem_tail hu)⟩
  exact hTail.notify hOut

/-- The longest waiter stands in line once. -/
theorem Line.first_not_mem_tail (h : c.Line p l) : ∀ u ∈ l.tasks.tail, u ∉ l.first?.toList := by
  intro u hu hFirst
  have hNodup := h.nodup
  unfold WaitList.first? at hFirst
  cases hTasks : l.tasks with
  | nil =>
    rw [hTasks] at hu
    cases hu
  | cons first rest =>
    rw [hTasks] at hu hFirst hNodup
    rw [List.head?_cons, Option.toList_some, List.mem_singleton] at hFirst
    exact (List.nodup_cons.mp hNodup).1 (hFirst ▸ hu)

-- ---------------------------------------------------------------------------
-- Attended lines
-- ---------------------------------------------------------------------------

/-- A line needs nobody on their way while there is nothing for it. -/
theorem Line.attended (h : c.Line p l) : c.Attended p l 0 := ⟨h, fun _ => Nat.zero_le _⟩

/-- A task that looks and leaves the line takes one unit at most. -/
theorem Attended.leave (h : c.Attended p l n) (hn : m ≤ n - 1) (t : TaskId)
    (fate : Option (Sleep κ)) : (c.look t fate).Attended p (l.remove t) m where
  line := h.line.leave t fate
  enough := by
    intro hSome
    have hSome' : l.tasks ≠ [] := by
      intro hNone
      rw [WaitList.tasks_remove, hNone] at hSome
      exact hSome rfl
    have hEnough := h.enough hSome'
    have hCard := card_wokenIn_look (c := c) (p := p) (t := t) fate
    omega

/-- A look by a task in another kind of call leaves a line attended. -/
theorem Attended.pass (h : c.Attended p l n) (hn : m ≤ n) (hOut : c.isIn p t = false)
    (fate : Option (Sleep κ)) : (c.look t fate).Attended p l m where
  line := h.line.pass (h.line.not_mem hOut) fate
  enough := by
    intro hSome
    have hEnough := h.enough hSome
    have hCard := card_wokenIn_look_of_out hOut fate
    omega

theorem Attended.notify (h : c.Attended p l n) (hn : m ≤ n) {ts : List TaskId}
    (hOut : ∀ u ∈ l.tasks, u ∉ ts) : (c.notify ts).Attended p l m where
  line := h.line.notify hOut
  enough := by
    intro hSome
    have hEnough := h.enough hSome
    have hCard := card_wokenIn_notify (c := c) (p := p) ts
    omega

/-- Waking the longest waiter attends to one unit more. -/
theorem Attended.first (h : c.Attended p l n) (hm : m ≤ n + 1) {ts : List TaskId}
    (hFirst : ∀ u ∈ l.first?, u ∈ ts) (hOut : ∀ u ∈ l.tasks.tail, u ∉ ts) :
    (c.notify ts).Attended p l.dropFirst m where
  line := h.line.dropFirst hOut
  enough := by
    intro hSome
    obtain ⟨first, rest, hTasks⟩ : ∃ first rest, l.tasks = first :: rest := by
      cases hTasks : l.tasks with
      | nil =>
        rw [WaitList.tasks_dropFirst, hTasks] at hSome
        exact absurd rfl hSome
      | cons first rest => exact ⟨first, rest, rfl⟩
    have hMem : first ∈ l.tasks := by
      rw [hTasks]
      exact List.mem_cons_self
    have hCalled : first ∈ ts := hFirst first (by simp [WaitList.first?, hTasks])
    have hEnough := h.enough (List.ne_nil_of_mem hMem)
    -- the longest waiter stood in line, so it was not counted before
    have hCard := card_wokenIn_notify_of_mem h.line hMem hCalled
    omega

end Crew

end TaskSync
