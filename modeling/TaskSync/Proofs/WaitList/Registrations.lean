import Mathlib.Order.Bounds.Basic
import Mathlib.Data.List.Induction
import TaskSync.Proofs.Runs.History
import TaskSync.Proofs.WaitList.Rotation

/-!
# TaskSync — a wait list lists the registrations in force

What a wait list has been asked and has answered (`WaitList.Event`) says who is
registered, and since when: a registration is in force (`InForce`) from the event
in which the task entered, as long as no event has made it leave. A task that
registers again while it is registered keeps the registration that it has.

Main result:

* `WaitList.serves_run` — after any calls the list is what lies in the deque, holds
  the registered tasks in the order of the registrations in force, and answers
  accordingly (`WaitList.Serves`).
-/

namespace TaskSync

namespace WaitList

-- ---------------------------------------------------------------------------
-- Calls and answers
-- ---------------------------------------------------------------------------

/-- What is asked of a wait list. -/
inductive Call
  | register (t : TaskId)
  | remove (t : TaskId)
  | pop
  | drain
  /-- A task that was not served registers, or is removed if it has looked for the `last` time. -/
  | park (t : TaskId) (last : Bool)
deriving DecidableEq

/-- What a wait list answers. -/
inductive Reply
  | registered (listed : Bool)
  | removed
  | popped (t : Option TaskId)
  | drained (ts : List TaskId)
  | parked
  /-- There is no room to park. -/
  | busy
  | expired
deriving DecidableEq

/-- A call and its answer. -/
structure Event where
  call : Call
  reply : Reply
deriving DecidableEq

namespace Call

/-- The call on a wait list. -/
def onList (l : WaitList) : Call → WaitList × Reply
  | .register t => ((l.register t).getD l, .registered (l.register t).isSome)
  | .remove t => (l.remove t, .removed)
  | .pop => (l.dropFirst, .popped l.first?)
  | .drain => (.empty, .drained l.tasks)
  | .park t false => ((l.register t).getD l, if (l.register t).isSome then .parked else .busy)
  | .park t true => (l.remove t, .expired)

/-- The call on a wait list in a deque. -/
def onDeque {δ : Type} (ops : Deque δ) (d : δ) : Call → δ × Reply
  | .register t => ((ops.register d t).1, .registered (ops.register d t).2)
  | .remove t => (ops.remove d t, .removed)
  | .pop => ((ops.pop d).1, .popped (ops.pop d).2)
  | .drain => (ops.empty, .drained (ops.elements d))
  | .park t false => ((ops.register d t).1, if (ops.register d t).2 then .parked else .busy)
  | .park t true => (ops.remove d t, .expired)

/-- In the deque and on the list a call does the same and is answered the same. -/
theorem list_onDeque {δ : Type} {ops : Deque δ} (h : ops.Lawful limit) (d : δ) (c : Call) :
    ops.list (c.onDeque ops d).1 = (c.onList (ops.list d)).1 ∧
      (c.onDeque ops d).2 = (c.onList (ops.list d)).2 := by
  cases c with
  | register t =>
    obtain ⟨hList, hListed⟩ := Deque.list_register h d t
    exact ⟨hList, congrArg Reply.registered hListed⟩
  | remove t => exact ⟨Deque.list_remove h d t, rfl⟩
  | pop =>
    obtain ⟨hList, hFirst⟩ := Deque.list_pop h d
    exact ⟨hList, congrArg Reply.popped hFirst⟩
  | drain => exact ⟨Deque.list_empty h, rfl⟩
  | park t last =>
    cases last with
    | false =>
      obtain ⟨hList, hListed⟩ := Deque.list_register h d t
      refine ⟨hList, ?_⟩
      simp only [onDeque, onList, hListed]
    | true => exact ⟨Deque.list_remove h d t, rfl⟩

end Call

section

variable {σ : Type} (step : σ → Call → σ × Reply)

/-- One more call. -/
def tell (s : σ × List Event) (c : Call) : σ × List Event :=
  ((step s.1 c).1, s.2 ++ [⟨c, (step s.1 c).2⟩])

/-- What some calls come to, and the events that they are. -/
def run (start : σ) (calls : List Call) : σ × List Event := calls.foldl (tell step) (start, [])

theorem run_concat (start : σ) (calls : List Call) (c : Call) :
    run step start (calls ++ [c]) = tell step (run step start calls) c := List.foldl_concat ..

end

-- ---------------------------------------------------------------------------
-- Registrations
-- ---------------------------------------------------------------------------

/-- The event is a registration of the task. -/
def Event.Enters (e : Event) (t : TaskId) : Prop :=
  e = ⟨.register t, .registered true⟩ ∨ e = ⟨.park t false, .parked⟩

/-- The event ends a registration of the task. -/
def Event.Leaves (e : Event) (t : TaskId) : Prop :=
  e.call = .remove t ∨ e.call = .park t true ∨ e.reply = .popped (some t) ∨ e.call = .drain

/-- The event of this number registered the task, and no event since has ended that. -/
def Stands (events : List Event) (t : TaskId) (n : Nat) : Prop :=
  (∃ e, events[n]? = some e ∧ e.Enters t) ∧ ∀ m e, n < m → events[m]? = some e → ¬ e.Leaves t

/-- The registration of the task that is in force is the event of this number. -/
def InForce (events : List Event) (t : TaskId) (n : Nat) : Prop :=
  IsLeast {n | Stands events t n} n

/-- What a wait list comes to after some events. -/
structure Keeps (events : List Event) (l : WaitList) : Prop where
  mem_iff : ∀ t, t ∈ l.tasks ↔ ∃ n, InForce events t n
  /-- Who stands before another was registered before. -/
  inOrder : l.tasks.Pairwise fun t u => ∀ m n, InForce events t m → InForce events u n → m < n
  nodup : l.tasks.Nodup
  size_le : l.size ≤ limit

section

variable {events : List Event} {e : Event} {t : TaskId} {m n : Nat}

theorem Event.Enters.not_leaves (h : e.Enters t) : ¬ e.Leaves t := by
  rcases h with rfl | rfl <;> simp [Event.Leaves]

theorem Stands.lt_length (h : Stands events t n) : n < events.length := by
  obtain ⟨⟨e, hAt, -⟩, -⟩ := h
  exact (List.getElem?_eq_some_iff.mp hAt).1

theorem stands_concat : Stands (events ++ [e]) t n ↔
    Stands events t n ∧ ¬ e.Leaves t ∨ n = events.length ∧ e.Enters t := by
  have hLast : (events ++ [e])[events.length]? = some e := List.getElem?_concat_length ..
  have hBefore {k : Nat} (hk : k < events.length) : (events ++ [e])[k]? = events[k]? :=
    List.getElem?_append_left hk
  constructor
  · intro h
    have hLt := h.lt_length
    obtain ⟨⟨e', hAt, hEnters⟩, hAfter⟩ := h
    rw [List.length_append, List.length_singleton, Nat.lt_add_one_iff_lt_or_eq] at hLt
    rcases hLt with hLt | rfl
    · refine Or.inl ⟨⟨⟨e', hBefore hLt ▸ hAt, hEnters⟩, fun m f hm hf => ?_⟩, ?_⟩
      · have hm' := (List.getElem?_eq_some_iff.mp hf).1
        exact hAfter m f hm (hBefore hm' ▸ hf)
      · exact hAfter _ e hLt hLast
    · obtain rfl := Option.some.inj (hLast.symm.trans hAt)
      exact Or.inr ⟨rfl, hEnters⟩
  · rintro (⟨h, hStays⟩ | ⟨rfl, hEnters⟩)
    · obtain ⟨⟨e', hAt, hEnters⟩, hAfter⟩ := h
      have hLt := (List.getElem?_eq_some_iff.mp hAt).1
      refine ⟨⟨e', (hBefore hLt).trans hAt, hEnters⟩, fun m f hm hf => ?_⟩
      have hm' := (List.getElem?_eq_some_iff.mp hf).1
      rw [List.length_append, List.length_singleton, Nat.lt_add_one_iff_lt_or_eq] at hm'
      rcases hm' with hm' | rfl
      · exact hAfter m f hm (hBefore hm' ▸ hf)
      · exact Option.some.inj (hLast.symm.trans hf) ▸ hStays
    · refine ⟨⟨e, hLast, hEnters⟩, fun m f hm hf => ?_⟩
      have hm' := (List.getElem?_eq_some_iff.mp hf).1
      rw [List.length_append, List.length_singleton] at hm'
      omega

theorem exists_inForce (h : Stands events t n) : ∃ m, InForce events t m := by
  classical
  exact ⟨_, Nat.find_spec ⟨n, h⟩, fun m hm => Nat.find_min' ⟨n, h⟩ hm⟩

/-- A registration stays in force until an event ends it. -/
theorem InForce.concat (h : InForce events t n) (hStays : ¬ e.Leaves t) :
    InForce (events ++ [e]) t n := by
  refine ⟨stands_concat.mpr (Or.inl ⟨h.1, hStays⟩), fun m hm => ?_⟩
  rcases stands_concat.mp hm with ⟨hStands, -⟩ | ⟨rfl, -⟩
  · exact h.2 hStands
  · exact Nat.le_of_lt h.1.lt_length

/-- Who was not registered has registered in this event. -/
theorem InForce.of_enters (hNone : ∀ m, ¬ InForce events t m) (h : e.Enters t) :
    InForce (events ++ [e]) t events.length := by
  refine ⟨stands_concat.mpr (Or.inr ⟨rfl, h⟩), fun m hm => ?_⟩
  rcases stands_concat.mp hm with ⟨hStands, -⟩ | ⟨rfl, -⟩
  · obtain ⟨k, hk⟩ := exists_inForce hStands
    exact absurd hk (hNone k)
  · exact Nat.le_refl _

theorem exists_inForce_concat_iff : (∃ n, InForce (events ++ [e]) t n) ↔
    (∃ n, InForce events t n) ∧ ¬ e.Leaves t ∨ e.Enters t := by
  constructor
  · rintro ⟨n, h, -⟩
    rcases stands_concat.mp h with ⟨hStands, hStays⟩ | ⟨-, hEnters⟩
    · exact Or.inl ⟨exists_inForce hStands, hStays⟩
    · exact Or.inr hEnters
  · rintro (⟨⟨n, h⟩, hStays⟩ | hEnters)
    · exact ⟨n, h.concat hStays⟩
    · exact exists_inForce (stands_concat.mpr (Or.inr ⟨rfl, hEnters⟩))

end

-- ---------------------------------------------------------------------------
-- One more event
-- ---------------------------------------------------------------------------

section

variable {events : List Event} {e : Event} {l l' : WaitList}

theorem keeps_nil : Keeps [] empty where
  mem_iff t := by simp [InForce, Stands, IsLeast]
  inOrder := .nil
  nodup := .nil
  size_le := Nat.zero_le _

/-- A list keeps the registrations if those come on it that enter, at its end, and those go off it
that leave. -/
theorem Keeps.concat (h : Keeps events l)
    (hMem : ∀ t, t ∈ l'.tasks ↔ t ∈ l.tasks ∧ ¬ e.Leaves t ∨ e.Enters t)
    (hExtends : Extends l.tasks l'.tasks) (hSize : l'.size ≤ limit) :
    Keeps (events ++ [e]) l' := by
  obtain ⟨new, hNew, hSub⟩ := hExtends
  have hOld {t : TaskId} {n : Nat} (hWas : t ∈ l.tasks) (hIs : t ∈ l'.tasks)
      (hForce : InForce (events ++ [e]) t n) : InForce events t n := by
    have hStays : ¬ e.Leaves t := ((hMem t).mp hIs).elim And.right Event.Enters.not_leaves
    obtain ⟨m, hm⟩ := (h.mem_iff t).mp hWas
    exact (hm.concat hStays).unique hForce ▸ hm
  have hEntered {t : TaskId} {n : Nat} (hWas : t ∉ l.tasks) (hIs : t ∈ l'.tasks)
      (hForce : InForce (events ++ [e]) t n) : n = events.length := by
    have hEnters := ((hMem t).mp hIs).resolve_left fun hBoth => hWas hBoth.1
    have hNone : ∀ m, ¬ InForce events t m := fun m hm => hWas ((h.mem_iff t).mpr ⟨m, hm⟩)
    exact hForce.unique (InForce.of_enters hNone hEnters)
  refine ⟨fun t => ?_, ?_, ?_, hSize⟩
  · rw [hMem, h.mem_iff, exists_inForce_concat_iff]
  · have hBoth : (l.tasks ++ new.toList).Pairwise fun t u => t ∈ l'.tasks → u ∈ l'.tasks →
        ∀ m n, InForce (events ++ [e]) t m → InForce (events ++ [e]) u n → m < n := by
      refine List.pairwise_append.mpr ⟨h.inOrder.imp_of_mem ?_, ?_, ?_⟩
      · intro t u ht hu hLt ht' hu' m n hm hn
        exact hLt m n (hOld ht ht' hm) (hOld hu hu' hn)
      · cases new with
        | none => exact .nil
        | some t => exact List.pairwise_singleton ..
      · intro t ht u hu ht' hu' m n hm hn
        rw [hEntered (hNew u (Option.mem_toList.mp hu)) hu' hn]
        exact (hOld ht ht' hm).1.lt_length
    exact (hBoth.sublist hSub).imp_of_mem fun ht hu hLt => hLt ht hu
  · refine hSub.nodup (List.nodup_append.mpr ⟨h.nodup, ?_, ?_⟩)
    · cases new with
      | none => exact .nil
      | some t => exact List.pairwise_singleton ..
    · rintro t ht u hu rfl
      exact hNew t (Option.mem_toList.mp hu) ht

/-- A task that registers enters if it finds room. -/
theorem Keeps.register (h : Keeps events l) {t : TaskId}
    (hEnters : ∀ u, e.Enters u ↔ u = t ∧ (l.register t).isSome) (hLeaves : ∀ u, ¬ e.Leaves u) :
    Keeps (events ++ [e]) ((l.register t).getD l) := by
  cases hRegister : l.register t with
  | none =>
    refine h.concat (fun u => ?_) (.refl _) h.size_le
    simp [hEnters, hLeaves, hRegister]
  | some joined =>
    rw [Option.getD_some]
    rcases register_cases hRegister with ⟨rfl, hListed⟩ | ⟨rfl, hNew⟩
    · refine h.concat (fun u => ?_) (.refl _) h.size_le
      simp only [hEnters, hLeaves, hRegister, Option.isSome_some, not_false_eq_true, and_true,
        iff_self_or]
      rintro rfl
      exact hListed
    · refine h.concat (fun u => ?_) ⟨some t, by simpa using hNew, .refl _⟩ ?_
      · simp [hEnters, hLeaves, hRegister]
      · have hRoom : ¬ limit ≤ l.size := fun hFull => by
          have hNone := register_eq_none_iff.mpr ⟨hNew, hFull⟩
          rw [hRegister] at hNone
          cases hNone
        have hSize : (⟨l.tasks ++ [t]⟩ : WaitList).size = l.size + 1 := List.length_append
        omega

theorem Keeps.remove (h : Keeps events l) {t : TaskId} (hEnters : ∀ u, ¬ e.Enters u)
    (hLeaves : ∀ u, e.Leaves u ↔ u = t) : Keeps (events ++ [e]) (l.remove t) := by
  refine h.concat (fun u => ?_) (.of_sublist List.filter_sublist) ?_
  · simp [hEnters, hLeaves]
  · exact Nat.le_trans (List.length_filter_le _ _) h.size_le

/-- A call keeps the registrations. -/
theorem Keeps.call (h : Keeps events l) (c : Call) :
    Keeps (events ++ [⟨c, (c.onList l).2⟩]) (c.onList l).1 := by
  cases c with
  | register t =>
    refine h.register (t := t) (fun u => ?_) (fun u => ?_)
    · simp [Event.Enters, Call.onList, @eq_comm _ t]
    · simp [Event.Leaves, Call.onList]
  | remove t =>
    refine h.remove (fun u => ?_) (fun u => ?_)
    · simp [Event.Enters]
    · simp [Event.Leaves, Call.onList, @eq_comm _ t]
  | pop =>
    refine h.concat (fun u => ?_) (.of_sublist (List.tail_sublist _))
      (Nat.le_trans (List.tail_sublist _).length_le h.size_le)
    have hNodup := h.nodup
    obtain ⟨tasks⟩ := l
    cases tasks with
    | nil => simp [Event.Enters, Call.onList, dropFirst]
    | cons first rest =>
      have hFirst : first ∉ rest := (List.nodup_cons.mp hNodup).1
      have hTail : u ∈ rest ↔ (u = first ∨ u ∈ rest) ∧ ¬ first = u := by grind
      simpa [Event.Enters, Event.Leaves, Call.onList, dropFirst, first?] using hTail
  | drain =>
    refine h.concat (fun u => ?_) (.of_sublist (List.nil_sublist _)) (Nat.zero_le _)
    simp [Event.Leaves, Event.Enters, Call.onList]
  | park t last =>
    cases last with
    | false =>
      refine h.register (t := t) (fun u => ?_) (fun u => ?_)
      · by_cases hRoom : (l.register t).isSome <;>
          simp [Event.Enters, Call.onList, @eq_comm _ t, hRoom]
      · by_cases hRoom : (l.register t).isSome <;> simp [Event.Leaves, Call.onList, hRoom]
    | true =>
      refine h.remove (fun u => ?_) (fun u => ?_)
      · simp [Event.Enters]
      · simp [Event.Leaves, Call.onList, @eq_comm _ t]

end

-- ---------------------------------------------------------------------------
-- Runs
-- ---------------------------------------------------------------------------

/-- A wait list after some events, and what it answers to the next call. -/
structure Serves (events : List Event) (l : WaitList) : Prop extends Keeps events l where
  /-- Only who is not registered can fail to register, and only on a full list. -/
  register_iff : ∀ t, ((Call.register t).onList l).2 = .registered false ↔
    (∀ n, ¬ InForce events t n) ∧ l.size = limit
  park_iff : ∀ t, ((Call.park t false).onList l).2 = .busy ↔
    (∀ n, ¬ InForce events t n) ∧ l.size = limit
  /-- Who is registered keeps the place. -/
  stays : ∀ t n, InForce events t n → (Call.register t).onList l = (l, .registered true) ∧
    (Call.park t false).onList l = (l, .parked)
  /-- The others stay, in their order. -/
  removes : ∀ t, ∀ c ∈ [Call.remove t, Call.park t true], (c.onList l).1.tasks.Sublist l.tasks ∧
    ∀ u, u ∈ (c.onList l).1.tasks ↔ u ∈ l.tasks ∧ u ≠ t
  /-- Who is popped was registered before all others. -/
  pop_iff : ∀ t, (Call.pop.onList l).2 = .popped (some t) ↔
    ∃ n, InForce events t n ∧ ∀ u m, InForce events u m → n ≤ m
  drain : Call.drain.onList l = (empty, .drained l.tasks)

section

variable {events : List Event} {l : WaitList}

theorem Keeps.not_mem_iff (h : Keeps events l) {t : TaskId} :
    t ∉ l.tasks ↔ ∀ n, ¬ InForce events t n := by
  rw [h.mem_iff, not_exists]

/-- The first task is the one that was registered before all others. -/
theorem Keeps.first?_eq_some_iff (h : Keeps events l) {t : TaskId} : l.first? = some t ↔
    ∃ n, InForce events t n ∧ ∀ u m, InForce events u m → n ≤ m := by
  have hMem := h.mem_iff
  have hOrder := h.inOrder
  unfold first?
  cases hTasks : l.tasks with
  | nil =>
    rw [hTasks] at hMem
    refine ⟨nofun, fun ⟨n, hForce, _⟩ => ?_⟩
    exact absurd ((hMem t).mpr ⟨n, hForce⟩) List.not_mem_nil
  | cons first rest =>
    rw [hTasks] at hMem hOrder
    have hBehind := (List.pairwise_cons.mp hOrder).1
    obtain ⟨n, hFirst⟩ := (hMem first).mp List.mem_cons_self
    rw [List.head?_cons, Option.some.injEq]
    constructor
    · rintro rfl
      refine ⟨n, hFirst, fun u m hu => ?_⟩
      rcases List.mem_cons.mp ((hMem u).mpr ⟨m, hu⟩) with rfl | hRest
      · exact Nat.le_of_eq (hFirst.unique hu)
      · exact Nat.le_of_lt (hBehind u hRest n m hFirst hu)
    · rintro ⟨m, hForce, hLeast⟩
      rcases List.mem_cons.mp ((hMem t).mpr ⟨m, hForce⟩) with rfl | hRest
      · rfl
      · have hLater := hBehind t hRest n m hFirst hForce
        have hEarlier := hLeast first n hFirst
        omega

/-- There is no room for a task that is not registered on a full list. -/
theorem Keeps.register_eq_none_iff (h : Keeps events l) (t : TaskId) :
    l.register t = none ↔ (∀ n, ¬ InForce events t n) ∧ l.size = limit := by
  rw [WaitList.register_eq_none_iff, h.not_mem_iff, Nat.le_antisymm_iff, and_iff_right h.size_le]

theorem Keeps.serves (h : Keeps events l) : Serves events l where
  toKeeps := h
  register_iff t := by
    rw [← h.register_eq_none_iff]
    simp [Call.onList]
  park_iff t := by
    rw [← h.register_eq_none_iff]
    cases hRegister : l.register t <;> simp [Call.onList, hRegister]
  stays t n hForce := by
    have hListed : l.register t = some l := register_of_mem ((h.mem_iff t).mpr ⟨n, hForce⟩)
    simp [Call.onList, hListed]
  removes t c hCall := by
    have hAfter : (c.onList l).1 = l.remove t := by
      rcases List.mem_pair.mp hCall with rfl | rfl <;> rfl
    rw [hAfter]
    exact ⟨List.filter_sublist, fun u => by simp⟩
  pop_iff t := by
    rw [← h.first?_eq_some_iff]
    show Reply.popped l.first? = .popped (some t) ↔ _
    rw [Reply.popped.injEq]
  drain := rfl

end

/-- What some calls on a wait list come to, from an empty one. -/
def runOnList (calls : List Call) : WaitList × List Event :=
  run (fun l c => c.onList l) empty calls

/-- What the same calls come to in a deque. -/
def runOnDeque {δ : Type} (ops : Deque δ) (calls : List Call) : δ × List Event :=
  run (fun d c => c.onDeque ops d) ops.empty calls

theorem keeps_runOnList (calls : List Call) :
    Keeps (runOnList calls).2 (runOnList calls).1 := by
  unfold runOnList
  induction calls using List.reverseRecOn with
  | nil => exact keeps_nil
  | append_singleton calls c ih =>
    rw [run_concat]
    exact ih.call c

theorem list_runOnDeque {δ : Type} {ops : Deque δ} (h : ops.Lawful limit) (calls : List Call) :
    ops.list (runOnDeque ops calls).1 = (runOnList calls).1 ∧
      (runOnDeque ops calls).2 = (runOnList calls).2 := by
  unfold runOnList runOnDeque
  induction calls using List.reverseRecOn with
  | nil => exact ⟨Deque.list_empty h, rfl⟩
  | append_singleton calls c ih =>
    obtain ⟨hList, hEvents⟩ := ih
    have hCall := c.list_onDeque h (run (fun d c => c.onDeque ops d) ops.empty calls).1
    rw [hList] at hCall
    rw [run_concat, run_concat]
    refine ⟨hCall.1, ?_⟩
    rw [tell, tell, hCall.2, hEvents]

/-- A wait list lists the registrations in force, whatever is asked of it, and a deque that keeps
its laws shows the list and answers for it. -/
theorem serves_run {δ : Type} {ops : Deque δ} (h : ops.Lawful limit) (calls : List Call) :
    Serves (runOnList calls).2 (runOnList calls).1 ∧
      ops.list (runOnDeque ops calls).1 = (runOnList calls).1 ∧
      (runOnDeque ops calls).2 = (runOnList calls).2 :=
  ⟨(keeps_runOnList calls).serves, list_runOnDeque h calls⟩

/-- A deque that is a list with a bound on its length. -/
def listDeque : Deque {tasks : List TaskId // tasks.length ≤ limit} where
  empty := ⟨[], Nat.zero_le _⟩
  elements d := d.val
  length d := d.val.length
  pushBack d t :=
    if hRoom : d.val.length < limit then
      some ⟨d.val ++ [t], by simpa [Nat.succ_le_iff] using hRoom⟩
    else none
  popFront
    | ⟨[], _⟩ => none
    | ⟨t :: rest, hLength⟩ => some (t, ⟨rest, Nat.le_of_succ_le hLength⟩)

theorem lawful_listDeque : listDeque.Lawful limit where
  elements_empty := rfl
  length_eq _ := rfl
  length_le d := d.property
  pushBack_of_lt _ _ hRoom := ⟨_, dif_pos hRoom, rfl⟩
  pushBack_of_full _ _ hFull := dif_neg (Nat.not_lt_of_ge (Nat.le_of_eq hFull.symm))
  popFront_of_nil
    | ⟨[], _⟩, _ => rfl
  popFront_of_cons
    | ⟨_ :: rest, hLength⟩, _, _, rfl => ⟨⟨rest, Nat.le_of_succ_le hLength⟩, rfl, rfl⟩

/-- Sixteen tasks register and a seventeenth finds no room; the third registers again, one in the
middle is removed while the list is full, one that is not listed is removed, and the longest waiter
is popped; the one that was removed parks. -/
def fullHouse : List Call :=
  (List.range 17).map (fun n => .register ⟨.ofNat n⟩) ++
    [.register ⟨2⟩, .remove ⟨7⟩, .remove ⟨40⟩, .pop, .park ⟨7⟩ false]

theorem serves_run_fullHouse :
    listDeque.Lawful limit ∧ Serves (runOnList fullHouse).2 (runOnList fullHouse).1 ∧
      listDeque.list (runOnDeque listDeque fullHouse).1 =
        ⟨[1, 2, 3, 4, 5, 6, 8, 9, 10, 11, 12, 13, 14, 15, 7].map TaskId.mk⟩ ∧
      (runOnDeque listDeque fullHouse).2[16]? = some ⟨.register ⟨16⟩, .registered false⟩ := by
  obtain ⟨hServes, hList, hEvents⟩ := serves_run lawful_listDeque fullHouse
  refine ⟨lawful_listDeque, hServes, ?_, ?_⟩
  · rw [hList]
    decide
  · rw [hEvents]
    decide

end WaitList

end TaskSync
