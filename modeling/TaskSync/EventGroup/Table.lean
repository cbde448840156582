import Mathlib.Data.List.Nodup
import Mathlib.Data.List.Perm.Basic
import TaskSync.EventGroup.Sweep

/-!
# TaskSync — the wait table of an event group

Entries leave the table by having the last one moved into their place, so the
table has no order to speak of. It is a set of entries in which a task is found
by its number (`entryOf?`); these lemmas say what each operation does to the set,
as long as no task is in it twice.
-/

namespace TaskSync

/-- Taking an element out by moving the last one into its place leaves the others. -/
theorem swapRemove_perm {α : Type} {l : List α} {i : Nat} (h : i < l.length) :
    (swapRemove l i).Perm (l.eraseIdx i) := by
  obtain ⟨init, z, rfl⟩ : ∃ init z, l = init ++ [z] :=
    ⟨_, _, (List.dropLast_concat_getLast (List.ne_nil_of_length_pos (Nat.zero_lt_of_lt h))).symm⟩
  -- the last element stays the last when it is written into the gap
  obtain ⟨init', hSet⟩ : ∃ init', (init ++ [z]).set i z = init' ++ [z] := by
    rcases Nat.lt_or_ge i init.length with hLt | hGe
    · exact ⟨init.set i z, List.set_append_left i z hLt⟩
    · have hZero : i - init.length = 0 := by
        rw [List.length_append, List.length_singleton] at h
        omega
      exact ⟨init, by rw [List.set_append_right i z hGe, hZero]; rfl⟩
  have hPerm := List.set_perm_cons_eraseIdx h z
  rw [hSet] at hPerm
  have hRemoved : swapRemove (init ++ [z]) i = init' := by
    rw [swapRemove, List.getLast?_concat]
    show ((init ++ [z]).set i z).dropLast = init'
    rw [hSet]
    exact List.dropLast_concat
  rw [hRemoved]
  exact ((List.perm_append_singleton z init').symm.trans hPerm).cons_inv

/-- Bits that hold another satisfy what it satisfies. -/
theorem EventWish.holds_of_le {wish : EventWish} {less more : EventBits}
    (hLe : less &&& more = less) (hHolds : wish.holds less = true) : wish.holds more = true := by
  obtain ⟨wanted, mode, clear⟩ := wish
  cases mode with
  | any =>
    rw [holds, WaitMode.holds, bne_iff_ne] at hHolds ⊢
    intro hNone
    refine hHolds ?_
    rw [← hLe, UInt32.and_assoc, hNone, UInt32.and_zero]
  | all =>
    rw [holds, WaitMode.holds, beq_iff_eq] at hHolds ⊢
    rw [← hHolds, ← UInt32.and_assoc, UInt32.and_comm more less, hLe]

/-- Clearing bits satisfies nobody. -/
theorem EventWish.holds_of_clear {wish : EventWish} {bits cleared : EventBits}
    (hHolds : wish.holds (bits &&& ~~~cleared) = true) : wish.holds bits = true := by
  refine holds_of_le ?_ hHolds
  rw [UInt32.and_comm, ← UInt32.and_assoc, UInt32.and_self]

namespace EventGroup

/-- The tasks in the wait table. -/
def tasks (g : EventGroup) : List TaskId := g.waiters.map (·.task)

variable {g g' : EventGroup} {t u : TaskId} {e : EventWaiter}

-- ---------------------------------------------------------------------------
-- Finding a task
-- ---------------------------------------------------------------------------

theorem mem_tasks : t ∈ g.tasks ↔ ∃ e ∈ g.waiters, e.task = t := List.mem_map

theorem entryOf?_eq_none_iff : g.entryOf? t = none ↔ t ∉ g.tasks := by
  rw [entryOf?, List.find?_eq_none, mem_tasks]
  constructor
  · rintro hNone ⟨e, hMem, hTask⟩
    exact hNone e hMem (beq_iff_eq.mpr hTask)
  · intro hNone e hMem hTask
    exact hNone ⟨e, hMem, beq_iff_eq.mp hTask⟩

theorem entry_of_some (h : g.entryOf? t = some e) : e ∈ g.waiters ∧ e.task = t := by
  have hTask := List.find?_some (p := fun e : EventWaiter => e.task == t) h
  exact ⟨List.mem_of_find?_eq_some h, beq_iff_eq.mp hTask⟩

/-- A task that is not in the table twice is found by its number. -/
theorem entryOf?_eq_some_iff (hNodup : g.tasks.Nodup) :
    g.entryOf? t = some e ↔ e ∈ g.waiters ∧ e.task = t := by
  refine ⟨entry_of_some, ?_⟩
  rintro ⟨hMem, hTask⟩
  cases hFound : g.entryOf? t with
  | none => exact absurd (mem_tasks.mpr ⟨e, hMem, hTask⟩) (entryOf?_eq_none_iff.mp hFound)
  | some e' =>
    obtain ⟨hMem', hTask'⟩ := entry_of_some hFound
    rw [List.inj_on_of_nodup_map hNodup hMem' hMem (hTask'.trans hTask.symm)]

theorem entryOf?_congr (hNodup : g.tasks.Nodup) (hNodup' : g'.tasks.Nodup)
    (h : ∀ e, e.task = t → (e ∈ g'.waiters ↔ e ∈ g.waiters)) : g'.entryOf? t = g.entryOf? t := by
  apply Option.ext
  intro e
  rw [entryOf?_eq_some_iff hNodup, entryOf?_eq_some_iff hNodup']
  exact and_congr_left fun hTask => h e hTask

-- ---------------------------------------------------------------------------
-- Taking out and entering
-- ---------------------------------------------------------------------------

@[simp] theorem bits_dismiss (g : EventGroup) (t : TaskId) : (g.dismiss t).bits = g.bits := by
  unfold dismiss
  split <;> rfl

theorem position?_eq_none_iff : g.position? t = none ↔ t ∉ g.tasks := by
  rw [position?, List.findIdx?_eq_none_iff, mem_tasks]
  constructor
  · rintro hNone ⟨e, hMem, hTask⟩
    exact absurd (beq_iff_eq.mpr hTask) (Bool.eq_false_iff.mp (hNone e hMem))
  · intro hNone e hMem
    exact Bool.eq_false_iff.mpr fun hTask => hNone ⟨e, hMem, beq_iff_eq.mp hTask⟩

theorem dismiss_of_not_mem (h : t ∉ g.tasks) : g.dismiss t = g := by
  rw [dismiss, position?_eq_none_iff.mpr h]

/-- The entry of one task goes and the others stay. -/
theorem waiters_dismiss_perm (hNodup : g.tasks.Nodup) :
    (g.dismiss t).waiters.Perm (g.waiters.filter fun e => e.task ≠ t) := by
  cases hPos : g.position? t with
  | none =>
    have hOut := position?_eq_none_iff.mp hPos
    rw [dismiss_of_not_mem hOut, List.filter_eq_self.mpr]
    exact fun e hMem => decide_eq_true fun hTask => hOut (mem_tasks.mpr ⟨e, hMem, hTask⟩)
  | some i =>
    obtain ⟨hLt, hTask, -⟩ := List.findIdx?_eq_some_iff_getElem.mp hPos
    have hTask : g.waiters[i].task = t := beq_iff_eq.mp hTask
    have hPerm := List.getElem_cons_eraseIdx_perm hLt
    -- the filter has nothing more to take out, since no task is in the table twice
    have hOthers : ∀ e ∈ g.waiters.eraseIdx i, e.task ≠ t := by
      have hNodup' : ((g.waiters[i] :: g.waiters.eraseIdx i).map (·.task)).Nodup :=
        ((hPerm.map _).nodup_iff).mpr hNodup
      rw [List.map_cons, List.nodup_cons, hTask] at hNodup'
      intro e hMem hSame
      exact hNodup'.1 (List.mem_map.mpr ⟨e, hMem, hSame⟩)
    have hKept : (g.waiters.eraseIdx i).filter (fun e => e.task ≠ t) = g.waiters.eraseIdx i :=
      List.filter_eq_self.mpr fun e hMem => decide_eq_true (hOthers e hMem)
    rw [dismiss, hPos]
    show (swapRemove g.waiters i).Perm _
    refine (swapRemove_perm hLt).trans (List.Perm.trans (.of_eq ?_) (hPerm.filter _))
    rw [List.filter_cons_of_neg (by simp [hTask]), hKept]

theorem mem_dismiss (hNodup : g.tasks.Nodup) :
    e ∈ (g.dismiss t).waiters ↔ e ∈ g.waiters ∧ e.task ≠ t := by
  rw [(waiters_dismiss_perm hNodup).mem_iff, List.mem_filter, decide_eq_true_eq]

theorem nodup_dismiss (hNodup : g.tasks.Nodup) : (g.dismiss t).tasks.Nodup := by
  rw [tasks, ((waiters_dismiss_perm hNodup).map _).nodup_iff]
  exact hNodup.sublist (List.filter_sublist.map _)

theorem entryOf?_dismiss_self (hNodup : g.tasks.Nodup) : (g.dismiss t).entryOf? t = none := by
  rw [entryOf?_eq_none_iff, mem_tasks]
  rintro ⟨e, hMem, hTask⟩
  exact ((mem_dismiss hNodup).mp hMem).2 hTask

theorem entryOf?_dismiss_of_ne (hNodup : g.tasks.Nodup) (h : u ≠ t) :
    (g.dismiss t).entryOf? u = g.entryOf? u := by
  refine entryOf?_congr hNodup (nodup_dismiss hNodup) fun e hTask => ?_
  rw [mem_dismiss hNodup]
  exact and_iff_left (hTask ▸ h)

theorem enlist_eq_some_iff {wish : EventWish} :
    g.enlist t wish = some g' ↔
      g.waiters.length < WaitList.limit ∧
        { g with waiters := g.waiters ++ [⟨t, wish, none⟩] } = g' := by
  rw [enlist]
  split <;> simp [*]

theorem enlist_eq_none_iff {wish : EventWish} :
    g.enlist t wish = none ↔ WaitList.limit ≤ g.waiters.length := by
  rw [enlist]
  split <;> simp_all

theorem nodup_enlist {wish : EventWish} (hNodup : g.tasks.Nodup) (hOut : t ∉ g.tasks)
    (h : g.enlist t wish = some g') : g'.tasks.Nodup := by
  obtain ⟨-, rfl⟩ := enlist_eq_some_iff.mp h
  rw [tasks, List.map_append]
  exact hNodup.append (List.nodup_singleton t) (List.disjoint_singleton.mpr hOut)

theorem entryOf?_enlist_of_ne {wish : EventWish} (hNe : u ≠ t) (h : g.enlist t wish = some g') :
    g'.entryOf? u = g.entryOf? u := by
  obtain ⟨-, rfl⟩ := enlist_eq_some_iff.mp h
  rw [entryOf?, entryOf?, List.find?_append]
  have hNone : [(⟨t, wish, none⟩ : EventWaiter)].find? (·.task == u) = none := by
    simp [hNe.symm]
  rw [hNone, Option.or_none]

theorem entryOf?_enlist_self {wish : EventWish} (hOut : t ∉ g.tasks)
    (h : g.enlist t wish = some g') : g'.entryOf? t = some ⟨t, wish, none⟩ := by
  obtain ⟨-, rfl⟩ := enlist_eq_some_iff.mp h
  have hNone := entryOf?_eq_none_iff.mpr hOut
  rw [entryOf?] at hNone
  rw [entryOf?, List.find?_append, hNone, Option.none_or]
  simp

-- ---------------------------------------------------------------------------
-- Setting bits
-- ---------------------------------------------------------------------------

/-- The value by which a set judges who waits. -/
def setValue (g : EventGroup) (bits : EventBits) : EventBits := g.bits ||| (bits &&& eventMask)

/-- A set judges by no more bits than there are together. -/
theorem setValue_and (g : EventGroup) (bits : EventBits) :
    g.setValue bits &&& (g.bits ||| bits) = g.setValue bits := by
  apply UInt32.eq_of_toBitVec_eq
  ext i
  simp only [setValue, UInt32.toBitVec_and, UInt32.toBitVec_or, BitVec.getElem_and,
    BitVec.getElem_or]
  grind

/-- The bits that a set leaves are among those by which it judges. -/
theorem bits_set (g : EventGroup) (bits : EventBits) :
    ∃ cleared, (g.set bits).object.bits = g.setValue bits &&& ~~~cleared := ⟨_, rfl⟩

theorem waiters_set (g : EventGroup) (bits : EventBits) :
    (g.set bits).object.waiters = g.waiters.map (·.fire (g.setValue bits)) := waiters_sweep _ _

/-- A set that satisfies nobody adds its bits and does nothing else. -/
theorem object_set_of_none (g : EventGroup) {bits : EventBits}
    (h : ∀ e ∈ g.waiters, e.wish.holds (g.setValue bits) = false) :
    (g.set bits).object = ⟨g.setValue bits, g.waiters⟩ := by
  have hNobody : ∀ e ∈ g.waiters, ¬ e.fires (g.setValue bits) = true := by
    intro e hMem hFires
    have hHolds := (Bool.and_eq_true_iff.mp hFires).2
    rw [h e hMem] at hHolds
    cases hHolds
  have hCleared : (sweep (g.setValue bits) g.waiters).cleared = 0 := by
    rw [cleared_sweep, List.filter_eq_nil_iff.mpr hNobody, List.foldr_nil]
  have hWaiters : (sweep (g.setValue bits) g.waiters).waiters = g.waiters := by
    have hSame : ∀ e ∈ g.waiters, e.fire (g.setValue bits) = id e :=
      fun e hMem => if_neg (hNobody e hMem)
    rw [waiters_sweep, List.map_congr_left hSame, List.map_id]
  show (⟨g.setValue bits &&& ~~~(sweep (g.setValue bits) g.waiters).cleared,
    (sweep (g.setValue bits) g.waiters).waiters⟩ : EventGroup) = _
  rw [hCleared, hWaiters, UInt32.not_zero, UInt32.and_neg_one]

theorem tasks_set (g : EventGroup) (bits : EventBits) : (g.set bits).object.tasks = g.tasks := by
  rw [tasks, waiters_set, List.map_map, tasks]
  exact List.map_congr_left fun e _ => e.task_fire _

theorem notified_set (g : EventGroup) (bits : EventBits) :
    (g.set bits).tasks = (g.waiters.filter (·.fires (g.setValue bits))).map (·.task) := by
  rw [← woken_sweep]
  show List.filterMap Notice.task? (List.map Notice.task _) = _
  rw [List.filterMap_map]
  exact List.filterMap_some

theorem entryOf?_set (g : EventGroup) (bits : EventBits) (t : TaskId) :
    (g.set bits).object.entryOf? t = (g.entryOf? t).map (·.fire (g.setValue bits)) := by
  rw [entryOf?, waiters_set, List.find?_map]
  congr 2
  funext e
  exact congrArg (· == t) (e.task_fire _)

end EventGroup

end TaskSync
