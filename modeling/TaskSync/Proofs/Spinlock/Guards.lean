import Mathlib.Data.List.Nodup
import Mathlib.Logic.Function.Basic
import TaskSync.Machine.Object
import TaskSync.Proofs.Runs.History

/-!
# TaskSync — the guards of spinlocks on one core

Code on one core takes spinlocks, bare ones and those in front of a value, and
drops their guards as it likes: a guard is an ordinary value, and nothing makes
it go before one that is older. Each lock is locked as long as its guard is live.
The interrupts are another matter. What a guard puts the core back into is the
state that the core was in when this guard was taken, whatever guards are live
now. So if the oldest guard is dropped before the others the interrupts are on
inside their sections, and off when these have ended: they found them off.

* `Site` — a core with its locks and the guards that are live.
* `Site.Guarded` — the interrupts are off in a section, and as at first outside all.
* `Site.Outermost` — of the guards that are live the oldest alone found the
  interrupts on; that is kept as long as it is dropped last (`Site.OldestLast`).

Main result:

* `Spinlock.sections_run` — which locks are locked and whether the interrupts
  are on after any run, and in which runs sections are guarded throughout
  (`Spinlock.Sections`).
-/

namespace TaskSync

namespace Spinlock

-- ---------------------------------------------------------------------------
-- A core with its locks
-- ---------------------------------------------------------------------------

/-- A bare spinlock or a value behind one. -/
inductive Lockable
  | bare (l : Spinlock)
  | value (c : Critical)

namespace Lockable

def lock : Lockable → Spinlock
  | bare l => l
  | value c => c.lock

def withLock (l : Spinlock) : Lockable → Lockable
  | bare _ => bare l
  | value c => value { c with lock := l }

@[simp] theorem lock_withLock (l : Spinlock) (x : Lockable) : (x.withLock l).lock = l := by
  cases x <;> rfl

end Lockable

/-- A core, what its code can lock, and the locks whose guards are live, the oldest guard first. -/
structure Site (ι : Type) where
  core : Core
  lockables : ι → Lockable
  live : List ι

/-- What code does with guards. -/
inductive Act (ι : Type)
  | take (n : ι)
  | drop (n : ι)
deriving DecidableEq

variable {ι : Type}

/-- The lock whose guard is taken or dropped. -/
def Act.target : Act ι → ι
  | take n | drop n => n

/-- The guard of a lock has been taken, and not been dropped since. -/
def Holds [DecidableEq ι] (acts : List (Act ι)) (n : ι) : Prop :=
  acts.reverse.find? (fun a => a.target = n) = some (.take n)

theorem holds_concat [DecidableEq ι] {acts : List (Act ι)} {a : Act ι} {n : ι} :
    Holds (acts ++ [a]) n ↔ a = .take n ∨ a.target ≠ n ∧ Holds acts n := by
  unfold Holds
  rw [List.reverse_concat, List.find?_cons]
  by_cases h : a.target = n
  · simp [h]
  · have hNot : a ≠ .take n := fun hTake => h (congrArg Act.target hTake)
    simp [h, hNot]

namespace Site

/-- The core as yet outside all sections. -/
def outside (core : Core) (lockables : ι → Lockable) : Site ι := ⟨core, lockables, []⟩

def lock (x : Site ι) (n : ι) : Spinlock := (x.lockables n).lock

/-- No lock is taken while its guard is live, and only a live guard is dropped. -/
def Permits (x : Site ι) : Act ι → Prop
  | .take n => n ∉ x.live
  | .drop n => n ∈ x.live

/-- The oldest guard is not dropped before the others. -/
def OldestLast (x : Site ι) : Act ι → Prop
  | .take _ => True
  | .drop n => x.live.head? = some n → x.live = [n]

/-- The newest guard is dropped first. -/
def NewestFirst (x : Site ι) : Act ι → Prop
  | .take _ => True
  | .drop n => x.live.getLast? = some n

/-- The interrupts are off while a guard is live, and otherwise as they were in `core`. -/
structure Guarded (x : Site ι) (core : Core) : Prop where
  inside : x.live ≠ [] → x.core.interruptsOn = false
  outside : x.live = [] → x.core = core

/-- The locks that are locked are those whose guards are live. -/
structure Sound (x : Site ι) : Prop where
  nodup : x.live.Nodup
  locked_iff : ∀ n, (x.lock n).locked = true ↔ n ∈ x.live

/-- Where the interrupts were off at first they have always been off. -/
structure Off (x : Site ι) : Prop where
  core : x.core.interruptsOn = false
  restore : ∀ n ∈ x.live, (x.lock n).restore = false

/-- Where the interrupts were on at first, the oldest guard alone has found them on. -/
def Outermost (x : Site ι) : Prop :=
  match x.live with
  | [] => x.core.interruptsOn = true
  | oldest :: rest => x.core.interruptsOn = false ∧ (x.lock oldest).restore = true ∧
      ∀ n ∈ rest, (x.lock n).restore = false

variable {x x₀ : Site ι} {n m : ι} {a : Act ι} {acts : List (Act ι)}

theorem Sound.free (h : x.Sound) (hNot : n ∉ x.live) : (x.lock n).locked = false :=
  Bool.eq_false_iff.mpr (mt (h.locked_iff n).mp hNot)

theorem sound_outside (core : Core) {lockables : ι → Lockable}
    (hFree : ∀ n, (lockables n).lock.locked = false) : (outside core lockables).Sound := by
  refine ⟨List.nodup_nil, fun n => ?_⟩
  show (lockables n).lock.locked = true ↔ n ∈ []
  simp [hFree]

/-- The newest guard is the oldest only if it is the last. -/
theorem Sound.oldestLast (h : x.Sound) (hNewest : x.NewestFirst a) : x.OldestLast a := by
  cases a with
  | take n => trivial
  | drop n =>
    intro hOldest
    obtain ⟨rest, hAll⟩ := List.head?_eq_some_iff.mp hOldest
    obtain ⟨older, hLast⟩ := List.getLast?_eq_some_iff.mp hNewest
    have hOnce := h.nodup
    cases older with
    | nil => exact hLast
    | cons first older =>
      -- it would stand on the list twice
      obtain ⟨rfl, -⟩ := List.cons.inj (hLast.symm.trans hAll)
      rw [hLast, List.cons_append, List.nodup_cons] at hOnce
      exact absurd (List.mem_append_right older (List.mem_singleton_self _)) hOnce.1

theorem outermost_of_nil (hLive : x.live = []) :
    x.Outermost ↔ x.core.interruptsOn = true := by
  rw [Outermost, hLive]

theorem outermost_of_cons {oldest : ι} {rest : List ι} (hLive : x.live = oldest :: rest) :
    x.Outermost ↔ x.core.interruptsOn = false ∧ (x.lock oldest).restore = true ∧
      ∀ n ∈ rest, (x.lock n).restore = false := by
  rw [Outermost, hLive]

theorem Outermost.guarded (h : x.Outermost) : x.Guarded ⟨true⟩ := by
  refine ⟨fun hInside => ?_, fun hOutside => ?_⟩
  · obtain ⟨oldest, rest, hLive⟩ := List.exists_cons_of_ne_nil hInside
    exact ((outermost_of_cons hLive).mp h).1
  · rw [← (outermost_of_nil hOutside).mp h]

variable [DecidableEq ι]

/-- The core and a lock after an end of a section, with the guards that are live then. -/
def settle (x : Site ι) (n : ι) (state : Spinlock × Core) (live : List ι) : Site ι :=
  ⟨state.2, Function.update x.lockables n ((x.lockables n).withLock state.1), live⟩

/-- A core that takes a lock that is taken spins for ever. -/
def take (x : Site ι) (n : ι) : Site ι :=
  match (x.lock n).enter x.core with
  | none => x
  | some state => x.settle n state (x.live ++ [n])

def drop (x : Site ι) (n : ι) : Site ι := x.settle n ((x.lock n).exit x.core) (x.live.erase n)

def step (x : Site ι) : Act ι → Site ι
  | .take n => x.take n
  | .drop n => x.drop n

def after (x : Site ι) (acts : List (Act ι)) : Site ι := acts.foldl step x

-- ---------------------------------------------------------------------------
-- What a step does to the locks
-- ---------------------------------------------------------------------------

@[simp] theorem lock_settle_self (x : Site ι) (n : ι) (state : Spinlock × Core) (live : List ι) :
    (x.settle n state live).lock n = state.1 := by
  simp [settle, lock]

theorem lock_settle_of_ne (x : Site ι) (state : Spinlock × Core) (live : List ι) (h : n ≠ m) :
    (x.settle n state live).lock m = x.lock m := by
  simp [settle, lock, Ne.symm h]

/-- Taking a lock that is free. -/
theorem take_of_free (hFree : (x.lock n).locked = false) :
    x.take n = x.settle n (⟨true, x.core.interruptsOn⟩, ⟨false⟩) (x.live ++ [n]) := by
  simp [take, enter, hFree]

theorem lock_take_of_ne (x : Site ι) (h : n ≠ m) : (x.take n).lock m = x.lock m := by
  unfold take
  split
  · rfl
  · exact lock_settle_of_ne x _ _ h

theorem lock_drop_of_ne (x : Site ι) (h : n ≠ m) : (x.drop n).lock m = x.lock m :=
  lock_settle_of_ne x _ _ h

/-- The other locks are left alone. -/
theorem lock_after_of_ne (x : Site ι) (h : ∀ a ∈ acts, a.target ≠ n) :
    (x.after acts).lock n = x.lock n := by
  induction acts generalizing x with
  | nil => rfl
  | cons a rest ih =>
    rw [List.forall_mem_cons] at h
    have hStep : (x.step a).lock n = x.lock n := by
      cases a with
      | take m => exact lock_take_of_ne x h.1
      | drop m => exact lock_drop_of_ne x h.1
    exact (ih (x.step a) h.2).trans hStep

/-- The end of a section leaves what the lock has kept. -/
theorem restore_drop (x : Site ι) (n m : ι) :
    ((x.drop n).lock m).restore = (x.lock m).restore := by
  by_cases h : n = m
  · subst h
    rw [drop, lock_settle_self]
    rfl
  · rw [lock_drop_of_ne x h]

theorem Sound.take (h : x.Sound) (hNot : n ∉ x.live) : (x.take n).Sound := by
  rw [take_of_free (h.free hNot)]
  refine ⟨h.nodup.append (List.nodup_singleton n) (List.disjoint_singleton.mpr hNot), fun m => ?_⟩
  by_cases hm : n = m
  · subst hm
    rw [lock_settle_self]
    simp [settle]
  · rw [lock_settle_of_ne x _ _ hm, h.locked_iff]
    simp [settle, Ne.symm hm]

theorem Sound.drop (h : x.Sound) (n : ι) : (x.drop n).Sound := by
  refine ⟨h.nodup.erase n, fun m => ?_⟩
  by_cases hm : n = m
  · subst hm
    rw [Site.drop, lock_settle_self]
    simp [settle, exit, h.nodup.not_mem_erase]
  · rw [lock_drop_of_ne x hm, h.locked_iff]
    exact (List.mem_erase_of_ne (Ne.symm hm)).symm

theorem Sound.step (h : x.Sound) (hPermits : x.Permits a) : (x.step a).Sound := by
  cases a with
  | take n => exact h.take hPermits
  | drop n => exact h.drop n

-- ---------------------------------------------------------------------------
-- What a step does to the interrupts
-- ---------------------------------------------------------------------------

theorem Off.step (h : x.Off) (hSound : x.Sound) (hPermits : x.Permits a) : (x.step a).Off := by
  cases a with
  | take n =>
    rw [Site.step, take_of_free (hSound.free hPermits)]
    refine ⟨rfl, fun m hm => ?_⟩
    by_cases hSame : n = m
    · subst hSame
      rw [lock_settle_self]
      exact h.core
    · rw [lock_settle_of_ne x _ _ hSame]
      exact h.restore m (by simpa [settle, Ne.symm hSame] using hm)
  | drop n =>
    refine ⟨h.restore n hPermits, fun m hm => ?_⟩
    rw [Site.step, restore_drop]
    exact h.restore m (List.mem_of_mem_erase hm)

theorem Outermost.take (h : x.Outermost) (hSound : x.Sound) (hNot : n ∉ x.live) :
    (x.take n).Outermost := by
  have hTake := take_of_free (hSound.free hNot)
  have hOff : (x.take n).core.interruptsOn = false := by rw [hTake]; rfl
  have hLive : (x.take n).live = x.live ++ [n] := by rw [hTake]; rfl
  have hOwn : ((x.take n).lock n).restore = x.core.interruptsOn := by
    rw [hTake, lock_settle_self]
  have hOther : ∀ m ∈ x.live, ((x.take n).lock m).restore = (x.lock m).restore := by
    intro m hm
    rw [lock_take_of_ne x (ne_of_mem_of_not_mem hm hNot).symm]
  cases hBefore : x.live with
  | nil =>
    have hOn := (outermost_of_nil hBefore).mp h
    rw [hBefore, List.nil_append] at hLive
    refine (outermost_of_cons hLive).mpr ⟨hOff, hOwn.trans hOn, fun _ hNone => ?_⟩
    exact absurd hNone List.not_mem_nil
  | cons oldest rest =>
    obtain ⟨hWasOff, hOldest, hRest⟩ := (outermost_of_cons hBefore).mp h
    rw [hBefore, List.cons_append] at hLive
    rw [hBefore, List.forall_mem_cons] at hOther
    refine (outermost_of_cons hLive).mpr ⟨hOff, hOther.1.trans hOldest, fun m hm => ?_⟩
    rcases List.mem_append.mp hm with hOld | hNew
    · exact (hOther.2 m hOld).trans (hRest m hOld)
    · rw [List.mem_singleton.mp hNew]
      exact hOwn.trans hWasOff

theorem Outermost.drop (h : x.Outermost) (hLive : n ∈ x.live)
    (hLast : x.OldestLast (.drop n)) : (x.drop n).Outermost := by
  obtain ⟨oldest, rest, hAll⟩ := List.exists_cons_of_ne_nil (List.ne_nil_of_mem hLive)
  obtain ⟨-, hOldest, hRest⟩ := (outermost_of_cons hAll).mp h
  have hLeft : (x.drop n).live = x.live.erase n := rfl
  by_cases hSame : oldest = n
  · -- the oldest guard goes last, so the core is outside all sections now
    subst hSame
    have hAlone : x.live = [oldest] := hLast (by rw [hAll]; rfl)
    rw [hAlone, List.erase_cons_head] at hLeft
    exact (outermost_of_nil hLeft).mpr hOldest
  · have hMem : n ∈ rest := by
      rw [hAll] at hLive
      exact (List.mem_cons.mp hLive).resolve_left (Ne.symm hSame)
    rw [hAll, List.erase_cons_tail (by simpa using hSame)] at hLeft
    rw [outermost_of_cons hLeft]
    simp only [restore_drop]
    exact ⟨hRest n hMem, hOldest, fun m hm => hRest m (List.mem_of_mem_erase hm)⟩

theorem Outermost.step (h : x.Outermost) (hSound : x.Sound) (hPermits : x.Permits a)
    (hLast : x.OldestLast a) : (x.step a).Outermost := by
  cases a with
  | take n => exact h.take hSound hPermits
  | drop n => exact h.drop hPermits hLast

/-- A step leaves the sections guarded just if it does not drop the oldest guard too early. -/
theorem Outermost.step_iff (h : x.Outermost) (hSound : x.Sound) (hPermits : x.Permits a) :
    (x.step a).Guarded ⟨true⟩ ↔ x.OldestLast a := by
  refine ⟨fun hGuarded => ?_, fun hLast => (h.step hSound hPermits hLast).guarded⟩
  cases a with
  | take n => trivial
  | drop n =>
    intro hOldest
    obtain ⟨rest, hAll⟩ := List.head?_eq_some_iff.mp hOldest
    have hOn : (x.drop n).core.interruptsOn = true := ((outermost_of_cons hAll).mp h).2.1
    have hNobody : x.live.erase n = [] := by
      by_contra hSome
      exact Bool.false_ne_true ((hGuarded.inside hSome).symm.trans hOn)
    rw [hAll, List.erase_cons_head] at hNobody
    rw [hAll, hNobody]

-- ---------------------------------------------------------------------------
-- What a run does
-- ---------------------------------------------------------------------------

theorem Sound.after (h : x₀.Sound) (hLegal : Legal Site.step Permits x₀ acts) :
    (x₀.after acts).Sound :=
  hLegal.induction (I := fun _ x => x.Sound) h fun _ _ hPermits hSound => hSound.step hPermits

/-- The guards that are live are those that have been taken and not been dropped since. -/
theorem Sound.mem_live_iff (h : x₀.Sound) (hNobody : x₀.live = [])
    (hLegal : Legal Site.step Permits x₀ acts) (n : ι) :
    n ∈ (x₀.after acts).live ↔ Holds acts n := by
  have hBoth : (x₀.after acts).Sound ∧ ∀ m, m ∈ (x₀.after acts).live ↔ Holds acts m := by
    refine hLegal.induction (I := fun acts x => x.Sound ∧ ∀ m, m ∈ x.live ↔ Holds acts m)
      ⟨h, fun m => by simp [hNobody, Holds]⟩ fun acts a hPermits hNow => ?_
    obtain ⟨hSound, hLive⟩ := hNow
    refine ⟨hSound.step hPermits, fun m => ?_⟩
    rw [holds_concat, ← hLive]
    cases a with
    | take k =>
      rw [Site.step, take_of_free (hSound.free hPermits)]
      by_cases hSame : k = m
      · simp [settle, hSame]
      · simp [settle, Act.target, hSame, Ne.symm hSame]
    | drop k =>
      show m ∈ List.erase _ k ↔ _
      rw [hSound.nodup.mem_erase_iff]
      simp [Act.target, eq_comm]
  exact hBoth.2 n

/-- The end of a section puts the core back into the state in which the section found it. -/
theorem Sound.core_found {between : List (Act ι)} (h : x.Sound) (hNot : n ∉ x.live)
    (hOther : ∀ a ∈ between, a.target ≠ n) :
    (((x.take n).after between).drop n).core = x.core := by
  show (Core.mk (((x.take n).after between).lock n).restore) = x.core
  rw [lock_after_of_ne _ hOther, take_of_free (h.free hNot), lock_settle_self]

theorem Off.after (h : x₀.Off) (hSound : x₀.Sound) (hLegal : Legal Site.step Permits x₀ acts) :
    (x₀.after acts).Off :=
  (hLegal.induction (I := fun _ x => x.Sound ∧ x.Off) ⟨hSound, h⟩
    fun _ _ hPermits hBoth => ⟨hBoth.1.step hPermits, hBoth.2.step hBoth.1 hPermits⟩).2

/-- In every state of the run the sections are guarded. -/
def GuardedThroughout (x₀ : Site ι) (core : Core) (acts : List (Act ι)) : Prop :=
  ∀ before, before <+: acts → (x₀.after before).Guarded core

theorem guardedThroughout_cons {core : Core} :
    x₀.GuardedThroughout core (a :: acts) ↔
      x₀.Guarded core ∧ (x₀.step a).GuardedThroughout core acts := by
  unfold GuardedThroughout
  refine ⟨fun h => ⟨h [] List.nil_prefix, fun before hBefore => ?_⟩, fun h before hBefore => ?_⟩
  · exact h (a :: before) ((List.prefix_cons_inj a).mpr hBefore)
  · rcases List.prefix_cons_iff.mp hBefore with rfl | ⟨later, rfl, hLater⟩
    · exact h.1
    · exact h.2 later hLater

/-- Where the interrupts are on at first the sections are guarded throughout just if the oldest
guard is always dropped last. -/
theorem Outermost.guardedThroughout_iff (h : x₀.Outermost) (hSound : x₀.Sound)
    (hLegal : Legal Site.step Permits x₀ acts) :
    x₀.GuardedThroughout ⟨true⟩ acts ↔ Legal Site.step OldestLast x₀ acts := by
  induction acts generalizing x₀ with
  | nil =>
    refine iff_of_true (fun before hBefore => ?_) trivial
    rw [List.prefix_nil.mp hBefore]
    exact h.guarded
  | cons a rest ih =>
    obtain ⟨hPermits, hRest⟩ := hLegal
    have hNext := hSound.step hPermits
    rw [guardedThroughout_cons]
    constructor
    · rintro ⟨-, hGuarded⟩
      have hLast := (h.step_iff hSound hPermits).mp (hGuarded [] List.nil_prefix)
      exact ⟨hLast, (ih (h.step hSound hPermits hLast) hNext hRest).mp hGuarded⟩
    · rintro ⟨hLast, hOrder⟩
      exact ⟨h.guarded, (ih (h.step hSound hPermits hLast) hNext hRest).mpr hOrder⟩

/-- Where the interrupts are off at first the sections are guarded whatever the order. -/
theorem Off.guardedThroughout (h : x₀.Off) (hSound : x₀.Sound)
    (hLegal : Legal Site.step Permits x₀ acts) : x₀.GuardedThroughout ⟨false⟩ acts := by
  rintro before ⟨later, rfl⟩
  have hOff := h.after hSound (legal_append.mp hLegal).1
  refine ⟨fun _ => hOff.core, fun _ => ?_⟩
  rw [← hOff.core]

/-- If the newest guard is always dropped first the oldest is dropped last. -/
theorem Sound.legal_oldestLast (h : x₀.Sound) (hLegal : Legal Site.step Permits x₀ acts)
    (hNewest : Legal Site.step NewestFirst x₀ acts) : Legal Site.step OldestLast x₀ acts := by
  induction acts generalizing x₀ with
  | nil => trivial
  | cons a rest ih =>
    exact ⟨h.oldestLast hNewest.1, ih (h.step hLegal.1) hLegal.2 hNewest.2⟩

end Site

open Site

variable [DecidableEq ι]

/-- What comes of taking and dropping guards on the core of `x₀`. -/
structure Sections (x₀ : Site ι) (acts : List (Act ι)) : Prop where
  live_iff : ∀ n, n ∈ (x₀.after acts).live ↔ Holds acts n
  locked_iff : ∀ n, ((x₀.after acts).lock n).locked = true ↔ n ∈ (x₀.after acts).live
  /-- The lock can be taken just if its guard is not live. -/
  enter_iff : ∀ n, (((x₀.after acts).lock n).enter (x₀.after acts).core).isSome = true ↔
    n ∉ (x₀.after acts).live
  off : ∀ before n, acts = before ++ [.take n] → (x₀.after acts).core.interruptsOn = false
  /-- The end of a section goes back to the state that the section found. -/
  found : ∀ before n between, acts = before ++ .take n :: (between ++ [.drop n]) →
    (∀ a ∈ between, a.target ≠ n) → (x₀.after acts).core = (x₀.after before).core
  guarded_iff : x₀.GuardedThroughout x₀.core acts ↔
    x₀.core.interruptsOn = false ∨ Legal step OldestLast x₀ acts
  /-- So the sections are guarded if they are nested. -/
  nested : Legal step NewestFirst x₀ acts → x₀.GuardedThroughout x₀.core acts

/-- Taking and dropping guards of any locks in any order, on a core that is outside all sections. -/
theorem sections_run {core : Core} {lockables : ι → Lockable} {acts : List (Act ι)}
    (hFree : ∀ n, (lockables n).lock.locked = false)
    (hLegal : Legal step Permits (outside core lockables) acts) :
    Sections (outside core lockables) acts := by
  have hStart := sound_outside core hFree
  have hSound := hStart.after hLegal
  have hGuarded : (outside core lockables).GuardedThroughout core acts ↔
      core.interruptsOn = false ∨ Legal step OldestLast (outside core lockables) acts := by
    obtain ⟨_ | _⟩ := core
    · have hOff : (outside ⟨false⟩ lockables).Off := ⟨rfl, fun _ hNone => by cases hNone⟩
      exact iff_of_true (hOff.guardedThroughout hStart hLegal) (.inl rfl)
    · have hOutermost : (outside ⟨true⟩ lockables).Outermost := (outermost_of_nil rfl).mpr rfl
      rw [hOutermost.guardedThroughout_iff hStart hLegal]
      exact (or_iff_right (by decide)).symm
  refine ⟨hStart.mem_live_iff rfl hLegal, hSound.locked_iff, fun n => ?_, ?_, ?_, hGuarded,
    fun hNewest => ?_⟩
  · rw [← hSound.locked_iff]
    cases hLocked : (((outside core lockables).after acts).lock n).locked <;> simp [enter, hLocked]
  · rintro before n rfl
    obtain ⟨hBefore, hPermits⟩ := legal_concat.mp hLegal
    have hFreeThen := (hStart.after hBefore).free hPermits
    rw [after, List.foldl_concat]
    show (((outside core lockables).after before).take n).core.interruptsOn = false
    rw [take_of_free hFreeThen]
    rfl
  · rintro before n between rfl hOther
    obtain ⟨hBefore, hPermits, -⟩ := legal_append.mp hLegal
    have hFound := (hStart.after hBefore).core_found hPermits hOther
    rw [← hFound]
    simp only [after, List.foldl_append, List.foldl_cons, List.foldl_nil]
    rfl
  · exact hGuarded.mpr (.inr (hStart.legal_oldestLast hLegal hNewest))

/-- A bare lock and a value behind a lock. -/
def bareAndBehind (behind : Bool) : Lockable :=
  if behind then .value ⟨.create, 5⟩ else .bare .create

theorem sections_run_nested :
    (∀ n, (bareAndBehind n).lock.locked = false) ∧
      Legal step Permits (outside ⟨true⟩ bareAndBehind)
        [.take false, .take true, .drop true, .drop false] ∧
      ((outside ⟨true⟩ bareAndBehind).after
        [.take false, .take true, .drop true, .drop false]).core = ⟨true⟩ := by
  have hFree : ∀ n, (bareAndBehind n).lock.locked = false := by decide
  have hLegal : Legal step Permits (outside ⟨true⟩ bareAndBehind)
      [.take false, .take true, .drop true, .drop false] := by
    simp only [Legal, Permits]
    decide
  have hNewest : Legal step NewestFirst (outside ⟨true⟩ bareAndBehind)
      [.take false, .take true, .drop true, .drop false] := by
    simp only [Legal, NewestFirst]
    decide
  exact ⟨hFree, hLegal, ((sections_run hFree hLegal).nested hNewest _ (List.prefix_refl _)).outside
    (by decide)⟩

/-- If the older of two guards is dropped first the interrupts are on inside the section of the
other, and stay off when that has ended. -/
theorem unguarded_out_of_order :
    Legal step Permits (outside ⟨true⟩ bareAndBehind)
        [.take false, .take true, .drop false, .drop true] ∧
      ((outside ⟨true⟩ bareAndBehind).after [.take false, .take true, .drop false]).live = [true] ∧
      ((outside ⟨true⟩ bareAndBehind).after [.take false, .take true, .drop false]).core = ⟨true⟩ ∧
      ((outside ⟨true⟩ bareAndBehind).after
        [.take false, .take true, .drop false, .drop true]).live = [] ∧
      ((outside ⟨true⟩ bareAndBehind).after
        [.take false, .take true, .drop false, .drop true]).core = ⟨false⟩ := by
  simp only [Legal, Permits]
  decide

end Spinlock

end TaskSync
