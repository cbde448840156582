import TaskSync.Proofs.Runs.History
import TaskSync.Proofs.Runs.Roster

/-!
# TaskSync — many objects and the same tasks

A system is a family of objects (`Station`) with the same tasks at all of them.
A move is a move at one of the objects, and a task is in one call at a time
(`System.Permits`).

If every object keeps its roster, then in every state of every run all lists are
in order (`System.Booked`). Most of it is read off the rosters; what has to
be carried along is why a sleeping task is not on its list, if it is not
(`System.Accounted`).

Main result:

* `System.booked_of_kept`
-/

namespace TaskSync

/-- A kind of object, one that nobody has used yet, and its roster. -/
structure Station where
  (σ ρ κ ι δ : Type)
  protocol : Protocol σ ρ κ ι δ
  roster : Roster σ κ
  object : σ

namespace Station

/-- The object of a station in use. -/
abbrev World (S : Station) := TaskSync.World S.σ S.κ S.δ

/-- A move at a station. -/
abbrev Move (S : Station) := TaskSync.Move S.ρ S.ι

/-- An object keeps its roster from the beginning on. -/
def Kept (S : Station) : Prop :=
  ∃ I : S.World → Prop, S.roster.Kept S.protocol I ∧ I (.fresh S.object)

end Station

variable {N : Type}

/-- Many objects in use. -/
abbrev System (S : N → Station) := (n : N) → (S n).World

namespace System

variable {S : N → Station}

/-- A move at one of the objects. -/
abbrev Move (S : N → Station) := Σ n, (S n).Move

/-- A task that begins a call is in no other, and nobody is given up in a call. -/
def Permits (e : System S) (m : Move S) : Prop :=
  match m.2 with
  | .start t _ _ => ∀ n, (e n).crew.asleep t = none
  | .abandon _ => False
  | .resume .. | .act _ => True

/-- The tasks on a list. -/
def listed (e : System S) (n : N) (p : (S n).roster.Place) : List TaskId :=
  (S n).roster.listed (e n).object p

/-- Those on a list to whom no notice has been sent. -/
def waiting (e : System S) (n : N) (p : (S n).roster.Place) : List TaskId :=
  (S n).roster.waiting (e n).object p

/-- Whether a move is a look of a task at an object. -/
def LooksAt (n : N) (t : TaskId) (m : Move S) : Prop := m.1 = n ∧ m.2.looker? = some t

theorem Permits.ne_abandon {e : System S} {m : Move S} (h : e.Permits m) (t : TaskId) :
    m.2 ≠ .abandon t := by
  intro hGone
  rw [Permits, hGone] at h
  exact h

theorem Permits.awake {e : System S} {m : Move S} (h : e.Permits m) {t : TaskId} {now : Ticks}
    {r : (S m.1).ρ} (hStart : m.2 = .start t now r) : ∀ n, (e n).crew.asleep t = none := by
  rwa [Permits, hStart] at h

variable [DecidableEq N]

/-- The system after a move. -/
def step (e : System S) (m : Move S) : System S :=
  Function.update e m.1 ((e m.1).step (S m.1).protocol m.2)

/-- New objects after some moves. -/
def after (S : N → Station) (moves : List (Move S)) : System S :=
  moves.foldl step fun n => .fresh (S n).object

/-- One of the moves was a move `m` at an object with `q e m` in the system `e` of that time, and
the task has not looked at the object since. -/
def Since (moves : List (Move S)) (n : N) (t : TaskId) (q : System S → (S n).Move → Prop) : Prop :=
  ∃ (earlier : List (Move S)) (m : (S n).Move) (later : List (Move S)),
    moves = earlier ++ ⟨n, m⟩ :: later ∧ q (after S earlier) m ∧ ∀ m' ∈ later, ¬ LooksAt n t m'

/-- Somebody else takes a task off the list on which it waits, or marks it, and sends it a
notice. -/
structure Calls (n : N) (p : (S n).roster.Place) (t : TaskId) (e : System S) (m : (S n).Move) :
    Prop where
  other : m.looker? ≠ some t
  before : t ∈ e.waiting n p
  after : t ∉ (e.step ⟨n, m⟩).waiting n p
  notice : .task t ∈ (e n).notices (S n).protocol m

/-- A task looks and finds no room on its list. -/
structure Crowds (n : N) (p : (S n).roster.Place) (t : TaskId) (e : System S) (m : (S n).Move) :
    Prop where
  looks : m.looker? = some t
  full : (S n).roster.Full (e n).object p t

/-- A sleeping task waits on its list, or has been called off it, or found no room on it and sleeps
for one tick. -/
def Accounted (moves : List (Move S)) (n : N) (t : TaskId) (s : Sleep (S n).κ) : Prop :=
  let p := (S n).roster.place s.call
  t ∈ (after S moves).waiting n p ∨ Since moves n t (Calls n p t) ∨
    s.limit = some 1 ∧ Since moves n t (Crowds n p t)

/-- All lists of a system are in order. -/
structure Booked (moves : List (Move S)) : Prop where
  /-- Who is on a list is in a call of that object that belongs to the list. -/
  inside : ∀ n p, ∀ t ∈ (after S moves).listed n p,
    ∃ s, (after S moves n).crew.asleep t = some s ∧ (S n).roster.place s.call = p
  nodup : ∀ n p, ((after S moves).listed n p).Nodup
  /-- Nobody is on two lists. -/
  once : ∀ t (a b : Σ n, (S n).roster.Place), t ∈ (after S moves).listed a.1 a.2 →
    t ∈ (after S moves).listed b.1 b.2 → a = b
  /-- Who is in no call is on no list. -/
  outside : ∀ t, (∀ n, (after S moves n).crew.asleep t = none) →
    ∀ n p, t ∉ (after S moves).listed n p
  accounted : ∀ n t s, (after S moves n).crew.asleep t = some s →
    (S n).roster.waits s.call = true → Accounted moves n t s
  /-- The next move sends notices to none but other tasks that wait at the object, and they wait
  no longer. -/
  called : ∀ n m t, .task t ∈ (after S moves n).notices (S n).protocol m →
    m.looker? ≠ some t ∧ (∃ p, t ∈ (after S moves).waiting n p) ∧
      ∀ p, t ∉ (after S (moves ++ [⟨n, m⟩])).waiting n p

-- ---------------------------------------------------------------------------
-- Steps
-- ---------------------------------------------------------------------------

theorem step_self (e : System S) (n : N) (m : (S n).Move) :
    e.step ⟨n, m⟩ n = (e n).step (S n).protocol m := Function.update_self ..

theorem step_of_ne {e : System S} {m : Move S} {n : N} (h : n ≠ m.1) : e.step m n = e n :=
  Function.update_of_ne h ..

theorem after_concat (moves : List (Move S)) (m : Move S) :
    after S (moves ++ [m]) = (after S moves).step m := List.foldl_concat ..

/-- Each object is as it should be, and nobody is in two calls. -/
structure Orderly (I : (n : N) → (S n).World → Prop) (e : System S) : Prop where
  inv : ∀ n, I n (e n)
  alone : ∀ t n n', (e n).crew.asleep t ≠ none → (e n').crew.asleep t ≠ none → n = n'

variable {I : (n : N) → (S n).World → Prop} {e : System S} {m : Move S} {t : TaskId}
  {moves : List (Move S)} {n : N}

theorem Orderly.step (hKept : ∀ n, (S n).roster.Kept (S n).protocol (I n)) (h : Orderly I e)
    (hPermits : e.Permits m) : Orderly I (e.step m) where
  inv n := by
    by_cases hHere : n = m.1
    · subst hHere
      rw [System.step, Function.update_self]
      exact (hKept _).step _ _ (h.inv _) hPermits.ne_abandon
    · rw [step_of_ne hHere]
      exact h.inv n
  alone := by
    -- who sleeps now slept there before, or has begun a call with the move and slept nowhere
    have hBefore : ∀ t n, (e.step m n).crew.asleep t ≠ none →
        (e n).crew.asleep t ≠ none ∨ n = m.1 ∧ ∀ n', (e n').crew.asleep t = none := by
      intro t n hAsleep
      by_cases hHere : n = m.1
      · subst hHere
        rw [System.step, Function.update_self] at hAsleep
        rcases World.asleep_or_started hAsleep with hSlept | ⟨now, r, hStart⟩
        · exact Or.inl hSlept
        · exact Or.inr ⟨rfl, hPermits.awake hStart⟩
      · rw [step_of_ne hHere] at hAsleep
        exact Or.inl hAsleep
    intro t n n' hn hn'
    rcases hBefore t n hn with hSlept | ⟨rfl, hAwake⟩
    · rcases hBefore t n' hn' with hSlept' | ⟨-, hAwake⟩
      · exact h.alone t n n' hSlept hSlept'
      · exact absurd (hAwake n) hSlept
    · rcases hBefore t n' hn' with hSlept' | ⟨rfl, -⟩
      · exact absurd (hAwake n') hSlept'
      · rfl

/-- What a move at an object does to its lists. -/
theorem Orderly.passed (hKept : ∀ n, (S n).roster.Kept (S n).protocol (I n)) (h : Orderly I e)
    (n : N) (m : (S n).Move) : (S n).roster.Passed m.looker? (e n).object
      (⟨(e.step ⟨n, m⟩ n).object, (e n).notices (S n).protocol m, ()⟩ : Outcome _ Unit) := by
  rw [step_self]
  exact (hKept n).passed (h.inv n) m

theorem orderly_after (hKept : ∀ n, (S n).roster.Kept (S n).protocol (I n))
    (hFresh : ∀ n, I n (.fresh (S n).object)) (hPermits : Legal step Permits (after S []) moves) :
    Orderly I (after S moves) :=
  hPermits.induction (I := fun _ e => Orderly I e) ⟨hFresh, fun _ _ _ hn => absurd rfl hn⟩
    fun _ _ hMove h => h.step hKept hMove

-- ---------------------------------------------------------------------------
-- Why a task is on its list or not
-- ---------------------------------------------------------------------------

theorem Since.now {q : System S → (S n).Move → Prop} {m : (S n).Move} (h : q (after S moves) m) :
    Since (moves ++ [⟨n, m⟩]) n t q := ⟨moves, m, [], rfl, h, nofun⟩

theorem Since.concat {q : System S → (S n).Move → Prop} (h : Since moves n t q)
    (hOther : ¬ LooksAt n t m) : Since (moves ++ [m]) n t q := by
  obtain ⟨earlier, m', later, rfl, hThen, hSince⟩ := h
  refine ⟨earlier, m', later ++ [m], by simp, hThen, ?_⟩
  intro m'' hMem
  rcases List.mem_append.mp hMem with hMem | hMem
  · exact hSince m'' hMem
  · rwa [List.mem_singleton.mp hMem]

/-- A move that is no look of a task leaves it where it is or calls it. -/
theorem Accounted.concat (hKept : ∀ n, (S n).roster.Kept (S n).protocol (I n))
    (hOrderly : Orderly I (after S moves)) {s : Sleep (S n).κ} (h : Accounted moves n t s)
    (hOther : ¬ LooksAt n t m) : Accounted (moves ++ [m]) n t s := by
  rcases h with hWaits | hCalled | ⟨hLimit, hCrowded⟩
  · by_cases hThere : t ∈ (after S (moves ++ [m])).waiting n ((S n).roster.place s.call)
    · exact Or.inl hThere
    rw [after_concat] at hThere
    obtain ⟨n', m⟩ := m
    by_cases hHere : n = n'
    · subst hHere
      have hNot : m.looker? ≠ some t := fun hLooks => hOther ⟨rfl, hLooks⟩
      have hPassed := hOrderly.passed hKept n m
      have hCalled := (hPassed.kept _ t hWaits hNot).resolve_left hThere
      exact Or.inr (Or.inl (.now ⟨hNot, hWaits, hThere, Outcome.mem_tasks.mp hCalled⟩))
    · rw [waiting, step_of_ne hHere] at hThere
      exact absurd hWaits hThere
  · exact Or.inr (Or.inl (hCalled.concat hOther))
  · exact Or.inr (Or.inr ⟨hLimit, hCrowded.concat hOther⟩)

theorem accounted_after (hKept : ∀ n, (S n).roster.Kept (S n).protocol (I n))
    (hFresh : ∀ n, I n (.fresh (S n).object)) (hPermits : Legal step Permits (after S []) moves)
    {s : Sleep (S n).κ} (hAsleep : (after S moves n).crew.asleep t = some s)
    (hWaits : (S n).roster.waits s.call = true) : Accounted moves n t s := by
  induction moves using List.reverseRecOn with
  | nil => cases hAsleep
  | append_singleton moves m ih =>
    obtain ⟨hBefore, hMove⟩ := legal_concat.mp hPermits
    have hMove : Permits (after S moves) m := hMove
    have hOrderly := orderly_after hKept hFresh hBefore
    rw [after_concat] at hAsleep
    by_cases hLooks : LooksAt n t m
    · -- the last look of the task says why
      obtain ⟨rfl, hLooker⟩ := hLooks
      rw [System.step, Function.update_self] at hAsleep
      have hSettled := (hKept m.1).settled (hOrderly.inv m.1) hLooker
        (fun now r hStart => hMove.awake hStart m.1) hAsleep hWaits
      rcases hSettled with hListed | ⟨hLimit, hFull⟩
      · left
        rwa [after_concat, waiting, System.step, Function.update_self]
      · exact Or.inr (Or.inr ⟨hLimit, .now ⟨hLooker, hFull⟩⟩)
    · refine (ih hBefore ?_).concat hKept hOrderly hLooks
      by_cases hHere : n = m.1
      · subst hHere
        rw [System.step, Function.update_self] at hAsleep
        rwa [World.asleep_step_of_other (fun hLooker => hLooks ⟨rfl, hLooker⟩)
          hMove.ne_abandon] at hAsleep
      · rwa [step_of_ne hHere] at hAsleep

-- ---------------------------------------------------------------------------
-- Runs
-- ---------------------------------------------------------------------------

/-- If every object keeps its roster, all lists are in order in every state of every run. -/
theorem booked_of_kept (hKept : ∀ n, (S n).Kept)
    (hPermits : Legal step Permits (after S []) moves) : Booked moves := by
  choose I hKept hFresh using hKept
  have hOrderly := orderly_after hKept hFresh hPermits
  have hExact := fun n => (hKept n).exact _ (hOrderly.inv n)
  refine ⟨fun n => (hExact n).inside, fun n => (hExact n).nodup, ?_, ?_, ?_, ?_⟩
  · rintro t ⟨n, p⟩ ⟨n', p'⟩ hMem hMem'
    obtain ⟨s, hAsleep, rfl⟩ := (hExact n).inside p t hMem
    obtain ⟨s', hAsleep', rfl⟩ := (hExact n').inside p' t hMem'
    obtain rfl := hOrderly.alone t n n' (hAsleep ▸ nofun) (hAsleep' ▸ nofun)
    obtain rfl := Option.some.inj (hAsleep.symm.trans hAsleep')
    rfl
  · intro t hOut n p hMem
    obtain ⟨s, hAsleep, -⟩ := (hExact n).inside p t hMem
    cases (hOut n).symm.trans hAsleep
  · exact fun n t s => accounted_after hKept hFresh hPermits
  · intro n m t hNotice
    have hPassed := hOrderly.passed hKept n m
    obtain ⟨hOther, hWaits⟩ := hPassed.called t (Outcome.mem_tasks.mpr hNotice)
    refine ⟨hOther, hWaits, ?_⟩
    rw [after_concat]
    exact hPassed.gone t (Outcome.mem_tasks.mpr hNotice)

end System

end TaskSync
