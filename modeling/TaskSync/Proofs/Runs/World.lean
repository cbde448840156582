import TaskSync.Proofs.Runs.Crew
import TaskSync.Proofs.Runs.History
import TaskSync.Waiting

/-!
# TaskSync — runs of an object

An object in use (`World`): the object, the tasks at it, and a log of the
operations that have ended. A `Move` is one step of anybody: a task begins an
operation or goes on with one, somebody takes a step that does not wait (a
poll of an asynchronous operation, an operation of an interrupt handler, a
control operation), or a suspended task is given up. How the object answers is
its `Protocol`; what happens between looks is free:

* a suspended task goes on at any time and for any reason (`Move.resume`), be
  it woken, out of time or neither;
* a task may read any number off the tick counter (`now`);
* an asynchronous operation is its polls, which come when they like, with
  whatever waker, and stop when it is dropped.

A run is a list of moves, so a statement about all lists is a statement about
every order of steps. `World.run_induction` proves that what each move keeps is
kept by every run.
-/

namespace TaskSync

/-- How an object of type `σ` answers: to operations `ρ` that may have to wait,
as calls `κ`, and to operations `ι` that never wait. An operation that has
ended is a deed `δ`. -/
structure Protocol (σ ρ κ ι δ : Type) where
  /-- The first look of an operation. -/
  start : ρ → Ticks → TaskId → σ → Outcome σ (Round κ δ)
  /-- Each further look. -/
  resume : κ → Ticks → TaskId → σ → Outcome σ (Round κ δ)
  /-- A step that does not wait; `none` if it ends nothing. -/
  act : ι → σ → Outcome σ (Option δ)

/-- An operation that has ended. -/
structure Record (σ δ : Type) where
  /-- The object as the deciding look found it. -/
  before : σ
  deed : δ

/-- An object in use. -/
structure World (σ κ δ : Type) where
  object : σ
  crew : Crew κ
  /-- The operations that have ended, in order. -/
  log : List (Record σ δ)

/-- One step of anybody. -/
inductive Move (ρ ι : Type)
  /-- A task that is in no call begins an operation. -/
  | start (t : TaskId) (now : Ticks) (r : ρ)
  /-- A suspended task goes on. -/
  | resume (t : TaskId) (now : Ticks)
  /-- A step that does not wait. -/
  | act (a : ι)
  /-- A suspended task is given up in the middle of its call. -/
  | abandon (t : TaskId)

/-- The task whose look a move is, if it is one. -/
def Move.looker? {ρ ι : Type} : Move ρ ι → Option TaskId
  | .start t _ _ | .resume t _ => some t
  | .act _ | .abandon _ => none

/-- The sleep that a round ends in, if it does. -/
def Round.sleep? {κ δ : Type} : Round κ δ → Option (Sleep κ)
  | .finished _ => none
  | .suspended k limit => some ⟨k, limit⟩

/-- The deed that a round ends with, if it ends the operation. -/
def Round.deed? {κ δ : Type} : Round κ δ → Option δ
  | .finished d => some d
  | .suspended .. => none

namespace World

variable {σ ρ κ ι δ : Type}

/-- An object that nobody has used yet. -/
def fresh (object : σ) : World σ κ δ := ⟨object, .empty, []⟩

/-- The log after a step that ended an operation, or none. -/
def logged (w : World σ κ δ) (ended : Option δ) : List (Record σ δ) :=
  w.log ++ ended.toList.map fun d => ⟨w.object, d⟩

/-- The world after a look of a task. -/
def look (w : World σ κ δ) (t : TaskId) (o : Outcome σ (Round κ δ)) : World σ κ δ where
  object := o.object
  crew := (w.crew.look t o.answer.sleep?).notify o.tasks
  log := w.logged o.answer.deed?

/-- The world after a step that does not wait. -/
def act (w : World σ κ δ) (o : Outcome σ (Option δ)) : World σ κ δ where
  object := o.object
  crew := w.crew.notify o.tasks
  log := w.logged o.answer

/-- The world after a move. A move that nobody can make changes nothing. -/
def step (P : Protocol σ ρ κ ι δ) (w : World σ κ δ) : Move ρ ι → World σ κ δ
  | .start t now r =>
    match w.crew.asleep t with
    | none => w.look t (P.start r now t w.object)
    | some _ => w
  | .resume t now =>
    match w.crew.asleep t with
    | none => w
    | some s => w.look t (P.resume s.call now t w.object)
  | .act a => w.act (P.act a w.object)
  | .abandon t => { w with crew := w.crew.look t none }

/-- The notices that a move sends out, in order. -/
def notices (P : Protocol σ ρ κ ι δ) (w : World σ κ δ) : Move ρ ι → List Notice
  | .start t now r =>
    match w.crew.asleep t with
    | none => (P.start r now t w.object).notices
    | some _ => []
  | .resume t now =>
    match w.crew.asleep t with
    | none => []
    | some s => (P.resume s.call now t w.object).notices
  | .act a => (P.act a w.object).notices
  | .abandon _ => []

/-- The world after some moves. -/
def run (P : Protocol σ ρ κ ι δ) (w : World σ κ δ) (moves : List (Move ρ ι)) : World σ κ δ :=
  moves.foldl (step P) w

/-- All that a move can come to. -/
inductive Stepped (P : Protocol σ ρ κ ι δ) (w : World σ κ δ) : Move ρ ι → World σ κ δ → Prop
  | idle {m : Move ρ ι} : Stepped P w m w
  | started {t : TaskId} {now : Ticks} {r : ρ} :
      w.crew.asleep t = none →
      Stepped P w (.start t now r) (w.look t (P.start r now t w.object))
  | resumed {t : TaskId} {now : Ticks} {s : Sleep κ} :
      w.crew.asleep t = some s →
      Stepped P w (.resume t now) (w.look t (P.resume s.call now t w.object))
  | acted {a : ι} : Stepped P w (.act a) (w.act (P.act a w.object))
  | abandoned {t : TaskId} : Stepped P w (.abandon t) { w with crew := w.crew.look t none }

theorem stepped_step (P : Protocol σ ρ κ ι δ) (w : World σ κ δ) (m : Move ρ ι) :
    Stepped P w m (w.step P m) := by
  cases m with
  | start t now r =>
    rw [step]
    split
    · exact .started ‹_›
    · exact .idle
  | resume t now =>
    rw [step]
    split
    · exact .idle
    · exact .resumed ‹_›
  | act a => exact .acted
  | abandon t => exact .abandoned

/-- Who sleeps after a move slept before it or has begun an operation with it. -/
theorem asleep_or_started {P : Protocol σ ρ κ ι δ} {w : World σ κ δ} {m : Move ρ ι} {t : TaskId}
    (hAsleep : (w.step P m).crew.asleep t ≠ none) :
    w.crew.asleep t ≠ none ∨ ∃ now r, m = .start t now r := by
  obtain ⟨sleep, hSleep⟩ := Option.ne_none_iff_exists'.mp hAsleep
  have hBefore : w.crew.asleep t = some sleep → w.crew.asleep t ≠ none := by
    intro hSome
    rw [hSome]
    exact nofun
  have hStepped := w.stepped_step P m
  generalize w.step P m = w' at hStepped hSleep
  cases hStepped with
  | idle | acted => exact Or.inl (hBefore hSleep)
  | @started u now r =>
    rcases Crew.asleep_look_cases hSleep with ⟨-, rfl⟩ | hSome
    · exact Or.inr ⟨now, r, rfl⟩
    · exact Or.inl (hBefore hSome)
  | @resumed u now s hSlept =>
    left
    rcases Crew.asleep_look_cases hSleep with ⟨-, rfl⟩ | hSome
    · rw [hSlept]
      exact nofun
    · exact hBefore hSome
  | @abandoned u =>
    rcases Crew.asleep_look_cases hSleep with ⟨hGone, -⟩ | hSome
    · cases hGone
    · exact Or.inl (hBefore hSome)

/-- A move that is no look of a task leaves the task where it is, unless it gives it up. -/
theorem asleep_step_of_other {P : Protocol σ ρ κ ι δ} {w : World σ κ δ} {m : Move ρ ι}
    {t : TaskId} (hOther : m.looker? ≠ some t) (hKept : ∀ u, m ≠ .abandon u) :
    (w.step P m).crew.asleep t = w.crew.asleep t := by
  have hStepped := w.stepped_step P m
  generalize w.step P m = w' at hStepped ⊢
  cases hStepped with
  | idle | acted => rfl
  | started | resumed =>
    refine Crew.asleep_look_of_ne ?_ _
    rintro rfl
    exact hOther rfl
  | @abandoned u => exact absurd rfl (hKept u)

theorem step_start {P : Protocol σ ρ κ ι δ} {w : World σ κ δ} {t : TaskId}
    (hAwake : w.crew.asleep t = none) (now : Ticks) (r : ρ) :
    w.step P (.start t now r) = w.look t (P.start r now t w.object) := by
  rw [step, hAwake]

/-- A task in the middle of a call begins no other. -/
theorem step_start_of_asleep {P : Protocol σ ρ κ ι δ} {w : World σ κ δ} {t : TaskId} {s : Sleep κ}
    (hAsleep : w.crew.asleep t = some s) (now : Ticks) (r : ρ) :
    w.step P (.start t now r) = w := by
  rw [step, hAsleep]

theorem step_resume {P : Protocol σ ρ κ ι δ} {w : World σ κ δ} {t : TaskId} {s : Sleep κ}
    (hAsleep : w.crew.asleep t = some s) (now : Ticks) :
    w.step P (.resume t now) = w.look t (P.resume s.call now t w.object) := by
  rw [step, hAsleep]

theorem step_resume_of_awake {P : Protocol σ ρ κ ι δ} {w : World σ κ δ} {t : TaskId}
    (hAwake : w.crew.asleep t = none) (now : Ticks) : w.step P (.resume t now) = w := by
  rw [step, hAwake]

theorem step_act (P : Protocol σ ρ κ ι δ) (w : World σ κ δ) (a : ι) :
    w.step P (.act a) = w.act (P.act a w.object) := rfl

@[simp] theorem logged_none (w : World σ κ δ) : w.logged none = w.log := List.append_nil _

@[simp] theorem logged_some (w : World σ κ δ) (d : δ) :
    w.logged (some d) = w.log ++ [⟨w.object, d⟩] := rfl

/-- The log after a step tells what the step has ended. -/
theorem logged_inj {w : World σ κ δ} {a b : Option δ} (h : w.logged a = w.logged b) : a = b := by
  have hSame := List.append_cancel_left h
  cases a with
  | none =>
    cases b with
    | none => rfl
    | some d => cases hSame
  | some d =>
    cases b with
    | none => cases hSame
    | some d' =>
      cases hSame
      rfl

theorem look_still (w : World σ κ δ) (t : TaskId) (object : σ) (next : Round κ δ) :
    w.look t (.still object next) =
      ⟨object, w.crew.look t next.sleep?, w.logged next.deed?⟩ := by
  rw [look, Outcome.tasks_still, Crew.notify_nil]
  rfl

theorem look_suspended (w : World σ κ δ) (t : TaskId) (object : σ) (k : κ)
    (limit : Option Ticks) :
    w.look t (.still object (.suspended k limit)) =
      ⟨object, w.crew.look t (some ⟨k, limit⟩), w.log⟩ := by
  rw [look_still, Round.deed?, logged_none]
  rfl

theorem act_still (w : World σ κ δ) (object : σ) (ended : Option δ) :
    w.act (.still object ended) = ⟨object, w.crew, w.logged ended⟩ := by
  rw [act, Outcome.tasks_still, Crew.notify_nil]
  rfl

theorem run_cons (P : Protocol σ ρ κ ι δ) (w : World σ κ δ) (m : Move ρ ι)
    (rest : List (Move ρ ι)) : w.run P (m :: rest) = (w.step P m).run P rest := rfl

theorem run_concat (P : Protocol σ ρ κ ι δ) (w : World σ κ δ) (moves : List (Move ρ ι))
    (m : Move ρ ι) : w.run P (moves ++ [m]) = (w.run P moves).step P m := List.foldl_concat ..

theorem run_append (P : Protocol σ ρ κ ι δ) (w : World σ κ δ) (moves later : List (Move ρ ι)) :
    w.run P (moves ++ later) = (w.run P moves).run P later := List.foldl_append ..

theorem log_prefix_step (P : Protocol σ ρ κ ι δ) (w : World σ κ δ) (m : Move ρ ι) :
    w.log <+: (w.step P m).log := by
  have hStepped := w.stepped_step P m
  generalize w.step P m = w' at hStepped ⊢
  cases hStepped with
  | idle | abandoned => exact List.prefix_rfl
  | started | resumed | acted => exact List.prefix_append ..

/-- What has ended stays in the log. -/
theorem log_prefix_run (P : Protocol σ ρ κ ι δ) (w : World σ κ δ) (moves : List (Move ρ ι)) :
    w.log <+: (w.run P moves).log := by
  induction moves generalizing w with
  | nil => exact List.prefix_rfl
  | cons m rest ih => exact (w.log_prefix_step P m).trans (ih (w.step P m))

/-- What each move keeps is kept by every run. -/
theorem run_induction {P : Protocol σ ρ κ ι δ} {I : World σ κ δ → Prop}
    {moves : List (Move ρ ι)} (hStep : ∀ w m, m ∈ moves → I w → I (w.step P m))
    {w : World σ κ δ} (hStart : I w) : I (w.run P moves) := by
  -- the invariant is carried forward, so the world before the moves is generalised
  induction moves generalizing w with
  | nil => exact hStart
  | cons m rest ih =>
    have hRest : ∀ w' m', m' ∈ rest → I w' → I (w'.step P m') :=
      fun w' m' hMem => hStep w' m' (List.mem_cons_of_mem m hMem)
    exact ih hRest (hStep w m List.mem_cons_self hStart)

/-- In a run from `w` each move is made in a world that allows it. -/
def Allows (P : Protocol σ ρ κ ι δ) (p : World σ κ δ → Move ρ ι → Prop) (w : World σ κ δ) :
    List (Move ρ ι) → Prop
  | [] => True
  | m :: rest => p w m ∧ (w.step P m).Allows P p rest

instance Allows.decidable (P : Protocol σ ρ κ ι δ) (p : World σ κ δ → Move ρ ι → Prop)
    [∀ w m, Decidable (p w m)] (w : World σ κ δ) :
    (moves : List (Move ρ ι)) → Decidable (w.Allows P p moves)
  | [] => .isTrue trivial
  | m :: rest =>
    have := Allows.decidable P p (w.step P m) rest
    inferInstanceAs (Decidable (p w m ∧ (w.step P m).Allows P p rest))

theorem allows_iff_legal {P : Protocol σ ρ κ ι δ} {p : World σ κ δ → Move ρ ι → Prop}
    {w : World σ κ δ} {moves : List (Move ρ ι)} :
    w.Allows P p moves ↔ Legal (step P) p w moves := by
  induction moves generalizing w with
  | nil => exact Iff.rfl
  | cons m rest ih => exact and_congr_right fun _ => ih

theorem allows_append {P : Protocol σ ρ κ ι δ} {p : World σ κ δ → Move ρ ι → Prop}
    {w : World σ κ δ} {moves later : List (Move ρ ι)} :
    w.Allows P p (moves ++ later) ↔ w.Allows P p moves ∧ (w.run P moves).Allows P p later := by
  rw [allows_iff_legal, allows_iff_legal, allows_iff_legal, legal_append, run]

theorem Allows.and {P : Protocol σ ρ κ ι δ} {p q : World σ κ δ → Move ρ ι → Prop}
    {w : World σ κ δ} {moves : List (Move ρ ι)} (hp : w.Allows P p moves)
    (hq : w.Allows P q moves) : w.Allows P (fun w m => p w m ∧ q w m) moves := by
  induction moves generalizing w with
  | nil => trivial
  | cons m rest ih => exact ⟨⟨hp.1, hq.1⟩, ih hp.2 hq.2⟩

/-- What each allowed move keeps is kept by every run of allowed moves. -/
theorem run_induction_of_allows {P : Protocol σ ρ κ ι δ} {p : World σ κ δ → Move ρ ι → Prop}
    {I : World σ κ δ → Prop} (hStep : ∀ w m, p w m → I w → I (w.step P m))
    {moves : List (Move ρ ι)} {w : World σ κ δ} (hAllows : w.Allows P p moves) (hStart : I w) :
    I (w.run P moves) :=
  (allows_iff_legal.mp hAllows).induction (I := fun _ w => I w) hStart
    fun _ m hMove h => hStep _ m hMove h

end World

end TaskSync
