import TaskSync.Proofs.Runs.World

/-!
# TaskSync — asynchronous operations on an object

An `Executor` has an object in use and the asynchronous operations on it, each
under a number of its own. An operation is polled at any time, by whomever and
with whatever waker, and may be dropped at any time; everything else that can
happen to an object goes on between the polls. The executor takes notes: of an
operation that is pending it knows the waker of the last poll, and whether that
waker has been called since.

An object is **prompt** if no operation is left lying: whoever a poll would serve
now has been called. This comes down to one predicate on the object, that the
operation is parked with its waker at the object (`Parking`):

* a poll in vain parks the operation;
* every step keeps it parked or calls the waker;
* a parked operation is not served.

Main result:

* `Parking.prompt` — then the object is prompt in every state of every run.
-/

namespace TaskSync

/-- Asynchronous operations `φ` on an object of type `σ`, whose polls are among the steps `ι`. -/
class Pollable (φ : Type) (σ ι : outParam Type) where
  poll : φ → WakerId → ι
  /-- The operation after a poll in vain. -/
  parked : φ → σ → φ

/-- An asynchronous operation that has not ended. -/
structure Pending (φ : Type) where
  op : φ
  /-- The waker of the last poll, if there has been one; it was in vain. -/
  waker : Option WakerId
  /-- That waker has been called since. -/
  called : Bool

/-- An object in use and the asynchronous operations on it. -/
structure Executor (σ κ δ φ : Type) where
  world : World σ κ δ
  futures : Nat → Option (Pending φ)

namespace Pending

variable {φ : Type}

/-- An operation that has not been polled. -/
def fresh (op : φ) : Pending φ := ⟨op, none, false⟩

/-- The operation after some notices. -/
def hear (p : Pending φ) (ns : List Notice) : Pending φ :=
  { p with called := p.called || p.waker.any fun v => decide (.waker v ∈ ns) }

/-- An operation that has not been called was not before, and none of the notices was for it. -/
theorem not_called_of_hear {p : Pending φ} {ns : List Notice} {v : WakerId}
    (hCalled : (p.hear ns).called = false) (hWaker : p.waker = some v) :
    p.called = false ∧ .waker v ∉ ns := by
  rw [hear, Bool.or_eq_false_iff, hWaker, Option.any_some, decide_eq_false_iff_not] at hCalled
  exact hCalled

end Pending

namespace Executor

variable {σ ρ κ ι δ φ : Type}

/-- One step at an executor. -/
inductive Move (ρ ι φ : Type)
  /-- Anything but a poll of one of the operations. -/
  | other (m : TaskSync.Move ρ ι)
  | create (f : Nat) (op : φ)
  | poll (f : Nat) (waker : WakerId)
  | drop (f : Nat)

/-- An object that nobody has used yet. -/
def fresh (object : σ) : Executor σ κ δ φ := ⟨.fresh object, fun _ => none⟩

/-- The executor after a move at its object. -/
def move (P : Protocol σ ρ κ ι δ) (e : Executor σ κ δ φ) (m : TaskSync.Move ρ ι) :
    Executor σ κ δ φ where
  world := e.world.step P m
  futures := fun f => (e.futures f).map fun p => p.hear (e.world.notices P m)

/-- The executor with `p?` for what is pending under a number. -/
def set (e : Executor σ κ δ φ) (f : Nat) (p? : Option (Pending φ)) : Executor σ κ δ φ :=
  { e with futures := Function.update e.futures f p? }

/-- The executor after a move. -/
def step [Pollable φ σ ι] (P : Protocol σ ρ κ ι δ) (e : Executor σ κ δ φ) :
    Move ρ ι φ → Executor σ κ δ φ
  | .other m => e.move P m
  | .create f op => e.set f (some (.fresh op))
  | .poll f waker =>
    match e.futures f with
    | none => e
    | some p =>
      let a := Pollable.poll p.op waker
      (e.move P (.act a)).set f <|
        match (P.act a e.world.object).answer with
        | none => some ⟨Pollable.parked p.op e.world.object, some waker, false⟩
        | some _ => none
  | .drop f => e.set f none

/-- The executor after some moves. -/
def run [Pollable φ σ ι] (P : Protocol σ ρ κ ι δ) (e : Executor σ κ δ φ)
    (moves : List (Move ρ ι φ)) : Executor σ κ δ φ := moves.foldl (step P) e

/-- Whoever has been polled in vain and would be served by a poll now has been called since. -/
def Prompt [Pollable φ σ ι] (P : Protocol σ ρ κ ι δ) (e : Executor σ κ δ φ) : Prop :=
  ∀ f p v, e.futures f = some p → p.waker = some v →
    (∃ v', (P.act (Pollable.poll p.op v') e.world.object).answer ≠ none) → p.called = true

variable {P : Protocol σ ρ κ ι δ} {e : Executor σ κ δ φ} {f : Nat}

@[simp] theorem world_set (p? : Option (Pending φ)) : (e.set f p?).world = e.world := rfl

@[simp] theorem futures_set (p? : Option (Pending φ)) :
    (e.set f p?).futures = Function.update e.futures f p? := rfl

theorem futures_set_cases {p? : Option (Pending φ)} {f' : Nat} {p : Pending φ}
    (h : (e.set f p?).futures f' = some p) :
    f' = f ∧ p? = some p ∨ f' ≠ f ∧ e.futures f' = some p := by
  rw [futures_set] at h
  by_cases hSame : f' = f
  · subst hSame
    rw [Function.update_self] at h
    exact Or.inl ⟨rfl, h⟩
  · rw [Function.update_of_ne hSame] at h
    exact Or.inr ⟨hSame, h⟩

variable [Pollable φ σ ι]

/-- All that a move can come to. -/
inductive Stepped (P : Protocol σ ρ κ ι δ) (e : Executor σ κ δ φ) :
    Move ρ ι φ → Executor σ κ δ φ → Prop
  | moved {m : TaskSync.Move ρ ι} : Stepped P e (.other m) (e.move P m)
  | created {f : Nat} {op : φ} : Stepped P e (.create f op) (e.set f (some (.fresh op)))
  /-- There is nothing to poll. -/
  | idle {f : Nat} {waker : WakerId} : Stepped P e (.poll f waker) e
  | vain {f : Nat} {waker : WakerId} {p : Pending φ} :
      e.futures f = some p →
      (P.act (Pollable.poll p.op waker) e.world.object).answer = none →
      Stepped P e (.poll f waker) ((e.move P (.act (Pollable.poll p.op waker))).set f
        (some ⟨Pollable.parked p.op e.world.object, some waker, false⟩))
  | served {f : Nat} {waker : WakerId} {p : Pending φ} {d : δ} :
      e.futures f = some p →
      (P.act (Pollable.poll p.op waker) e.world.object).answer = some d →
      Stepped P e (.poll f waker) ((e.move P (.act (Pollable.poll p.op waker))).set f none)
  | dropped {f : Nat} : Stepped P e (.drop f) (e.set f none)

theorem stepped_step (P : Protocol σ ρ κ ι δ) (e : Executor σ κ δ φ) (mv : Move ρ ι φ) :
    Stepped P e mv (e.step P mv) := by
  cases mv with
  | other m => exact .moved
  | create f op => exact .created
  | poll f waker =>
    rw [step]
    cases hFuture : e.futures f with
    | none => exact .idle
    | some p =>
      cases hAnswer : (P.act (Pollable.poll p.op waker) e.world.object).answer with
      | none =>
        simp only [hAnswer]
        exact .vain hFuture hAnswer
      | some d =>
        simp only [hAnswer]
        exact .served hFuture hAnswer
  | drop f => exact .dropped

/-- The move that a step comes to at the object, if any. -/
def work (e : Executor σ κ δ φ) : Move ρ ι φ → Option (TaskSync.Move ρ ι)
  | .other m => some m
  | .poll f waker => (e.futures f).map fun p => .act (Pollable.poll p.op waker)
  | .create .. | .drop _ => none

theorem world_step (P : Protocol σ ρ κ ι δ) (e : Executor σ κ δ φ) (mv : Move ρ ι φ) :
    (e.step P mv).world = (e.work mv).elim e.world (e.world.step P) := by
  cases mv with
  | other m | create f op | drop f => rfl
  | poll f waker =>
    rw [step, work]
    cases e.futures f with
    | none => rfl
    | some p => rfl

theorem run_concat (P : Protocol σ ρ κ ι δ) (e : Executor σ κ δ φ) (moves : List (Move ρ ι φ))
    (mv : Move ρ ι φ) : e.run P (moves ++ [mv]) = (e.run P moves).step P mv :=
  List.foldl_concat ..

/-- What each move keeps is kept by every run. -/
theorem run_induction {I : Executor σ κ δ φ → Prop} (hStep : ∀ e mv, I e → I (e.step P mv))
    (hStart : I e) (moves : List (Move ρ ι φ)) : I (e.run P moves) := by
  induction moves generalizing e with
  | nil => exact hStart
  | cons mv rest ih => exact ih (hStep e mv hStart)

end Executor

-- ---------------------------------------------------------------------------
-- Parked operations
-- ---------------------------------------------------------------------------

variable {σ ρ κ ι δ φ : Type}

/-- After a step a predicate still holds of the object, or the waker has been called. -/
def KeptOrCalled {α : Type} (p : σ → Prop) (v : WakerId) (o : Outcome σ α) : Prop :=
  .waker v ∈ o.notices ∨ p o.object

/-- `Parked` says of a pending operation, its waker and the object that a step that serves the
operation calls the waker first. `I` is what is known of the object. -/
structure Parking [Pollable φ σ ι] (P : Protocol σ ρ κ ι δ) (I : World σ κ δ → Prop)
    (Parked : φ → WakerId → σ → Prop) : Prop where
  keeps : ∀ w m, I w → I (w.step P m)
  /-- A poll in vain parks the operation. -/
  parks : ∀ w op v, I w → (P.act (Pollable.poll op v) w.object).answer = none →
    Parked (Pollable.parked op w.object) v (P.act (Pollable.poll op v) w.object).object
  starts : ∀ w op v r now t, I w → Parked op v w.object →
    KeptOrCalled (Parked op v) v (P.start r now t w.object)
  resumes : ∀ w op v s now t, I w → w.crew.asleep t = some s → Parked op v w.object →
    KeptOrCalled (Parked op v) v (P.resume s.call now t w.object)
  acts : ∀ w op v a, I w → Parked op v w.object →
    KeptOrCalled (Parked op v) v (P.act a w.object)
  /-- A parked operation is not served. -/
  pends : ∀ w op v v', I w → Parked op v w.object →
    (P.act (Pollable.poll op v') w.object).answer = none

namespace Parking

variable [Pollable φ σ ι] {P : Protocol σ ρ κ ι δ} {I : World σ κ δ → Prop}
  {Parked : φ → WakerId → σ → Prop} {w : World σ κ δ} {e : Executor σ κ δ φ} {op : φ} {v : WakerId}

/-- Every move keeps an operation parked or calls its waker. -/
theorem stays (h : Parking P I Parked) (hI : I w) (hParked : Parked op v w.object)
    (m : TaskSync.Move ρ ι) : .waker v ∈ w.notices P m ∨ Parked op v (w.step P m).object := by
  cases m with
  | start t now r =>
    rw [World.notices, World.step]
    cases w.crew.asleep t with
    | none => exact h.starts w op v r now t hI hParked
    | some s => exact Or.inr hParked
  | resume t now =>
    rw [World.notices, World.step]
    cases hAsleep : w.crew.asleep t with
    | none => exact Or.inr hParked
    | some s => exact h.resumes w op v s now t hI hAsleep hParked
  | act a => exact h.acts w op v a hI hParked
  | abandon t => exact Or.inr hParked

/-- Whoever has been polled in vain and not called since is parked. -/
def Holds (Parked : φ → WakerId → σ → Prop) (e : Executor σ κ δ φ) : Prop :=
  ∀ f p v, e.futures f = some p → p.waker = some v → p.called = false →
    Parked p.op v e.world.object

theorem Holds.move (h : Parking P I Parked) (hI : I e.world) (hHolds : Holds Parked e)
    (m : TaskSync.Move ρ ι) : Holds Parked (e.move P m) := by
  intro f p v hFuture hWaker hCalled
  obtain ⟨p', hFuture', rfl⟩ := Option.map_eq_some_iff.mp hFuture
  obtain ⟨hBefore, hNot⟩ := Pending.not_called_of_hear hCalled hWaker
  exact (h.stays hI (hHolds f p' v hFuture' hWaker hBefore) m).resolve_left hNot

theorem Holds.set {f : Nat} {p? : Option (Pending φ)} (h : Holds Parked e)
    (hNew : ∀ p v, p? = some p → p.waker = some v → Parked p.op v e.world.object) :
    Holds Parked (e.set f p?) := by
  intro f' p v hFuture hWaker hCalled
  rcases Executor.futures_set_cases hFuture with ⟨-, hSome⟩ | ⟨-, hOther⟩
  · exact hNew p v hSome hWaker
  · exact h f' p v hOther hWaker hCalled

theorem Holds.step (h : Parking P I Parked) (hI : I e.world) (hHolds : Holds Parked e)
    (mv : Executor.Move ρ ι φ) : I (e.step P mv).world ∧ Holds Parked (e.step P mv) := by
  have hKept : ∀ m f p?, I ((e.move P m).set f p?).world := fun m _ _ => h.keeps e.world m hI
  have hMoved : ∀ m, Holds Parked (e.move P m) := fun m => hHolds.move h hI m
  have hStepped := e.stepped_step P mv
  generalize e.step P mv = e' at hStepped ⊢
  cases hStepped with
  | moved => exact ⟨h.keeps _ _ hI, hMoved _⟩
  | created =>
    refine ⟨hI, hHolds.set fun p v hSome hWaker => ?_⟩
    obtain rfl := Option.some.inj hSome
    cases hWaker
  | idle => exact ⟨hI, hHolds⟩
  | vain hFuture hAnswer =>
    refine ⟨hKept .., (hMoved _).set fun p v hSome hWaker => ?_⟩
    obtain rfl := Option.some.inj hSome
    obtain rfl := Option.some.inj hWaker
    exact h.parks _ _ _ hI hAnswer
  | served => exact ⟨hKept .., (hMoved _).set nofun⟩
  | dropped => exact ⟨hI, hHolds.set nofun⟩

/-- An object whose pending operations are parked is prompt in every state of every run. -/
theorem prompt (h : Parking P I Parked) {object : σ} (hStart : I (.fresh object))
    (moves : List (Executor.Move ρ ι φ)) : ((Executor.fresh object).run P moves).Prompt P := by
  have hRun := Executor.run_induction (P := P) (I := fun e => I e.world ∧ Holds Parked e)
    (fun e mv hBefore => hBefore.2.step h hBefore.1 mv)
    (e := .fresh object) ⟨hStart, nofun⟩ moves
  intro f p v hFuture hWaker hServed
  -- who has not been called is parked, and would be polled in vain
  rw [← Bool.not_eq_false]
  intro hCalled
  obtain ⟨v', hServed⟩ := hServed
  exact hServed (h.pends _ _ v v' hRun.1 (hRun.2 f p v hFuture hWaker hCalled))

end Parking

end TaskSync
