import TaskSync.Proofs.Signal.Changes
import TaskSync.Proofs.Signal.Machine

/-!
# TaskSync — what a signal holds

A signal is there to hold the last value that was written. It takes a value that
its type's own `==` tells from the one it holds, and leaves any other aside. So
it holds a value that was written at some time, and whatever has been written
since was equal to that one, if not the same (`Signal.Latest`). Where `==` tells
all values apart that are not the same, this is the last one; where it does not,
as with the two zeros among floating-point numbers, it need not be.

Nothing is assumed of `==`. Whoever is given a value is given the one that the
signal holds at that moment.

Main results:

* `Signal.upToDate_run` — so it is after every run.
* `Signal.keeps_other_zero` — a value that is written and not held.
-/

namespace TaskSync

namespace Signal

variable {α : Type}

/-- A move of an execution on a signal. -/
abbrev Turning (α : Type) := Executor.Move Request (Act α) (Future α)

/-- The value that a move writes, if it writes one. -/
def write? : Turning α → Option α
  | .other (.act (.set value)) => some value
  | _ => none

/-- The values that were written, in order. -/
def written (moves : List (Turning α)) : List α := moves.filterMap write?

variable [BEq α]

/-- `held` is one of `values`, and all that follow it are equal to it. -/
def Latest (values : List α) (held : α) : Prop :=
  ∃ earlier later, values = earlier ++ held :: later ∧ ∀ v ∈ later, (held == v) = true

/-- The value that the signal of an execution holds. -/
def present (e : Execution α) : α := e.world.object.signal.value

/-- A signal that holds the last value written, as far as its `==` can tell. -/
structure UpToDate (initial : α) (moves : List (Turning α)) : Prop where
  latest : Latest (initial :: written moves) (present (after initial moves))
  /-- Where values that are equal are the same, it is the very value that was written last. -/
  last : (∀ u ∈ initial :: written moves, ∀ v ∈ written moves, (u == v) = true → u = v) →
    present (after initial moves) = (initial :: written moves).getLast (List.cons_ne_nil _ _)
  /-- Whoever is given a value next is given the one that is held. -/
  handed : ∀ mv d v, ((after initial moves).step protocol mv).world.log =
      (after initial moves).world.log ++ [⟨(after initial moves).world.object, d⟩] →
    d.value? = some v → v = present (after initial moves)

variable {initial u v : α} {values : List α} {moves : List (Turning α)} {mv : Turning α}
  {e : Execution α} {x : Watched α} {t : TaskId} {watch : Nat} {c : Change α}

-- ---------------------------------------------------------------------------
-- The last of some values
-- ---------------------------------------------------------------------------

theorem Latest.same (h : Latest values u) (hSame : (u == v) = true) : Latest (values ++ [v]) u := by
  obtain ⟨earlier, later, rfl, hLater⟩ := h
  refine ⟨earlier, later ++ [v], by simp, fun v' hIn => ?_⟩
  rcases List.mem_append.mp hIn with hIn | hIn
  · exact hLater v' hIn
  · exact List.mem_singleton.mp hIn ▸ hSame

theorem Latest.mem (h : Latest values u) : u ∈ values := by
  obtain ⟨earlier, later, rfl, -⟩ := h
  simp

/-- Where equal values are the same, only the last one is followed by equal ones alone. -/
theorem Latest.eq_getLast (h : Latest (initial :: values) u)
    (hLawful : ∀ v ∈ values, (u == v) = true → u = v) :
    u = (initial :: values).getLast (List.cons_ne_nil _ _) := by
  obtain ⟨earlier, later, hSplit, hLater⟩ := h
  have hSame : ∀ v ∈ u :: later, v = u := by
    intro v hIn
    rcases List.mem_cons.mp hIn with rfl | hIn
    · rfl
    · have hWritten : v ∈ values := by
        have hTail : values = (earlier ++ u :: later).tail := by rw [← hSplit, List.tail_cons]
        rw [hTail]
        cases earlier with
        | nil => exact hIn
        | cons a earlier => simp [hIn]
      exact (hLawful v hWritten (hLater v hIn)).symm
  simp only [hSplit]
  rw [List.getLast_append_of_ne_nil _ (List.cons_ne_nil u later)]
  exact (hSame _ (List.getLast_mem _)).symm

-- ---------------------------------------------------------------------------
-- What a step does to the value, and whom it gives it
-- ---------------------------------------------------------------------------

theorem Turn.value_eq {o : Outcome (Watched α) (Round (Call α) (Deed α))}
    (h : Turn t x watch c o) : o.object.signal.value = x.signal.value := by
  cases h <;> rfl

theorem Turn.handed {o : Outcome (Watched α) (Round (Call α) (Deed α))} {d : Deed α}
    (h : Turn t x watch c o) (hDeed : o.answer.deed? = some d) (hValue : d.value? = some v) :
    v = x.signal.value := by
  cases h with
  | told =>
    obtain rfl := Option.some.inj hDeed
    exact (Option.some.inj hValue).symm
  | gaveUp =>
    obtain rfl := Option.some.inj hDeed
    cases hValue
  | joined | crowded => cases hDeed

/-- The value that is held after `v` was written. -/
def hold (u v : α) : α := if u == v then u else v

theorem Deal.value_eq {a : Act α} {o : Outcome (Watched α) (Option (Deed α))} (h : Deal x a o) :
    o.object.signal.value =
      match a with
      | .set v => hold x.signal.value v
      | .glance _ | .poll .. => x.signal.value := by
  cases h with
  | kept hSame => exact (if_pos hSame).symm
  | changed hOther => exact (if_neg (Bool.eq_false_iff.mp hOther)).symm
  | noNews | news | pending | polled => rfl

theorem Deal.handed {a : Act α} {o : Outcome (Watched α) (Option (Deed α))} {d : Deed α}
    (h : Deal x a o) (hDeed : o.answer = some d) (hValue : d.value? = some v) :
    v = x.signal.value := by
  cases h with
  | kept | changed | noNews =>
    obtain rfl := Option.some.inj hDeed
    cases hValue
  | news | polled =>
    obtain rfl := Option.some.inj hDeed
    exact (Option.some.inj hValue).symm
  | pending => cases hDeed

/-- A move at the object writes what its step writes. -/
theorem value_step (w : World (Watched α) (Call α) (Deed α)) (m : Move Request (Act α)) :
    (w.step protocol m).object.signal.value =
      ((write? (.other m : Turning α)).map (hold w.object.signal.value)).getD
        w.object.signal.value := by
  cases m with
  | start t now r =>
    rw [World.step]
    cases w.crew.asleep t with
    | none => exact (turn_look (r.call now w.object) now t w.object).value_eq
    | some s => rfl
  | resume t now =>
    rw [World.step]
    cases w.crew.asleep t with
    | none => rfl
    | some s => exact (turn_look s.call now t w.object).value_eq
  | act a =>
    have hValue := (deal_act a w.object).value_eq
    cases a <;> exact hValue
  | abandon t => rfl

theorem present_step (e : Execution α) (mv : Turning α) :
    present (e.step protocol mv) = ((write? mv).map (hold (present e))).getD (present e) := by
  rw [present, Executor.world_step]
  cases mv with
  | other m => exact value_step e.world m
  | create f op | drop f => rfl
  | poll f waker =>
    rw [Executor.work]
    cases e.futures f with
    | none => rfl
    | some p => exact value_step e.world (.act (Pollable.poll p.op waker))

/-- What a step hands out is what is held before it. -/
theorem handed_step {d : Deed α}
    (hLog : (e.step protocol mv).world.log = e.world.log ++ [⟨e.world.object, d⟩])
    (hValue : d.value? = some v) : v = present e := by
  rw [Executor.world_step] at hLog
  cases hWork : e.work mv with
  | none => simp [hWork] at hLog
  | some m =>
    rw [hWork, Option.elim_some] at hLog
    have hStepped := e.world.stepped_step protocol m
    generalize e.world.step protocol m = w' at hStepped hLog
    cases hStepped with
    | idle | abandoned => simp at hLog
    | @started t now r =>
      have hDeed := World.logged_inj (b := some d) hLog
      exact (turn_look (r.call now _) now t _).handed hDeed hValue
    | @resumed t now s =>
      have hDeed := World.logged_inj (b := some d) hLog
      exact (turn_look s.call now t _).handed hDeed hValue
    | @acted a =>
      have hDeed := World.logged_inj (b := some d) hLog
      exact (deal_act a _).handed hDeed hValue

-- ---------------------------------------------------------------------------
-- Runs
-- ---------------------------------------------------------------------------

omit [BEq α] in
theorem written_concat (moves : List (Turning α)) (mv : Turning α) :
    written (moves ++ [mv]) = written moves ++ (write? mv).toList := by
  rw [written, List.filterMap_append]
  cases hWrite : write? mv <;> simp [written, hWrite]

/-- A write of an equal value is left aside, any other is the latest. -/
theorem Latest.hold (h : Latest values u) (v : α) :
    Latest (values ++ [v]) (Signal.hold u v) := by
  rw [Signal.hold]
  by_cases hSame : (u == v) = true
  · rw [if_pos hSame]
    exact h.same hSame
  · rw [if_neg hSame]
    exact ⟨values, [], rfl, nofun⟩

theorem latest_run (initial : α) (moves : List (Turning α)) :
    Latest (initial :: written moves) (present (after initial moves)) := by
  induction moves using List.reverseRecOn with
  | nil => exact ⟨[], [], rfl, nofun⟩
  | append_singleton earlier mv ih =>
    have hAfter : after initial (earlier ++ [mv]) = (after initial earlier).step protocol mv :=
      Executor.run_concat protocol _ earlier mv
    rw [hAfter, present_step, written_concat]
    cases write? mv with
    | none => simpa using ih
    | some v => exact ih.hold v

/-- Whatever the operations of a run are, a signal is up to date after it. -/
theorem upToDate_run (initial : α) (moves : List (Turning α)) : UpToDate initial moves where
  latest := latest_run initial moves
  last hLawful := (latest_run initial moves).eq_getLast (hLawful _ (latest_run initial moves).mem)
  handed _ _ _ hLog hValue := handed_step hLog hValue

/-- Zero is held, and the other zero is written. -/
def otherZero : List (Turning Datum) := [.other (.act (.set (.float .negZero)))]

/-- The two are equal and not the same. A glance is given the zero that was there before. -/
theorem keeps_other_zero :
    written otherZero = [.float .negZero] ∧
      present (after (.float .zero) otherZero) = .float .zero ∧
      (protocol.act (.glance 0) (after (.float .zero) otherZero).world.object).answer =
        some (.glanced 0 (some (.float .zero))) ∧
      Datum.float .zero ≠ .float .negZero :=
  ⟨rfl, rfl, rfl, nofun⟩

end Signal

end TaskSync
