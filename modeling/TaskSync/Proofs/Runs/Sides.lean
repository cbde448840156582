import TaskSync.Proofs.Runs.World

/-!
# TaskSync — the two sides of a channel

Calls on an object that data pass through are on one of two sides: they send
or they receive (`Side`). Lines for the two sides have no task in common, so a
look by a task of one side leaves the line of the other alone (`Apart`).
-/

namespace TaskSync

/-- The two sides of an object that data pass through. -/
inductive Side
  | sending
  | receiving
deriving DecidableEq

/-- Calls that are on one of the two sides. -/
class Sided (κ : Type) where
  side : κ → Side

namespace Side

/-- The other side. -/
def other : Side → Side
  | .sending => .receiving
  | .receiving => .sending

variable {κ : Type} [Sided κ] {side : Side} {k : κ}

/-- Whether a call is on a side. -/
def has (side : Side) (k : κ) : Bool := Sided.side k == side

theorem has_iff : side.has k = true ↔ Sided.side k = side := beq_iff_eq

theorem has_other (h : side.has k = true) : side.other.has k = false := by
  rw [has_iff] at h
  rw [has, h]
  cases side <;> rfl

theorem eq_or_eq_other (side side' : Side) : side' = side ∨ side' = side.other := by
  cases side <;> cases side' <;> simp [other]

end Side

namespace Crew

variable {κ : Type} [Sided κ] {c : Crew κ} {t : TaskId} {side : Side} {l l' : WaitList}

/-- A task that looks from one side is not suspended on the other. -/
def Apart (c : Crew κ) (t : TaskId) (side : Side) : Prop := c.isIn side.other.has t = false

/-- A task that begins an operation is suspended nowhere. -/
theorem apart_of_none (h : c.asleep t = none) (side : Side) : c.Apart t side := isIn_of_none h

theorem apart_of_some {s : Sleep κ} (h : c.asleep t = some s) : c.Apart t (Sided.side s.call) := by
  rw [Apart, isIn_of_some h]
  exact Side.has_other (Side.has_iff.mpr rfl)

/-- Nobody in one line stands in the other. -/
theorem Line.opposite (h : c.Line side.has l) (h' : c.Line side.other.has l') :
    ∀ u ∈ l.tasks, u ∉ l'.tasks := h.disjoint h' fun _ => Side.has_other

/-- Nobody in one line is the longest waiter of the other. -/
theorem Line.not_mem_first (h : c.Line side.has l) (h' : c.Line side.other.has l') :
    ∀ u ∈ l.tasks, u ∉ l'.first?.toList := by
  intro u hu hFirst
  exact h.opposite h' u hu (List.mem_of_mem_head? (Option.mem_toList.mp hFirst))

end Crew

end TaskSync
