import TaskSync.Waiting

/-!
# TaskSync — what a round comes to

A round of a blocking call ends in one of four ways (`Waiting.Comes`): it is
served, it joins the object's waiters, it finds no room among them, or it is
the last and gives up. The request was not served in the last three.

* `Waiting.comes_round` — there is no fifth way.
* `Waiting.finished_of_last` — the round at the end of the wait ends the call.
-/

namespace TaskSync

/-- The same round with its call and its answer rephrased. -/
def Round.map {κ κ' α β : Type} (f : κ → κ') (g : α → β) : Round κ α → Round κ' β
  | .finished a => .finished (g a)
  | .suspended k limit => .suspended (f k) limit

namespace Waiting

variable {ρ σ α : Type}

/-- Whether the wait is over when the tick counter shows `now`. -/
def isOver (w : Waiting ρ) (now : Ticks) : Bool := w.deadline.remaining now == some 0

/-- How the next round of a call looks at the object, when the tick counter shows `now`. -/
def look (w : Waiting ρ) (now : Ticks) (task : TaskId) : Look := ⟨task, w.again, w.isOver now⟩

variable [Blocks ρ σ α]

/-- All that the next round of a call can come to. -/
inductive Comes (w : Waiting ρ) (now : Ticks) (task : TaskId) (object : σ) :
    Outcome σ (Round (Waiting ρ) α) → Prop
  | served {o : Outcome σ α} :
      Blocks.serve w.request (w.look now task) object = some o →
      Comes w now task object (o.map .finished)
  | joined {joined : σ} :
      Blocks.serve w.request (w.look now task) object = none → w.isOver now = false →
      Blocks.join w.request task object = some joined →
      Comes w now task object
        (.still joined (.suspended { w with again := true } (w.deadline.remaining now)))
  | crowded :
      Blocks.serve w.request (w.look now task) object = none → w.isOver now = false →
      Blocks.join w.request task object = none →
      Comes w now task object (.still object (.suspended { w with again := true } (some 1)))
  | gaveUp :
      Blocks.serve w.request (w.look now task) object = none → w.isOver now = true →
      Comes w now task object (.still (Blocks.leave w.request task object)
        (.finished (Blocks.giveUp w.request w.deadline.wait (Blocks.leave w.request task object))))

/-- A call that will not wait is over before it begins. -/
theorem isOver_start_zero (request : ρ) (now : Ticks) :
    (start request 0 now).isOver now = true := by
  have hFinite : (0 : Ticks) ≠ waitForever := by decide
  have hLeft : Deadline.remaining ⟨now, 0⟩ now = some 0 := by
    unfold Deadline.remaining
    rw [if_neg hFinite]
    simp
  rw [isOver, start, hLeft]
  rfl

/-- A call that begins now has its whole wait before it. -/
theorem remaining_start {wait : Ticks} (hFinite : wait ≠ waitForever) (request : ρ) (now : Ticks) :
    (start request wait now).deadline.remaining now = some wait := by
  show (if wait = waitForever then none
    else some (if now - now < wait then wait - (now - now) else 0)) = some wait
  rw [if_neg hFinite, UInt32.sub_self, UInt32.sub_zero]
  split
  · rfl
  · rename_i hZero
    rw [UInt32.not_lt, UInt32.le_zero_iff] at hZero
    rw [hZero]

/-- A wait without limit is never over. -/
theorem isOver_of_forever {w : Waiting ρ} (hWait : w.deadline.wait = waitForever) (now : Ticks) :
    w.isOver now = false := by
  have hLeft : w.deadline.remaining now = none := if_pos hWait
  rw [isOver, hLeft]
  rfl

/-- A call is over before it begins if and only if it will not wait. -/
theorem isOver_start (request : ρ) (wait now : Ticks) :
    (start request wait now).isOver now = (wait == 0) := by
  by_cases hZero : wait = 0
  · rw [hZero, isOver_start_zero]
    rfl
  · rw [beq_eq_false_iff_ne.mpr hZero]
    by_cases hForever : wait = waitForever
    · exact isOver_of_forever hForever now
    · rw [isOver, remaining_start hForever]
      exact beq_eq_false_iff_ne.mpr fun hSame => hZero (Option.some.inj hSame)

theorem round_of_over {w : Waiting ρ} {now : Ticks} (hOver : w.isOver now = true) (task : TaskId)
    (object : σ) : w.round now task object = (w.lastLook task object).map .finished := by
  have hLeft : w.deadline.remaining now = some 0 := by simpa [isOver] using hOver
  rw [round, hLeft]
  rfl

theorem round_of_not_over {w : Waiting ρ} {now : Ticks} (hOver : w.isOver now = false)
    (task : TaskId) (object : σ) :
    w.round now task object = w.lookOrJoin (w.deadline.remaining now) task object := by
  have hLeft : w.deadline.remaining now ≠ some 0 := by
    intro hZero
    rw [isOver, hZero] at hOver
    cases hOver
  unfold round
  split
  · rename_i hZero
    exact absurd hZero hLeft
  · rfl

theorem comes_round (w : Waiting ρ) (now : Ticks) (task : TaskId) (object : σ) :
    w.Comes now task object (w.round now task object) := by
  have hServe : ∀ last, w.isOver now = last →
      Blocks.serve w.request ⟨task, w.again, last⟩ object =
        Blocks.serve w.request (w.look now task) object := by
    rintro last rfl
    rfl
  cases hOver : w.isOver now with
  | true =>
    rw [round_of_over hOver, lastLook, hServe true hOver]
    cases hLook : Blocks.serve w.request (w.look now task) object with
    | some o => exact .served hLook
    | none => exact .gaveUp hLook hOver
  | false =>
    rw [round_of_not_over hOver, lookOrJoin, hServe false hOver]
    cases hLook : Blocks.serve w.request (w.look now task) object with
    | some o => exact .served hLook
    | none =>
      cases hJoin : Blocks.join w.request task object with
      | some joined => exact .joined hLook hOver hJoin
      | none => exact .crowded hLook hOver hJoin

/-- A round that is not served and finds room among the waiters ends in a suspension. -/
theorem round_of_join {w : Waiting ρ} {now : Ticks} {task : TaskId} {object joined : σ}
    (hOver : w.isOver now = false)
    (hServe : Blocks.serve w.request (w.look now task) object = none)
    (hJoin : Blocks.join w.request task object = some joined) :
    w.round now task object =
      .still joined (.suspended { w with again := true } (w.deadline.remaining now)) := by
  rw [look, hOver] at hServe
  rw [round_of_not_over hOver, lookOrJoin, hServe, hJoin]

/-- The round at the end of the wait ends the call. -/
theorem finished_of_last {w : Waiting ρ} {now : Ticks} (hOver : w.isOver now = true)
    (task : TaskId) (object : σ) : ∃ a, (w.round now task object).answer = .finished a := by
  rw [round_of_over hOver]
  exact ⟨_, rfl⟩

end Waiting

end TaskSync
