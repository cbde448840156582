import TaskSync.Proofs.Waits.Attempts

/-!
# TaskSync — deadlines are kept

A wait that begins at a time `entry` and is for `wait` ticks is over at
`entry + wait`. A call knows times only by the tick counter, which wraps around,
so what it can know is the time elapsed modulo 2^32 (`toNat_shown_sub`). What
its attempts make of that is `OnTime`:

* it gives up at a last look and not before the wait is over;
* within 2^32 ticks, the first attempt at or after the end of the wait is the
  last and ends the call;
* it is suspended until exactly the end of the wait (`Reaches`), however often it
  is woken before, or for one tick where it finds no room to wait.

The objects that a call finds are arbitrary here, and so are the times, but for
that none is before `entry`: the deadline depends neither on what the others do
nor on when and why the call's suspensions end.

Main result:

* `Waiting.punctual` — all blocking operations keep their deadlines.
-/

namespace TaskSync

open Ticks (shown)

/-- A suspension of at most `limit` ticks at some time lasts until the end of a wait. -/
def Reaches (entry : Nat) (wait : Ticks) (time : Nat) (limit : Option Ticks) : Prop :=
  match limit with
  | none => wait = waitForever
  | some left =>
    wait ≠ waitForever ∧ 1 ≤ left ∧ shown time + left = shown entry + wait ∧
      (time < entry + UInt32.size → time + left.toNat = entry + wait.toNat)

section

variable {ρ σ α : Type} [Blocks ρ σ α]

/-- Whether an attempt begins when nothing is left of the wait. -/
def Attempt.isLast (a : Attempt ρ σ α) : Bool := a.call.isOver (shown a.found.time)

variable [RunsOut ρ]

/-- The attempts of a call of `task` that begins at `entry`, made for as many glimpses as there
are, keep the deadline of a wait of `wait` ticks. -/
structure OnTime (entry : Nat) (wait : Ticks) (task : TaskId) (glimpses : List (Glimpse σ))
    (made : List (Attempt ρ σ α)) : Prop where
  /-- Who is told that the wait has run out has looked when it was over. -/
  due : ∀ a ∈ made, ∀ answer, a.outcome.answer = .finished answer → ranOut ρ answer = true →
    a.isLast = true ∧ wait ≠ waitForever ∧ entry + wait.toNat ≤ a.found.time
  isLast_iff : ∀ a ∈ made, wait ≠ waitForever → a.found.time < entry + UInt32.size →
    (a.isLast = true ↔ entry + wait.toNat ≤ a.found.time)
  /-- The last look ends the call. -/
  ends : ∀ earlier a later, made = earlier ++ a :: later → a.isLast = true →
    (∃ answer, a.outcome.answer = .finished answer) ∧ later = []
  /-- Who waits among the others is suspended until the end of the wait. -/
  reaches : ∀ a ∈ made, ∀ next limit, a.outcome.answer = .suspended next limit →
    Blocks.join a.call.request task a.found.object ≠ none →
    Reaches entry wait a.found.time limit
  /-- Who finds no room among them looks again after one tick. -/
  polls : ∀ a ∈ made, ∀ next limit, a.outcome.answer = .suspended next limit →
    Blocks.join a.call.request task a.found.object = none → limit = some 1
  /-- Who would not wait looks once and is not suspended. -/
  once : wait = 0 → glimpses ≠ [] → ∃ a, made = [a] ∧ a.isLast = true ∧
    ∃ answer, a.outcome.answer = .finished answer
  /-- A wait without limit has no last look. -/
  endless : wait = waitForever → ∀ a ∈ made, a.isLast = false

end

/-- Whatever a call for a request of a kind finds at its attempts, and whenever it makes them, it
keeps its deadline. -/
def Punctual (ρ : Type) {σ α : outParam Type} [Blocks ρ σ α] [RunsOut ρ] : Prop :=
  ∀ (request : ρ) (wait : Ticks) (entry : Nat) (task : TaskId) (glimpses : List (Glimpse σ)),
    (∀ g ∈ glimpses, entry ≤ g.time) →
    OnTime entry wait task glimpses
      ((Waiting.start request wait (shown entry)).attempts task glimpses)

-- ---------------------------------------------------------------------------
-- What the tick counter tells
-- ---------------------------------------------------------------------------

variable {entry time : Nat} {wait : Ticks}

/-- The difference of two values of the counter is the time elapsed, modulo 2^32. -/
theorem toNat_shown_sub (hEntry : entry ≤ time) :
    (shown time - shown entry).toNat = (time - entry) % UInt32.size := by
  rw [UInt32.toNat_sub, shown, shown, UInt32.toNat_ofNat', UInt32.toNat_ofNat']
  show _ = (time - entry) % 2 ^ 32
  omega

theorem toNat_shown_sub_of_lt (hEntry : entry ≤ time) (hSoon : time < entry + UInt32.size) :
    (shown time - shown entry).toNat = time - entry := by
  rw [toNat_shown_sub hEntry]
  exact Nat.mod_eq_of_lt (by omega)

/-- The counter cannot show more than has elapsed. -/
theorem toNat_shown_sub_le (hEntry : entry ≤ time) :
    (shown time - shown entry).toNat ≤ time - entry := by
  rw [toNat_shown_sub hEntry]
  exact Nat.mod_le _ _

/-- A finite wait is over when as much has elapsed, by the counter. -/
theorem Deadline.remaining_eq_zero_iff {d : Deadline} {now : Ticks} :
    d.remaining now = some 0 ↔ d.wait ≠ waitForever ∧ d.wait ≤ now - d.start := by
  unfold remaining
  split
  · rename_i hForever
    exact ⟨nofun, fun h => absurd hForever h.1⟩
  · rename_i hFinite
    rw [Option.some.injEq]
    split
    · rename_i hLt
      refine ⟨fun hZero => ?_, fun h => absurd hLt (UInt32.not_lt.mpr h.2)⟩
      have hEq : d.wait = now - d.start := by grind
      exact absurd hLt (UInt32.not_lt.mpr (UInt32.le_of_eq hEq))
    · rename_i hGe
      exact ⟨fun _ => ⟨hFinite, UInt32.not_lt.mp hGe⟩, fun _ => rfl⟩

/-- What is left of a finite wait that is not over is the wait without what has elapsed. -/
theorem Deadline.remaining_eq_sub {d : Deadline} {now : Ticks} (hFinite : d.wait ≠ waitForever)
    (hLt : now - d.start < d.wait) : d.remaining now = some (d.wait - (now - d.start)) := by
  rw [remaining, if_neg hFinite]
  exact congrArg some (if_pos hLt)

/-- What is left of a wait that is not over reaches to its end. -/
theorem reaches_remaining (hEntry : entry ≤ time)
    (hOver : (Deadline.mk (shown entry) wait).remaining (shown time) ≠ some 0) :
    Reaches entry wait time ((Deadline.mk (shown entry) wait).remaining (shown time)) := by
  by_cases hForever : wait = waitForever
  · rw [Deadline.remaining, if_pos hForever]
    exact hForever
  have hLt : shown time - shown entry < wait := by
    rw [Ne, Deadline.remaining_eq_zero_iff] at hOver
    exact UInt32.not_le.mp fun hLe => hOver ⟨hForever, hLe⟩
  have hLt' : (shown time - shown entry).toNat < wait.toNat := UInt32.lt_iff_toNat_lt.mp hLt
  have hLeft : (wait - (shown time - shown entry)).toNat =
      wait.toNat - (shown time - shown entry).toNat :=
    UInt32.toNat_sub_of_le _ _ (UInt32.le_of_lt hLt)
  rw [Deadline.remaining_eq_sub (d := ⟨shown entry, wait⟩) hForever hLt]
  have hEnd : shown time + (wait - (shown time - shown entry)) = shown entry + wait := by grind
  refine ⟨hForever, ?_, hEnd, fun hSoon => ?_⟩
  · rw [UInt32.le_iff_toNat_le, hLeft, UInt32.toNat_one]
    omega
  · rw [hLeft]
    rw [toNat_shown_sub_of_lt hEntry hSoon] at hLt' ⊢
    omega

-- ---------------------------------------------------------------------------
-- Single attempts
-- ---------------------------------------------------------------------------

namespace Waiting

variable {ρ σ α : Type} [Blocks ρ σ α] {request : ρ} {task : TaskId} {glimpses : List (Glimpse σ)}
  {a : Attempt ρ σ α}

/-- The last look is made when as much as the wait has elapsed, by the counter. -/
theorem isLast_iff_elapsed
    (h : (start request wait (shown entry)).Belongs task glimpses a) :
    a.isLast = true ↔ wait ≠ waitForever ∧ wait ≤ shown a.found.time - shown entry := by
  rw [Attempt.isLast, isOver, beq_iff_eq, h.deadline, Deadline.remaining_eq_zero_iff]
  rfl

theorem finished_of_isLast {w : Waiting ρ} (h : w.Belongs task glimpses a)
    (hLast : a.isLast = true) : ∃ answer, a.outcome.answer = .finished answer := by
  rw [h.outcome]
  exact finished_of_last hLast task a.found.object

/-- A suspended call waits among the others for what is left of its wait, or has found no room. -/
theorem limit_of_suspended {w : Waiting ρ} (h : w.Belongs task glimpses a) {next : Waiting ρ}
    {limit : Option Ticks} (hSuspended : a.outcome.answer = .suspended next limit) :
    (Blocks.join a.call.request task a.found.object ≠ none ∧
      limit = w.deadline.remaining (shown a.found.time) ∧
      w.deadline.remaining (shown a.found.time) ≠ some 0) ∨
    (Blocks.join a.call.request task a.found.object = none ∧ limit = some 1) := by
  have hComes := h.comes
  rw [← h.deadline]
  generalize a.outcome = o at hComes hSuspended
  cases hComes with
  | served | gaveUp => cases hSuspended
  | joined _ hOver hJoin =>
    cases hSuspended
    refine Or.inl ⟨?_, rfl, beq_eq_false_iff_ne.mp hOver⟩
    rw [hJoin]
    exact nofun
  | crowded _ _ hJoin =>
    cases hSuspended
    exact Or.inr ⟨hJoin, rfl⟩

/-- Only a call whose wait is over is told so. -/
theorem isLast_of_ranOut [RunsOut ρ] {w : Waiting ρ} (h : w.Belongs task glimpses a) {answer : α}
    (hFinished : a.outcome.answer = .finished answer) (hRanOut : ranOut ρ answer = true) :
    a.isLast = true := by
  have hComes := h.comes
  generalize a.outcome = o at hComes hFinished
  cases hComes with
  | served hServe =>
    cases hFinished
    exact absurd hRanOut (not_ranOut_of_serve hServe)
  | joined | crowded => cases hFinished
  | gaveUp _ hOver => exact hOver

-- ---------------------------------------------------------------------------
-- Whole calls
-- ---------------------------------------------------------------------------

/-- A call keeps its deadline. -/
theorem onTime_attempts [RunsOut ρ] (hEntry : ∀ g ∈ glimpses, entry ≤ g.time) :
    OnTime entry wait task glimpses ((start request wait (shown entry)).attempts task glimpses) where
  due a hMem answer hFinished hRanOut := by
    have hBelongs := belongs_of_mem hMem
    have hLast := isLast_of_ranOut hBelongs hFinished hRanOut
    obtain ⟨hFinite, hElapsed⟩ := (isLast_iff_elapsed hBelongs).mp hLast
    have hTime := hEntry _ hBelongs.found
    have hLe := toNat_shown_sub_le hTime
    rw [UInt32.le_iff_toNat_le] at hElapsed
    exact ⟨hLast, hFinite, by omega⟩
  isLast_iff a hMem hFinite hSoon := by
    have hBelongs := belongs_of_mem hMem
    have hTime := hEntry _ hBelongs.found
    rw [isLast_iff_elapsed hBelongs, and_iff_right hFinite, UInt32.le_iff_toNat_le,
      toNat_shown_sub_of_lt hTime hSoon]
    omega
  ends earlier a later hMade hLast := by
    have hMem : a ∈ (start request wait (shown entry)).attempts task glimpses := by
      rw [hMade]
      exact List.mem_append_right earlier List.mem_cons_self
    obtain ⟨answer, hFinished⟩ := finished_of_isLast (belongs_of_mem hMem) hLast
    exact ⟨⟨answer, hFinished⟩, eq_nil_of_finished hMade hFinished⟩
  reaches a hMem next limit hSuspended hJoin := by
    have hBelongs := belongs_of_mem hMem
    rcases limit_of_suspended hBelongs hSuspended with ⟨-, rfl, hLeft⟩ | ⟨hNone, -⟩
    · exact reaches_remaining (hEntry _ hBelongs.found) hLeft
    · exact absurd hNone hJoin
  polls a hMem next limit hSuspended hJoin := by
    rcases limit_of_suspended (belongs_of_mem hMem) hSuspended with ⟨hSome, -⟩ | ⟨-, hLimit⟩
    · exact absurd hJoin hSome
    · exact hLimit
  once hZero hSome := by
    subst hZero
    obtain ⟨g, later, rfl⟩ := List.exists_cons_of_ne_nil hSome
    have hFirst : (start request 0 (shown entry)).attempt task g ∈
        (start request 0 (shown entry)).attempts task (g :: later) := List.mem_cons_self
    have hBelongs := belongs_of_mem hFirst
    have hLast := (isLast_iff_elapsed hBelongs).mpr ⟨by decide, UInt32.zero_le⟩
    obtain ⟨answer, hFinished⟩ := finished_of_isLast hBelongs hLast
    refine ⟨_, ?_, hLast, answer, hFinished⟩
    rw [attempts, hFinished]
  endless hForever a hMem := by
    refine Bool.eq_false_iff.mpr fun hLast => ?_
    exact ((isLast_iff_elapsed (belongs_of_mem hMem)).mp hLast).1 hForever

/-- All blocking operations keep their deadlines. -/
theorem punctual :
    Punctual Queue.Send ∧ Punctual Queue.Receive ∧ Punctual ByteStream.Send ∧
      Punctual ByteStream.Receive ∧ Punctual TryLock ∧ Punctual EventWish ∧
      ∀ (α : Type) [BEq α], Punctual (Change α) :=
  ⟨fun _ _ _ _ _ => onTime_attempts, fun _ _ _ _ _ => onTime_attempts,
    fun _ _ _ _ _ => onTime_attempts, fun _ _ _ _ _ => onTime_attempts,
    fun _ _ _ _ _ => onTime_attempts, fun _ _ _ _ _ => onTime_attempts,
    fun _ _ _ _ _ _ _ => onTime_attempts⟩

/-- A wait of five ticks that begins three ticks before the counter wraps around. The call is woken
twice before its time and goes on two ticks after it. -/
example :
    let held : Mutex := ⟨.normal, some ⟨9⟩, 1, .empty⟩
    let call : Waiting TryLock := .start {} 5 (shown 4294967293)
    let times := [4294967293, 4294967295, 4294967297, 4294967300, 4294967301]
    (call.attempts ⟨1⟩ (times.map (⟨·, held⟩))).map (·.outcome.answer) =
      [.suspended { call with again := true } (some 5),
        .suspended { call with again := true } (some 3),
        .suspended { call with again := true } (some 1), .finished (.error .timeout)] := by
  decide

end Waiting

end TaskSync
