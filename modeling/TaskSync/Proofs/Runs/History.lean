import Mathlib.Data.List.Basic
import Mathlib.Data.List.Induction
import Mathlib.Data.List.Pairwise
import Mathlib.Data.Nat.Find

/-!
# TaskSync — looking back on a run

A run is a list of moves, of whatever kind, and what has been so far is a
property of the moves up to a point.

* `lastPoint` — the last point at which something was so; it stays where it is
  as long as that is not so again (`lastPoint_concat`).
* `InOrder` — who is on a list stands behind all who have been on it for
  longer; so it is if nobody comes on the list but at its end (`InOrder.concat`).
* `Legal` — each move is allowed where it is made; what an allowed move keeps is
  kept by every such run (`Legal.induction`).
-/

namespace TaskSync

variable {μ : Type}

-- ---------------------------------------------------------------------------
-- The last point at which something was so
-- ---------------------------------------------------------------------------

section LastPoint

variable {p q : List μ → Prop} [DecidablePred p] [DecidablePred q] {moves : List μ} {m : μ}

/-- How many moves had been made when something was last so; none, if it never was. -/
def lastPoint (p : List μ → Prop) [DecidablePred p] (moves : List μ) : Nat :=
  Nat.findGreatest (fun n => p (moves.take n)) moves.length

theorem lastPoint_of_now (hNow : p moves) : lastPoint p moves = moves.length := by
  apply Nat.findGreatest_eq
  rwa [List.take_length]

theorem lastPoint_spec (hFirst : p []) : p (moves.take (lastPoint p moves)) :=
  Nat.findGreatest_spec (P := fun n => p (moves.take n)) (Nat.zero_le moves.length) hFirst

/-- Afterwards it was not so. -/
theorem not_of_lastPoint_lt {n : Nat} (hLt : lastPoint p moves < n) (hLe : n ≤ moves.length) :
    ¬ p (moves.take n) := Nat.findGreatest_is_greatest hLt hLe

theorem lastPoint_lt (hFirst : p []) (hNot : ¬ p moves) : lastPoint p moves < moves.length := by
  refine Nat.lt_of_le_of_ne (Nat.findGreatest_le _) fun hNow => hNot ?_
  have hSpec : p (moves.take (lastPoint p moves)) := lastPoint_spec hFirst
  rwa [show lastPoint p moves = moves.length from hNow, List.take_length] at hSpec

/-- The point stays where it is as long as it is not so again. -/
theorem lastPoint_concat (hNot : ¬ p (moves ++ [m])) :
    lastPoint p (moves ++ [m]) = lastPoint p moves := by
  have hAll : (moves ++ [m]).take (moves.length + 1) = moves ++ [m] :=
    List.take_of_length_le (by simp)
  have hSame : ∀ n ≤ moves.length, (moves ++ [m]).take n = moves.take n :=
    fun n hn => List.take_append_of_le_length hn
  obtain ⟨hLe, hSpec, hAfter⟩ := Nat.findGreatest_eq_iff.mp (rfl : lastPoint p moves = _)
  refine Nat.findGreatest_eq_iff.mpr ⟨?_, ?_, ?_⟩
  · rw [List.length_append]
    exact Nat.le_add_right_of_le hLe
  · rw [hSame _ hLe]
    exact hSpec
  · intro n hLt hn hNow
    rw [List.length_append, List.length_singleton] at hn
    rcases Nat.le_succ_iff.mp hn with hBefore | rfl
    · rw [hSame n hBefore] at hNow
      exact hAfter hLt hBefore hNow
    · rw [hAll] at hNow
      exact hNot hNow

theorem lastPoint_mono (hpq : ∀ l, p l → q l) : lastPoint p moves ≤ lastPoint q moves :=
  Nat.findGreatest_mono_left (fun _ => hpq _) _

end LastPoint

-- ---------------------------------------------------------------------------
-- Lists in the order in which things came on them
-- ---------------------------------------------------------------------------

section Order

variable {α : Type}

/-- Nobody has come on a list but one at its end; any number may have gone off it. -/
def Extends (l l' : List α) : Prop :=
  ∃ new : Option α, (∀ a ∈ new, a ∉ l) ∧ l'.Sublist (l ++ new.toList)

theorem Extends.of_sublist {l l' : List α} (h : l'.Sublist l) : Extends l l' :=
  ⟨none, nofun, (List.append_nil l).symm ▸ h⟩

theorem Extends.refl (l : List α) : Extends l l := .of_sublist (List.Sublist.refl l)

variable [DecidableEq α] {list : List μ → List α} {moves : List μ} {m : μ}

/-- The last point at which something was not on a list. -/
def listedSince (list : List μ → List α) (moves : List μ) (a : α) : Nat :=
  lastPoint (fun l => a ∉ list l) moves

/-- Who is on a list stands behind all who have been on it for longer. -/
def InOrder (list : List μ → List α) (moves : List μ) : Prop :=
  (list moves).Pairwise fun a b => listedSince list moves a < listedSince list moves b

/-- A list stays in order if nobody comes on it but at its end. -/
theorem InOrder.concat (h : InOrder list moves) (hFirst : list [] = [])
    (hExtends : Extends (list moves) (list (moves ++ [m]))) : InOrder list (moves ++ [m]) := by
  obtain ⟨new, hNew, hSub⟩ := hExtends
  have hStays : ∀ a ∈ list (moves ++ [m]),
      listedSince list (moves ++ [m]) a = listedSince list moves a :=
    fun a hMem => lastPoint_concat (not_not_intro hMem)
  have hOld : ∀ a ∈ list moves, listedSince list moves a < moves.length := by
    intro a hMem
    refine lastPoint_lt ?_ (not_not_intro hMem)
    rw [hFirst]
    exact List.not_mem_nil
  have hBoth : (list moves ++ new.toList).Pairwise fun a b =>
      listedSince list moves a < listedSince list moves b := by
    refine List.pairwise_append.mpr ⟨h, ?_, ?_⟩
    · cases new with
      | none => exact List.Pairwise.nil
      | some a => exact List.pairwise_singleton ..
    · intro a ha b hb
      rw [Option.mem_toList] at hb
      have hNow : listedSince list moves b = moves.length := lastPoint_of_now (hNew b hb)
      rw [hNow]
      exact hOld a ha
  refine (hBoth.sublist hSub).imp_of_mem ?_
  intro a b ha hb hLt
  rwa [hStays a ha, hStays b hb]

end Order

-- ---------------------------------------------------------------------------
-- Runs of allowed moves
-- ---------------------------------------------------------------------------

section Legal

variable {τ : Type} {step : τ → μ → τ} {p : τ → μ → Prop} {s : τ} {moves later : List μ} {m : μ}

/-- In a run from `s` each move is allowed in the state it is made in. -/
def Legal (step : τ → μ → τ) (p : τ → μ → Prop) (s : τ) : List μ → Prop
  | [] => True
  | m :: rest => p s m ∧ Legal step p (step s m) rest

theorem legal_append : Legal step p s (moves ++ later) ↔
    Legal step p s moves ∧ Legal step p (moves.foldl step s) later := by
  induction moves generalizing s with
  | nil => exact (and_iff_right trivial).symm
  | cons m rest ih => exact (and_congr_right fun _ => ih).trans and_assoc.symm

theorem legal_concat :
    Legal step p s (moves ++ [m]) ↔ Legal step p s moves ∧ p (moves.foldl step s) m :=
  legal_append.trans (and_congr_right fun _ => and_iff_left trivial)

/-- What each allowed move keeps is kept by every run of allowed moves. -/
theorem Legal.induction {I : List μ → τ → Prop} (h : Legal step p s moves) (hStart : I [] s)
    (hStep : ∀ l m, p (l.foldl step s) m → I l (l.foldl step s) →
      I (l ++ [m]) (step (l.foldl step s) m)) : I moves (moves.foldl step s) := by
  -- the invariant may speak of all the moves so far, so they are taken off from behind
  induction moves using List.reverseRecOn with
  | nil => exact hStart
  | append_singleton l m ih =>
    obtain ⟨hRest, hMove⟩ := legal_concat.mp h
    rw [List.foldl_concat]
    exact hStep l m hMove (ih hRest)

end Legal

end TaskSync
