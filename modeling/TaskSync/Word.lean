import TaskSync.Fault

/-!
# TaskSync — arithmetic that must fit

Spans of time are 64-bit words, the values behind locks are 64-bit numbers with
a sign. A product or sum that leaves the range is a fault (`fitsWord`,
`fitsSigned`); unlike a breach of contract it ends the operation in every
system, with contract checks or without.
-/

namespace TaskSync

/-- The number `n` as a 64-bit word. -/
def fitsWord (n : Nat) (fault : Fault) : Except Fault UInt64 :=
  if n < UInt64.size then .ok (.ofNat n) else .error fault

/-- The number `n`, if it is one of 64 bits with a sign. -/
def fitsSigned (n : Int) (fault : Fault) : Except Fault Int :=
  if Int64.minValue.toInt ≤ n ∧ n ≤ Int64.maxValue.toInt then .ok n else .error fault

/-- The sum of two numbers of 64 bits with a sign. -/
def addSigned (a b : Int) : Except Fault Int := fitsSigned (a + b) .sumTooLarge

/-- A word that was made keeps the number. -/
theorem fitsWord_eq_ok_iff {n : Nat} {fault : Fault} {w : UInt64} :
    fitsWord n fault = .ok w ↔ w.toNat = n := by
  unfold fitsWord
  split
  · rename_i h
    rw [Except.ok.injEq, ← UInt64.toNat_inj, UInt64.toNat_ofNat_of_lt' h, eq_comm]
  · rename_i h
    refine ⟨nofun, fun eq => ?_⟩
    exact absurd (eq ▸ w.toNat_lt) h

end TaskSync
