import Mathlib.Algebra.Group.Nat.Defs
import Mathlib.Order.Bounds.Basic
import TaskSync.Ticks

/-!
# TaskSync — converting spans of time to ticks

A wait is given as a span of time and counted in ticks. The conversion must not
make it shorter, and must not make an endless wait of it: it takes the least
number of ticks that is long enough, and the longest finite wait where that
number is `waitForever` or more.

Both conversions multiply and divide in words, which is written out here with
everything that can go wrong in it (`Ticks.calculate?`): a product or a sum that
is no word, a division by zero, a number that is cut down to a tick word without
being one. `none` says that something of the kind has happened. It never does: 64
bits are enough for milliseconds, and 128 for a duration.

Durations come from elsewhere. Of how they are made from milliseconds nothing is
used but that it rounds up (`Duration.RoundsUp`); `Duration.ofMillis` does.

Main result:

* `Ticks.conversions_exact` — what the two conversions come to.
-/

namespace TaskSync

-- ---------------------------------------------------------------------------
-- Rounding up and saturating
-- ---------------------------------------------------------------------------

section

variable {n m d : Nat}

/-- A quotient rounded up is the least number of divisors that make up the dividend. -/
theorem roundUp_le_iff (hd : 0 < d) {t : Nat} : roundUp n d ≤ t ↔ n ≤ t * d := by
  rw [roundUp, Nat.div_le_iff_le_mul_add_pred hd, Nat.mul_comm]
  omega

theorem roundUp_mono (h : n ≤ m) : roundUp n d ≤ roundUp m d := Nat.div_le_div_right (by omega)

/-- A quotient that is not exact is rounded up by adding one. -/
theorem roundUp_eq (hd : 0 < d) :
    roundUp n d = if n % d = 0 then n / d else n / d + 1 := by
  have hSplit := Nat.mod_add_div' n d
  have hRest := Nat.mod_lt n hd
  split
  · refine Nat.div_eq_of_lt_le (by omega) ?_
    rw [Nat.add_one_mul]
    omega
  · refine Nat.div_eq_of_lt_le ?_ ?_
    · rw [Nat.add_one_mul]
      omega
    · rw [Nat.add_one_mul, Nat.add_one_mul]
      omega

end

/-- Saturation stops at the longest finite wait. -/
theorem Ticks.toNat_saturate (n : Nat) :
    (Ticks.saturate n).toNat = if n < waitForever.toNat then n else waitForever.toNat - 1 := by
  have hForever : waitForever.toNat < UInt32.size := by decide
  unfold Ticks.saturate
  split
  · exact UInt32.toNat_ofNat_of_lt' (by omega)
  · decide

-- ---------------------------------------------------------------------------
-- In words
-- ---------------------------------------------------------------------------

namespace Checked

/-- A product that has to be a word of so many bits. -/
def mul (bits a b : Nat) : Option Nat := if a * b < 2 ^ bits then some (a * b) else none

/-- A quotient that is rounded up by adding one where it is not exact, which has to give a word
of so many bits. -/
def divUp (bits a b : Nat) : Option Nat :=
  if b = 0 then none
  else if a % b = 0 then some (a / b)
  else if a / b + 1 < 2 ^ bits then some (a / b + 1)
  else none

/-- A number that is cut down to a tick word has to be one. -/
def narrow (n : Nat) : Option Ticks := if n < UInt32.size then some (.ofNat n) else none

theorem mul_eq {bits a b : Nat} (h : a * b < 2 ^ bits) : mul bits a b = some (a * b) := if_pos h

theorem divUp_eq {bits a b : Nat} (hb : 0 < b) (h : roundUp a b < 2 ^ bits) :
    divUp bits a b = some (roundUp a b) := by
  rw [roundUp_eq hb] at h ⊢
  unfold divUp
  rw [if_neg (Nat.ne_of_gt hb)]
  split <;> rename_i hExact
  · rfl
  · rw [if_neg hExact] at h
    exact if_pos h

theorem narrow_eq {n : Nat} (h : n < UInt32.size) : narrow n = some (.ofNat n) := if_pos h

end Checked

/-- The ticks of `count` units of time, of which `perSecond` make a second, calculated in words of
so many bits. -/
def Ticks.calculate? (bits count perSecond : Nat) : Option Ticks := do
  let product ← Checked.mul bits count tickRate
  let ticks ← Checked.divUp bits product perSecond
  if waitForever.toNat ≤ ticks then return waitForever - 1 else Checked.narrow ticks

/-- Nothing goes wrong in words that hold the product. -/
theorem Ticks.calculate?_eq {bits count perSecond : Nat} (hUnit : 0 < perSecond)
    (hFits : count * tickRate < 2 ^ bits) :
    calculate? bits count perSecond = some (.saturate (roundUp (count * tickRate) perSecond)) := by
  have hForever : waitForever.toNat < UInt32.size := by decide
  have hRounded : roundUp (count * tickRate) perSecond < 2 ^ bits := by
    refine Nat.lt_of_le_of_lt ((roundUp_le_iff hUnit).mpr ?_) hFits
    exact Nat.le_mul_of_pos_right _ hUnit
  unfold calculate? saturate
  rw [Checked.mul_eq hFits, Option.bind_eq_bind, Option.bind_some,
    Checked.divUp_eq hUnit hRounded, Option.bind_some]
  split <;> rename_i hLong
  · rw [if_neg (by omega)]
    rfl
  · rw [if_pos (by omega)]
    exact Checked.narrow_eq (by omega)

-- ---------------------------------------------------------------------------
-- The two conversions
-- ---------------------------------------------------------------------------

/-- What converting a duration to `ticks` comes to. -/
structure Duration.Converts (d : Duration) (ticks : Ticks) : Prop where
  /-- Nothing goes wrong in words of 128 bits. -/
  calculated : Ticks.calculate? 128 d.units.toNat clockRate = some ticks
  /-- It is the least number of ticks that are not shorter, as far as there are finite waits. -/
  least : ∃ t, IsLeast {t : Nat | d.units.toNat * tickRate ≤ t * clockRate} t ∧
    ticks.toNat = if t < waitForever.toNat then t else waitForever.toNat - 1
  zero_iff : ticks = 0 ↔ d.units = 0
  finite : ticks ≠ waitForever

namespace Duration

theorem toNat_toTicks (d : Duration) : d.toTicks.toNat =
    if roundUp (d.units.toNat * tickRate) clockRate < waitForever.toNat then
      roundUp (d.units.toNat * tickRate) clockRate
    else waitForever.toNat - 1 := Ticks.toNat_saturate _

theorem converts_toTicks (d : Duration) : d.Converts d.toTicks where
  calculated := by
    have := d.units.toNat_lt
    refine Ticks.calculate?_eq (by decide) ?_
    unfold tickRate
    omega
  least := by
    refine ⟨_, ⟨?_, fun t ht => ?_⟩, d.toNat_toTicks⟩
    · exact (roundUp_le_iff (by decide)).mp (Nat.le_refl _)
    · exact (roundUp_le_iff (by decide)).mpr ht
  zero_iff := by
    have hForever : 1 < waitForever.toNat := by decide
    have hNone : roundUp (d.units.toNat * tickRate) clockRate = 0 ↔ d.units.toNat = 0 := by
      rw [← Nat.le_zero, roundUp_le_iff (by decide)]
      unfold tickRate
      omega
    rw [← UInt32.toNat_inj, ← UInt64.toNat_inj, toNat_toTicks, UInt32.toNat_zero,
      UInt64.toNat_zero, ← hNone]
    split <;> omega
  finite hForever := by
    have hTicks := d.toNat_toTicks
    have hPos : 0 < waitForever.toNat := by decide
    rw [hForever] at hTicks
    split at hTicks <;> omega

/-- A longer duration is not fewer ticks. -/
theorem toTicks_mono {d longer : Duration} (h : d.units ≤ longer.units) :
    d.toTicks ≤ longer.toTicks := by
  have hRounded : roundUp (d.units.toNat * tickRate) clockRate ≤
      roundUp (longer.units.toNat * tickRate) clockRate :=
    roundUp_mono (Nat.mul_le_mul_right _ (UInt64.le_iff_toNat_le.mp h))
  rw [UInt32.le_iff_toNat_le, toNat_toTicks, toNat_toTicks]
  split <;> split <;> omega

/-- Durations are made from milliseconds by rounding up to units of the clock, with room for the
product and the sum that this begins with. -/
def RoundsUp (make : UInt64 → Except Fault Duration) : Prop :=
  ∀ ms : UInt64, ms.toNat * clockRate + 1000 < UInt64.size →
    ∃ d, make ms = .ok d ∧
      IsLeast {units : Nat | ms.toNat * clockRate ≤ units * 1000} d.units.toNat

/-- A thousandth of a second is a thousand units. -/
theorem isLeast_units_iff {ms units : Nat} :
    IsLeast {units : Nat | ms * clockRate ≤ units * 1000} units ↔ units = ms * 1000 := by
  have hLong (n : Nat) : ms * clockRate ≤ n * 1000 ↔ ms * 1000 ≤ n := by
    rw [show clockRate = 1000 * 1000 from rfl, ← Nat.mul_assoc]
    exact Nat.mul_le_mul_right_iff (by decide)
  simp only [hLong]
  exact ⟨fun h => Nat.le_antisymm (h.2 (Nat.le_refl _)) h.1, fun h => h ▸ isLeast_Ici⟩

theorem roundsUp_ofMillis : RoundsUp ofMillis := by
  intro ms hFits
  have hWord {n : Nat} (h : n < UInt64.size) (fault : Fault) :
      fitsWord n fault = .ok (.ofNat n) :=
    fitsWord_eq_ok_iff.mpr (UInt64.toNat_ofNat_of_lt' h)
  have hSum : ms.toNat * 1000 + 1 < UInt64.size := by
    refine Nat.lt_of_le_of_lt (Nat.le_mul_of_pos_right _ (by decide : 0 < 1000)) ?_
    rw [Nat.add_one_mul, Nat.mul_assoc]
    exact hFits
  have hProduct : ms.toNat * 1000 < UInt64.size := Nat.lt_of_succ_lt hSum
  have hCommon : clockRate.gcd 1000 = 1000 := by simp [clockRate]
  have hRates : clockRate / 1000 = 1000 ∧ 1000 / 1000 = 1 := by decide
  refine ⟨⟨.ofNat (ms.toNat * 1000)⟩, ?_,
    isLeast_units_iff.mpr (UInt64.toNat_ofNat_of_lt' hProduct)⟩
  unfold ofMillis ofParts
  simp only [hCommon, hRates.1, hRates.2]
  simp only [hWord hProduct, bind, Except.bind, UInt64.toNat_ofNat_of_lt' hProduct, hWord hSum,
    roundUp, Nat.add_sub_cancel, Nat.div_one]
  rfl

/-- Rounding up to units and from there to ticks is rounding up to ticks. -/
theorem toTicks_of_isLeast {d : Duration} {ms : UInt32}
    (hUnits : IsLeast {units : Nat | ms.toNat * clockRate ≤ units * 1000} d.units.toNat) :
    d.toTicks = Ticks.ofMillis ms := by
  have hRounded : roundUp (ms.toNat * 1000 * tickRate) clockRate =
      roundUp (ms.toNat * tickRate) 1000 := by
    refine eq_of_forall_ge_iff fun t => ?_
    rw [roundUp_le_iff (by decide), roundUp_le_iff (by decide)]
    unfold tickRate clockRate
    omega
  rw [toTicks, Ticks.ofMillis, isLeast_units_iff.mp hUnits, hRounded]

end Duration

/-- What the two conversions to ticks come to, and that they agree. -/
theorem Ticks.conversions_exact {make : UInt64 → Except Fault Duration}
    (hMake : Duration.RoundsUp make) :
    (∀ d : Duration, d.Converts d.toTicks) ∧
      (∀ d longer : Duration, d.units ≤ longer.units → d.toTicks ≤ longer.toTicks) ∧
      ∀ ms : UInt32, calculate? 64 ms.toNat 1000 = some (ofMillis ms) ∧
        ∃ d, make ms.toUInt64 = .ok d ∧ d.toTicks = ofMillis ms := by
  refine ⟨Duration.converts_toTicks, fun d longer => Duration.toTicks_mono, fun ms => ⟨?_, ?_⟩⟩
  · have := ms.toNat_lt
    refine calculate?_eq (by decide) ?_
    unfold tickRate
    omega
  · have := ms.toNat_lt
    have hFits : ms.toUInt64.toNat * clockRate + 1000 < UInt64.size := by
      rw [UInt32.toNat_toUInt64]
      unfold clockRate UInt64.size
      omega
    obtain ⟨d, hMade, hUnits⟩ := hMake ms.toUInt64 hFits
    rw [UInt32.toNat_toUInt64] at hUnits
    exact ⟨d, hMade, Duration.toTicks_of_isLeast hUnits⟩

/-- A duration that is exactly the longest finite wait, and one unit more than that, for which no
finite wait is long enough. The most milliseconds there are come to the same. -/
theorem Ticks.conversions_exact_longest :
    Duration.RoundsUp Duration.ofMillis ∧ (4294967294000 : UInt64) ≤ 4294967294001 ∧
      (⟨4294967294000⟩ : Duration).Converts (waitForever - 1) ∧
      (⟨4294967294001⟩ : Duration).Converts (waitForever - 1) ∧
      (⟨4294967294000⟩ : Duration).toTicks ≤ (⟨4294967294001⟩ : Duration).toTicks ∧
      ∃ d, Duration.ofMillis (0xFFFFFFFF : UInt32).toUInt64 = .ok d ∧
        d.toTicks = waitForever - 1 := by
  have hExact : (⟨4294967294000⟩ : Duration).toTicks = waitForever - 1 := by decide
  have hLonger : (⟨4294967294001⟩ : Duration).toTicks = waitForever - 1 := by decide
  have hMost : Ticks.ofMillis 0xFFFFFFFF = waitForever - 1 := by decide
  have hMake := Duration.roundsUp_ofMillis
  obtain ⟨hConverts, hMono, hMillis⟩ := conversions_exact hMake
  refine ⟨hMake, by decide, ?_, ?_, hMono _ _ (by decide), ?_⟩
  · rw [← hExact]
    exact hConverts _
  · rw [← hLonger]
    exact hConverts _
  · rw [← hMost]
    exact (hMillis 0xFFFFFFFF).2

end TaskSync
