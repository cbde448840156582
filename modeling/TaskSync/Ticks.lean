import TaskSync.Word

/-!
# TaskSync — ticks, durations and deadlines

The kernel counts time in ticks, in a 32-bit counter that wraps around. A
wait is given in ticks too; the largest word, `waitForever`, means a wait
without limit, so the longest finite wait is one tick less.

* `Ticks.ofMillis`, `Duration.toTicks`: conversions that round up, so that a
  wait is never cut short, and that stop one tick below `waitForever`, so that
  a finite wait never becomes endless.
* `Duration.ofCount`: a span of time from a count of some `TimeUnit`. It has to
  fit in a word.
* `Deadline.remaining`: how much of a wait is left, computed from the elapsed
  ticks modulo 2^32 and therefore right across a wrap of the counter.
-/

namespace TaskSync

/-- A number of kernel ticks, modulo 2^32. -/
abbrev Ticks := UInt32

/-- The wait without limit. -/
def waitForever : Ticks := 0xFFFFFFFF

/-- Ticks per second. -/
def tickRate : Nat := 1000

/-- Clock units per second: durations are counted in microseconds. -/
def clockRate : Nat := 1000000

/-- The quotient `n / d`, rounded up. -/
def roundUp (n d : Nat) : Nat := (n + d - 1) / d

/-- The number `n` as a finite wait: `waitForever` and above become the
longest finite wait. -/
def Ticks.saturate (n : Nat) : Ticks :=
  if n < waitForever.toNat then UInt32.ofNat n else waitForever - 1

/-- Milliseconds as ticks, rounded up. -/
def Ticks.ofMillis (ms : UInt32) : Ticks :=
  .saturate (roundUp (ms.toNat * tickRate) 1000)

/-- A span of time in clock units. -/
structure Duration where
  units : UInt64
deriving DecidableEq, Repr

/-- What a span of time is counted in. -/
inductive TimeUnit
  | clock
  | micros
  | millis
  | seconds
deriving DecidableEq, Repr

namespace Duration

/-- A span of `n` parts of a second that make a second `perSecond` at a time,
in clock units, rounded up. The two rates are reduced to lowest terms. Rounding
up begins with the sum of dividend and divisor, which has to fit too. -/
def ofParts (perSecond : Nat) (n : UInt64) : Except Fault Duration := do
  let common := clockRate.gcd perSecond
  let product ← fitsWord (n.toNat * (clockRate / common)) .productTooLarge
  let divisor := perSecond / common
  let _ ← fitsWord (product.toNat + divisor) .sumTooLarge
  return ⟨.ofNat (roundUp product.toNat divisor)⟩

def ofMicros (n : UInt64) : Except Fault Duration := ofParts 1000000 n

def ofMillis (n : UInt64) : Except Fault Duration := ofParts 1000 n

def ofSeconds (n : UInt64) : Except Fault Duration := do
  return ⟨← fitsWord (n.toNat * clockRate) .productTooLarge⟩

/-- A span of time from a count. -/
def ofCount (unit : TimeUnit) (n : UInt64) : Except Fault Duration :=
  match unit with
  | .clock => .ok ⟨n⟩
  | .micros => ofMicros n
  | .millis => ofMillis n
  | .seconds => ofSeconds n

/-- A duration as ticks, rounded up. -/
def toTicks (d : Duration) : Ticks :=
  .saturate (roundUp (d.units.toNat * tickRate) clockRate)

end Duration

/-- A wait that began when the tick counter showed `start`. -/
structure Deadline where
  start : Ticks
  wait : Ticks
deriving DecidableEq, Repr

namespace Deadline

/-- What is left of the wait when the counter shows `now`; `none` is a wait
without limit, `some 0` is a wait that is over. -/
def remaining (d : Deadline) (now : Ticks) : Option Ticks :=
  if d.wait = waitForever then none
  else
    let elapsed := now - d.start
    some (if elapsed < d.wait then d.wait - elapsed else 0)

end Deadline

end TaskSync
