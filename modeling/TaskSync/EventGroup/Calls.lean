import TaskSync.EventGroup.Basic
import TaskSync.Waiting

/-!
# TaskSync — waiting for events

How an event group serves those who wait for bits (`Blocks EventWish`), and
the barrier (`EventGroup.arrive`), at which a party sets its own bits and waits
for those of all.
-/

namespace TaskSync

namespace EventGroup

/-- A task in the table is served by the value it was fired with and by
nothing else; any other is served by the bits as they are. -/
instance : Blocks EventWish EventGroup (Except EventBits EventBits) where
  serve wish look g :=
    match g.entryOf? look.task with
    | some entry => entry.fired.map fun value => .still (g.dismiss look.task) (.ok value)
    | none =>
      if wish.holds g.bits then
        some (.still { g with bits := g.bits &&& ~~~wish.cleared } (.ok g.bits))
      else none
  join wish task g :=
    match g.entryOf? task with
    | some _ => some g
    | none => g.enlist task wish
  leave _ task g := g.dismiss task
  giveUp _ _ g := .error g.bits

-- ---------------------------------------------------------------------------
-- Meeting at a barrier
-- ---------------------------------------------------------------------------

/-- The wish of a party that waits at a barrier. -/
def barrierWish (waitFor : EventBits) : EventWish := ⟨waitFor, .all, true⟩

/-- Arrives at a barrier: sets `bits` and looks whether `waitFor` is complete,
in one step. The answer is decided at once (`some`) if it is complete or the
caller would not wait; otherwise the caller has been entered into the wait
table, if there was room, and has to wait with `barrierWish waitFor`. -/
def arrive (g : EventGroup) (task : TaskId) (bits waitFor : EventBits) (wait : Ticks) :
    Outcome EventGroup (Option (Except EventBits EventBits)) :=
  let view := g.bits ||| bits
  let o := g.set bits
  let after := o.object
  if view &&& waitFor = waitFor then
    { o with object := { after with bits := after.bits &&& ~~~waitFor }, answer := some (.ok view) }
  else if wait = 0 then { o with answer := some (.error after.bits) }
  else { o with object := (after.enlist task (barrierWish waitFor)).getD after, answer := none }

end EventGroup

end TaskSync
