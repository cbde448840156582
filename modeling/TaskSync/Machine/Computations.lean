import TaskSync.Machine.Step

/-!
# TaskSync — operations without an object

Conversions of time, comparisons of tasks, requests for memory and the
combination of results from interrupt handlers. They change no machine.
-/

namespace TaskSync

namespace Machine

/-- The fixed numbers of the library. -/
def limits : Limits where
  tickRate := TaskSync.tickRate
  lockQuantum := TaskSync.lockQuantum.toNat
  waiters := WaitList.limit
  wakers := WakerSet.limit
  waitForever := TaskSync.waitForever.toNat
  eventMask := TaskSync.eventMask.toNat

/-- One more step in combining results. -/
def combineStep (r : InterruptResult String Int) :
    ResultStep → Except Fault (InterruptResult String Int)
  | .add n => r.mapM (addSigned · n)
  | .chain next => .ok (r.chain next)
  | .chainNothing => .ok (r.chain (InterruptResult.nothing.map fun () => 0))

def pureResult (allocator : Allocator) : PureAction → Result
  | .ticksOfMillis ms => .ok (.number (Ticks.ofMillis ms).toNat)
  | .ticksOfDuration unit count =>
    .ofFaulty (fun d => .number d.toTicks.toNat) (Duration.ofCount unit count)
  | .compareTasks a b =>
    .ok (.comparison a.label b.number.toNat (a.compare b) (decide (a = b)))
  | .allocate size =>
    match allocator.allocate size with
    | .ok cells => .ok (.allocated cells.size (cells.all (· == 0)))
    | .error refused => .error (.allocation refused.toCreateError)
  | .allocateOne value =>
    match allocateOne value with
    | .ok value => .ok (.integer value)
    | .error refused => .error (.allocation refused.toCreateError)
  | .limits => .ok (.limits limits)
  | .combine first steps => .ofFaulty .fromInterrupt (steps.foldlM combineStep first)

end Machine

end TaskSync
