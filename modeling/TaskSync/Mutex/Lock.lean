import TaskSync.Mutex.Basic

/-!
# TaskSync — locking without a bound

`lock` never gives up. It makes bounded attempts of `lockQuantum` ticks, one
after the other; each attempt that runs out takes its caller off the wait list
and the next puts it back.

A task that locks a normal mutex it already owns waits for itself. With
contract checks this is a fault; without, the task sleeps a quantum and tries
again, for ever.
-/

namespace TaskSync

/-- The length of one bounded attempt of `lock`, in ticks. -/
def lockQuantum : Ticks := 1000

/-- A call of `lock` that is under way. -/
inductive LockCall
  /-- In a bounded attempt. -/
  | attempt (w : Waiting TryLock)
  /-- Asleep, having found that the caller itself is the owner. -/
  | selfBlocked
deriving DecidableEq, Repr

namespace LockCall

/-- A call that begins when the tick counter shows `now`. -/
def start (now : Ticks) : LockCall := .attempt (.start {} lockQuantum now)

/-- The caller turns out to be the owner of a normal mutex. -/
def atSelfBlock (checks : Bool) : Round LockCall (Except Fault Unit) :=
  if checks then .finished (.error .lockedTwice)
  else .suspended .selfBlocked (some lockQuantum)

/-- The first look of a bounded attempt. It has its whole quantum before it,
so it can fail only because the caller is the owner. -/
def firstLook (checks : Bool) (now : Ticks) (task : TaskId) (m : Mutex) :
    Outcome Mutex (Round LockCall (Except Fault Unit)) :=
  ((Waiting.start {} lockQuantum now : Waiting TryLock).lookOrJoin (some lockQuantum) task m).map
    fun
    | .finished (.ok ()) => .finished (.ok ())
    | .finished (.error _) => atSelfBlock checks
    | .suspended w limit => .suspended (.attempt w) limit

/-- The next round of the call, when the tick counter shows `now`. -/
def round (checks : Bool) (now : Ticks) (task : TaskId) (m : Mutex) :
    LockCall → Outcome Mutex (Round LockCall (Except Fault Unit))
  | .selfBlocked => firstLook checks now task m
  | .attempt w =>
    let o := w.round now task m
    match o.answer with
    | .finished (.ok ()) => o.map fun _ => .finished (.ok ())
    | .finished (.error .deadlock) => o.map fun _ => atSelfBlock checks
    | .finished (.error _) =>
      -- the quantum is over and the next begins in the same instant
      let next := firstLook checks now task o.object
      { next with notices := o.notices ++ next.notices }
    | .suspended w limit => o.map fun _ => .suspended (.attempt w) limit

end LockCall

end TaskSync
