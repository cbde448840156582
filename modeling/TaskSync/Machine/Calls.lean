import TaskSync.Machine.State

/-!
# TaskSync — blocking calls in a machine

How a blocking call gets on: `Machine.round` runs its next round against the
object it is about, and `Machine.drive` goes from round to round until the call
is finished or its worker is asleep. The kernel lets a suspension return at once
if the worker has a permit; it has one at most, so a call that is driven on
sleeps after two rounds at the latest.

`Machine.enter` is the check that every blocking call begins with: there is a
kernel, and no interrupt handler is running.
-/

namespace TaskSync

/-- The result of a call that answers with an `Except`. -/
def Result.ofExcept {ε α : Type} (failure : ε → Failure) (answer : α → Answer) :
    Except ε α → Result
  | .ok a => .ok (answer a)
  | .error e => .error (failure e)

/-- The result of an operation that can be at fault. -/
def Result.ofFaulty {α : Type} (answer : α → Answer) : Except Fault α → Result
  | .ok a => .ok (answer a)
  | .error f => .fault f

/-- The result of an operation that has no answer but can be at fault. -/
def Result.ofCheck : Except Fault Unit → Result := .ofFaulty fun () => .done

namespace Machine

/-- The answer to an operation on something that is not there. -/
def missing : Result := .senseless "no such object"

/-- The next round of a call about the object at `r`. -/
def roundAt {ρ σ α : Type} [Blocks ρ σ α] [Stored σ] (s : Machine) (task : TaskId) (r : Ref)
    (w : Waiting ρ) (resume : Waiting ρ → Call) (result : α → Result) :
    Machine × Round Call Result :=
  match s.get? σ r with
  | none => (s, .finished missing)
  | some x =>
    let o := w.round s.now task x
    let next : Round Call Result :=
      match o.answer with
      | .finished a => .finished (result a)
      | .suspended w limit => .suspended (resume w) limit
    (s.settle r o, next)

/-- The next round of a call. -/
def round (s : Machine) (task : TaskId) : Call → Machine × Round Call Result
  | .queueSend q w => s.roundAt task q w (.queueSend q) (.ofExcept .queue fun _ => .done)
  | .queueReceive q w => s.roundAt task q w (.queueReceive q) (.ofExcept .queue .bytes)
  | .streamSend r w => s.roundAt task r w (.streamSend r) (.ofExcept .stream .number)
  | .streamReceive r w => s.roundAt task r w (.streamReceive r) (.ofExcept .stream .bytes)
  | .events g w =>
    s.roundAt task g w (.events g) (.ofExcept .eventTimeout fun bits => .number bits.toNat)
  | .watch watch signal w =>
    match s.get? (Signal Datum) signal with
    | none => (s, .finished missing)
    | some x =>
      let o := w.round s.now task x
      let s := s.settle signal o
      match o.answer with
      | .finished (some value) =>
        (s.put watch (⟨signal, some value⟩ : Watch), .finished (.ok (.datum value)))
      | .finished none => (s, .finished (.error .watchTimeout))
      | .suspended w limit => (s, .suspended (.watch watch signal w) limit)
  | .lockWithin r w =>
    match s.mutexAt? r with
    | none => (s, .finished missing)
    | some m =>
      let o := w.round s.now task m
      let next : Round Call Result :=
        match o.answer with
        | .finished a => .finished (.ofExcept .lock (fun _ => .done) a)
        | .suspended w limit => .suspended (.lockWithin r w) limit
      (s.settleMutex r o, next)
  | .lock r call =>
    match s.mutexAt? r with
    | none => (s, .finished missing)
    | some m =>
      let o := call.round s.checks s.now task m
      let next : Round Call Result :=
        match o.answer with
        | .finished a => .finished (.ofCheck a)
        | .suspended call limit => .suspended (.lock r call) limit
      (s.settleMutex r o, next)
  | .sleep start limit bound begun =>
    if begun then (s, .finished (.ok (.flag (s.now - start ≤ bound))))
    else (s, .suspended (.sleep start limit bound true) (some limit))

/-- Suspends a worker. The answer says whether the suspension returns at once. -/
def suspend (s : Machine) (worker : Worker) (limit : Option Ticks) : Machine × Bool :=
  let (kernel, atOnce) := s.active.suspend worker limit
  ((s.note (.suspend worker limit)).withActive kernel, atOnce)

/-- The task number with which a worker makes a call. A bare suspension needs none. -/
def callerTask (s : Machine) (worker : Worker) (call : Call) : Machine × TaskId :=
  if call.isSleep then (s, ⟨worker⟩) else s.currentTask worker

/-- Where a call that was driven on has got to. -/
inductive Driven
  | finished (r : Result)
  | asleep (call : Call)

/-- Drives a call on until it is finished or asleep; `permits` bounds how
often its suspensions may still return at once. -/
def drive (s : Machine) (worker : Worker) (call : Call) (permits : Nat) : Machine × Driven :=
  let (s, task) := s.callerTask worker call
  match s.round task call with
  | (s, .finished r) => (s, .finished r)
  | (s, .suspended call limit) =>
    match s.suspend worker limit, permits with
    | (s, true), permits + 1 => s.drive worker call permits
    | (s, _), _ => (s, .asleep call)

/-- A worker has one permit at most. -/
def permitsPerWorker : Nat := 1

/-- The check that a blocking call begins with. -/
def enter (s : Machine) (worker : Worker) : Except Fault Unit :=
  if s.installed.isNone then .error .kernelMissing
  else if s.checks && s.inInterrupt worker then .error .blockingInInterrupt
  else .ok ()

/-- Begins a call for a worker. -/
def beginCall (s : Machine) (worker : Worker) (call : Call) : Machine × Driven :=
  match if call.isSleep then .ok () else s.enter worker with
  | .error f => (s, .finished (.fault f))
  | .ok () => s.drive worker call permitsPerWorker

end Machine

end TaskSync
