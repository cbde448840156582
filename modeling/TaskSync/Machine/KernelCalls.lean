import TaskSync.Machine.Step

/-!
# TaskSync — operations on the kernel

What workers ask the installed kernel directly, and installing one. The first
kernel that is installed stays. The host answers what is asked of it by name
even where it is not installed.
-/

namespace TaskSync

namespace Machine

/-- How long `hostWakeSelf` would sleep without its permit. -/
def selfWakeLimit : Ticks := 5000

/-- A bare suspension that is over within so many ticks counts as short. -/
def shortSleep : Ticks := 2500

/-- A bare suspension by the host. Unless the host is the installed kernel, nobody
else is at work before it is over, so the operation ends on the spot. -/
def performSleep (s : Machine) (worker : Worker) (ticks : Ticks) : Machine × Step :=
  if s.onHost then (s, .calling (.sleep s.now ticks shortSleep false) .plain)
  else
    let kernel := s.host.kernel.sleepAlone worker ticks
    let short : Bool := kernel.now - s.host.kernel.now ≤ shortSleep
    (s.withHostKernel kernel).finish (.ok (.flag short))

/-- An operation that asks the installed kernel. -/
def askKernel (s : Machine) (answer : Machine → Machine × Answer) : Machine × Step :=
  if s.installed.isNone then s.finish (.fault .kernelMissing)
  else
    let (s, a) := answer s
    s.finish (.ok a)

/-- The end of an operation that answers how many wakes the host has deferred. -/
def finishDeferred (s : Machine) : Machine × Step :=
  s.finish (.ok (.number s.host.kernel.deferred.length))

def performKernel (s : Machine) (worker : Worker) : KernelAction → Machine × Step
  | .install which =>
    match s.installed with
    | none => { s with installed := some which }.finish (.ok .done)
    | some present =>
      s.finish (if present = which then .ok .done else .error .kernelAlreadyInstalled)
  | .isInstalled => s.finish (.ok (.flag s.installed.isSome))
  | .tickCount => s.askKernel fun s => (s, .number s.now.toNat)
  | .inInterrupt => s.askKernel fun s => (s, .flag (s.inInterrupt worker))
  | .currentTask => s.askKernel fun s =>
    let (s, t) := s.currentTask worker
    (s, .text t.label)
  | .installHost =>
    { s with installed := s.installed.or (some .host) }.finishDeferred
  | .hostWakeSelf =>
    let (s, t) := s.hostTask worker
    { s with host := s.host.wake t }.performSleep worker selfWakeLimit
  | .hostSleep ticks => s.performSleep worker ticks
  | .hostWake t => { s with host := s.host.wake t }.finish (.ok .done)
  | .hostDefer t => { s with host := s.host.defer t }.finishDeferred
  | .hostYield => { s with host := s.host.yieldFromInterrupt }.finishDeferred

end Machine

end TaskSync
