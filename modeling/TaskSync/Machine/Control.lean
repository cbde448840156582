import TaskSync.Machine.Run
import TaskSync.Machine.Snapshot

/-!
# TaskSync — the machine from outside

`Machine.handle` answers one request. Under the simulated kernel nothing moves
by itself: time passes when told (`Control.tick`), and workers that may go on do
so when told (`Control.run`, `Control.step`).

The host has a clock and threads of its own. Here its clock is virtual: it
moves only when everybody is asleep, and then to the next moment at which
somebody's suspension ends (`Machine.hostTurn`). An operation of the host that
is not put into the background is answered when it is finished.
-/

namespace TaskSync

/-- How much work the commands of a suspended operation still are. -/
def Suspension.weight (x : Suspension) : Nat :=
  let pending := match x.next with
    | .body _ body => Command.weights body
    | _ => 0
  1 + pending + stackWeight x.frames

namespace Machine

/-- How many workers can be resumed before all is done that suspended operations
still have to do. A resumption that finishes no operation or command wakes
nobody, so it only uses up an entry of the ready list; one that does can make
every suspended worker ready. -/
def workBound (s : Machine) : Nat :=
  let work := s.suspensions.entries.foldl (fun work (_, x) => work + x.weight) 0
  s.kernel.ready.length + work * (s.suspensions.entries.length + 1)

/-- Resumes a worker and logs the end of its operation. -/
def resumeLogged (s : Machine) (worker : Worker) : Machine × Progress :=
  match s.resume worker with
  | (s, .finished r) => (s.note (.finished worker r), .finished r)
  | (s, .asleep) => (s, .asleep)

/-- Resumes the ready workers one after the other, at most `bound` of them, and
counts them. -/
def runReady (s : Machine) (bound : Nat) : Machine × Nat :=
  match bound, s.kernel.ready with
  | 0, _ | _, [] => (s, 0)
  | bound + 1, worker :: _ =>
    let (s, _) := s.resumeLogged worker
    let (s, n) := s.runReady bound
    (s, n + 1)

-- ---------------------------------------------------------------------------
-- The host
-- ---------------------------------------------------------------------------

/-- How many turns the host may take before a wait for it is given up. -/
def hostPatience : Nat := 100000

/-- Files the result of a background operation. -/
def fileResult (s : Machine) (worker : Worker) (r : Result) : Machine :=
  { s with background := s.background.insert worker (some r) }

/-- Resumes a worker of the host; the result of its operation is filed. -/
def hostResume (s : Machine) (worker : Worker) : Machine :=
  if (s.suspensions.find? worker).isSome then
    match s.resume worker with
    | (s, .finished r) => s.fileResult worker r
    | (s, .asleep) => s
  else s.withHostKernel (s.host.kernel.unsuspend worker)

/-- One turn of the host: the first ready worker goes on; without one, the clock
moves to the next moment at which a suspension ends. `none` if that never
comes. -/
def hostTurn (s : Machine) : Option Machine :=
  match s.host.kernel.ready with
  | worker :: _ => some (s.hostResume worker)
  | [] => s.host.kernel.nextDue?.map fun n => s.withHostKernel (s.host.kernel.advance n)

/-- Takes turns until a condition holds; the answer says whether it came to hold. -/
def hostWait (s : Machine) (holds : Machine → Bool) (bound : Nat) : Machine × Bool :=
  if holds s then (s, true)
  else
    match bound, s.hostTurn with
    | bound + 1, some s => s.hostWait holds bound
    | _, _ => (s, false)

/-- The workers of the host that may go on do so. -/
def hostSettle (s : Machine) : Machine :=
  (s.hostWait (fun s => s.host.kernel.ready.isEmpty) hostPatience).1

/-- The filed result of a worker's operation. -/
def filed? (s : Machine) (worker : Worker) : Option Result := (s.background.find? worker).join

/-- Waits for the result of a worker's operation, which is then forgotten. -/
def hostJoin (s : Machine) (worker : Worker) : Machine × Result :=
  let (s, _) := s.hostWait (fun s => (s.filed? worker).isSome) hostPatience
  match s.filed? worker with
  | some r => ({ s with background := s.background.erase worker }, r)
  | none => (s, .senseless "the operation does not end")

/-- Runs a command on the host. -/
def hostCommand (s : Machine) (worker : Worker) (background : Bool) (c : Command) :
    Machine × Result :=
  let s := if background then { s with background := s.background.insert worker none } else s
  match s.runCommand worker c, background with
  | (s, .finished r), false => (s.hostSettle, r)
  | (s, .asleep), false => s.hostJoin worker
  | (s, .finished r), true => ((s.fileResult worker r).hostSettle, .started)
  | (s, .asleep), true => (s.hostSettle, .started)

-- ---------------------------------------------------------------------------
-- Requests
-- ---------------------------------------------------------------------------

/-- Something happens to the machine from outside. -/
def control (s : Machine) : Control → Machine × Result
  | .tick n => ({ s with kernel := s.kernel.advance n }, .ok .done)
  | .run =>
    let (s, n) := s.runReady s.workBound
    (s, .ok (.number n))
  | .step worker =>
    match s.resumeLogged worker with
    | (s, .finished _) => (s, .resumed true)
    | (s, .asleep) => (s, .resumed false)
  | .wake task => (s.wake task, .ok .done)
  | .kill worker =>
    let s := s.withActive (s.active.forget worker)
    ({ s with suspensions := s.suspensions.erase worker }, .ok .done)
  | .waitFor id gauge value =>
    let holds (s : Machine) : Bool := (s.snapshot? id).bind (·.gauge? gauge) == some value
    match s.hostWait holds hostPatience with
    | (s, true) => (s, .ok .done)
    | (s, false) => (s, .senseless "the value is never reached")
  | .join worker => s.hostJoin worker

/-- Answers a request. -/
def handle (s : Machine) : Request → Machine × Result
  | .control c => s.control c
  | .command worker background c =>
    if s.onHost then s.hostCommand worker background c
    else
      match s.runCommand worker c with
      | (s, .finished r) => (s, r)
      | (s, .asleep) => (s, .blocked)

/-- Whether no background operation is outstanding, so that the objects can be
looked at. -/
def isQuiet (s : Machine) : Bool := s.background.entries.isEmpty

/-- What a request comes to: its result, the events on the way, and what can
be seen of the objects afterwards. -/
structure Report where
  result : Result
  events : List Event
  objects : List (Name × Snapshot)

/-- Answers a request and reports. -/
def report (s : Machine) (q : Request) : Machine × Report :=
  let (s, result) := { s with log := [] }.handle q
  let objects := if s.isQuiet then s.snapshots else []
  (s, { result, events := s.log, objects })

/-- Answers requests in turn. -/
def reports (s : Machine) : List Request → List Report
  | [] => []
  | q :: rest =>
    let (s, r) := s.report q
    r :: s.reports rest

end Machine

end TaskSync
