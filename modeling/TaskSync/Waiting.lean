import TaskSync.Task
import TaskSync.Ticks

/-!
# TaskSync — waiting

Every blocking call of this library runs the same loop. A **round** looks at
the object; if the object can serve the request, the call is finished. If
not, the caller joins the object's waiters and suspends for the rest of its
wait, or for one tick where the waiters have no room. Whatever ends the
suspension, the next round starts over. The round that begins when nothing is
left of the wait is the last: it looks once more and, in the same step, takes
the caller off the waiters, so that no notice can fall between the two.

`Blocks ρ σ α` says what an object of type `σ` does with requests of type `ρ`,
whose answer is an `α`. A call that is under way is a value (`Waiting ρ`), so
a suspended task is a value too.

* `Waiting.lookOrJoin`: a round before the end of the wait.
* `Waiting.lastLook`: the round at the end of the wait.
* `Waiting.round`: one or the other, as the clock says.
-/

namespace TaskSync

/-- The circumstances under which a call looks at an object. -/
structure Look where
  /-- Who looks. -/
  task : TaskId
  /-- The call has looked before and was not served. -/
  again : Bool
  /-- The wait is over: the call will not look again. -/
  last : Bool
deriving DecidableEq, Repr

/-- How an object of type `σ` serves requests of type `ρ` that may have to wait. -/
class Blocks (ρ : Type) (σ α : outParam Type) where
  /-- Serves the request if the object is ready for it. -/
  serve : ρ → Look → σ → Option (Outcome σ α)
  /-- Puts a task among those that wait for such a request; `none` if there is no room. -/
  join : ρ → TaskId → σ → Option σ
  /-- Takes a task off those that wait. -/
  leave : ρ → TaskId → σ → σ
  /-- The answer to a request that ran out of time after a wait of so many ticks. -/
  giveUp : ρ → Ticks → σ → α

/-- A blocking call that is under way. -/
structure Waiting (ρ : Type) where
  request : ρ
  deadline : Deadline
  /-- The call has looked at the object before. -/
  again : Bool
deriving DecidableEq, Repr

/-- What a round comes to: an answer, or a suspension for at most `limit`
ticks (`none`: until woken) after which the call goes on as `call`. -/
inductive Round (κ α : Type)
  | finished (answer : α)
  | suspended (call : κ) (limit : Option Ticks)
deriving DecidableEq, Repr

namespace Waiting

variable {ρ σ α : Type} [Blocks ρ σ α]

/-- A call that begins when the tick counter shows `now`. -/
def start (request : ρ) (wait now : Ticks) : Waiting ρ :=
  { request, deadline := ⟨now, wait⟩, again := false }

/-- A round before the end of the wait, of which `left` is left. -/
def lookOrJoin (w : Waiting ρ) (left : Option Ticks) (task : TaskId) (object : σ) :
    Outcome σ (Round (Waiting ρ) α) :=
  match Blocks.serve w.request ⟨task, w.again, false⟩ object with
  | some served => served.map .finished
  | none =>
    let parked := { w with again := true }
    match Blocks.join w.request task object with
    | some joined => .still joined (.suspended parked left)
    | none => .still object (.suspended parked (some 1))

/-- The round at the end of the wait. -/
def lastLook (w : Waiting ρ) (task : TaskId) (object : σ) : Outcome σ α :=
  match Blocks.serve w.request ⟨task, w.again, true⟩ object with
  | some served => served
  | none =>
    let left := Blocks.leave w.request task object
    .still left (Blocks.giveUp w.request w.deadline.wait left)

/-- The next round of the call, when the tick counter shows `now`. -/
def round (w : Waiting ρ) (now : Ticks) (task : TaskId) (object : σ) :
    Outcome σ (Round (Waiting ρ) α) :=
  match w.deadline.remaining now with
  | some 0 => (w.lastLook task object).map .finished
  | left => w.lookOrJoin left task object

end Waiting

end TaskSync
