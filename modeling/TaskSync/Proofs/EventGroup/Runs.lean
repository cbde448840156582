import TaskSync.Proofs.Runs.Rounds
import TaskSync.Proofs.Runs.World
import TaskSync.EventGroup.Calls
import TaskSync.EventGroup.Table

/-!
# TaskSync — runs of an event group

The operations on an event group, and how the group answers them
(`EventGroup.protocol`). A breach of contract that is checked for is a fault
that changes nothing, so runs with contract checks are among the runs without,
and these are what is modelled here.

A task that arrives at a barrier sets its bits, and looks at the group as one
that waits only after that. Interrupt handlers may run in between, so a task
between its arrival and its first look is in a call of its own (`Call.arrived`).

All that a look of a waiting task can come to is a `Looked`, all that an
arrival can come to is an `Arrived`. `EventGroup.looked_look` and
`EventGroup.arrived_start` say so once for all proofs.
-/

namespace TaskSync

namespace EventGroup

/-- A blocking operation on an event group. -/
inductive Request
  | await (wish : EventWish) (wait : Ticks)
  /-- Arrives at a barrier with `bits` and waits for all of `waitFor`. -/
  | arrive (bits waitFor : EventBits) (wait : Ticks)

/-- A step on an event group that does not wait, of a task or of an interrupt handler. -/
inductive Act
  | set (bits : EventBits)
  | clear (bits : EventBits)

/-- A blocking call on an event group. -/
inductive Call
  | waiting (w : Waiting EventWish)
  /-- Arrived at a barrier and not looked since. -/
  | arrived (waitFor : EventBits) (wait : Ticks)

/-- An operation on an event group that has ended, with its answer. -/
inductive Deed
  /-- A wait ends with the value that satisfied the wish, or with the bits at the end of the
  time. -/
  | waited (t : TaskId) (wish : EventWish) (answer : Except EventBits EventBits)
  | set (bits left : EventBits)
  | cleared (bits before : EventBits)
deriving DecidableEq

/-- The wait that a call is in when it looks at the group, the tick counter showing `now`. -/
def Call.waitAt (now : Ticks) : Call → Waiting EventWish
  | .waiting w => w
  | .arrived waitFor wait => .start (barrierWish waitFor) wait now

/-- The wish of a call. -/
def Call.wish : Call → EventWish
  | .waiting w => w.request
  | .arrived waitFor _ => barrierWish waitFor

/-- A look of a task that waits. -/
def look (w : Waiting EventWish) (now : Ticks) (t : TaskId) (g : EventGroup) :
    Outcome EventGroup (Round Call Deed) :=
  (w.round now t g).map (.map .waiting (.waited t w.request))

/-- The first step of a blocking operation. -/
def Request.start (now : Ticks) (t : TaskId) (g : EventGroup) :
    Request → Outcome EventGroup (Round Call Deed)
  | .await wish wait => look (.start wish wait now) now t g
  | .arrive bits waitFor wait => (g.arrive t bits waitFor wait).map fun
    | some answer => .finished (.waited t (barrierWish waitFor) answer)
    | none => .suspended (.arrived waitFor wait) (some 0)

def Act.perform (g : EventGroup) : Act → Outcome EventGroup (Option Deed)
  | .set bits => (g.set bits).map fun left => some (.set bits left)
  | .clear bits => (g.clear bits).map fun before => some (.cleared bits before)

/-- How an event group answers. -/
def protocol : Protocol EventGroup Request Call Act Deed where
  start r now t g := r.start now t g
  resume k now t g := look (k.waitAt now) now t g
  act a g := a.perform g

/-- An event group in use. -/
abbrev World := TaskSync.World EventGroup Call Deed

/-- A move in a run of an event group. -/
abbrev Move := TaskSync.Move Request Act

/-- An event group that nobody has used before, after some moves. -/
def after (g : EventGroup) (moves : List Move) : World :=
  TaskSync.World.run protocol (.fresh g) moves

@[simp] theorem Call.request_waitAt (now : Ticks) (k : Call) : (k.waitAt now).request = k.wish := by
  cases k <;> rfl

-- ---------------------------------------------------------------------------
-- What a look comes to
-- ---------------------------------------------------------------------------

/-- All that a look of a waiting task can come to. -/
inductive Looked (t : TaskId) (now : Ticks) (g : EventGroup) (w : Waiting EventWish) :
    Outcome EventGroup (Round Call Deed) → Prop
  | collected {e : EventWaiter} {value : EventBits} :
      g.entryOf? t = some e → e.fired = some value →
      Looked t now g w (.still (g.dismiss t) (.finished (.waited t w.request (.ok value))))
  | stayed {e : EventWaiter} {limit : Option Ticks} :
      g.entryOf? t = some e → e.fired = none → w.isOver now = false →
      Looked t now g w (.still g (.suspended (.waiting { w with again := true }) limit))
  | expired {e : EventWaiter} :
      g.entryOf? t = some e → e.fired = none → w.isOver now = true →
      Looked t now g w (.still (g.dismiss t) (.finished (.waited t w.request (.error g.bits))))
  | satisfied :
      g.entryOf? t = none → w.request.holds g.bits = true →
      Looked t now g w (.still { g with bits := g.bits &&& ~~~w.request.cleared }
        (.finished (.waited t w.request (.ok g.bits))))
  | joined {g' : EventGroup} {limit : Option Ticks} :
      g.entryOf? t = none → w.request.holds g.bits = false → w.isOver now = false →
      g.enlist t w.request = some g' →
      Looked t now g w (.still g' (.suspended (.waiting { w with again := true }) limit))
  /-- The table is full. -/
  | crowded :
      g.entryOf? t = none → w.request.holds g.bits = false → w.isOver now = false →
      WaitList.limit ≤ g.waiters.length →
      Looked t now g w (.still g (.suspended (.waiting { w with again := true }) (some 1)))
  | gaveUp :
      g.entryOf? t = none → w.request.holds g.bits = false → w.isOver now = true →
      Looked t now g w (.still g (.finished (.waited t w.request (.error g.bits))))

theorem serve_eq (wish : EventWish) (l : Look) (g : EventGroup) :
    Blocks.serve wish l g =
      match g.entryOf? l.task with
      | some entry => entry.fired.map fun value => .still (g.dismiss l.task) (.ok value)
      | none =>
        if wish.holds g.bits then
          some (.still { g with bits := g.bits &&& ~~~wish.cleared } (.ok g.bits))
        else none := rfl

theorem join_eq (wish : EventWish) (t : TaskId) (g : EventGroup) :
    Blocks.join wish t g =
      match g.entryOf? t with
      | some _ => some g
      | none => g.enlist t wish := rfl

/-- A task that is not served is in the table and has not fired, or it is not in the table and its
wish is not satisfied. -/
theorem not_served {w : Waiting EventWish} {now : Ticks} {t : TaskId} {g : EventGroup}
    (h : Blocks.serve w.request (w.look now t) g = none) :
    (∃ e, g.entryOf? t = some e ∧ e.fired = none) ∨
      g.entryOf? t = none ∧ w.request.holds g.bits = false := by
  rw [serve_eq] at h
  split at h
  · rename_i e hEntry
    exact Or.inl ⟨e, hEntry, Option.map_eq_none_iff.mp h⟩
  · rename_i hEntry
    split at h
    · cases h
    · rename_i hHolds
      exact Or.inr ⟨hEntry, Bool.eq_false_iff.mpr hHolds⟩

theorem looked_look (w : Waiting EventWish) (now : Ticks) (t : TaskId) (g : EventGroup) :
    Looked t now g w (look w now t g) := by
  have hComes := w.comes_round now t g
  rw [look]
  generalize w.round now t g = o at hComes ⊢
  cases hComes with
  | served hServe =>
    rw [serve_eq] at hServe
    split at hServe
    · rename_i e hEntry
      obtain ⟨value, hFired, rfl⟩ := Option.map_eq_some_iff.mp hServe
      exact .collected hEntry hFired
    · rename_i hEntry
      split at hServe
      · rename_i hHolds
        obtain rfl := Option.some.inj hServe
        exact .satisfied hEntry hHolds
      · cases hServe
  | joined hServe hOver hJoin =>
    rw [join_eq] at hJoin
    rcases not_served hServe with ⟨e, hEntry, hFired⟩ | ⟨hEntry, hHolds⟩
    · rw [hEntry] at hJoin
      obtain rfl := Option.some.inj hJoin
      exact .stayed hEntry hFired hOver
    · rw [hEntry] at hJoin
      exact .joined hEntry hHolds hOver hJoin
  | crowded hServe hOver hJoin =>
    rw [join_eq] at hJoin
    rcases not_served hServe with ⟨e, hEntry, hFired⟩ | ⟨hEntry, hHolds⟩
    · rw [hEntry] at hJoin
      cases hJoin
    · rw [hEntry] at hJoin
      exact .crowded hEntry hHolds hOver (enlist_eq_none_iff.mp hJoin)
  | gaveUp hServe hOver =>
    show Looked t now g w (.still (g.dismiss t)
      (.finished (.waited t w.request (.error (g.dismiss t).bits))))
    rw [bits_dismiss]
    rcases not_served hServe with ⟨e, hEntry, hFired⟩ | ⟨hEntry, hHolds⟩
    · exact .expired hEntry hFired hOver
    · rw [dismiss_of_not_mem (entryOf?_eq_none_iff.mp hEntry)]
      exact .gaveUp hEntry hHolds hOver

-- ---------------------------------------------------------------------------
-- What an arrival comes to
-- ---------------------------------------------------------------------------

/-- All that arriving at a barrier can come to. -/
inductive Arrived (t : TaskId) (g : EventGroup) (bits waitFor : EventBits) (wait : Ticks) :
    Outcome EventGroup (Round Call Deed) → Prop
  | completed :
      (g.bits ||| bits) &&& waitFor = waitFor →
      Arrived t g bits waitFor wait
        ⟨{ (g.set bits).object with bits := (g.set bits).object.bits &&& ~~~waitFor },
          (g.set bits).notices,
          .finished (.waited t (barrierWish waitFor) (.ok (g.bits ||| bits)))⟩
  | declined :
      (g.bits ||| bits) &&& waitFor ≠ waitFor → wait = 0 →
      Arrived t g bits waitFor wait
        ⟨(g.set bits).object, (g.set bits).notices,
          .finished (.waited t (barrierWish waitFor) (.error (g.set bits).object.bits))⟩
  | enlisted {g' : EventGroup} :
      (g.bits ||| bits) &&& waitFor ≠ waitFor → wait ≠ 0 →
      (g.set bits).object.enlist t (barrierWish waitFor) = some g' →
      Arrived t g bits waitFor wait
        ⟨g', (g.set bits).notices, .suspended (.arrived waitFor wait) (some 0)⟩
  | crowded :
      (g.bits ||| bits) &&& waitFor ≠ waitFor → wait ≠ 0 →
      WaitList.limit ≤ g.waiters.length →
      Arrived t g bits waitFor wait
        ⟨(g.set bits).object, (g.set bits).notices, .suspended (.arrived waitFor wait) (some 0)⟩

theorem arrived_start (now : Ticks) (t : TaskId) (g : EventGroup) (bits waitFor : EventBits)
    (wait : Ticks) :
    Arrived t g bits waitFor wait (Request.start now t g (.arrive bits waitFor wait)) := by
  rw [Request.start, arrive]
  by_cases hAll : (g.bits ||| bits) &&& waitFor = waitFor
  · rw [if_pos hAll]
    exact .completed hAll
  rw [if_neg hAll]
  by_cases hWait : wait = 0
  · rw [if_pos hWait]
    exact .declined hAll hWait
  rw [if_neg hWait]
  cases hEnlist : (g.set bits).object.enlist t (barrierWish waitFor) with
  | some g' => exact .enlisted hAll hWait hEnlist
  | none =>
    have hFull := enlist_eq_none_iff.mp hEnlist
    rw [waiters_set, List.length_map] at hFull
    exact .crowded hAll hWait hFull

end EventGroup

end TaskSync
