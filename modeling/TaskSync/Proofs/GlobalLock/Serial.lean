import TaskSync.Proofs.GlobalLock.SetUp

/-!
# TaskSync — a global lock makes accesses serial

While a task has the lock, nobody else enters it and no cell is changed by others,
wherever that task has got to. So an access reads what the access before it has
left, though it is made in several steps, and the cells are what the accesses make
of them one after the other (`replay`), in the order in which the lock was entered
(`entries`).

The invariant says where things stand (`Stage`): nobody is inside an access and
whoever has the lock has entered it to hold it, or the task that has the lock is
inside an access, with what it has read and written so far.

* `sound_look` — the invariant is kept by every look of a task.
-/

namespace TaskSync

namespace GlobalLock

variable {α : Type}

-- ---------------------------------------------------------------------------
-- What the operations that have ended say
-- ---------------------------------------------------------------------------

/-- The task that has entered the lock to hold it and not left it since. -/
def holder (ds : List (Deed α)) : Option TaskId :=
  ds.foldl (fun h d =>
    match d with
    | .held t => some t
    | .released _ (.ok _) => none
    | _ => h) none

/-- The cells after an operation. -/
def Deed.apply (cells : Nat → α) : Deed α → Nat → α
  | .accessed _ cell a _ => Function.update cells cell (a.after (cells cell))
  | _ => cells

/-- The cells after some operations, one after the other. -/
def replay (cells : Nat → α) (ds : List (Deed α)) : Nat → α := ds.foldl Deed.apply cells

/-- An access gives the answer that it has to give where the cells are as they are. -/
def Deed.Answers (cells : Nat → α) : Deed α → Prop
  | .accessed _ cell a answer => answer = a.answer (cells cell)
  | _ => True

/-- Each access gives the answer that it has to give after those before it. -/
def Serial (cells : Nat → α) : List (Deed α) → Prop
  | [] => True
  | d :: rest => d.Answers cells ∧ Serial (d.apply cells) rest

/-- What the lock was entered for, and by whom. -/
def Deed.entrance? : Deed α → Option (TaskId × Purpose α)
  | .held t => some (t, .hold)
  | .accessed t cell a _ => some (t, .access cell a)
  | _ => none

/-- An operation that says nothing of entries and cells. -/
def Deed.idle : Deed α → Bool
  | .initialised .. | .faulted .. | .released _ (.error _) => true
  | _ => false

variable {cells : Nat → α} {ds : List (Deed α)} {d : Deed α}

theorem replay_concat (cells : Nat → α) (ds : List (Deed α)) (d : Deed α) :
    replay cells (ds ++ [d]) = d.apply (replay cells ds) := List.foldl_concat ..

theorem serial_concat :
    Serial cells (ds ++ [d]) ↔ Serial cells ds ∧ d.Answers (replay cells ds) := by
  induction ds generalizing cells with
  | nil => exact and_comm
  | cons e rest ih => exact (and_congr_right fun _ => ih).trans and_assoc.symm

theorem holder_concat (ds : List (Deed α)) (d : Deed α) :
    holder (ds ++ [d]) =
      match d with
      | .held t => some t
      | .released _ (.ok _) => none
      | _ => holder ds := List.foldl_concat ..

theorem entrance_of_idle (hIdle : d.idle = true) : d.entrance? = none := by
  cases d with
  | initialised | faulted | released => rfl
  | held | accessed => cases hIdle

/-- An idle operation changes nothing of what the others say. -/
theorem idle_append (cells : Nat → α) (ds : List (Deed α)) {ended : Option (Deed α)}
    (hIdle : ∀ d ∈ ended, d.idle = true) :
    holder (ds ++ ended.toList) = holder ds ∧
      replay cells (ds ++ ended.toList) = replay cells ds ∧
      (Serial cells (ds ++ ended.toList) ↔ Serial cells ds) ∧
      (ds ++ ended.toList).filterMap Deed.entrance? = ds.filterMap Deed.entrance? := by
  cases ended with
  | none =>
    rw [Option.toList_none, List.append_nil]
    exact ⟨rfl, rfl, Iff.rfl, rfl⟩
  | some d =>
    have hIdle := hIdle d rfl
    have hEntries : (ds ++ [d]).filterMap Deed.entrance? = ds.filterMap Deed.entrance? := by
      simp [entrance_of_idle hIdle]
    rw [Option.toList_some, holder_concat, replay_concat, serial_concat, hEntries]
    cases d with
    | initialised | faulted => exact ⟨rfl, rfl, and_iff_left trivial, rfl⟩
    | released t answer =>
      cases answer with
      | error f => exact ⟨rfl, rfl, and_iff_left trivial, rfl⟩
      | ok => cases hIdle
    | held | accessed => cases hIdle

-- ---------------------------------------------------------------------------
-- Where things stand
-- ---------------------------------------------------------------------------

/-- Whether a call has the lock for an access. -/
def Call.inside (k : Call α) : Bool := k.purpose?.isSome

/-- How the cells are seen from inside an access: what they were before it, and what it has
done to them so far. -/
def Call.Sees (before now : Nat → α) : Call α → Prop
  | .reading .. => now = before
  | .writing cell _ old => now = before ∧ old = before cell
  | .releasing cell a answer =>
    now = Function.update before cell (a.after (before cell)) ∧ answer = a.answer (before cell)
  | _ => False

/-- Where things stand with the lock. -/
inductive Stage (cells : Nat → α) (w : World α) : Prop
  /-- Nobody is inside an access. -/
  | outside :
      holder w.deeds = w.object.owner? → (∀ u, w.crew.isIn Call.inside u = false) →
      w.object.cells = replay cells w.deeds → Stage cells w
  | inside {t : TaskId} {s : Sleep (Call α)} :
      w.object.owner? = some t → holder w.deeds = none → w.crew.asleep t = some s →
      s.call.Sees (replay cells w.deeds) w.object.cells →
      (∀ u, u ≠ t → w.crew.isIn Call.inside u = false) → Stage cells w

/-- What the task that has the lock is inside of, if it is inside an access. -/
def underway? (w : World α) : Option (TaskId × Call α) := do
  let t ← w.object.owner?
  let s ← w.crew.asleep t
  if s.call.inside then some (t, s.call) else none

/-- What the task that has the lock has entered it for, if that is an access. -/
def pending? (w : World α) : Option (TaskId × Purpose α) :=
  (underway? w).bind fun (t, k) => k.purpose?.map fun p => (t, p)

/-- An entry of the lock by a task, between two states. -/
def entrance? (w w' : World α) (t : TaskId) : Option (TaskId × Purpose α) :=
  if w.object.owner? ≠ some t ∧ w'.object.owner? = some t then
    some (t, ((w'.crew.asleep t).bind (·.call.purpose?)).getD .hold)
  else none

variable {checks : Bool} {t u : TaskId} {w : World α}

theorem Call.Sees.inside {before now : Nat → α} {k : Call α} (h : k.Sees before now) :
    k.inside = true := by
  cases k with
  | reading | writing | releasing => rfl
  | placing | publishing | seeking | locking => cases h

/-- Whoever is inside an access has the lock. -/
theorem Stage.owner (h : Stage cells w) (hIn : w.crew.isIn Call.inside t = true) :
    w.object.owner? = some t := by
  cases h with
  | outside _ hNobody =>
    rw [hNobody t] at hIn
    cases hIn
  | @inside u s hOwner _ _ _ hOthers =>
    by_cases hSelf : t = u
    · rw [hOwner, hSelf]
    · rw [hOthers t hSelf] at hIn
      cases hIn

/-- Whoever is outside has nothing under way. -/
theorem underway_of_outside (hOut : ∀ u, w.crew.isIn Call.inside u = false) :
    underway? w = none := by
  unfold underway?
  cases hOwner : w.object.owner? with
  | none => rfl
  | some u =>
    cases hAsleep : w.crew.asleep u with
    | none => simp [hAsleep]
    | some s =>
      have hCall : s.call.inside = false := by
        rw [← Crew.isIn_of_some (p := Call.inside) hAsleep]
        exact hOut u
      simp [hAsleep, hCall]

theorem underway_of_inside {s : Sleep (Call α)} (hOwner : w.object.owner? = some t)
    (hAsleep : w.crew.asleep t = some s) (hInside : s.call.inside = true) :
    underway? w = some (t, s.call) := by
  unfold underway?
  simp [hOwner, hAsleep, hInside]

theorem pending_of_outside (hOut : ∀ u, w.crew.isIn Call.inside u = false) :
    pending? w = none := by
  rw [pending?, underway_of_outside hOut]
  rfl

theorem pending_of_inside {s : Sleep (Call α)} {p : Purpose α}
    (hOwner : w.object.owner? = some t) (hAsleep : w.crew.asleep t = some s)
    (hPurpose : s.call.purpose? = some p) : pending? w = some (t, p) := by
  have hInside : s.call.inside = true := by
    rw [Call.inside, hPurpose]
    rfl
  rw [pending?, underway_of_inside hOwner hAsleep hInside]
  simp [hPurpose]

-- ---------------------------------------------------------------------------
-- The invariant
-- ---------------------------------------------------------------------------

/-- What holds of a lock in use that was entered as `entries` says. -/
structure Sound (cells : Nat → α) (entries : List (TaskId × Purpose α)) (w : World α) : Prop where
  setUp : SetUp w
  stage : Stage cells w
  serial : Serial cells w.deeds
  entries_eq : entries = w.deeds.filterMap Deed.entrance? ++ (pending? w).toList

theorem sound_fresh (cells : Nat → α) : Sound cells [] (.fresh (.fresh cells)) where
  setUp := setUp_fresh cells
  stage := .outside rfl (fun _ => rfl) rfl
  serial := trivial
  entries_eq := rfl

variable {entries : List (TaskId × Purpose α)} {fate : Option (Sleep (Call α))}
  {ended : Option (Deed α)}

/-- Nobody comes inside by a look of a task that stays outside. -/
theorem isIn_inside_look (hOut : w.crew.isIn Call.inside t = false)
    (hFate : ∀ s ∈ fate, s.call.inside = false) (u : TaskId) :
    (w.crew.look t fate).isIn Call.inside u = w.crew.isIn Call.inside u := by
  by_cases hSelf : u = t
  · subst hSelf
    rw [Crew.isIn_look_self, hOut, Option.any_eq_false]
    exact fun s hs => by simp [hFate s hs]
  · rw [Crew.isIn_look_of_ne hSelf]

/-- A look of a task that stays outside and neither enters the lock nor leaves it. -/
theorem Sound.pass (h : Sound cells entries w) {object : Shared α} (t : TaskId) (ts : List TaskId)
    (hSetUp : SetUp (⟨object, (w.crew.look t fate).notify ts, w.logged ended⟩ : World α))
    (hOut : w.crew.isIn Call.inside t = false) (hFate : ∀ s ∈ fate, s.call.inside = false)
    (hOwner : object.owner? = w.object.owner?) (hCells : object.cells = w.object.cells)
    (hEnded : ∀ d ∈ ended, d.idle = true) :
    Sound cells entries ⟨object, (w.crew.look t fate).notify ts, w.logged ended⟩ := by
  let w' : World α := ⟨object, (w.crew.look t fate).notify ts, w.logged ended⟩
  have hConcat : w'.deeds = w.deeds ++ ended.toList := World.deeds_logged w ended
  obtain ⟨hHolder', hReplay', hSerial', hEntries'⟩ := idle_append cells w.deeds hEnded
  rw [← hConcat] at hHolder' hReplay' hSerial' hEntries'
  have hIn : ∀ u, w'.crew.isIn Call.inside u = w.crew.isIn Call.inside u :=
    isIn_inside_look hOut hFate
  have hSerial := hSerial'.mpr h.serial
  cases h.stage with
  | outside hHolder hNobody hReplay =>
    have hNobody' : ∀ u, w'.crew.isIn Call.inside u = false := fun u => (hIn u).trans (hNobody u)
    refine ⟨hSetUp, .outside ?_ hNobody' ?_, hSerial, ?_⟩
    · exact hHolder'.trans (hHolder.trans hOwner.symm)
    · exact hCells.trans (hReplay.trans hReplay'.symm)
    · show _ = w'.deeds.filterMap Deed.entrance? ++ (pending? w').toList
      rw [pending_of_outside hNobody', hEntries', h.entries_eq, pending_of_outside hNobody]
  | @inside u s hOwned hHolder hAsleep hSees hOthers =>
    have hNe : u ≠ t := by
      rintro rfl
      rw [Crew.isIn_of_some hAsleep, hSees.inside] at hOut
      cases hOut
    have hAsleep' : w'.crew.asleep u = some s := (Crew.asleep_look_of_ne hNe fate).trans hAsleep
    have hOwned' : w'.object.owner? = some u := hOwner.trans hOwned
    refine ⟨hSetUp, .inside hOwned' (hHolder'.trans hHolder) hAsleep' ?_
      fun v hv => (hIn v).trans (hOthers v hv), hSerial, ?_⟩
    · show s.call.Sees (replay cells w'.deeds) object.cells
      rw [hReplay', hCells]
      exact hSees
    · show _ = w'.deeds.filterMap Deed.entrance? ++ (pending? w').toList
      obtain ⟨p, hPurpose⟩ := Option.isSome_iff_exists.mp hSees.inside
      rw [pending_of_inside hOwned' hAsleep' hPurpose, hEntries', h.entries_eq,
        pending_of_inside hOwned hAsleep hPurpose]

variable {o : Outcome (Shared α) (Round (Call α) (Deed α))}

/-- An operation has ended, and nobody is inside an access now. -/
theorem sound_of_ended (hSetUp : SetUp (w.look t o)) (hSerial : Serial cells w.deeds)
    (hAnswer : o.answer = .finished d)
    (hOthers : ∀ u, u ≠ t → w.crew.isIn Call.inside u = false)
    (hHolder : holder (w.deeds ++ [d]) = o.object.owner?)
    (hRight : d.Answers (replay cells w.deeds))
    (hCells : o.object.cells = d.apply (replay cells w.deeds)) :
    Sound cells ((w.deeds ++ [d]).filterMap Deed.entrance?) (w.look t o) := by
  have hDeeds : (w.look t o).deeds = w.deeds ++ [d] := by
    rw [w.deeds_look t o, hAnswer]
    rfl
  have hNobody : ∀ u, (w.look t o).crew.isIn Call.inside u = false := by
    intro u
    show (w.crew.look t o.answer.sleep?).isIn Call.inside u = false
    by_cases hSelf : u = t
    · subst hSelf
      rw [Crew.isIn_look_self, hAnswer]
      rfl
    · rw [Crew.isIn_look_of_ne hSelf]
      exact hOthers u hSelf
  refine ⟨hSetUp, .outside ?_ hNobody ?_, ?_, ?_⟩
  · rw [hDeeds]
    exact hHolder
  · rw [hDeeds, replay_concat]
    exact hCells
  · rw [hDeeds, serial_concat]
    exact ⟨hSerial, hRight⟩
  · rw [hDeeds, pending_of_outside hNobody, Option.toList_none, List.append_nil]

/-- A task enters the free lock. -/
theorem Sound.enter (h : Sound cells entries w) {p : Purpose α} (hAnswer : o.answer = p.begin t)
    (hSetUp : SetUp (w.look t o)) (hFree : w.object.owner? = none)
    (hOwner : o.object.owner? = some t) (hCells : o.object.cells = w.object.cells) :
    Sound cells (entries ++ [(t, p)]) (w.look t o) := by
  cases h.stage with
  | inside hOwned =>
    rw [hFree] at hOwned
    cases hOwned
  | outside hHolder hNobody hReplay =>
    have hEntries := h.entries_eq
    rw [pending_of_outside hNobody, Option.toList_none, List.append_nil] at hEntries
    cases p with
    | hold =>
      have hSame : entries ++ [(t, .hold)] =
          (w.deeds ++ [Deed.held t]).filterMap Deed.entrance? := by
        rw [hEntries, List.filterMap_append]
        rfl
      rw [hSame]
      refine sound_of_ended hSetUp h.serial hAnswer (fun u _ => hNobody u) ?_ trivial ?_
      · rw [holder_concat]
        exact hOwner.symm
      · exact hCells.trans hReplay
    | access cell a =>
      have hDeeds : (w.look t o).deeds = w.deeds := by
        rw [w.deeds_look t o, hAnswer]
        exact List.append_nil _
      have hAsleep : (w.look t o).crew.asleep t = some ⟨.reading cell a, some 0⟩ := by
        show (w.crew.look t o.answer.sleep?).asleep t = _
        rw [Crew.asleep_look_self, hAnswer]
        rfl
      refine ⟨hSetUp, .inside hOwner ?_ hAsleep ?_ ?_, ?_, ?_⟩
      · rw [hDeeds, hHolder, hFree]
      · rw [hDeeds]
        exact hCells.trans hReplay
      · intro u hNe
        exact (Crew.isIn_look_of_ne hNe _).trans (hNobody u)
      · rw [hDeeds]
        exact h.serial
      · rw [hDeeds, pending_of_inside hOwner hAsleep rfl, hEntries]
        rfl

/-- The task that holds the lock leaves it. -/
theorem Sound.leave (h : Sound cells entries w)
    (hAnswer : o.answer = .finished (.released t (.ok ())))
    (hSetUp : SetUp (w.look t o)) (hOut : w.crew.isIn Call.inside t = false)
    (hHeld : w.object.owner? = some t)
    (hOwner : o.object.owner? = none) (hCells : o.object.cells = w.object.cells) :
    Sound cells entries (w.look t o) := by
  cases h.stage with
  | @inside u s hOwned _ hAsleep hSees =>
    rw [hHeld] at hOwned
    cases hOwned
    rw [Crew.isIn_of_some hAsleep, hSees.inside] at hOut
    cases hOut
  | outside hHolder hNobody hReplay =>
    have hSame : entries =
        (w.deeds ++ [Deed.released t (.ok ())]).filterMap Deed.entrance? := by
      rw [h.entries_eq, pending_of_outside hNobody, List.filterMap_append]
      rfl
    rw [hSame]
    refine sound_of_ended hSetUp h.serial hAnswer (fun u _ => hNobody u) ?_ trivial ?_
    · rw [holder_concat]
      exact hOwner.symm
    · exact hCells.trans hReplay

/-- What a task inside an access finds. -/
theorem Stage.sees (h : Stage cells w) {s : Sleep (Call α)} (hAsleep : w.crew.asleep t = some s)
    (hInside : s.call.inside = true) :
    w.object.owner? = some t ∧ holder w.deeds = none ∧
      s.call.Sees (replay cells w.deeds) w.object.cells ∧
      ∀ u, u ≠ t → w.crew.isIn Call.inside u = false := by
  cases h with
  | outside _ hNobody =>
    have hOut := hNobody t
    rw [Crew.isIn_of_some hAsleep, hInside] at hOut
    cases hOut
  | @inside u s' hOwned hHolder hAsleep' hSees hOthers =>
    by_cases hSelf : t = u
    · subst hSelf
      rw [hAsleep] at hAsleep'
      cases hAsleep'
      exact ⟨hOwned, hHolder, hSees, hOthers⟩
    · have hOut := hOthers t hSelf
      rw [Crew.isIn_of_some hAsleep, hInside] at hOut
      cases hOut

/-- A task goes on inside an access. -/
theorem Sound.goOn (h : Sound cells entries w) {s : Sleep (Call α)} {k : Call α}
    {limit : Option Ticks} (hAsleep : w.crew.asleep t = some s)
    (hAnswer : o.answer = .suspended k limit) {p : Purpose α}
    (hPurpose : s.call.purpose? = some p) (hPurpose' : k.purpose? = some p)
    (hSetUp : SetUp (w.look t o)) (hOwner : o.object.owner? = w.object.owner?)
    (hSees : s.call.Sees (replay cells w.deeds) w.object.cells →
      k.Sees (replay cells w.deeds) o.object.cells) :
    Sound cells entries (w.look t o) := by
  have hInside : s.call.inside = true := by
    rw [Call.inside, hPurpose]
    rfl
  obtain ⟨hOwned, hHolder, hSeen, hOthers⟩ := h.stage.sees hAsleep hInside
  have hDeeds : (w.look t o).deeds = w.deeds := by
    rw [w.deeds_look t o, hAnswer]
    exact List.append_nil _
  have hAsleep' : (w.look t o).crew.asleep t = some ⟨k, limit⟩ := by
    show (w.crew.look t o.answer.sleep?).asleep t = _
    rw [Crew.asleep_look_self, hAnswer]
    rfl
  have hOwned' : (w.look t o).object.owner? = some t := hOwner.trans hOwned
  refine ⟨hSetUp, .inside hOwned' (hDeeds ▸ hHolder) hAsleep' ?_ ?_, hDeeds ▸ h.serial, ?_⟩
  · rw [hDeeds]
    exact hSees hSeen
  · intro u hNe
    exact (Crew.isIn_look_of_ne hNe _).trans (hOthers u hNe)
  · rw [hDeeds, pending_of_inside hOwned' hAsleep' hPurpose', h.entries_eq,
      pending_of_inside hOwned hAsleep hPurpose]

/-- A task ends its access and releases the lock. -/
theorem Sound.finish (h : Sound cells entries w) {cell : Nat} {a : Access α}
    {answer : Except Fault α} {limit : Option Ticks}
    (hAsleep : w.crew.asleep t = some ⟨.releasing cell a answer, limit⟩)
    (hAnswer : o.answer = .finished (.accessed t cell a answer))
    (hSetUp : SetUp (w.look t o)) (hOwner : o.object.owner? = none)
    (hCells : o.object.cells = w.object.cells) : Sound cells entries (w.look t o) := by
  obtain ⟨hOwned, hHolder, ⟨hNow, hRight⟩, hOthers⟩ := h.stage.sees hAsleep rfl
  have hSame : entries =
      (w.deeds ++ [Deed.accessed t cell a answer]).filterMap Deed.entrance? := by
    rw [h.entries_eq, pending_of_inside hOwned hAsleep rfl, List.filterMap_append]
    rfl
  rw [hSame]
  refine sound_of_ended hSetUp h.serial hAnswer hOthers ?_ hRight ?_
  · rw [holder_concat]
    exact hHolder.trans hOwner.symm
  · exact hCells.trans hNow

-- ---------------------------------------------------------------------------
-- Looks
-- ---------------------------------------------------------------------------

/-- Where the lock has the same owner as before, or none, it was not entered. -/
theorem entry_of_not_entered {w w' : World α}
    (h : w'.object.owner? = w.object.owner? ∨ w'.object.owner? = none) (t : TaskId) :
    entrance? w w' t = none := by
  have hNot : ¬ (w.object.owner? ≠ some t ∧ w'.object.owner? = some t) := by
    rintro ⟨hBefore, hAfter⟩
    rcases h with hSame | hFree
    · exact hBefore (hSame ▸ hAfter)
    · rw [hFree] at hAfter
      cases hAfter
  rw [entrance?, if_neg hNot]

theorem entry_of_begin {p : Purpose α} (hAnswer : o.answer = p.begin t)
    (hFree : w.object.owner? = none) (hOwner : o.object.owner? = some t) :
    entrance? w (w.look t o) t = some (t, p) := by
  have hAsleep : (w.look t o).crew.asleep t = (p.begin t).sleep? := by
    show (w.crew.look t o.answer.sleep?).asleep t = _
    rw [Crew.asleep_look_self, hAnswer]
  have hEntered : w.object.owner? ≠ some t ∧ (w.look t o).object.owner? = some t :=
    ⟨by rw [hFree]; exact nofun, hOwner⟩
  rw [entrance?, if_pos hEntered, hAsleep]
  cases p <;> rfl

/-- A look after which the task is outside, and which has ended no entry and no access. -/
def Quiet : Round (Call α) (Deed α) → Prop
  | .finished d => d.idle = true
  | .suspended k _ => k.inside = false

theorem Quiet.sleep {a : Round (Call α) (Deed α)} (h : Quiet a) :
    ∀ s ∈ a.sleep?, s.call.inside = false := by
  cases a with
  | finished d => exact forall_mem_none
  | suspended k limit =>
    rintro _ ⟨⟩
    exact h

theorem Quiet.deed {a : Round (Call α) (Deed α)} (h : Quiet a) :
    ∀ d ∈ a.deed?, d.idle = true := by
  cases a with
  | finished d =>
    rintro _ ⟨⟩
    exact h
  | suspended k limit => exact forall_mem_none

theorem quiet_afterSetUp (t : TaskId) (answer : Except InitError Unit) (next : Option (Use α)) :
    Quiet (afterSetUp t answer next) := by
  cases next <;> rfl

/-- All that a look of a task does to the lock and the cells. -/
inductive Effect (w : World α) (t : TaskId) (o : Outcome (Shared α) (Round (Call α) (Deed α))) :
    Prop
  /-- The task stays outside and neither enters the lock nor leaves it. -/
  | passes :
      w.crew.isIn Call.inside t = false → Quiet o.answer →
      o.object.owner? = w.object.owner? → o.object.cells = w.object.cells → Effect w t o
  | enters {p : Purpose α} :
      w.object.owner? = none → o.answer = p.begin t → o.object.owner? = some t →
      o.object.cells = w.object.cells → Effect w t o
  | leaves :
      w.crew.isIn Call.inside t = false → w.object.owner? = some t →
      o.answer = .finished (.released t (.ok ())) → o.object.owner? = none →
      o.object.cells = w.object.cells → Effect w t o
  /-- The task goes on inside its access. -/
  | goesOn {s : Sleep (Call α)} {k : Call α} {limit : Option Ticks} {p : Purpose α} :
      w.crew.asleep t = some s → s.call.purpose? = some p →
      o.answer = .suspended k limit → k.purpose? = some p →
      o.object.owner? = w.object.owner? →
      (∀ before, s.call.Sees before w.object.cells → k.Sees before o.object.cells) →
      Effect w t o
  /-- The task ends its access and releases the lock. -/
  | ends {cell : Nat} {a : Access α} {answer : Except Fault α} {limit : Option Ticks} :
      w.crew.asleep t = some ⟨.releasing cell a answer, limit⟩ →
      o.answer = .finished (.accessed t cell a answer) → o.object.owner? = none →
      o.object.cells = w.object.cells → Effect w t o

/-- A task that has yet to get the lock is not inside an access. -/
theorem inside_of_use {k : Call α} {v : Use α} (h : k.use? = some v) : k.inside = false := by
  cases k with
  | seeking | locking => rfl
  | placing | publishing | reading | writing | releasing => cases h

theorem isIn_of_from {from? : Option (Call α)} (hFrom : (w.crew.asleep t).map (·.call) = from?)
    (hOut : ∀ k ∈ from?, k.inside = false) : w.crew.isIn Call.inside t = false := by
  subst hFrom
  cases hAsleep : w.crew.asleep t with
  | none => exact Crew.isIn_of_none hAsleep
  | some s =>
    rw [Crew.isIn_of_some hAsleep]
    refine hOut s.call ?_
    rw [hAsleep]
    rfl

theorem owner_of_none (h : w.object.lock.mutex = none) : w.object.owner? = none := by
  rw [Shared.owner?, h]
  rfl

theorem owner_of_some {m : Mutex} (h : w.object.lock.mutex = some m) :
    w.object.owner? = m.owner := by
  rw [Shared.owner?, h]
  rfl

theorem effect_of_turn (hSetUp : SetUp w) (hStage : Stage cells w)
    (hTurn : Turn checks t w.object ((w.crew.asleep t).map (·.call)) o) : Effect w t o := by
  generalize hFrom : (w.crew.asleep t).map (·.call) = from? at hTurn
  cases hTurn with
  | refused | unready | claimed | sought => exact .passes (isIn_of_from hFrom nofun) rfl rfl rfl
  | @waiting k hNone =>
    have hOut : w.crew.isIn Call.inside t = false := by
      rw [← Bool.not_eq_true]
      intro hIn
      have hFree := owner_of_none hNone
      rw [hStage.owner hIn] at hFree
      cases hFree
    obtain ⟨s, hAsleep, rfl⟩ := Option.map_eq_some_iff.mp hFrom
    exact .passes hOut (by rwa [Crew.isIn_of_some hAsleep] at hOut) rfl rfl
  | placed =>
    refine .passes (isIn_of_from hFrom ?_) rfl rfl rfl
    rintro _ ⟨⟩
    rfl
  | givenBack =>
    refine .passes (isIn_of_from hFrom ?_) (quiet_afterSetUp ..) rfl rfl
    rintro _ ⟨⟩
    rfl
  | @published m =>
    obtain ⟨⟨call, limit⟩, hAsleep, rfl⟩ := Option.map_eq_some_iff.mp hFrom
    obtain ⟨-, hNone, rfl⟩ := hSetUp.publishing t _ _ _ hAsleep
    refine .passes (isIn_of_from hFrom ?_) (quiet_afterSetUp ..) (owner_of_none hNone).symm rfl
    rintro _ ⟨⟩
    rfl
  | @looked _ u m look hMutex hUse hLook =>
    have hLooked := looked_of_turn (hSetUp.ready m hMutex).2 hLook
    have hOwner := owner_of_some hMutex
    have hOut : w.crew.isIn Call.inside t = false :=
      isIn_of_from hFrom fun k hk => inside_of_use (hUse k hk)
    generalize hAfter : look.object = m' at hLooked
    generalize hNext : u.next t look.answer = next at hLooked
    have hAfter' : (w.object.atMutex look (u.next t)).object.owner? = m'.owner := by
      rw [← hAfter]
      rfl
    cases hLooked with
    | entered hFree => exact .enters (hOwner.trans hFree) hNext hAfter' rfl
    | left hHeld => exact .leaves hOut (hOwner.trans hHeld) hNext hAfter' rfl
    | blocked | faulted | refused =>
      refine .passes hOut ?_ (hAfter'.trans hOwner.symm) rfl
      show Quiet (Use.next t _ look.answer)
      rw [hNext]
      rfl
  | @read cell a =>
    obtain ⟨⟨call, limit⟩, hAsleep, rfl⟩ := Option.map_eq_some_iff.mp hFrom
    refine .goesOn hAsleep rfl rfl rfl rfl ?_
    intro before hNow
    exact ⟨hNow, congrFun hNow cell⟩
  | @wrote cell a old =>
    obtain ⟨⟨call, limit⟩, hAsleep, rfl⟩ := Option.map_eq_some_iff.mp hFrom
    refine .goesOn hAsleep rfl rfl rfl rfl ?_
    rintro before ⟨hNow, rfl⟩
    refine ⟨?_, rfl⟩
    show Function.update w.object.cells cell _ = _
    rw [hNow]
    rfl
  | @left cell a answer m hMutex =>
    obtain ⟨⟨call, limit⟩, hAsleep, rfl⟩ := Option.map_eq_some_iff.mp hFrom
    have hHeld : m.owner = some t := (owner_of_some hMutex).symm.trans (hStage.sees hAsleep rfl).1
    rw [unlock_of_owner (hSetUp.ready m hMutex).2 hHeld]
    exact .ends hAsleep rfl rfl rfl

theorem sound_look (h : Sound cells entries w)
    (hTurn : Turn checks t w.object ((w.crew.asleep t).map (·.call)) o) :
    Sound cells (entries ++ (entrance? w (w.look t o) t).toList) (w.look t o) := by
  have hSetUp := setUp_look h.setUp hTurn
  have hStay : (w.look t o).object.owner? = w.object.owner? ∨
      (w.look t o).object.owner? = none →
      entries ++ (entrance? w (w.look t o) t).toList = entries := by
    intro hOwner
    rw [entry_of_not_entered hOwner, Option.toList_none, List.append_nil]
  cases effect_of_turn h.setUp h.stage hTurn with
  | passes hOut hQuiet hOwner hCells =>
    rw [hStay (Or.inl hOwner)]
    exact h.pass t o.tasks hSetUp hOut hQuiet.sleep hOwner hCells hQuiet.deed
  | enters hFree hAnswer hOwner hCells =>
    rw [entry_of_begin hAnswer hFree hOwner]
    exact h.enter hAnswer hSetUp hFree hOwner hCells
  | leaves hOut hHeld hAnswer hOwner hCells =>
    rw [hStay (Or.inr hOwner)]
    exact h.leave hAnswer hSetUp hOut hHeld hOwner hCells
  | goesOn hAsleep hPurpose hAnswer hPurpose' hOwner hSees =>
    rw [hStay (Or.inl hOwner)]
    exact h.goOn hAsleep hAnswer hPurpose hPurpose' hSetUp hOwner (hSees _)
  | ends hAsleep hAnswer hOwner hCells =>
    rw [hStay (Or.inr hOwner)]
    exact h.finish hAsleep hAnswer hSetUp hOwner hCells

end GlobalLock

end TaskSync
