import Mathlib.Data.List.Chain
import TaskSync.Proofs.Runs.History
import TaskSync.Proofs.Signal.Futures

/-!
# TaskSync — watches miss no change

A watch is in one operation at a time: it is lent to a blocking wait or to an
asynchronous one, which has it until it has ended or, if it is asynchronous, is
dropped (`Signal.Lends`). So while an operation goes on nobody else tells its
watch anything, and what the operation keeps of the watch is what the watch has
last been given (`Signal.Lent`). From there on

* who is on the wait list waits with what its watch was last given, which is the
  present value (`Signal.lined_fresh`, `Signal.Lined.step`);
* an operation tells its watch the present value if that is news to the watch, and
  otherwise nothing (`Signal.Honest`);
* no two values that a watch is given one after the other are equal
  (`Signal.Chronicle`).

The type's own `==` need not be reflexive, symmetric or transitive for that.

Main result:

* `Signal.informed_run` — so it is in every state of every run.
-/

namespace TaskSync

namespace Signal

variable {α : Type}

-- ---------------------------------------------------------------------------
-- Lent watches
-- ---------------------------------------------------------------------------

/-- Blocking and asynchronous operations on a signal. -/
abbrev Execution (α : Type) := Executor (Watched α) (Call α) (Deed α) (Future α)

/-- Who may be in an operation that goes on: a task, or an asynchronous operation by its number. -/
abbrev Holder := TaskId ⊕ Nat

/-- The wait that somebody is in, with what it has kept of its watch. -/
def held (e : Execution α) : Holder → Option (Future α)
  | .inl t => (e.world.crew.asleep t).map fun s => ⟨s.call.watch, some s.call.wait.request⟩
  | .inr f => (e.futures f).map (·.op)

theorem held_task (e : Execution α) (t : TaskId) : held e (.inl t) =
    (e.world.crew.asleep t).map fun s => ⟨s.call.watch, some s.call.wait.request⟩ := rfl

theorem held_future (e : Execution α) (f : Nat) : held e (.inr f) = (e.futures f).map (·.op) := rfl

theorem held_of_asleep {e : Execution α} {t : TaskId} {s : Sleep (Call α)}
    (hAsleep : e.world.crew.asleep t = some s) :
    held e (.inl t) = some ⟨s.call.watch, some s.call.wait.request⟩ := by
  rw [held_task, hAsleep]
  rfl

theorem held_of_pending {e : Execution α} {f : Nat} {p : Pending (Future α)}
    (hFuture : e.futures f = some p) : held e (.inr f) = some p.op := by
  rw [held_future, hFuture]
  rfl

theorem held_set_of_ne {e : Execution α} {k : Holder} {f : Nat} (hNe : k ≠ .inr f)
    (p? : Option (Pending (Future α))) : held (e.set f p?) k = held e k := by
  cases k with
  | inl t => rfl
  | inr f' =>
    have hNe' : f' ≠ f := fun hSame => hNe (hSame ▸ rfl)
    rw [held_future, held_future, Executor.futures_set, Function.update_of_ne hNe']

theorem held_set_self (e : Execution α) (f : Nat) (p? : Option (Pending (Future α))) :
    held (e.set f p?) (.inr f) = p?.map (·.op) := by
  rw [held_future, Executor.futures_set, Function.update_self]

/-- A watch that nobody is in a wait with. -/
def Free (e : Execution α) (watch : Nat) : Prop := ∀ k f, held e k = some f → f.watch ≠ watch

/-- Operations begin on watches that are free, a poll is of an operation that has begun, and
nobody is given up in the middle of a call. -/
def Lends (e : Execution α) : Executor.Move Request (Act α) (Future α) → Prop
  | .other (.start _ _ r) => Free e r.watch
  | .other (.act (.glance watch)) => Free e watch
  | .other (.act (.poll ..)) | .other (.abandon _) => False
  | .create _ f => f.change = none ∧ Free e f.watch
  | .other (.resume ..) | .other (.act (.set _)) | .poll .. | .drop _ => True

/-- A watch is in one wait at a time, and what the wait has kept of it is what it has seen. -/
structure Lent (e : Execution α) : Prop where
  alone : ∀ k k' f f', held e k = some f → held e k' = some f' → f.watch = f'.watch → k = k'
  current : ∀ k f c, held e k = some f → f.change = some c → c.seen = e.world.object.seen f.watch

variable {e e' : Execution α}

/-- What a wait looks for is a value other than the one that its watch has seen. -/
theorem Lent.seen_getD (h : Lent e) {k : Holder} {f : Future α} (hHeld : held e k = some f) :
    (f.change.getD ⟨e.world.object.seen f.watch⟩).seen = e.world.object.seen f.watch := by
  cases hChange : f.change with
  | none => rfl
  | some c => exact h.current k f c hHeld hChange

/-- Waits may end where no watch is told anything. -/
theorem Lent.mono (h : Lent e) (hHeld : ∀ k f, held e' k = some f → held e k = some f)
    (hSeen : e'.world.object.seen = e.world.object.seen) : Lent e' where
  alone k k' f f' hk hk' hSame := h.alone k k' f f' (hHeld k f hk) (hHeld k' f' hk') hSame
  current k f c hk hChange := by
    rw [hSeen]
    exact h.current k f c (hHeld k f hk) hChange

/-- Whoever has a watch to themselves, if anybody, may go on with it. -/
theorem Lent.frame (h : Lent e) (holder : Option Holder) (watch : Nat)
    (hOthers : ∀ k, k ∉ holder → held e' k = held e k)
    (hAlone : ∀ k, k ∉ holder → ∀ f, held e k = some f → f.watch ≠ watch)
    (hSeen : ∀ i ≠ watch, e'.world.object.seen i = e.world.object.seen i)
    (hNew : ∀ k ∈ holder, ∀ f, held e' k = some f → f.watch = watch ∧
      ∀ c, f.change = some c → c.seen = e'.world.object.seen watch) : Lent e' where
  alone := by
    intro k k' f f' hk hk' hSame
    have hOnly : ∀ k f, held e' k = some f → f.watch = watch → k ∈ holder := by
      intro k f hk hWatch
      by_contra hOther
      rw [hOthers k hOther] at hk
      exact hAlone k hOther f hk hWatch
    by_cases hHolder : k ∈ holder
    · have hHolder' := hOnly k' f' hk' (hSame ▸ (hNew k hHolder f hk).1)
      exact Option.some.inj (hHolder.symm.trans hHolder')
    · by_cases hHolder' : k' ∈ holder
      · exact absurd (hOnly k f hk (hSame ▸ (hNew k' hHolder' f' hk').1)) hHolder
      · rw [hOthers k hHolder] at hk
        rw [hOthers k' hHolder'] at hk'
        exact h.alone k k' f f' hk hk' hSame
  current := by
    intro k f c hk hChange
    by_cases hHolder : k ∈ holder
    · obtain ⟨hWatch, hCurrent⟩ := hNew k hHolder f hk
      rw [hWatch]
      exact hCurrent c hChange
    · rw [hOthers k hHolder] at hk
      rw [hSeen f.watch (hAlone k hHolder f hk)]
      exact h.current k f c hk hChange

-- ---------------------------------------------------------------------------
-- What watches are told
-- ---------------------------------------------------------------------------

/-- The watch of an operation that has ended, and what the operation gave it. -/
def Deed.answer? : Deed α → Option (Nat × Option α)
  | .waited _ watch _ answer | .glanced watch answer => some (watch, answer)
  | .polled watch value => some (watch, some value)
  | .set _ => none

/-- What an operation that has ended gave a watch. -/
def Deed.given? (watch : Nat) (d : Deed α) : Option α :=
  match d.answer? with
  | some (i, answer) => if i = watch then answer else none
  | none => none

/-- All that a watch has been given, in order. -/
def given (log : List (Record (Watched α) (Deed α))) (watch : Nat) : List α :=
  log.filterMap fun r => r.deed.given? watch

theorem given?_of_answer {d : Deed α} {i : Nat} {answer : Option α}
    (hAnswer : d.answer? = some (i, answer)) (watch : Nat) :
    d.given? watch = if i = watch then answer else none := by
  rw [Deed.given?, hAnswer]

theorem given_logged (w : World (Watched α) (Call α) (Deed α)) (ended : Option (Deed α))
    (watch : Nat) :
    given (w.logged ended) watch =
      given w.log watch ++ (ended.bind (Deed.given? watch)).toList := by
  cases ended with
  | none => rw [World.logged_none, Option.bind_none, Option.toList_none, List.append_nil]
  | some d =>
    rw [World.logged_some, given, List.filterMap_append, Option.bind_some]
    cases hResult : d.given? watch <;> simp [given, hResult]

variable [BEq α]

/-- An operation finds a value that is news to its watch and gives it to the watch, or it finds
none and leaves the watch alone. -/
def Answered (x x' : Watched α) (watch : Nat) : Option α → Prop
  | some v => v = x.signal.value ∧ (∀ u ∈ x.seen watch, (u == v) = false) ∧
      x'.seen = Function.update x.seen watch (some v)
  | none => (∃ u ∈ x.seen watch, (u == x.signal.value) = true) ∧ x'.seen = x.seen

/-- A step gives no watch anything but the answer of the operation that it ends, and ends no
wait without an answer before the time. -/
structure Honest (x x' : Watched α) (ended : Option (Deed α)) : Prop where
  answered : ∀ watch answer, ended.bind Deed.answer? = some (watch, answer) →
    Answered x x' watch answer
  kept : ended.bind Deed.answer? = none → x'.seen = x.seen
  last : ∀ t watch last, ended = some (.waited t watch last none) → last = true

theorem isNews_eq_false_iff {c : Change α} {value : α} :
    c.isNews value = false ↔ ∃ u ∈ c.seen, (u == value) = true := by
  obtain ⟨seen⟩ := c
  rw [Change.isNews, Bool.not_eq_false']
  cases seen with
  | none => exact ⟨nofun, nofun⟩
  | some u => exact ⟨fun h => ⟨u, rfl, h⟩, fun ⟨_, hu, h⟩ => Option.some.inj hu ▸ h⟩

theorem isNews_eq_true_iff {c : Change α} {value : α} :
    c.isNews value = true ↔ ∀ u ∈ c.seen, (u == value) = false := by
  rw [← Bool.not_eq_false, isNews_eq_false_iff]
  simp

variable {x x' : Watched α} {t : TaskId} {watch : Nat} {c : Change α} {ended : Option (Deed α)}

/-- A step that ends nothing and gives no watch anything is honest. -/
theorem Honest.of_none (hSeen : x'.seen = x.seen) : Honest x x' none :=
  ⟨nofun, fun _ => hSeen, nofun⟩

theorem Turn.honest {o : Outcome (Watched α) (Round (Call α) (Deed α))}
    (hTurn : Turn t x watch c o) (hSeen : c.seen = x.seen watch) :
    Honest x o.object o.answer.deed? := by
  cases hTurn with
  | told hNews =>
    rw [isNews_eq_true_iff, hSeen] at hNews
    refine ⟨?_, nofun, nofun⟩
    rintro _ _ ⟨⟩
    exact ⟨rfl, hNews, rfl⟩
  | joined | crowded => exact .of_none rfl
  | gaveUp hNoNews =>
    rw [isNews_eq_false_iff, hSeen] at hNoNews
    refine ⟨?_, nofun, ?_⟩
    · rintro _ _ ⟨⟩
      exact ⟨hNoNews, rfl⟩
    · rintro _ _ _ ⟨⟩
      rfl

theorem Deal.honest {a : Act α} {o : Outcome (Watched α) (Option (Deed α))} (hDeal : Deal x a o)
    (hSeen : ∀ watch change v, a = .poll watch change v →
      (change.getD ⟨x.seen watch⟩).seen = x.seen watch) :
    Honest x o.object o.answer := by
  cases hDeal with
  | kept | changed => exact ⟨nofun, fun _ => rfl, nofun⟩
  | noNews hNoNews =>
    refine ⟨?_, nofun, nofun⟩
    rintro _ _ ⟨⟩
    exact ⟨isNews_eq_false_iff.mp hNoNews, rfl⟩
  | news hNews =>
    refine ⟨?_, nofun, nofun⟩
    rintro _ _ ⟨⟩
    exact ⟨rfl, isNews_eq_true_iff.mp hNews, rfl⟩
  | pending => exact .of_none rfl
  | polled hNews =>
    rw [isNews_eq_true_iff, hSeen _ _ _ rfl] at hNews
    refine ⟨?_, nofun, nofun⟩
    rintro _ _ ⟨⟩
    exact ⟨rfl, hNews, rfl⟩

-- ---------------------------------------------------------------------------
-- What a watch has been given so far
-- ---------------------------------------------------------------------------

/-- What a watch has seen is the last of what it has been given, in which no value equals the
next. -/
def Chronicle (log : List (Record (Watched α) (Deed α))) (x : Watched α) : Prop :=
  ∀ watch, x.seen watch = (given log watch).getLast? ∧
    (given log watch).IsChain fun u v => (u == v) = false

/-- What a watch has seen after a step is what the step gave it, or what it had seen before. -/
theorem Honest.seen (h : Honest x x' ended) (watch : Nat) :
    x'.seen watch = (ended.bind (Deed.given? watch)).or (x.seen watch) := by
  cases ended with
  | none => rw [h.kept rfl]; rfl
  | some d =>
    rw [Option.bind_some]
    cases hAnswer : d.answer? with
    | none => rw [h.kept hAnswer, Deed.given?, hAnswer]; rfl
    | some given =>
      obtain ⟨i, answer⟩ := given
      have hAnswered := h.answered i answer hAnswer
      rw [given?_of_answer hAnswer]
      cases answer with
      | none =>
        rw [hAnswered.2, ite_self]
        rfl
      | some v =>
        rw [hAnswered.2.2]
        by_cases hSame : i = watch
        · subst hSame
          rw [Function.update_self, if_pos rfl]
          rfl
        · rw [Function.update_of_ne (Ne.symm hSame), if_neg hSame]
          rfl

/-- What a step gives a watch is not what the watch had seen. -/
theorem Honest.differs (h : Honest x x' ended) {u v : α}
    (hGiven : ended.bind (Deed.given? watch) = some v) (hSeen : x.seen watch = some u) :
    (u == v) = false := by
  obtain ⟨d, rfl, hResult⟩ := Option.bind_eq_some_iff.mp hGiven
  cases hAnswer : d.answer? with
  | none =>
    rw [Deed.given?, hAnswer] at hResult
    cases hResult
  | some given =>
    obtain ⟨i, answer⟩ := given
    rw [given?_of_answer hAnswer] at hResult
    obtain ⟨rfl, rfl⟩ := Option.ite_none_right_eq_some.mp hResult
    exact (h.answered i (some v) hAnswer).2.1 u hSeen

theorem Chronicle.step {w : World (Watched α) (Call α) (Deed α)} (h : Chronicle w.log w.object)
    (hHonest : Honest w.object x' ended) : Chronicle (w.logged ended) x' := by
  intro watch
  obtain ⟨hSeen, hChain⟩ := h watch
  rw [given_logged, hHonest.seen watch]
  cases hGiven : ended.bind (Deed.given? watch) with
  | none => simpa using ⟨hSeen, hChain⟩
  | some v =>
    refine ⟨by simp, hChain.append (.singleton v) ?_⟩
    rintro u hu _ ⟨⟩
    exact hHonest.differs hGiven (hSeen.trans hu)

-- ---------------------------------------------------------------------------
-- Steps of an execution
-- ---------------------------------------------------------------------------

/-- A look of a task tells no watch but its own anything, and a call that goes on keeps what its
watch has seen. -/
theorem Turn.keeps {o : Outcome (Watched α) (Round (Call α) (Deed α))}
    (hTurn : Turn t x watch c o) (hSeen : c.seen = x.seen watch) :
    (∀ i ≠ watch, o.object.seen i = x.seen i) ∧
    ∀ s, o.answer.sleep? = some s →
      s.call.watch = watch ∧ s.call.wait.request.seen = o.object.seen watch := by
  cases hTurn with
  | told => exact ⟨fun _ hi => Function.update_of_ne hi .., nofun⟩
  | joined hRequest | crowded hRequest =>
    refine ⟨fun _ _ => rfl, ?_⟩
    rintro _ ⟨⟩
    exact ⟨rfl, hRequest ▸ hSeen⟩
  | gaveUp => exact ⟨fun _ _ => rfl, nofun⟩

/-- So does a step that does not wait. -/
theorem Deal.keeps {a : Act α} {o : Outcome (Watched α) (Option (Deed α))} (hDeal : Deal x a o) :
    match a with
    | .set _ => o.object.seen = x.seen
    | .glance watch | .poll watch .. => ∀ i ≠ watch, o.object.seen i = x.seen i := by
  cases hDeal with
  | kept | changed => rfl
  | noNews | pending => exact fun _ _ => rfl
  | news | polled => exact fun _ hi => Function.update_of_ne hi ..

theorem held_move (m : Move Request (Act α)) (f : Nat) :
    held (e.move protocol m) (.inr f) = held e (.inr f) := by
  rw [held_future, held_future, Executor.move, Option.map_map]
  rfl

/-- A look of a task with a watch that nobody else has. -/
theorem Lent.look (h : Lent e) {m : Move Request (Act α)}
    {o : Outcome (Watched α) (Round (Call α) (Deed α))}
    (hStep : e.world.step protocol m = e.world.look t o)
    (hTurn : Turn t e.world.object watch c o) (hSeen : c.seen = e.world.object.seen watch)
    (hAlone : ∀ k, k ≠ .inl t → ∀ f, held e k = some f → f.watch ≠ watch) :
    Lent (e.move protocol m) := by
  obtain ⟨hOthers, hSleep⟩ := hTurn.keeps hSeen
  have hWorld : (e.move protocol m).world = e.world.look t o := hStep
  refine h.frame (some (.inl t)) watch ?_ ?_ ?_ ?_
  · rintro (u | f) hNot
    · have hNe : u ≠ t := by
        rintro rfl
        exact hNot rfl
      show ((e.move protocol m).world.crew.asleep u).map _ = _
      rw [hWorld]
      show (((e.world.crew.look t _).notify _).asleep u).map _ = _
      exact congrArg _ (Crew.asleep_look_of_ne hNe _)
    · exact held_move m f
  · exact fun k hNot => hAlone k fun hSelf => hNot (hSelf ▸ rfl)
  · rw [hWorld]
    exact hOthers
  · rintro _ ⟨⟩ f hk
    have hk : ((e.move protocol m).world.crew.asleep t).map _ = some f := hk
    rw [hWorld] at hk ⊢
    obtain ⟨s, hs, rfl⟩ := Option.map_eq_some_iff.mp hk
    obtain ⟨hWatch, hCurrent⟩ := hSleep s ((Crew.asleep_look_self _).symm.trans hs)
    refine ⟨hWatch, ?_⟩
    rintro _ ⟨⟩
    exact hCurrent

/-- A poll of an asynchronous wait. -/
theorem Lent.poll (h : Lent e) {f : Nat} {p : Pending (Future α)} (hFuture : e.futures f = some p)
    (waker : WakerId) : Lent (e.step protocol (.poll f waker)) := by
  have hHeld := held_of_pending hFuture
  have hDeal := deal_act (.poll p.op.watch p.op.change waker) e.world.object
  rw [Executor.step, hFuture]
  show Lent ((e.move protocol (.act (.poll p.op.watch p.op.change waker))).set f _)
  generalize hMoved : e.move protocol (.act (.poll p.op.watch p.op.change waker)) = e'
  have hObject : e'.world.object =
      (protocol.act (.poll p.op.watch p.op.change waker) e.world.object).object := hMoved ▸ rfl
  have hOthers : ∀ k, held e' k = held e k := by
    rintro (t | f')
    · exact hMoved ▸ rfl
    · exact hMoved ▸ held_move ..
  refine h.frame (some (.inr f)) p.op.watch ?_ ?_ ?_ ?_
  · exact fun k hNot => (held_set_of_ne (fun hSame => hNot (hSame ▸ rfl)) _).trans (hOthers k)
  · exact fun k hNot f' hk hWatch => hNot (h.alone _ _ _ _ hHeld hk hWatch.symm ▸ rfl)
  · rw [Executor.world_set, hObject]
    exact hDeal.keeps
  · rintro _ ⟨⟩ f' hk
    rw [Executor.world_set, hObject]
    rw [held_set_self] at hk
    generalize protocol.act (.poll p.op.watch p.op.change waker) e.world.object = o at hDeal hk
    cases hAnswer : o.answer with
    | none =>
      rw [hAnswer] at hk
      obtain rfl := Option.some.inj hk
      refine ⟨rfl, ?_⟩
      have hHonest := hDeal.honest (by rintro _ _ _ ⟨⟩; exact h.seen_getD hHeld)
      have hKept : o.object.seen = e.world.object.seen := hHonest.kept (by rw [hAnswer]; rfl)
      rintro _ ⟨⟩
      rw [hKept]
      exact h.seen_getD hHeld
    | some d =>
      rw [hAnswer] at hk
      cases hk

/-- A move that nobody can make. -/
theorem Lent.idle (h : Lent e) {m : Move Request (Act α)}
    (hSame : e.world.step protocol m = e.world) : Lent (e.move protocol m) := by
  have hWorld : (e.move protocol m).world = e.world := hSame
  refine h.mono ?_ (hWorld ▸ rfl)
  rintro (t | f) l hk
  · rwa [held_task, hWorld] at hk
  · exact (held_move m f).symm.trans hk

/-- A step that does not wait. -/
theorem Lent.act (h : Lent e) {a : Act α} (hLends : Lends e (.other (.act a))) :
    Lent (e.move protocol (.act a)) := by
  have hHeld : ∀ k, held (e.move protocol (.act a)) k = held e k := by
    rintro (t | f)
    · rfl
    · exact held_move _ f
  have hDeal := deal_act a e.world.object
  cases a with
  | set value => exact h.mono (fun k l hk => (hHeld k).symm.trans hk) hDeal.keeps
  | glance watch =>
    exact h.frame none watch (fun k _ => hHeld k) (fun k _ => hLends k) hDeal.keeps nofun
  | poll => cases hLends

/-- An asynchronous wait begins. -/
theorem Lent.create (h : Lent e) {f : Nat} {op : Future α} (hLends : Lends e (.create f op)) :
    Lent (e.step protocol (.create f op)) := by
  refine h.frame (some (.inr f)) op.watch ?_ (fun k _ => hLends.2 k) (fun _ _ => rfl) ?_
  · exact fun k hNot => held_set_of_ne (fun hSame => hNot (hSame ▸ rfl)) _
  · rintro _ ⟨⟩ l hk
    obtain rfl := Option.some.inj ((held_set_self ..).symm.trans hk)
    refine ⟨rfl, fun c hChange => ?_⟩
    cases hLends.1.symm.trans hChange

/-- An asynchronous wait is dropped. -/
theorem Lent.drop (h : Lent e) (f : Nat) : Lent (e.step protocol (.drop f)) := by
  refine h.mono ?_ rfl
  intro k l hk
  by_cases hSelf : k = .inr f
  · subst hSelf
    cases (held_set_self ..).symm.trans hk
  · exact (held_set_of_ne hSelf none).symm.trans hk

/-- Every move that is allowed leaves the watches lent as they should be. -/
theorem Lent.step (h : Lent e) {mv : Executor.Move Request (Act α) (Future α)}
    (hLends : Lends e mv) : Lent (e.step protocol mv) := by
  cases mv with
  | other m =>
    cases m with
    | start t now r =>
      cases hAsleep : e.world.crew.asleep t with
      | none =>
        exact h.look (World.step_start hAsleep now r) (turn_look (r.call now _) now t _) rfl
          fun k _ => hLends k
      | some s => exact h.idle (World.step_start_of_asleep hAsleep now r)
    | resume t now =>
      cases hAsleep : e.world.crew.asleep t with
      | none => exact h.idle (World.step_resume_of_awake hAsleep now)
      | some s =>
        have hHeld := held_of_asleep hAsleep
        refine h.look (World.step_resume hAsleep now) (turn_look s.call now t _)
          (h.current _ _ _ hHeld rfl) ?_
        exact fun k hOther f hk hWatch => hOther (h.alone _ _ _ _ hk hHeld hWatch)
    | act a => exact h.act hLends
    | abandon t => cases hLends
  | create f op => exact h.create hLends
  | poll f waker =>
    cases hFuture : e.futures f with
    | none =>
      rw [Executor.step, hFuture]
      exact h
    | some p => exact h.poll hFuture waker
  | drop f => exact h.drop f

/-- The step of the signal and the watches that an allowed move comes to is honest. -/
theorem Lent.honest (h : Lent e) {mv : Executor.Move Request (Act α) (Future α)}
    (hLends : Lends e mv) : ∃ ended, (e.step protocol mv).world.log = e.world.logged ended ∧
      Honest e.world.object (e.step protocol mv).world.object ended := by
  have hStill : ∃ ended, e.world.log = e.world.logged ended ∧
      Honest e.world.object e.world.object ended :=
    ⟨none, e.world.logged_none.symm, .of_none rfl⟩
  rw [Executor.world_step]
  cases mv with
  | other m =>
    show ∃ ended, (e.world.step protocol m).log = _ ∧ Honest _ (e.world.step protocol m).object _
    cases m with
    | start t now r =>
      cases hAsleep : e.world.crew.asleep t with
      | none =>
        rw [World.step_start hAsleep]
        exact ⟨_, rfl, (turn_look (r.call now _) now t _).honest rfl⟩
      | some s =>
        rw [World.step_start_of_asleep hAsleep]
        exact hStill
    | resume t now =>
      cases hAsleep : e.world.crew.asleep t with
      | none =>
        rw [World.step_resume_of_awake hAsleep]
        exact hStill
      | some s =>
        have hHeld := held_of_asleep hAsleep
        rw [World.step_resume hAsleep]
        exact ⟨_, rfl, (turn_look s.call now t _).honest (h.current _ _ _ hHeld rfl)⟩
    | act a =>
      refine ⟨_, rfl, (deal_act a e.world.object).honest ?_⟩
      rintro watch change v rfl
      cases hLends
    | abandon t => cases hLends
  | create f op | drop f => exact hStill
  | poll f waker =>
    rw [Executor.work]
    cases hFuture : e.futures f with
    | none => exact hStill
    | some p =>
      have hHeld := held_of_pending hFuture
      refine ⟨_, rfl, (deal_act (.poll p.op.watch p.op.change waker) e.world.object).honest ?_⟩
      rintro _ _ _ ⟨⟩
      exact h.seen_getD hHeld

-- ---------------------------------------------------------------------------
-- The wait list
-- ---------------------------------------------------------------------------

theorem Turn.extends {o : Outcome (Watched α) (Round (Call α) (Deed α))}
    (hTurn : Turn t x watch c o) :
    Extends x.signal.waiters.tasks o.object.signal.waiters.tasks := by
  cases hTurn with
  | told | gaveUp => exact .of_sublist List.filter_sublist
  | crowded => exact .refl _
  | joined _ _ hReg =>
    rcases WaitList.register_cases hReg with ⟨rfl, -⟩ | ⟨rfl, hOut⟩
    · exact .refl _
    · exact ⟨some t, fun u hu => Option.some.inj hu ▸ hOut, List.Sublist.refl _⟩

theorem Deal.extends {a : Act α} {o : Outcome (Watched α) (Option (Deed α))} (hDeal : Deal x a o) :
    Extends x.signal.waiters.tasks o.object.signal.waiters.tasks := by
  cases hDeal with
  | kept | noNews | news | pending | polled => exact .refl _
  | changed => exact .of_sublist (List.nil_sublist _)

theorem extends_step (w : World (Watched α) (Call α) (Deed α)) (m : Move Request (Act α)) :
    Extends w.object.signal.waiters.tasks (w.step protocol m).object.signal.waiters.tasks := by
  have hStepped := w.stepped_step protocol m
  generalize w.step protocol m = w' at hStepped ⊢
  cases hStepped with
  | idle | abandoned => exact .refl _
  | @started t now r => exact (turn_look (r.call now w.object) now t w.object).extends
  | @resumed t now s => exact (turn_look s.call now t w.object).extends
  | @acted a => exact (deal_act a w.object).extends

-- ---------------------------------------------------------------------------
-- Runs
-- ---------------------------------------------------------------------------

variable {value : α} {moves : List (Executor.Move Request (Act α) (Future α))}

/-- An execution on a new signal after some moves. -/
def after (value : α) (moves : List (Executor.Move Request (Act α) (Future α))) : Execution α :=
  (Executor.fresh (unseen value)).run protocol moves

/-- The tasks on its wait list. -/
def waiting (value : α) (moves : List (Executor.Move Request (Act α) (Future α))) : List TaskId :=
  (after value moves).world.object.signal.waiters.tasks

/-- What watchers may rely on in an execution, `line` being the tasks on the wait list. -/
structure Informed (e : Execution α) (line : List TaskId) : Prop where
  /-- Who is on the wait list waits with what its watch has seen, which is the present value. -/
  listed : ∀ t ∈ line, ∃ s u, e.world.crew.asleep t = some s ∧
    s.call.wait.request.seen = some u ∧ e.world.object.seen s.call.watch = some u ∧
    (u == e.world.object.signal.value) = true
  nodup : line.Nodup
  /-- A set of an equal value does nothing. -/
  equal : ∀ v, (e.world.object.signal.value == v) = true →
    protocol.act (.set v) e.world.object = .still e.world.object (some (.set v))
  /-- A set of any other value empties the wait list and sends a notice to each task on it. -/
  unequal : ∀ v, (e.world.object.signal.value == v) = false →
    let o := protocol.act (.set v) e.world.object
    o.object.signal.value = v ∧ o.object.signal.waiters = .empty ∧ o.tasks = line
  /-- The next operation that ends is honest. -/
  honest : ∀ mv, Lends e mv → ∃ ended, (e.step protocol mv).world.log = e.world.logged ended ∧
    Honest e.world.object (e.step protocol mv).world.object ended
  chronicle : Chronicle e.world.log e.world.object

/-- What each move keeps. -/
structure Watching (e : Execution α) : Prop where
  lent : Lent e
  lined : Lined e.world.crew e.world.object
  chronicle : Chronicle e.world.log e.world.object

theorem Watching.step (h : Watching e) {mv : Executor.Move Request (Act α) (Future α)}
    (hLends : Lends e mv) : Watching (e.step protocol mv) where
  lent := h.lent.step hLends
  lined := by
    rw [Executor.world_step]
    cases hWork : e.work mv with
    | none => exact h.lined
    | some m =>
      refine h.lined.step ?_
      rintro t rfl
      cases mv with
      | other m =>
        obtain rfl := Option.some.inj hWork
        exact hLends
      | poll f waker =>
        obtain ⟨_, -, ⟨⟩⟩ := Option.map_eq_some_iff.mp hWork
      | create | drop => cases hWork
  chronicle := by
    obtain ⟨ended, hLog, hHonest⟩ := h.lent.honest hLends
    rw [hLog]
    exact h.chronicle.step hHonest

theorem watching_fresh (value : α) : Watching (after value []) where
  lent := ⟨by rintro (t | f) k' l l' ⟨⟩, by rintro (t | f) l c ⟨⟩⟩
  lined := lined_fresh value
  chronicle := fun _ => ⟨rfl, .nil⟩

theorem Watching.informed (h : Watching e) : Informed e e.world.object.signal.waiters.tasks where
  listed := by
    intro t hMem
    have hIn := h.lined.asleep t hMem
    obtain ⟨s, hAsleep, hSettled⟩ := (Option.any_eq_true ..).mp hIn
    have hNoNews : s.call.wait.request.isNews e.world.object.signal.value = false := by
      rwa [settled, Bool.not_eq_true'] at hSettled
    obtain ⟨u, hSeen, hSame⟩ := isNews_eq_false_iff.mp hNoNews
    have hHeld := held_of_asleep hAsleep
    exact ⟨s, u, hAsleep, hSeen, (h.lent.current _ _ _ hHeld rfl).symm.trans hSeen, hSame⟩
  nodup := h.lined.nodup
  equal := by
    intro v hSame
    have hDeal := deal_act (.set v) e.world.object
    generalize protocol.act (.set v) e.world.object = o at hDeal ⊢
    cases hDeal with
    | kept => rfl
    | changed hOther =>
      rw [hSame] at hOther
      cases hOther
  unequal := by
    intro v hOther
    have hDeal := deal_act (.set v) e.world.object
    generalize protocol.act (.set v) e.world.object = o at hDeal ⊢
    cases hDeal with
    | kept hSame =>
      rw [hOther] at hSame
      cases hSame
    | changed => exact ⟨rfl, rfl, by simp [Outcome.tasks]⟩
  honest _ hLends := h.lent.honest hLends
  chronicle := h.chronicle

/-- The tasks on the wait list stand in the order in which they came on it. -/
theorem inOrder_waiting (hLends : Legal (Executor.step protocol) Lends (after value []) moves) :
    InOrder (waiting value) moves := by
  refine hLends.induction (I := fun l _ => InOrder (waiting value) l) .nil fun l m _ hOrder => ?_
  refine hOrder.concat rfl ?_
  have hStep : waiting value (l ++ [m]) =
      ((after value l).step protocol m).world.object.signal.waiters.tasks := by
    rw [waiting, after, Executor.run_concat]
    rfl
  rw [hStep, Executor.world_step]
  cases (after value l).work m with
  | none => exact .refl _
  | some m' => exact extends_step _ m'

/-- In every state of every run a task is on the wait list only with its watch up to date, each
change wakes all who are, longest waiter first, and each operation gives its watch the present
value if that is another than the watch was given last, and otherwise nothing. -/
theorem informed_run (hLends : Legal (Executor.step protocol) Lends (after value []) moves) :
    Informed (after value moves) (waiting value moves) ∧ InOrder (waiting value) moves := by
  have hWatching : Watching (after value moves) :=
    hLends.induction (I := fun _ e => Watching e) (watching_fresh value)
      fun _ _ hMove h => h.step hMove
  exact ⟨hWatching.informed, inOrder_waiting hLends⟩

/-- Two tasks wait for another value than the first. The value is set to what it is, then to
another, and back before either goes on: one waits again, the other has run out of time. An
asynchronous wait has seen the value in between. -/
def setBack : List (Executor.Move Request (Act Nat) (Future Nat)) :=
  [.other (.act (.glance 0)), .other (.act (.glance 1)),
    .other (.start ⟨1⟩ 0 ⟨0, waitForever⟩), .other (.start ⟨2⟩ 0 ⟨1, 5⟩), .create 0 ⟨2, none⟩,
    .other (.act (.set 3)), .other (.act (.set 4)), .poll 0 ⟨7⟩, .other (.act (.set 3)),
    .other (.resume ⟨1⟩ 9), .other (.resume ⟨2⟩ 9)]

theorem legal_setBack : Legal (Executor.step protocol) Lends (after 3 []) setBack := by
  have hFirst : ∀ t : TaskId, t ≠ ⟨1⟩ → (after 3 (setBack.take 3)).world.crew.asleep t = none :=
    fun t hNe => Function.update_of_ne hNe ..
  have hBoth : ∀ t : TaskId, t ≠ ⟨1⟩ → t ≠ ⟨2⟩ →
      (after 3 (setBack.take 4)).world.crew.asleep t = none :=
    fun t hNe hNe' => (Function.update_of_ne hNe' ..).trans (hFirst t hNe)
  -- only the operations that begin when others go on need a look at who has which watch
  refine ⟨?_, ?_, ?_, ?_, ⟨rfl, ?_⟩, trivial, trivial, trivial, trivial, trivial, trivial, trivial⟩
  · rintro (t | f) l ⟨⟩
  · rintro (t | f) l ⟨⟩
  · rintro (t | f) l ⟨⟩
  · show Free (after 3 (setBack.take 3)) 1
    rintro (t | f) l hk
    · by_cases hSelf : t = ⟨1⟩
      · subst hSelf
        cases hk
        decide
      · rw [held_task, hFirst t hSelf] at hk
        cases hk
    · cases hk
  · show Free (after 3 (setBack.take 4)) 2
    rintro (t | f) l hk
    · by_cases hSelf : t = ⟨1⟩
      · subst hSelf
        cases hk
        decide
      · by_cases hSelf' : t = ⟨2⟩
        · subst hSelf'
          cases hk
          decide
        · rw [held_task, hBoth t hSelf hSelf'] at hk
          cases hk
    · cases hk

theorem informed_run_setBack :
    Legal (Executor.step protocol) Lends (after 3 []) setBack ∧
      (Informed (after 3 setBack) (waiting 3 setBack) ∧ InOrder (waiting 3) setBack) ∧
      waiting 3 (setBack.take 6) = [⟨1⟩, ⟨2⟩] ∧ waiting 3 (setBack.take 7) = [] ∧
      waiting 3 setBack = [⟨1⟩] ∧
      [0, 1, 2].map (given (after 3 setBack).world.log) = [[3], [3], [4]] :=
  ⟨legal_setBack, informed_run legal_setBack, by decide, by decide, by decide, by decide⟩

end Signal

end TaskSync
