import TaskSync.Proofs.Waits.Attempts

/-!
# TaskSync — where callers wait

The callers that wait are entries of a list or a table that is part of an
object (`Bench`). What a call may do to its object while it waits and when it
fails is said of the bench: an attempt enters its task at the end at most
(`Bench.Entered`), and the last takes it out (`Bench.Left`). The entries of the
others are then as before, on a wait list in the same order.

An object has to give three things for that (`Bench.Fits`), one for each way in
which a round can end but the one in which the request is granted:

* `Bench.Fits.clean` — such a call leaves no trace if it fails (`Bench.Clean`).
-/

namespace TaskSync

/-- Where the callers with a kind of request wait: entries that are part of an object of type `σ`
and belong to a task each. -/
structure Bench (σ ε : Type) where
  task : ε → TaskId
  entries : σ → List ε
  /-- The same object with other entries. -/
  withEntries : σ → List ε → σ
  withEntries_entries : ∀ x, withEntries x (entries x) = x
  entries_withEntries : ∀ x l, entries (withEntries x l) = l
  /-- Whether two lists of entries are the same to those who wait. -/
  Alike : List ε → List ε → Prop
  alike_refl : ∀ l, Alike l l

namespace Bench

variable {ρ σ ε α : Type}

/-- A wait list, on which the order matters. -/
def ofList (list : σ → WaitList) (withList : σ → WaitList → σ)
    (hSame : ∀ x, withList x (list x) = x) (hList : ∀ x l, list (withList x l) = l) :
    Bench σ TaskId where
  task := id
  entries x := (list x).tasks
  withEntries x tasks := withList x ⟨tasks⟩
  withEntries_entries := hSame
  entries_withEntries x l := congrArg WaitList.tasks (hList x ⟨l⟩)
  Alike := Eq
  alike_refl _ := rfl

/-- A task waits on the bench. -/
def Has (b : Bench σ ε) (t : TaskId) (x : σ) : Prop := ∃ e ∈ b.entries x, b.task e = t

/-- The entries of the other tasks. -/
def others (b : Bench σ ε) (t : TaskId) (x : σ) : List ε :=
  (b.entries x).filter fun e => b.task e ≠ t

/-- All that an attempt of a task that goes on waiting may do to an object. -/
inductive Entered (b : Bench σ ε) (t : TaskId) (x : σ) : σ → Prop
  | stays : Entered b t x x
  | enters {e : ε} :
      ¬ b.Has t x → b.task e = t → Entered b t x (b.withEntries x (b.entries x ++ [e]))

/-- An object that a task has left as it was, but for its own entry. -/
structure Left (b : Bench σ ε) (t : TaskId) (x x' : σ) : Prop where
  eq : x' = b.withEntries x (b.entries x')
  others : b.Alike (b.others t x') (b.others t x)
  out : ¬ b.Has t x'

/-- All that a call has done that was suspended after its `earlier` attempts and has failed at its
`last`. -/
structure NoTrace (b : Bench σ ε) (t : TaskId) (earlier : List (Attempt ρ σ α))
    (last : Attempt ρ σ α) : Prop where
  entered : ∀ a ∈ earlier, b.Entered t a.found.object a.outcome.object
  left : b.Left t last.found.object last.outcome.object
  /-- Nobody is woken. -/
  silent : ∀ a ∈ earlier ++ [last], a.outcome.notices = []

variable [Blocks ρ σ α]

/-- A call for a request of a kind leaves no trace if it fails in a state in which `reachable`
holds. -/
def Clean (ρ : Type) {σ ε α : Type} [Blocks ρ σ α] (b : Bench σ ε) (failed : α → Bool)
    (reachable : σ → Prop) : Prop :=
  ∀ (request : ρ) (wait now : Ticks) (t : TaskId) (glimpses : List (Glimpse σ))
    (earlier : List (Attempt ρ σ α)) (last : Attempt ρ σ α) (answer : α),
    (Waiting.start request wait now).attempts t glimpses = earlier ++ [last] →
    last.outcome.answer = .finished answer → failed answer = true →
    reachable last.found.object → b.NoTrace t earlier last

-- ---------------------------------------------------------------------------
-- What an object has to do for that
-- ---------------------------------------------------------------------------

/-- The waiters of an object are those on the bench, and a request that is refused at once changes
nothing. -/
structure Fits (ρ : Type) {σ ε α : Type} [Blocks ρ σ α] (b : Bench σ ε) (failed : α → Bool)
    (reachable : σ → Prop) : Prop where
  joins : ∀ {r : ρ} {t : TaskId} {x x' : σ}, Blocks.join r t x = some x' → b.Entered t x x'
  leaves : ∀ (r : ρ) (t : TaskId) {x : σ}, reachable x → b.Left t x (Blocks.leave r t x)
  refuses : ∀ {r : ρ} {look : Look} {x : σ} {o : Outcome σ α}, Blocks.serve r look x = some o →
    failed o.answer = true → reachable x →
    o.object = x ∧ o.notices = [] ∧ ¬ b.Has look.task x

variable {b : Bench σ ε} {failed : α → Bool} {reachable : σ → Prop} {t : TaskId}
  {a : Attempt ρ σ α} {w : Waiting ρ} {glimpses : List (Glimpse σ)}

/-- A task that is not on the bench has left. -/
theorem Left.refl {x : σ} (h : ¬ b.Has t x) : b.Left t x x :=
  ⟨(b.withEntries_entries x).symm, b.alike_refl _, h⟩

/-- An attempt that ends in a suspension enters the task at most. -/
theorem Fits.entered (hFits : b.Fits ρ failed reachable) (h : w.Belongs t glimpses a)
    {next : Waiting ρ} {limit : Option Ticks}
    (hSuspended : a.outcome.answer = .suspended next limit) :
    b.Entered t a.found.object a.outcome.object ∧ a.outcome.notices = [] := by
  have hComes := h.comes
  generalize a.outcome = o at hComes hSuspended ⊢
  cases hComes with
  | served | gaveUp => cases hSuspended
  | joined _ _ hJoin => exact ⟨hFits.joins hJoin, rfl⟩
  | crowded => exact ⟨.stays, rfl⟩

/-- An attempt that fails takes the task out. -/
theorem Fits.left (hFits : b.Fits ρ failed reachable) (h : w.Belongs t glimpses a) {answer : α}
    (hFinished : a.outcome.answer = .finished answer) (hFailed : failed answer = true)
    (hReachable : reachable a.found.object) :
    b.Left t a.found.object a.outcome.object ∧ a.outcome.notices = [] := by
  have hComes := h.comes
  generalize a.outcome = o at hComes hFinished ⊢
  cases hComes with
  | @served o hServe =>
    cases hFinished
    obtain ⟨hSame, hSilent, hOut⟩ := hFits.refuses hServe hFailed hReachable
    refine ⟨?_, hSilent⟩
    show b.Left t _ o.object
    rw [hSame]
    exact .refl hOut
  | joined | crowded => cases hFinished
  | gaveUp => exact ⟨hFits.leaves _ t hReachable, rfl⟩

theorem Fits.clean (hFits : b.Fits ρ failed reachable) : b.Clean ρ failed reachable := by
  intro request wait now t glimpses earlier last answer hMade hFinished hFailed hReachable
  have hIn : ∀ a ∈ earlier ++ [last],
      (Waiting.start request wait now).Belongs t glimpses a :=
    fun a hMem => Waiting.belongs_of_mem (hMade ▸ hMem)
  have hEarlier : ∀ a ∈ earlier,
      b.Entered t a.found.object a.outcome.object ∧ a.outcome.notices = [] := by
    intro a hMem
    obtain ⟨limit, hSuspended⟩ := Waiting.suspended_of_mem hMade hMem
    exact hFits.entered (hIn a (List.mem_append_left _ hMem)) hSuspended
  have hLast := hFits.left (hIn last (List.mem_append_right _ List.mem_cons_self)) hFinished
    hFailed hReachable
  refine ⟨fun a hMem => (hEarlier a hMem).1, hLast.1, fun a hMem => ?_⟩
  rcases List.mem_append.mp hMem with hMem | hMem
  · exact (hEarlier a hMem).2
  · rw [List.mem_singleton.mp hMem]
    exact hLast.2

-- ---------------------------------------------------------------------------
-- Wait lists
-- ---------------------------------------------------------------------------

section Lists

variable {list : σ → WaitList} {withList : σ → WaitList → σ} {hSame : ∀ x, withList x (list x) = x}
  {hList : ∀ x l, list (withList x l) = l} {x : σ}

theorem has_ofList : (ofList list withList hSame hList).Has t x ↔ t ∈ (list x).tasks := by
  constructor
  · rintro ⟨u, hMem, rfl⟩
    exact hMem
  · exact fun hMem => ⟨t, hMem, rfl⟩

theorem entered_ofList {joined : WaitList} (hReg : (list x).register t = some joined) :
    (ofList list withList hSame hList).Entered t x (withList x joined) := by
  rcases WaitList.register_cases hReg with ⟨rfl, -⟩ | ⟨rfl, hOut⟩
  · rw [hSame]
    exact .stays
  · exact .enters (fun hHas => hOut (has_ofList.mp hHas)) rfl

theorem left_ofList :
    (ofList list withList hSame hList).Left t x (withList x ((list x).remove t)) where
  eq := by
    show _ = withList x ⟨(list (withList x ((list x).remove t))).tasks⟩
    rw [hList]
  others := by
    show (list (withList x ((list x).remove t))).tasks.filter _ = (list x).tasks.filter _
    rw [hList, WaitList.tasks_remove, List.filter_filter]
    exact List.filter_congr fun u _ => Bool.and_self _
  out := by
    rw [has_ofList, hList]
    exact WaitList.not_mem_remove _ t

/-- Requests whose callers are registered on a wait list. -/
theorem fits_ofList
    (hJoin : ∀ (r : ρ) t x, Blocks.join r t x = ((list x).register t).map (withList x))
    (hLeave : ∀ (r : ρ) t x, Blocks.leave r t x = withList x ((list x).remove t))
    (hRefuses : ∀ {r : ρ} {look : Look} {x : σ} {o : Outcome σ α},
      Blocks.serve r look x = some o → failed o.answer = true → reachable x →
      o.object = x ∧ o.notices = [] ∧ look.task ∉ (list x).tasks) :
    (ofList list withList hSame hList).Fits ρ failed reachable where
  joins := by
    intro r t x x' hJoined
    rw [hJoin] at hJoined
    obtain ⟨joined, hReg, rfl⟩ := Option.map_eq_some_iff.mp hJoined
    exact entered_ofList hReg
  leaves r t x _ := by
    rw [hLeave]
    exact left_ofList
  refuses := by
    intro r look x o hServe hFailed hReachable
    rw [has_ofList]
    exact hRefuses hServe hFailed hReachable

/-- A call on a wait list that fails only when its wait has run out leaves no trace, whatever the
state. -/
theorem clean_ofList [RunsOut ρ]
    (hJoin : ∀ (r : ρ) t x, Blocks.join r t x = ((list x).register t).map (withList x))
    (hLeave : ∀ (r : ρ) t x, Blocks.leave r t x = withList x ((list x).remove t)) :
    (ofList list withList hSame hList).Clean ρ (ranOut ρ) fun _ => True :=
  (fits_ofList hJoin hLeave fun hServe hFailed _ =>
    absurd hFailed (not_ranOut_of_serve hServe)).clean

end Lists

end Bench

end TaskSync
