import TaskSync.Proofs.GlobalLock.Serial

/-!
# TaskSync — runs of a global lock are serial

What each move keeps (`sound_step`), what the invariant says of the state that a
run has come to (`Serialised`), and that it holds in every run.

An access is a call that its task is in from beginning to end. Nobody else can take
the task out of it, so a run in which a task is given up inside an access (with the
lock in its hands for good) is none of the runs here; in a wait for the lock, or
while it holds the lock and does other things, a task may be given up.

Main result:

* `serialised_run` — in every such run the lock is set up once, and accesses are serial.
-/

namespace TaskSync

namespace GlobalLock

variable {α : Type}

/-- Nobody is given up inside an access. -/
def Spares (w : World α) : Move α → Prop
  | .abandon t => w.crew.isIn Call.inside t = false
  | .start .. | .resume .. | .act _ => True

instance Spares.decidable (w : World α) : (m : Move α) → Decidable (Spares w m)
  | .abandon _ => inferInstanceAs (Decidable (_ = false))
  | .start .. | .resume .. | .act _ => .isTrue trivial

/-- The entry of the lock that a move is, if it is one. -/
def entered? (w w' : World α) (m : Move α) : Option (TaskId × Purpose α) :=
  m.looker?.bind (entrance? w w')

/-- The entries of the lock in a run, in order. -/
def entries (checks : Bool) (w : World α) : List (Move α) → List (TaskId × Purpose α)
  | [] => []
  | m :: rest =>
    let w' := w.step (protocol α checks) m
    (entered? w w' m).toList ++ entries checks w' rest

variable {checks : Bool} {cells : Nat → α} {w : World α} {m : Move α} {moves : List (Move α)}
  {t : TaskId}

theorem entries_concat (checks : Bool) (w : World α) (moves : List (Move α)) (m : Move α) :
    entries checks w (moves ++ [m]) = entries checks w moves ++
      (entered? (w.run (protocol α checks) moves)
        ((w.run (protocol α checks) moves).step (protocol α checks) m) m).toList := by
  induction moves generalizing w with
  | nil => exact List.append_nil _
  | cons first rest ih =>
    rw [List.cons_append, entries, entries, ih, List.append_assoc]
    rfl

-- ---------------------------------------------------------------------------
-- Moves
-- ---------------------------------------------------------------------------

/-- All that a move can come to. -/
inductive Moved (checks : Bool) (w : World α) : Move α → World α → Prop
  | idle {m : Move α} : Moved checks w m w
  | looked {m : Move α} {t : TaskId} {o : Outcome (Shared α) (Round (Call α) (Deed α))} :
      m.looker? = some t → Turn checks t w.object ((w.crew.asleep t).map (·.call)) o →
      Moved checks w m (w.look t o)
  | abandoned {t : TaskId} :
      Moved checks w (.abandon t) { w with crew := w.crew.look t none }

theorem moved_step (h : SetUp w) (m : Move α) :
    Moved checks w m (w.step (protocol α checks) m) := by
  have hStepped := w.stepped_step (protocol α checks) m
  generalize w.step (protocol α checks) m = w' at hStepped ⊢
  cases hStepped with
  | idle => exact .idle
  | @started t now r hAwake =>
    refine .looked rfl ?_
    rw [hAwake]
    exact turn_start checks r now t w.object
  | @resumed t now s hAsleep =>
    refine .looked rfl ?_
    rw [hAsleep]
    exact turn_resume checks (h.fits t s hAsleep) now t w.object
  | @acted a => nomatch a
  | abandoned => exact .abandoned

/-- What holds before a move that nobody who is inside an access is given up by holds after it. -/
theorem sound_step {entered : List (TaskId × Purpose α)} (h : Sound cells entered w)
    (hSpares : Spares w m) :
    Sound cells (entered ++ (entered? w (w.step (protocol α checks) m) m).toList)
      (w.step (protocol α checks) m) := by
  have hMoved : Moved checks w m (w.step (protocol α checks) m) := moved_step h.setUp m
  generalize w.step (protocol α checks) m = w' at hMoved ⊢
  have hNot : entered? w w' m = none → Sound cells entered w' →
      Sound cells (entered ++ (entered? w w' m).toList) w' := by
    intro hNone hSound
    rwa [hNone, Option.toList_none, List.append_nil]
  cases hMoved with
  | idle =>
    refine hNot ?_ h
    cases hLooker : m.looker? with
    | none => rw [entered?, hLooker, Option.bind_none]
    | some t =>
      rw [entered?, hLooker, Option.bind_some]
      exact entry_of_not_entered (Or.inl rfl) t
  | looked hLooker hTurn =>
    rw [entered?, hLooker]
    exact sound_look h hTurn
  | @abandoned t =>
    refine hNot rfl ?_
    have hSetUp : SetUp (⟨w.object, (w.crew.look t none).notify [], w.logged none⟩ : World α) := by
      rw [Crew.notify_nil, World.logged_none]
      exact h.setUp.abandon t
    have hPassed := h.pass t [] hSetUp hSpares forall_mem_none rfl rfl nofun
    rwa [Crew.notify_nil, World.logged_none] at hPassed

theorem sound_run
    (hSpares : (World.fresh (.fresh cells) : World α).Allows (protocol α checks) Spares moves) :
    Sound cells (entries checks (.fresh (.fresh cells)) moves) (after checks cells moves) := by
  refine (World.allows_iff_legal.mp hSpares).induction
    (I := fun l w => Sound cells (entries checks (.fresh (.fresh cells)) l) w)
    (sound_fresh cells) fun l m hMove h => ?_
  rw [entries_concat]
  exact sound_step h hMove

-- ---------------------------------------------------------------------------
-- What others can do
-- ---------------------------------------------------------------------------

/-- What a look of somebody else leaves as it is while a task has the lock. -/
theorem Effect.exclusive {u : TaskId} {o : Outcome (Shared α) (Round (Call α) (Deed α))}
    (hEffect : Effect w u o) (hStage : Stage cells w) (hOwner : w.object.owner? = some t)
    (hOther : u ≠ t) :
    o.object.owner? = some t ∧ o.object.cells = w.object.cells ∧
      ∀ d ∈ o.answer.deed?, d.entrance? = none := by
  have hNotOwner : w.object.owner? ≠ some u := by
    rw [hOwner]
    exact fun hSame => hOther (Option.some.inj hSame).symm
  -- nobody but the owner is inside an access
  have hNotInside : ∀ {s : Sleep (Call α)}, w.crew.asleep u = some s → s.call.inside = false := by
    intro s hAsleep
    rw [← Bool.not_eq_true]
    exact fun hInside => hNotOwner (hStage.sees hAsleep hInside).1
  cases hEffect with
  | passes _ hQuiet hSame hCells =>
    exact ⟨hSame.trans hOwner, hCells, fun d hd => entrance_of_idle (hQuiet.deed d hd)⟩
  | enters hFree =>
    rw [hOwner] at hFree
    cases hFree
  | leaves _ hHeld => exact absurd hHeld hNotOwner
  | goesOn hAsleep hPurpose =>
    have hOut := hNotInside hAsleep
    rw [Call.inside, hPurpose] at hOut
    cases hOut
  | ends hAsleep => cases hNotInside hAsleep

/-- While a task has the lock, nobody else changes who has it, what the cells are, or which
accesses and entries have ended. -/
theorem Stage.exclusive (h : Stage cells w) (hSetUp : SetUp w)
    (hOwner : w.object.owner? = some t) (hOther : m.looker? ≠ some t) :
    let w' := w.step (protocol α checks) m
    w'.object.owner? = some t ∧ w'.object.cells = w.object.cells ∧
      w'.deeds.filterMap Deed.entrance? = w.deeds.filterMap Deed.entrance? := by
  intro w'
  have hMoved : Moved checks w m w' := moved_step hSetUp m
  generalize w' = w' at hMoved ⊢
  cases hMoved with
  | idle | abandoned => exact ⟨hOwner, rfl, rfl⟩
  | @looked _ u o hLooker hTurn =>
    have hNe : u ≠ t := by
      rintro rfl
      exact hOther hLooker
    obtain ⟨hOwner', hCells, hEnded⟩ :=
      (effect_of_turn hSetUp h hTurn).exclusive h hOwner hNe
    refine ⟨hOwner', hCells, ?_⟩
    rw [World.deeds_look, List.filterMap_append]
    cases hDeed : o.answer.deed? with
    | none => exact List.append_nil _
    | some d => simp [hEnded d hDeed]

/-- Once there is a mutex, all that happens to it are looks of tasks. -/
theorem SetUp.same (h : SetUp w) {x : Mutex} (hMutex : w.object.lock.mutex = some x)
    (m : Move α) :
    ∃ x', (w.step (protocol α checks) m).object.lock.mutex = some x' ∧
      (x' = x ∨ ∃ t r o, m.looker? = some t ∧ Mutex.Turn checks t x r o ∧ x' = o.object) := by
  have hMoved : Moved checks w m (w.step (protocol α checks) m) := moved_step h m
  generalize w.step (protocol α checks) m = w' at hMoved ⊢
  cases hMoved with
  | idle | abandoned => exact ⟨x, hMutex, Or.inl rfl⟩
  | @looked _ t o hLooker hTurn =>
    generalize hFrom : (w.crew.asleep t).map (·.call) = from? at hTurn
    cases hTurn with
    | refused | claimed | unready | sought | waiting | placed | givenBack | read | wrote =>
      exact ⟨x, hMutex, Or.inl rfl⟩
    | published =>
      obtain ⟨⟨call, limit⟩, hAsleep, rfl⟩ := Option.map_eq_some_iff.mp hFrom
      obtain ⟨-, hNone, -⟩ := h.publishing t _ _ _ hAsleep
      rw [hMutex] at hNone
      cases hNone
    | looked hSome _ hLook =>
      rw [hMutex] at hSome
      cases hSome
      exact ⟨_, rfl, Or.inr ⟨t, _, _, hLooker, hLook, rfl⟩⟩
    | left hSome =>
      rw [hMutex] at hSome
      cases hSome
      exact ⟨_, rfl, Or.inr ⟨t, _, _, hLooker, Mutex.turn_unlock t x, rfl⟩⟩

-- ---------------------------------------------------------------------------
-- Runs
-- ---------------------------------------------------------------------------

/-- What the access that is under way has done to a cell, if it has written already. -/
def written? (w : World α) : Option (Deed α) :=
  (underway? w).bind fun
    | (t, .releasing cell a answer) => some (.accessed t cell a answer)
    | _ => none

/-- Between two states an operation has ended, and that is all. -/
def Ends (w w' : World α) (d : Deed α) : Prop :=
  w'.object = w.object ∧ w'.crew.asleep = w.crew.asleep ∧ w'.deeds = w.deeds ++ [d]

theorem written_of_outside (hOut : ∀ u, w.crew.isIn Call.inside u = false) :
    written? w = none := by
  rw [written?, underway_of_outside hOut]
  rfl

/-- The cells are what the accesses have made of them that have written. -/
theorem Sound.written {entered : List (TaskId × Purpose α)} (h : Sound cells entered w) :
    Serial cells (w.deeds ++ (written? w).toList) ∧
      w.object.cells = replay cells (w.deeds ++ (written? w).toList) := by
  cases h.stage with
  | outside _ hNobody hReplay =>
    rw [written_of_outside hNobody, Option.toList_none, List.append_nil]
    exact ⟨h.serial, hReplay⟩
  | @inside t s hOwner _ hAsleep hSees _ =>
    have hUnderway := underway_of_inside hOwner hAsleep hSees.inside
    obtain ⟨call, limit⟩ := s
    cases call with
    | placing | publishing | seeking | locking => cases hSees
    | reading =>
      rw [written?, hUnderway, Option.bind_some, Option.toList_none, List.append_nil]
      exact ⟨h.serial, hSees⟩
    | writing =>
      rw [written?, hUnderway, Option.bind_some, Option.toList_none, List.append_nil]
      exact ⟨h.serial, hSees.1⟩
    | releasing =>
      rw [written?, hUnderway, Option.bind_some, Option.toList_some, serial_concat,
        replay_concat]
      exact ⟨⟨h.serial, hSees.2⟩, hSees.1⟩

/-- A first look that ends its operation and does nothing else. -/
theorem ends_of_start {r : Request α} {d : Deed α} {now : Ticks} (hAwake : w.crew.asleep t = none)
    (hStart : r.start checks now t w.object = .still w.object (.finished d)) :
    Ends w (w.step (protocol α checks) (.start t now r)) d := by
  rw [World.step_start hAwake]
  show Ends w (w.look t (r.start checks now t w.object)) d
  rw [hStart, World.look_still]
  refine ⟨rfl, ?_, World.deeds_logged w (some d)⟩
  show Function.update w.crew.asleep t none = w.crew.asleep
  rw [← hAwake, Function.update_eq_self]

/-- Whoever finds the storage unclaimed sets the lock up in three looks. -/
theorem run_claiming {r : Request α} {next : Option (Use α)} {n₁ : Ticks}
    (hEmpty : w.object.placed = false) (hAwake : w.crew.asleep t = none)
    (hStart : r.start checks n₁ t w.object =
      .still (w.object.claimed ⟨true⟩) (.suspended (.placing (.create .normal) next) (some 0)))
    (n₂ n₃ : Ticks) :
    let w' := w.run (protocol α checks) [.start t n₁ r, .resume t n₂, .resume t n₃]
    w'.object = { w.object with
        lock := ⟨⟨true⟩, some (.create .normal)⟩
        placed := true } ∧
      w'.crew.asleep t = (afterSetUp t (.ok ()) next).sleep? ∧
      w'.deeds = w.deeds ++ (afterSetUp t (.ok ()) next).deed?.toList := by
  have hFirst : w.step (protocol α checks) (.start t n₁ r) =
      w.look t (r.start checks n₁ t w.object) := World.step_start hAwake n₁ r
  have hSecond : (protocol α checks).resume (.placing (.create .normal) next) n₂ t
      (w.object.claimed ⟨true⟩) = .still { w.object.claimed ⟨true⟩ with placed := true }
        (.suspended (.publishing (.create .normal) next) (some 0)) := by
    show (if (w.object.claimed ⟨true⟩).placed then _ else _) = _
    rw [if_neg]
    exact Bool.eq_false_iff.mp hEmpty
  have hThird : ∀ s : Shared α, (protocol α checks).resume (.publishing (.create .normal) next)
      n₃ t s = .still (s.withMutex (.create .normal)) (afterSetUp t (.ok ()) next) :=
    fun _ => rfl
  dsimp only
  rw [World.run_cons, hFirst, hStart, World.look_suspended, World.run_cons,
    World.step_resume (Crew.asleep_look_self _), hSecond, World.look_suspended, World.run_cons,
    World.step_resume (Crew.asleep_look_self _), hThird, World.look_still]
  exact ⟨rfl, Crew.asleep_look_self _, World.deeds_logged ..⟩

theorem start_initialise (hUnclaimed : w.object.lock.storage.claimed = false) (now : Ticks)
    (t : TaskId) :
    Request.start checks now t w.object .initialise = .still (w.object.claimed ⟨true⟩)
      (.suspended (.placing (.create .normal) none) (some 0)) := by
  rw [Request.start, MutexStorage.claim_eq_ok_iff.mpr ⟨hUnclaimed, rfl, rfl⟩]

/-- The first use of a lock initialises it where contracts are not checked. -/
theorem start_first_use (hUnclaimed : w.object.lock.storage.claimed = false)
    (hNone : w.object.lock.mutex = none) (now : Ticks) (t : TaskId) (u : Use α) :
    Request.start false now t w.object (.use u) = .still (w.object.claimed ⟨true⟩)
      (.suspended (.placing (.create .normal) (some u)) (some 0)) := by
  have hClaim : w.object.lock.storage.claim .normal = .ok (⟨true⟩, .create .normal) :=
    MutexStorage.claim_eq_ok_iff.mpr ⟨hUnclaimed, rfl, rfl⟩
  simp only [Request.start, hNone, hClaim, Bool.false_eq_true, if_false]

end GlobalLock

end TaskSync
