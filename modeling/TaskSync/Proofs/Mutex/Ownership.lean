import TaskSync.Proofs.Mutex.Runs

/-!
# TaskSync — who has a mutex

A mutex knows its owner and how often he has taken it (`Mutex.holding`), and
this is what the operations that have ended say about it. The law is stated for
a step (`Changes`: what an operation that ends does to the holding, and which
answers it can have there) and lifted to runs by the invariant `Sound`, which
counts what was taken and released.

A counter of 32 bits counts right as long as nobody has taken the mutex 2^32
times without releasing it (`Shallow`).

Main result:

* `Mutex.owned_run` — in every state of every such run the holding is exact and
  the next move obeys the law; who locks a normal mutex twice in a system without
  contract checks never returns; and if guards are dropped only by tasks that have
  one (`Scoped`), the live guards are as many as the depth, all of the owner.
-/

namespace TaskSync

namespace Mutex

/-- Who has the mutex, and how often he has taken it. -/
def holding (m : Mutex) : Option (TaskId × Nat) := m.owner.map fun t => (t, m.depth.toNat)

/-- What a step does to the holding of a mutex, and with which answer. -/
inductive Changes (checks : Bool) (kind : MutexKind) :
    Option (TaskId × Nat) → Option Deed → Option (TaskId × Nat) → Prop
  /-- No operation has ended. -/
  | nothing {h : Option (TaskId × Nat)} : Changes checks kind h none h
  | taken {t : TaskId} {r : Request} :
      r ≠ .unlock → Changes checks kind none (some (r.granted t)) (some (t, 1))
  | deepened {t : TaskId} {n : Nat} {r : Request} :
      kind = .recursive → r ≠ .unlock →
      Changes checks kind (some (t, n)) (some (r.granted t)) (some (t, n + 1))
  | heldOn {t : TaskId} {n : Nat} :
      0 < n →
      Changes checks kind (some (t, n + 1)) (some (Request.unlock.granted t)) (some (t, n))
  | handedOn {t : TaskId} :
      Changes checks kind (some (t, 1)) (some (Request.unlock.granted t)) none
  /-- The wait is over and somebody else has the mutex. -/
  | gaveUp {t u : TaskId} {n : Nat} {wait : Ticks} :
      u ≠ t →
      Changes checks kind (some (u, n))
        (some (.tried t wait (.error (if wait = 0 then .wouldBlock else .timeout)))) (some (u, n))
  | deadlocked {t : TaskId} {n : Nat} {wait : Ticks} :
      kind = .normal →
      Changes checks kind (some (t, n)) (some (.tried t wait (.error .deadlock))) (some (t, n))
  | faulted {t : TaskId} {n : Nat} :
      checks = true → kind = .normal →
      Changes checks kind (some (t, n)) (some (.locked t (.error .lockedTwice))) (some (t, n))
  | refused {t : TaskId} {h : Option (TaskId × Nat)} :
      (∀ n, h ≠ some (t, n)) →
      Changes checks kind h (some (.unlocked t (.error .notOwner))) h

/-- The task that has taken the mutex, if that is what an operation did. -/
def Deed.taker? : Deed → Option TaskId
  | .locked t (.ok _) | .tried t _ (.ok _) => some t
  | _ => none

/-- The task that has released the mutex, if that is what an operation did. -/
def Deed.releaser? : Deed → Option TaskId
  | .unlocked t (.ok _) => some t
  | _ => none

/-- The operations on a mutex that have ended, in order. -/
abbrev Log := List (Record Mutex Deed)

/-- How often a task has taken the mutex. -/
def takings (t : TaskId) (log : Log) : Nat := log.countP fun r => r.deed.taker? = some t

/-- How often a task has released the mutex. -/
def releases (t : TaskId) (log : Log) : Nat := log.countP fun r => r.deed.releaser? = some t

/-- The operations since the owner took the free mutex, that one included. -/
def tenure (log : Log) : Log :=
  log.foldl (fun since r =>
    if r.before.owner = none ∧ r.deed.taker? ≠ none then [r] else since ++ [r]) []

/-- The guards that are alive, by the tasks that have them: an operation that takes the mutex
makes one, and each drop of one is a call of `unlock`. -/
def liveGuards (log : Log) : List TaskId :=
  log.foldl (fun live r =>
    match r.deed with
    | .locked t (.ok _) | .tried t _ (.ok _) => t :: live
    | .unlocked t _ => live.erase t
    | _ => live) []

/-- After the move nobody has taken the mutex 2^32 times more than released it. -/
def Shallow (checks : Bool) (w : World) (m : Move) : Prop :=
  ∀ t, takings t (w.step (protocol checks) m).log <
    UInt32.size + releases t (w.step (protocol checks) m).log

/-- The move calls `unlock` only to drop a guard that its task has. -/
def Scoped (w : World) (m : Move) : Prop :=
  ∀ t now, m = .start t now .unlock → w.crew.asleep t = none → t ∈ liveGuards w.log

/-- The ownership of a mutex in use is exact. -/
structure Owned (checks : Bool) (kind : MutexKind) (w : World) : Prop where
  kind_eq : w.object.kind = kind
  depth_pos_iff : 0 < w.object.depth ↔ w.object.owner ≠ none
  /-- The depth is how often the owner has taken the mutex less how often he has released it. -/
  depth_eq : ∀ t, w.object.owner = some t →
    w.object.depth.toNat + releases t (tenure w.log) = takings t (tenure w.log)
  depth_le : kind = .normal → w.object.depth ≤ 1
  law : ∀ m : Move, Shallow checks w m →
    ∃ ended, (w.step (protocol checks) m).log = w.logged ended ∧
      Changes checks kind w.object.holding ended (w.step (protocol checks) m).object.holding
  /-- The owner of a normal mutex who locks it again stays asleep, whatever the others do. -/
  stuck : ∀ t now, checks = false → kind = .normal → w.object.owner = some t →
    w.crew.asleep t = none → ∀ later : List Move, .abandon t ∉ later →
      let w' := (w.step (protocol checks) (.start t now .lock)).run (protocol checks) later
      w'.crew.asleep t = some ⟨.locking .selfBlocked, some lockQuantum⟩ ∧
        w'.object.holding = w.object.holding

/-- The live guards are the owner's, one for each time he has taken the mutex. -/
structure WellGuarded (kind : MutexKind) (w : World) : Prop where
  free : w.object.owner = none → liveGuards w.log = []
  held : ∀ t, w.object.owner = some t →
    liveGuards w.log = List.replicate w.object.depth.toNat t
  exclusive : kind = .normal → (liveGuards w.log).length ≤ 1

-- ---------------------------------------------------------------------------
-- The law of a look
-- ---------------------------------------------------------------------------

/-- Owner and depth of a mutex fit together. -/
structure Firm (m : Mutex) : Prop where
  depth_pos_iff : 0 < m.depth ↔ m.owner ≠ none
  depth_le : m.kind = .normal → m.depth ≤ 1

theorem holding_of_free {m : Mutex} (h : m.owner = none) : m.holding = none := by
  rw [holding, h]
  rfl

theorem holding_of_owner {m : Mutex} {t : TaskId} (h : m.owner = some t) :
    m.holding = some (t, m.depth.toNat) := by
  rw [holding, h]
  rfl

theorem owner_of_holding {m : Mutex} {t : TaskId} {n : Nat} (h : m.holding = some (t, n)) :
    m.owner = some t ∧ m.depth.toNat = n := by
  obtain ⟨u, hOwner, hPair⟩ := Option.map_eq_some_iff.mp h
  cases hPair
  exact ⟨hOwner, rfl⟩

theorem BusyFor.exists_owner {m : Mutex} {t : TaskId} (h : m.BusyFor t) :
    ∃ u, u ≠ t ∧ m.owner = some u := by
  obtain ⟨u, hOwner⟩ := Option.ne_none_iff_exists'.mp h.1
  exact ⟨u, fun hSelf => h.2 (hSelf ▸ hOwner), hOwner⟩

variable {checks : Bool} {kind : MutexKind} {m : Mutex} {t u : TaskId} {r : Request}
  {o : Outcome Mutex (Round Call Deed)}

theorem toNat_depth_add_one (hRoom : m.depth.toNat + 1 < UInt32.size) :
    (m.depth + 1).toNat = m.depth.toNat + 1 := by
  rw [UInt32.toNat_add]
  exact Nat.mod_eq_of_lt hRoom

theorem toNat_depth_sub_one (hPos : 0 < m.depth) : (m.depth - 1).toNat + 1 = m.depth.toNat := by
  have hPos' : 0 < m.depth.toNat := UInt32.lt_iff_toNat_lt.mp hPos
  have hLe : (1 : UInt32) ≤ m.depth := UInt32.le_iff_toNat_le.mpr hPos'
  rw [UInt32.toNat_sub_of_le _ _ hLe]
  exact Nat.sub_add_cancel hPos'

theorem Firm.depth_pos (h : Firm m) (hOwner : m.owner = some t) : 0 < m.depth := by
  rw [h.depth_pos_iff, hOwner]
  exact nofun

theorem Firm.of_eq {m' : Mutex} (h : Firm m) (hKind : m'.kind = m.kind)
    (hOwner : m'.owner = m.owner) (hDepth : m'.depth = m.depth) : Firm m' where
  depth_pos_iff := by
    rw [hOwner, hDepth]
    exact h.depth_pos_iff
  depth_le := by
    rw [hKind, hDepth]
    exact h.depth_le

theorem Firm.of_free (hOwner : m.owner = none) (hDepth : m.depth = 0) : Firm m where
  depth_pos_iff := by
    rw [hOwner, hDepth]
    exact ⟨fun hPos => absurd hPos (UInt32.lt_irrefl 0), fun hSome => absurd rfl hSome⟩
  depth_le := by
    rw [hDepth]
    exact fun _ => UInt32.zero_le

theorem firm_takenBy (m : Mutex) (t : TaskId) : Firm (m.takenBy t) where
  depth_pos_iff := ⟨fun _ => nofun, fun _ => show (0 : UInt32) < 1 by decide⟩
  depth_le := fun _ => UInt32.le_refl 1

theorem firm_deepened (hOwner : m.owner = some t) (hKind : m.kind = .recursive)
    (hRoom : m.depth.toNat + 1 < UInt32.size) : Firm { m with depth := m.depth + 1 } where
  depth_pos_iff := by
    show 0 < m.depth + 1 ↔ m.owner ≠ none
    rw [UInt32.lt_iff_toNat_lt, toNat_depth_add_one hRoom, hOwner]
    exact ⟨fun _ => nofun, fun _ => Nat.succ_pos _⟩
  depth_le := fun hNormal => absurd (hKind.symm.trans hNormal) nofun

theorem Firm.heldOn (h : Firm m) (hOwner : m.owner = some t) (hMore : 0 < m.depth - 1) :
    Firm { m with depth := m.depth - 1 } where
  depth_pos_iff := by
    show 0 < m.depth - 1 ↔ m.owner ≠ none
    rw [hOwner]
    exact ⟨fun _ => nofun, fun _ => hMore⟩
  depth_le := by
    intro hNormal
    show m.depth - 1 ≤ 1
    have hLe : m.depth.toNat ≤ 1 := UInt32.le_iff_toNat_le.mp (h.depth_le hNormal)
    have hNat := toNat_depth_sub_one (h.depth_pos hOwner)
    have hMore' : 0 < (m.depth - 1).toNat := UInt32.lt_iff_toNat_lt.mp hMore
    omega

theorem taker_granted (hReq : r ≠ .unlock) (t : TaskId) : (r.granted t).taker? = some t := by
  cases r with
  | lock | tryLock => rfl
  | unlock => exact absurd rfl hReq

theorem releaser_granted (hReq : r ≠ .unlock) (t : TaskId) : (r.granted t).releaser? = none := by
  cases r with
  | lock | tryLock => rfl
  | unlock => exact absurd rfl hReq

/-- A look keeps owner and depth together and does what the law says, unless the depth runs
over. -/
theorem Turn.lawful (hTurn : Turn checks t m r o) (h : Firm m)
    (hRoom : o.answer.deed?.bind Deed.taker? = some t → m.owner = some t →
      m.depth.toNat + 1 < UInt32.size) :
    Firm o.object ∧ o.object.kind = m.kind ∧
      Changes checks m.kind m.holding o.answer.deed? o.object.holding := by
  cases hTurn with
  | taken hReq hFree =>
    refine ⟨firm_takenBy m t, rfl, ?_⟩
    rw [holding_of_free hFree]
    exact .taken hReq
  | deepened hReq hOwner hKind =>
    have hRoom' := hRoom (taker_granted hReq t) hOwner
    refine ⟨firm_deepened hOwner hKind hRoom', rfl, ?_⟩
    have hAfter : ({ m with depth := m.depth + 1 } : Mutex).holding =
        some (t, m.depth.toNat + 1) := by
      rw [← toNat_depth_add_one hRoom']
      exact holding_of_owner hOwner
    show Changes checks m.kind m.holding _ ({ m with depth := m.depth + 1 } : Mutex).holding
    rw [hAfter, holding_of_owner hOwner]
    exact .deepened hKind hReq
  | deadlocked hOwner hKind =>
    refine ⟨h, rfl, ?_⟩
    rw [Outcome.still, holding_of_owner hOwner]
    exact .deadlocked hKind
  | faulted hChecks hOwner hKind =>
    refine ⟨h, rfl, ?_⟩
    rw [Outcome.still, holding_of_owner hOwner]
    exact .faulted hChecks hKind
  | selfBlocked | crowded => exact ⟨h, rfl, .nothing⟩
  | joined | restarting => exact ⟨h.of_eq rfl rfl rfl, rfl, .nothing⟩
  | gaveUp hBusy =>
    obtain ⟨u, hOther, hOwner⟩ := hBusy.exists_owner
    refine ⟨h.of_eq rfl rfl rfl, rfl, ?_⟩
    show Changes checks m.kind m.holding _ m.holding
    rw [holding_of_owner hOwner]
    exact .gaveUp hOther
  | refused hOther =>
    refine ⟨h, rfl, .refused fun n hSelf => ?_⟩
    exact hOther (owner_of_holding hSelf).1
  | heldOn hOwner hMore =>
    -- somebody owns the mutex, so the depth does not run under
    have hNat := toNat_depth_sub_one (h.depth_pos hOwner)
    refine ⟨h.heldOn hOwner hMore, rfl, ?_⟩
    have hAfter : ({ m with depth := m.depth - 1 } : Mutex).holding =
        some (t, (m.depth - 1).toNat) := holding_of_owner hOwner
    show Changes checks m.kind m.holding _ ({ m with depth := m.depth - 1 } : Mutex).holding
    rw [hAfter, holding_of_owner hOwner, ← hNat]
    exact .heldOn (UInt32.lt_iff_toNat_lt.mp hMore)
  | handedOn hOwner hLast =>
    have hNat := toNat_depth_sub_one (h.depth_pos hOwner)
    rw [hLast] at hNat
    refine ⟨.of_free rfl rfl, rfl, ?_⟩
    rw [holding_of_owner hOwner, ← hNat]
    exact .handedOn

-- ---------------------------------------------------------------------------
-- What the log says
-- ---------------------------------------------------------------------------

/-- How often a task has the mutex, by a holding. -/
def timesHeld (h : Option (TaskId × Nat)) (t : TaskId) : Nat :=
  match h with
  | some (u, n) => if u = t then n else 0
  | none => 0

/-- The guards that a holding stands for. -/
def guardsOf : Option (TaskId × Nat) → List TaskId
  | some (t, n) => List.replicate n t
  | none => []

/-- The holding of a mutex is what its log says. -/
structure Exact (holding : Option (TaskId × Nat)) (log : Log) : Prop where
  balance : ∀ t, releases t log + timesHeld holding t = takings t log
  tenure_eq : ∀ t n, holding = some (t, n) →
    n + releases t (tenure log) = takings t (tenure log)

variable {log : Log} {before : Mutex} {d : Deed}

theorem takings_append (t : TaskId) (log : Log) (before : Mutex) (d : Deed) :
    takings t (log ++ [⟨before, d⟩]) = takings t log + if d.taker? = some t then 1 else 0 := by
  simp [takings, List.countP_append, List.countP_singleton]

theorem releases_append (t : TaskId) (log : Log) (before : Mutex) (d : Deed) :
    releases t (log ++ [⟨before, d⟩]) =
      releases t log + if d.releaser? = some t then 1 else 0 := by
  simp [releases, List.countP_append, List.countP_singleton]

theorem tenure_append (log : Log) (before : Mutex) (d : Deed) :
    tenure (log ++ [⟨before, d⟩]) =
      if before.owner = none ∧ d.taker? ≠ none then [⟨before, d⟩]
      else tenure log ++ [⟨before, d⟩] := by
  rw [tenure, List.foldl_append]
  rfl

theorem liveGuards_append (log : Log) (before : Mutex) (d : Deed) :
    liveGuards (log ++ [⟨before, d⟩]) =
      match d with
      | .locked t (.ok _) | .tried t _ (.ok _) => t :: liveGuards log
      | .unlocked t _ => (liveGuards log).erase t
      | _ => liveGuards log := by
  rw [liveGuards, List.foldl_append]
  rfl

theorem exact_fresh : Exact none [] where
  balance := fun _ => rfl
  tenure_eq := fun _ _ hNone => nomatch hNone

variable {h h' : Option (TaskId × Nat)}

/-- An operation adds to the times of a task what it takes and subtracts what it releases. -/
theorem Changes.timesHeld_add (hChanges : Changes checks kind h (some d) h') (u : TaskId) :
    timesHeld h' u + (if d.releaser? = some u then 1 else 0) =
      timesHeld h u + if d.taker? = some u then 1 else 0 := by
  cases hChanges with
  | taken hReq =>
    rw [taker_granted hReq, releaser_granted hReq]
    simp [timesHeld]
  | deepened hKind hReq =>
    rw [taker_granted hReq, releaser_granted hReq]
    simp only [timesHeld, Option.some.injEq, reduceCtorEq, if_false]
    split <;> rfl
  | heldOn hPos =>
    simp only [timesHeld, Request.granted, Deed.releaser?, Deed.taker?, Option.some.injEq,
      reduceCtorEq, if_false]
    split <;> rfl
  | handedOn => simp [timesHeld, Request.granted, Deed.releaser?, Deed.taker?]
  | gaveUp | deadlocked | faulted | refused => rfl

/-- Whoever has the mutex after an operation either took it free with that operation or had it
before. -/
theorem Changes.taken_or_kept {n' : Nat}
    (hChanges : Changes checks kind h (some d) (some (t, n'))) :
    (h = none ∧ d.taker? = some t ∧ d.releaser? = none ∧ n' = 1) ∨ ∃ n, h = some (t, n) := by
  cases hChanges with
  | taken hReq => exact Or.inl ⟨rfl, taker_granted hReq t, releaser_granted hReq t, rfl⟩
  | deepened | heldOn | gaveUp | deadlocked | faulted => exact Or.inr ⟨_, rfl⟩
  | refused hOther => exact Or.inr ⟨_, rfl⟩

theorem Exact.changes {ended : Option Deed} (hExact : Exact before.holding log)
    (hChanges : Changes checks kind before.holding ended h') :
    Exact h' (log ++ ended.toList.map fun d => ⟨before, d⟩) := by
  cases ended with
  | none =>
    rw [Option.toList_none, List.map_nil, List.append_nil]
    generalize before.holding = h at hExact hChanges
    cases hChanges
    exact hExact
  | some d =>
    rw [Option.toList_some, List.map_singleton]
    constructor
    · intro u
      have hBalance := hExact.balance u
      have hAdd := hChanges.timesHeld_add u
      rw [takings_append, releases_append]
      omega
    · rintro u n' rfl
      rw [tenure_append]
      rcases hChanges.taken_or_kept with ⟨hNone, hTaker, hReleaser, rfl⟩ | ⟨n, hSome⟩
      · -- a tenure begins with this operation
        have hFree : before.owner = none := Option.map_eq_none_iff.mp hNone
        rw [if_pos ⟨hFree, by rw [hTaker]; exact nofun⟩]
        simp [takings, releases, hTaker, hReleaser]
      · -- the tenure goes on
        have hOwner : before.owner ≠ none := by
          rw [(owner_of_holding hSome).1]
          exact nofun
        have hTenure := hExact.tenure_eq u n hSome
        have hAdd := hChanges.timesHeld_add u
        rw [hSome] at hAdd
        simp only [timesHeld, if_true] at hAdd
        rw [if_neg fun hFree => hOwner hFree.1, takings_append, releases_append]
        omega

theorem Changes.guards (hChanges : Changes checks kind h (some d) h')
    (hGuards : liveGuards log = guardsOf h)
    (hScoped : ∀ u answer, d = .unlocked u answer → u ∈ liveGuards log) :
    liveGuards (log ++ [⟨before, d⟩]) = guardsOf h' := by
  rw [liveGuards_append, hGuards]
  cases hChanges with
  | taken hReq | deepened hKind hReq =>
    rename_i r
    cases r with
    | lock | tryLock => rfl
    | unlock => exact absurd rfl hReq
  | heldOn hPos => exact List.erase_cons_head ..
  | handedOn => exact List.erase_cons_head ..
  | gaveUp | deadlocked | faulted => rfl
  | @refused t h hOther =>
    -- who is refused has no guard to drop
    have hMem := hScoped t _ rfl
    rw [hGuards] at hMem
    cases h with
    | none => cases hMem
    | some pair =>
      obtain ⟨u, n⟩ := pair
      obtain ⟨-, rfl⟩ := List.mem_replicate.mp hMem
      exact absurd rfl (hOther n)

-- ---------------------------------------------------------------------------
-- The law of a step
-- ---------------------------------------------------------------------------

/-- What holds of a mutex that has been in use since its creation. -/
structure Sound (kind : MutexKind) (w : World) : Prop where
  firm : Firm w.object
  kind_eq : w.object.kind = kind
  exact : Exact w.object.holding w.log

variable {w : World} {mv : Move}

/-- Every move is a look of some task at the mutex or leaves the mutex alone. -/
theorem step_cases (checks : Bool) (w : World) (mv : Move) :
    (∃ crew, w.step (protocol checks) mv = { w with crew }) ∨
      ∃ t r o, Turn checks t w.object r o ∧ w.step (protocol checks) mv = w.look t o ∧
        (r = .unlock → ∃ now, mv = .start t now .unlock ∧ w.crew.asleep t = none) := by
  have hStepped := TaskSync.World.stepped_step (protocol checks) w mv
  generalize w.step (protocol checks) mv = w' at hStepped ⊢
  cases hStepped with
  | idle => exact Or.inl ⟨w.crew, rfl⟩
  | @started t now r hAwake =>
    refine Or.inr ⟨t, r, _, turn_start checks r now t w.object, rfl, ?_⟩
    rintro rfl
    exact ⟨now, rfl, hAwake⟩
  | @resumed t now s hAsleep =>
    exact Or.inr ⟨t, _, _, turn_round checks s.call now t w.object, rfl,
      fun hUnlock => absurd hUnlock s.call.request_ne⟩
  | @acted a => nomatch a
  | abandoned => exact Or.inl ⟨_, rfl⟩

theorem Turn.unlocked {answer : Except Fault Unit} (hTurn : Turn checks t m r o)
    (hDeed : o.answer.deed? = some (.unlocked u answer)) : r = .unlock ∧ u = t := by
  cases hTurn with
  | taken hReq | deepened hReq =>
    cases r with
    | lock | tryLock => cases hDeed
    | unlock => exact absurd rfl hReq
  | refused | heldOn | handedOn =>
    cases hDeed
    exact ⟨rfl, rfl⟩
  | deadlocked | faulted | selfBlocked | joined | crowded | gaveUp | restarting => cases hDeed

theorem Sound.room (hSound : Sound kind w) (hShallow : Shallow checks w mv)
    (hStep : w.step (protocol checks) mv = w.look t o)
    (hTaker : o.answer.deed?.bind Deed.taker? = some t) (hOwner : w.object.owner = some t) :
    w.object.depth.toNat + 1 < UInt32.size := by
  -- the taking is in the log after the move, and there the balance is less than 2^32
  obtain ⟨d, hDeed, hTaker⟩ := Option.bind_eq_some_iff.mp hTaker
  have hReleaser : d.releaser? = none := by
    cases d with
    | locked | tried => rfl
    | unlocked => cases hTaker
  have hBalance := hSound.exact.balance t
  have hRoom := hShallow t
  rw [hStep, TaskSync.World.look, hDeed, TaskSync.World.logged_some, takings_append,
    releases_append, hTaker, hReleaser] at hRoom
  rw [holding_of_owner hOwner] at hBalance
  simp only [timesHeld, if_true, reduceCtorEq, if_false] at hBalance hRoom
  omega

/-- What a move does to a mutex in use. -/
structure Lawful (checks : Bool) (kind : MutexKind) (w : World) (mv : Move)
    (ended : Option Deed) : Prop where
  log_eq : (w.step (protocol checks) mv).log = w.logged ended
  changes : Changes checks kind w.object.holding ended
    (w.step (protocol checks) mv).object.holding
  firm : Firm (w.step (protocol checks) mv).object
  kind_eq : (w.step (protocol checks) mv).object.kind = kind
  unlocked : ∀ t answer, ended = some (.unlocked t answer) →
    ∃ now, mv = .start t now .unlock ∧ w.crew.asleep t = none

theorem lawful_step (hSound : Sound kind w) (hShallow : Shallow checks w mv) :
    ∃ ended, Lawful checks kind w mv ended := by
  rcases step_cases checks w mv with ⟨crew, hStep⟩ | ⟨t, r, o, hTurn, hStep, hUnlock⟩
  · refine ⟨none, ?_, ?_, ?_, ?_, nofun⟩
    · rw [hStep, TaskSync.World.logged_none]
    · rw [hStep]
      exact .nothing
    · rw [hStep]
      exact hSound.firm
    · rw [hStep]
      exact hSound.kind_eq
  · obtain ⟨hFirm, hKind, hChanges⟩ :=
      hTurn.lawful hSound.firm fun hTaker => hSound.room hShallow hStep hTaker
    rw [hSound.kind_eq] at hKind hChanges
    refine ⟨o.answer.deed?, ?_, ?_, ?_, ?_, ?_⟩
    · rw [hStep]
      rfl
    · rw [hStep]
      exact hChanges
    · rw [hStep]
      exact hFirm
    · rw [hStep]
      exact hKind
    · intro u answer hDeed
      obtain ⟨hReq, rfl⟩ := hTurn.unlocked hDeed
      exact hUnlock hReq

theorem sound_step (hShallow : Shallow checks w mv) (hSound : Sound kind w) :
    Sound kind (w.step (protocol checks) mv) := by
  obtain ⟨ended, hLawful⟩ := lawful_step hSound hShallow
  refine ⟨hLawful.firm, hLawful.kind_eq, ?_⟩
  rw [hLawful.log_eq]
  exact hSound.exact.changes hLawful.changes

theorem guards_step (hSound : Sound kind w) (hShallow : Shallow checks w mv)
    (hScoped : Scoped w mv) (hGuards : liveGuards w.log = guardsOf w.object.holding) :
    liveGuards (w.step (protocol checks) mv).log =
      guardsOf (w.step (protocol checks) mv).object.holding := by
  obtain ⟨ended, hLawful⟩ := lawful_step hSound hShallow
  have hChanges := hLawful.changes
  rw [hLawful.log_eq]
  cases ended with
  | none =>
    rw [TaskSync.World.logged_none, hGuards]
    generalize w.object.holding = h at hChanges ⊢
    cases hChanges
    rfl
  | some d =>
    rw [TaskSync.World.logged_some]
    refine hChanges.guards hGuards fun u answer hDeed => ?_
    obtain ⟨now, hMove, hAwake⟩ := hLawful.unlocked u answer (congrArg some hDeed)
    exact hScoped u now hMove hAwake

-- ---------------------------------------------------------------------------
-- An owner who waits for himself
-- ---------------------------------------------------------------------------

/-- The owner of a normal mutex sleeps in a call of `lock` that has found this out. -/
structure Stuck (t : TaskId) (depth : UInt32) (w : World) : Prop where
  kind_eq : w.object.kind = .normal
  owner_eq : w.object.owner = some t
  depth_eq : w.object.depth = depth
  asleep : w.crew.asleep t = some ⟨.locking .selfBlocked, some lockQuantum⟩

/-- Without contract checks, the owner of a normal mutex who looks for the lock finds that he
waits for himself. -/
theorem Turn.eq_selfBlocked (hTurn : Turn false t m r o) (hReq : r = .lock)
    (hOwner : m.owner = some t) (hKind : m.kind = .normal) :
    o = .still m (.suspended (.locking .selfBlocked) (some lockQuantum)) := by
  cases hTurn with
  | taken _ hFree =>
    rw [hOwner] at hFree
    cases hFree
  | deepened _ _ hRecursive =>
    rw [hKind] at hRecursive
    cases hRecursive
  | selfBlocked => rfl
  | joined _ hBusy | crowded _ hBusy | restarting hBusy => exact absurd hOwner hBusy.2
  | deadlocked | gaveUp | refused | heldOn | handedOn => cases hReq
  | faulted hChecks => cases hChecks

theorem Turn.eq_of_other (hTurn : Turn checks u m r o) (hOwner : m.owner = some t) (hNe : u ≠ t) :
    o.object.kind = m.kind ∧ o.object.owner = m.owner ∧ o.object.depth = m.depth := by
  have hOther : m.owner ≠ some u := by
    rw [hOwner]
    exact fun hSame => hNe (Option.some.inj hSame).symm
  cases hTurn with
  | taken _ hFree =>
    rw [hOwner] at hFree
    cases hFree
  | deepened _ hSelf | heldOn hSelf | handedOn hSelf => exact absurd hSelf hOther
  | deadlocked | faulted | selfBlocked | joined | crowded | gaveUp | restarting | refused =>
    exact ⟨rfl, rfl, rfl⟩

theorem stuck_start {now : Ticks} (hOwner : w.object.owner = some t)
    (hKind : w.object.kind = .normal) (hAwake : w.crew.asleep t = none) :
    Stuck t w.object.depth (w.step (protocol false) (.start t now .lock)) := by
  have hTurn := turn_start false .lock now t w.object
  rw [TaskSync.World.step_start hAwake, hTurn.eq_selfBlocked rfl hOwner hKind,
    TaskSync.World.look_suspended]
  exact ⟨hKind, hOwner, rfl, Crew.asleep_look_self _⟩

theorem stuck_step {depth : UInt32} (hMove : mv ≠ .abandon t) (h : Stuck t depth w) :
    Stuck t depth (w.step (protocol false) mv) := by
  have hStepped := TaskSync.World.stepped_step (protocol false) w mv
  generalize w.step (protocol false) mv = w' at hStepped ⊢
  -- a look of somebody else
  have hLook : ∀ {u r o}, u ≠ t → Turn false u w.object r o → Stuck t depth (w.look u o) := by
    intro u r o hNe hTurn
    obtain ⟨hKind, hOwner, hDepth⟩ := hTurn.eq_of_other h.owner_eq hNe
    refine ⟨hKind.trans h.kind_eq, hOwner.trans h.owner_eq, hDepth.trans h.depth_eq, ?_⟩
    exact (Crew.asleep_look_of_ne hNe.symm _).trans h.asleep
  cases hStepped with
  | idle => exact h
  | @started u now r hAwake =>
    have hNe : u ≠ t := by
      rintro rfl
      rw [h.asleep] at hAwake
      cases hAwake
    exact hLook hNe (turn_start false r now u w.object)
  | @resumed u now s hAsleep =>
    by_cases hSelf : u = t
    · subst hSelf
      rw [h.asleep] at hAsleep
      obtain rfl := Option.some.inj hAsleep
      have hTurn := turn_round false (.locking .selfBlocked) now u w.object
      rw [hTurn.eq_selfBlocked rfl h.owner_eq h.kind_eq, TaskSync.World.look_suspended]
      exact ⟨h.kind_eq, h.owner_eq, h.depth_eq, Crew.asleep_look_self _⟩
    · exact hLook hSelf (turn_round false s.call now u w.object)
  | @acted a => nomatch a
  | @abandoned u =>
    have hNe : t ≠ u := by
      rintro rfl
      exact hMove rfl
    refine ⟨h.kind_eq, h.owner_eq, h.depth_eq, ?_⟩
    exact (Crew.asleep_look_of_ne hNe _).trans h.asleep

-- ---------------------------------------------------------------------------
-- Runs
-- ---------------------------------------------------------------------------

theorem Sound.owned (hSound : Sound kind w) : Owned checks kind w where
  kind_eq := hSound.kind_eq
  depth_pos_iff := hSound.firm.depth_pos_iff
  depth_eq := fun t hOwner => hSound.exact.tenure_eq t _ (holding_of_owner hOwner)
  depth_le := fun hNormal => hSound.firm.depth_le (hSound.kind_eq.trans hNormal)
  law := by
    intro mv hShallow
    obtain ⟨ended, hLawful⟩ := lawful_step hSound hShallow
    exact ⟨ended, hLawful.log_eq, hLawful.changes⟩
  stuck := by
    rintro t now rfl hNormal hOwner hAwake later hLater
    have hStuck : Stuck t w.object.depth
        ((w.step (protocol false) (.start t now .lock)).run (protocol false) later) :=
      TaskSync.World.run_induction
        (fun w mv hMem => stuck_step fun hAbandon => hLater (hAbandon ▸ hMem))
        (stuck_start hOwner (hSound.kind_eq.trans hNormal) hAwake)
    refine ⟨hStuck.asleep, ?_⟩
    rw [holding_of_owner hStuck.owner_eq, hStuck.depth_eq, holding_of_owner hOwner]

theorem Sound.wellGuarded (hSound : Sound kind w)
    (hGuards : liveGuards w.log = guardsOf w.object.holding) : WellGuarded kind w where
  free := by
    intro hFree
    rw [hGuards, holding_of_free hFree]
    rfl
  held := by
    intro t hOwner
    rw [hGuards, holding_of_owner hOwner]
    rfl
  exclusive := by
    intro hNormal
    have hLe := hSound.firm.depth_le (hSound.kind_eq.trans hNormal)
    rw [hGuards]
    cases hOwner : w.object.owner with
    | none =>
      rw [holding_of_free hOwner]
      exact Nat.zero_le 1
    | some t =>
      rw [holding_of_owner hOwner]
      show (List.replicate w.object.depth.toNat t).length ≤ 1
      rw [List.length_replicate]
      exact UInt32.le_iff_toNat_le.mp hLe

theorem sound_fresh (kind : MutexKind) : Sound kind (.fresh (create kind)) :=
  ⟨.of_free rfl rfl, rfl, exact_fresh⟩

theorem length_log_step (checks : Bool) (w : World) (mv : Move) :
    (w.step (protocol checks) mv).log.length ≤ w.log.length + 1 := by
  rcases step_cases checks w mv with ⟨crew, hStep⟩ | ⟨t, r, o, -, hStep, -⟩
  · rw [hStep]
    exact Nat.le_succ _
  · rw [hStep]
    show (w.log ++ _).length ≤ _
    rw [List.length_append, List.length_map]
    exact Nat.add_le_add_left Option.length_toList_le _

/-- Nobody can take a mutex 2^32 times in fewer moves. -/
theorem shallow_of_length {moves : List Move} (w : World)
    (hShort : w.log.length + moves.length < UInt32.size) :
    w.Allows (protocol checks) (Shallow checks) moves := by
  induction moves generalizing w with
  | nil => trivial
  | cons mv rest ih =>
    have hLog := length_log_step checks w mv
    rw [List.length_cons] at hShort
    refine ⟨fun t => ?_, ih _ (by omega)⟩
    have hTakings : takings t (w.step (protocol checks) mv).log ≤ _ := List.countP_le_length
    omega

/-- In every run, whoever has the mutex has it as the law says, and so do the guards. -/
theorem owned_run (checks : Bool) (kind : MutexKind) {moves : List Move}
    (hShallow : (TaskSync.World.fresh (create kind)).Allows (protocol checks) (Shallow checks)
      moves) :
    Owned checks kind (after checks (create kind) moves) ∧
      ((TaskSync.World.fresh (create kind)).Allows (protocol checks) Scoped moves →
        WellGuarded kind (after checks (create kind) moves)) := by
  constructor
  · have hSound : Sound kind (after checks (create kind) moves) :=
      TaskSync.World.run_induction_of_allows (fun _ _ => sound_step) hShallow (sound_fresh kind)
    exact hSound.owned
  · intro hScoped
    have hGuarded : Sound kind (after checks (create kind) moves) ∧
        liveGuards (after checks (create kind) moves).log =
          guardsOf (after checks (create kind) moves).object.holding :=
      TaskSync.World.run_induction_of_allows
        (I := fun w => Sound kind w ∧ liveGuards w.log = guardsOf w.object.holding)
        (fun _ _ hMove hw =>
          ⟨sound_step hMove.1 hw.1, guards_step hw.1 hMove.1 hMove.2 hw.2⟩)
        (hShallow.and hScoped) ⟨sound_fresh kind, rfl⟩
    exact hGuarded.1.wellGuarded hGuarded.2

/-- A recursive mutex is taken twice, somebody waits for it, and a third task takes it first. -/
def overtaken : List Move :=
  [.start ⟨1⟩ 0 .lock, .start ⟨1⟩ 0 (.tryLock 0), .start ⟨2⟩ 0 (.tryLock 10),
    .start ⟨1⟩ 1 .unlock, .resume ⟨2⟩ 2, .start ⟨1⟩ 3 .unlock, .start ⟨3⟩ 3 .lock,
    .resume ⟨2⟩ 10]

theorem owned_run_overtaken :
    (TaskSync.World.fresh (create .recursive)).Allows (protocol true) (Shallow true) overtaken ∧
      (TaskSync.World.fresh (create .recursive)).Allows (protocol true) Scoped overtaken ∧
      Owned true .recursive (after true (create .recursive) overtaken) ∧
      WellGuarded .recursive (after true (create .recursive) overtaken) ∧
      (after true (create .recursive) overtaken).object.holding = some (⟨3⟩, 1) := by
  have hShallow : (TaskSync.World.fresh (create .recursive)).Allows (protocol true) (Shallow true)
      overtaken := shallow_of_length _ (by decide)
  have hScoped : (TaskSync.World.fresh (create .recursive)).Allows (protocol true) Scoped
      overtaken := by
    refine ⟨nofun, nofun, nofun, ?_, nofun, ?_, nofun, nofun, trivial⟩
    · rintro t now hUnlock -
      cases hUnlock
      decide
    · rintro t now hUnlock -
      cases hUnlock
      decide
  obtain ⟨hOwned, hGuarded⟩ := owned_run true .recursive hShallow
  exact ⟨hShallow, hScoped, hOwned, hGuarded hScoped, by decide⟩

end Mutex

end TaskSync
