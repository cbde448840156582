import TaskSync.Proofs.GlobalLock.Runs
import TaskSync.Proofs.Mutex.Ownership

/-!
# TaskSync — setting up a global lock

The storage of a global lock is claimed once. Whoever has claimed it is the only
one to put a mutex where it stays, finds that place empty, and is the only one to
publish the mutex; so there is one mutex for good, a normal one, and one
initialisation at most is told that it has succeeded (`SetUp`). Every look of a task
keeps this.

* `looked_of_turn` — all that a use can make of a look at such a mutex.
* `setUp_look` — the invariant.
-/

namespace TaskSync

/-- The operations that have ended, in order. -/
def World.deeds {σ κ δ : Type} (w : World σ κ δ) : List δ := w.log.map (·.deed)

theorem World.deeds_logged {σ κ δ : Type} (w : World σ κ δ) (ended : Option δ) :
    (w.logged ended).map (·.deed) = w.deeds ++ ended.toList := by
  rw [logged, List.map_append, List.map_map]
  exact congrArg _ (List.map_id' _)

theorem World.deeds_look {σ κ δ : Type} (w : World σ κ δ) (t : TaskId)
    (o : Outcome σ (Round κ δ)) : (w.look t o).deeds = w.deeds ++ o.answer.deed?.toList :=
  w.deeds_logged o.answer.deed?

namespace GlobalLock

variable {α : Type} {checks : Bool} {t u : TaskId} {s : Shared α} {m : Mutex}

/-- Whatever is asked of those who sleep, nobody fails it where nobody does. -/
theorem forall_mem_none {β : Type} {P : β → Prop} : ∀ b ∈ (none : Option β), P b :=
  fun b hb => absurd hb (Option.not_mem_none b)

-- ---------------------------------------------------------------------------
-- Uses of a normal mutex
-- ---------------------------------------------------------------------------

/-- A normal mutex, owner and depth of which fit together. -/
structure Sane (m : Mutex) : Prop where
  kind_eq : m.kind = .normal
  firm : m.Firm

theorem sane_create : Sane (Mutex.create .normal) := ⟨rfl, .of_free rfl rfl⟩

/-- A normal mutex is taken once. -/
theorem Sane.depth_eq (h : Sane m) (hOwner : m.owner = some t) : m.depth = 1 :=
  UInt32.le_antisymm (h.firm.depth_le h.kind_eq)
    (UInt32.le_iff_toNat_le.mpr (UInt32.lt_iff_toNat_lt.mp (h.firm.depth_pos hOwner)))

/-- All that a use can make of a look at a normal mutex: the mutex afterwards, and how the use
goes on. -/
inductive Looked (t : TaskId) (m : Mutex) : Use α → Mutex → Round (Call α) (Deed α) → Prop
  | entered {p : Purpose α} : m.owner = none → Looked t m (.enter p) (m.takenBy t) (p.begin t)
  | left : m.owner = some t → Looked t m .leave m.handedOn (.finished (.released t (.ok ())))
  | blocked {v : Use α} {waiters : WaitList} {k : Mutex.Call} {limit : Option Ticks} :
      k.request = v.request →
      Looked t m v { m with waiters } (.suspended (.locking v k) limit)
  | faulted {v : Use α} {f : Fault} : Looked t m v m (.finished (.faulted t v f))
  | refused {f : Fault} :
      m.owner ≠ some t → Looked t m .leave m (.finished (.released t (.error f)))

theorem looked_of_turn {v : Use α} {o : Outcome Mutex (Round Mutex.Call Mutex.Deed)}
    (hSane : Sane m) (hTurn : Mutex.Turn checks t m v.request o) :
    Looked t m v o.object (v.next t o.answer) := by
  generalize hReq : v.request = r at hTurn
  cases hTurn with
  | taken hLock hFree =>
    cases v with
    | enter p =>
      cases hReq
      exact .entered hFree
    | leave => exact absurd hReq.symm hLock
  | deepened _ _ hRecursive =>
    rw [hSane.kind_eq] at hRecursive
    cases hRecursive
  | faulted => cases v <;> exact .faulted
  | selfBlocked =>
    show Looked t m v { m with waiters := m.waiters } _
    exact .blocked hReq.symm
  | joined | crowded | restarting => exact .blocked (Eq.symm hReq)
  | deadlocked | gaveUp => cases v <;> cases hReq
  | refused =>
    cases v with
    | enter p => cases hReq
    | leave => exact .refused ‹_›
  | heldOn hOwner hMore =>
    rw [hSane.depth_eq hOwner] at hMore
    exact absurd hMore (UInt32.lt_irrefl 0)
  | handedOn hOwner =>
    cases v with
    | enter p => cases hReq
    | leave => exact .left hOwner

/-- The owner of a normal mutex releases it for good. -/
theorem unlock_of_owner (hSane : Sane m) (hOwner : m.owner = some t) :
    m.unlock t = ⟨m.handedOn, m.waiters.firstNotice, .ok ()⟩ := by
  have hLast : m.depth - 1 = 0 := by
    rw [hSane.depth_eq hOwner]
    rfl
  rw [Mutex.unlock, if_neg (not_not_intro hOwner)]
  dsimp only
  rw [hLast, if_neg (UInt32.lt_irrefl 0), Mutex.handedOn]

variable {v : Use α} {m' : Mutex} {next : Round (Call α) (Deed α)}

theorem Looked.sane (h : Looked t m v m' next) (hSane : Sane m) : Sane m' := by
  cases h with
  | entered => exact ⟨hSane.kind_eq, Mutex.firm_takenBy m t⟩
  | left => exact ⟨hSane.kind_eq, .of_free rfl rfl⟩
  | blocked => exact ⟨hSane.kind_eq, hSane.firm.of_eq rfl rfl rfl⟩
  | faulted | refused => exact hSane

/-- Whoever has looked at the mutex asks it for what his use needs, and publishes nothing. -/
theorem Looked.sleeps (h : Looked t m v m' next) :
    ∀ s ∈ next.sleep?, s.call.publishes = false ∧ s.call.Fits := by
  cases h with
  | @entered p =>
    cases p with
    | hold => exact forall_mem_none
    | access cell a =>
      rintro _ ⟨⟩
      exact ⟨rfl, trivial⟩
  | blocked hReq =>
    rintro _ ⟨⟩
    exact ⟨rfl, hReq⟩
  | left | faulted | refused => exact forall_mem_none

-- ---------------------------------------------------------------------------
-- The invariant
-- ---------------------------------------------------------------------------

/-- Whether an operation has initialised the lock, and says so. -/
def Deed.initialises : Deed α → Bool
  | .initialised _ (.ok _) => true
  | _ => false

theorem Looked.not_initialises (h : Looked t m v m' next) :
    ∀ d ∈ next.deed?, d.initialises = false := by
  cases h with
  | @entered p =>
    cases p with
    | hold =>
      rintro _ ⟨⟩
      rfl
    | access cell a => exact nofun
  | blocked => exact nofun
  | left | faulted | refused =>
    rintro _ ⟨⟩
    rfl

/-- The release at the end of an access. -/
theorem afterRelease_ends (t : TaskId) (cell : Nat) (a : Access α) (answer : Except Fault α)
    (released : Except Fault Unit) :
    ∃ answer', afterRelease t cell a answer released = .finished (.accessed t cell a answer') := by
  cases released <;> exact ⟨_, rfl⟩

/-- The set-up of a lock in use. -/
structure SetUp (w : World α) : Prop where
  /-- There is a mutex only where one was placed, and one was placed only where the storage is
  claimed. -/
  ready : ∀ m, w.object.lock.mutex = some m → w.object.placed = true ∧ Sane m
  filled : w.object.placed = true → w.object.lock.storage.claimed = true
  placing : ∀ t m next limit, w.crew.asleep t = some ⟨.placing m next, limit⟩ →
    w.object.lock.storage.claimed = true ∧ w.object.placed = false ∧ m = .create .normal
  publishing : ∀ t m next limit, w.crew.asleep t = some ⟨.publishing m next, limit⟩ →
    w.object.placed = true ∧ w.object.lock.mutex = none ∧ m = .create .normal
  alone : ∀ t u, w.crew.isIn Call.publishes t = true → w.crew.isIn Call.publishes u = true → t = u
  fits : ∀ t s, w.crew.asleep t = some s → s.call.Fits
  once : w.deeds.countP Deed.initialises ≤ 1
  ready_of_initialised : 0 < w.deeds.countP Deed.initialises → w.object.lock.mutex ≠ none

theorem setUp_fresh (cells : Nat → α) : SetUp (.fresh (.fresh cells) : World α) where
  ready := nofun
  filled := nofun
  placing := nofun
  publishing := nofun
  alone := nofun
  fits := nofun
  once := Nat.zero_le 1
  ready_of_initialised := fun h => absurd h (Nat.lt_irrefl 0)

variable {w : World α}

theorem SetUp.unready (h : SetUp w) (hPlaced : w.object.placed = false) :
    w.object.lock.mutex = none := by
  cases hMutex : w.object.lock.mutex with
  | none => rfl
  | some m =>
    rw [(h.ready m hMutex).1] at hPlaced
    cases hPlaced

theorem SetUp.unfilled (h : SetUp w) (hFree : w.object.lock.storage.claimed = false) :
    w.object.placed = false := by
  rw [← Bool.not_eq_true]
  intro hPlaced
  rw [h.filled hPlaced] at hFree
  cases hFree

/-- Where the storage is not claimed nobody is to publish a mutex. -/
theorem SetUp.not_publishes (h : SetUp w) (hFree : w.object.lock.storage.claimed = false)
    (t : TaskId) : w.crew.isIn Call.publishes t = false := by
  rw [← Bool.not_eq_true]
  intro hIn
  obtain ⟨⟨call, limit⟩, hAsleep, hPublishes⟩ := (Option.any_eq_true _ _).mp hIn
  cases call with
  | placing m next =>
    rw [(h.placing t m next limit hAsleep).1] at hFree
    cases hFree
  | publishing m next =>
    rw [h.filled (h.publishing t m next limit hAsleep).1] at hFree
    cases hFree
  | _ => cases hPublishes

/-- A look that does nothing for the set-up. -/
theorem SetUp.pass (h : SetUp w) {object : Shared α} {fate : Option (Sleep (Call α))}
    {ended : Option (Deed α)} (t : TaskId) (ts : List TaskId)
    (hStorage : object.lock.storage = w.object.lock.storage)
    (hPlaced : object.placed = w.object.placed)
    (hMutex : object.lock.mutex = w.object.lock.mutex ∨
      ∃ m m', w.object.lock.mutex = some m ∧ object.lock.mutex = some m' ∧ Sane m')
    (hFate : ∀ s ∈ fate, s.call.publishes = false ∧ s.call.Fits)
    (hEnded : ∀ d ∈ ended, d.initialises = false) :
    SetUp (⟨object, (w.crew.look t fate).notify ts, w.logged ended⟩ : World α) := by
  have hNone : object.lock.mutex = none ↔ w.object.lock.mutex = none := by
    rcases hMutex with hSame | ⟨m, m', hBefore, hAfter, -⟩
    · rw [hSame]
    · rw [hBefore, hAfter]
      exact ⟨nofun, nofun⟩
  have hIn : ∀ u, (w.crew.look t fate).isIn Call.publishes u = true →
      w.crew.isIn Call.publishes u = true := by
    intro u hIn
    by_cases hSelf : u = t
    · subst hSelf
      rw [Crew.isIn_look_self, Option.any_eq_true] at hIn
      obtain ⟨s, hs, hPublishes⟩ := hIn
      rw [(hFate s hs).1] at hPublishes
      cases hPublishes
    · rwa [Crew.isIn_look_of_ne hSelf] at hIn
  have hCount : ((w.logged ended).map (·.deed)).countP Deed.initialises =
      w.deeds.countP Deed.initialises := by
    rw [World.deeds_logged, List.countP_append]
    cases ended with
    | none => rfl
    | some d => simp [hEnded d rfl]
  refine ⟨?_, ?_, ?_, ?_, fun u v hu hv => h.alone u v (hIn u hu) (hIn v hv), ?_, ?_, ?_⟩
  · intro m hSome
    rw [hPlaced]
    rcases hMutex with hSame | ⟨m₀, m', hBefore, hAfter, hSane⟩
    · exact h.ready m (hSame ▸ hSome)
    · rw [show object.lock.mutex = some m from hSome] at hAfter
      cases hAfter
      exact ⟨(h.ready m₀ hBefore).1, hSane⟩
  · rw [hStorage, hPlaced]
    exact h.filled
  · intro u m next limit hAsleep
    rw [hStorage, hPlaced]
    rcases Crew.asleep_look_cases hAsleep with ⟨hSome, -⟩ | hBefore
    · cases (hFate _ hSome).1
    · exact h.placing u m next limit hBefore
  · intro u m next limit hAsleep
    rw [hPlaced, hNone]
    rcases Crew.asleep_look_cases hAsleep with ⟨hSome, -⟩ | hBefore
    · cases (hFate _ hSome).1
    · exact h.publishing u m next limit hBefore
  · intro u s hAsleep
    rcases Crew.asleep_look_cases hAsleep with ⟨hSome, -⟩ | hBefore
    · exact (hFate s hSome).2
    · exact h.fits u s hBefore
  · exact hCount ▸ h.once
  · intro hPos
    rw [ne_eq, hNone]
    exact h.ready_of_initialised (hCount ▸ hPos)

/-- Besides the task that sets the lock up, nobody does. -/
theorem SetUp.only (h : SetUp w)
    (hSelf : w.crew.isIn Call.publishes t = true ∨ w.object.lock.storage.claimed = false)
    {fate : Option (Sleep (Call α))} {s : Sleep (Call α)}
    (hAsleep : (w.crew.look t fate).asleep u = some s) (hPublishes : s.call.publishes = true) :
    u = t ∧ fate = some s := by
  rcases Crew.asleep_look_cases hAsleep with ⟨hSome, hEq⟩ | hBefore
  · exact ⟨hEq, hSome⟩
  · have hIn : w.crew.isIn Call.publishes u = true := by rwa [Crew.isIn_of_some hBefore]
    rcases hSelf with hSelf | hFree
    · obtain rfl := h.alone t u hSelf hIn
      rw [Crew.asleep_look_self] at hAsleep
      exact ⟨rfl, hAsleep⟩
    · rw [h.not_publishes hFree u] at hIn
      cases hIn

/-- A look by which the set-up goes on. -/
theorem SetUp.advance (h : SetUp w)
    (hSelf : w.crew.isIn Call.publishes t = true ∨ w.object.lock.storage.claimed = false)
    {object : Shared α} {answer : Round (Call α) (Deed α)}
    (hReady : ∀ m, object.lock.mutex = some m → object.placed = true ∧ Sane m)
    (hFilled : object.placed = true → object.lock.storage.claimed = true)
    (hPlacing : ∀ m next limit, answer.sleep? = some ⟨.placing m next, limit⟩ →
      object.lock.storage.claimed = true ∧ object.placed = false ∧ m = .create .normal)
    (hPublishing : ∀ m next limit, answer.sleep? = some ⟨.publishing m next, limit⟩ →
      object.placed = true ∧ object.lock.mutex = none ∧ m = .create .normal)
    (hFits : ∀ s ∈ answer.sleep?, s.call.Fits)
    (hOnce : (w.deeds ++ answer.deed?.toList).countP Deed.initialises ≤ 1)
    (hInitialised : 0 < (w.deeds ++ answer.deed?.toList).countP Deed.initialises →
      object.lock.mutex ≠ none) :
    SetUp (w.look t (.still object answer)) := by
  rw [World.look_still]
  refine ⟨hReady, hFilled, ?_, ?_, ?_, ?_, ?_, ?_⟩
  · intro u m next limit hAsleep
    exact hPlacing m next limit (h.only hSelf hAsleep rfl).2
  · intro u m next limit hAsleep
    exact hPublishing m next limit (h.only hSelf hAsleep rfl).2
  · intro u v hu hv
    obtain ⟨s, hs, hPublishes⟩ := (Option.any_eq_true _ _).mp hu
    obtain ⟨s', hs', hPublishes'⟩ := (Option.any_eq_true _ _).mp hv
    exact (h.only hSelf hs hPublishes).1.trans (h.only hSelf hs' hPublishes').1.symm
  · intro u s hAsleep
    rcases Crew.asleep_look_cases hAsleep with ⟨hSome, -⟩ | hBefore
    · exact hFits s hSome
    · exact h.fits u s hBefore
  · show ((w.logged answer.deed?).map (·.deed)).countP _ ≤ 1
    rw [World.deeds_logged]
    exact hOnce
  · show 0 < ((w.logged answer.deed?).map (·.deed)).countP _ → _
    rw [World.deeds_logged]
    exact hInitialised

/-- Whoever claims the storage goes on to place a mutex. -/
theorem SetUp.claim (h : SetUp w) (hFree : w.object.lock.storage.claimed = false) (t : TaskId)
    (next : Option (Use α)) :
    SetUp (w.look t (.still (w.object.claimed ⟨true⟩)
      (.suspended (.placing (.create .normal) next) (some 0)))) := by
  refine h.advance (Or.inr hFree) h.ready (fun _ => rfl) ?_ ?_ ?_ ?_ ?_
  · rintro _ _ _ ⟨⟩
    exact ⟨rfl, h.unfilled hFree, rfl⟩
  · rintro _ _ _ ⟨⟩
  · rintro _ ⟨⟩
    trivial
  · exact (List.append_nil w.deeds).symm ▸ h.once
  · exact (List.append_nil w.deeds).symm ▸ h.ready_of_initialised

/-- The mutex is placed once. -/
theorem SetUp.place (h : SetUp w) {m : Mutex} {next : Option (Use α)} {limit : Option Ticks}
    (hAsleep : w.crew.asleep t = some ⟨.placing m next, limit⟩) :
    SetUp (w.look t (.still { w.object with placed := true }
      (.suspended (.publishing m next) (some 0)))) := by
  obtain ⟨hClaimed, hPlaced, rfl⟩ := h.placing t m next limit hAsleep
  have hSelf : w.crew.isIn Call.publishes t = true := Crew.isIn_of_some hAsleep
  refine h.advance (Or.inl hSelf) (fun m hMutex => ⟨rfl, (h.ready m hMutex).2⟩)
    (fun _ => hClaimed) ?_ ?_ ?_ ?_ ?_
  · rintro _ _ _ ⟨⟩
  · rintro _ _ _ ⟨⟩
    exact ⟨rfl, h.unready hPlaced, rfl⟩
  · rintro _ ⟨⟩
    trivial
  · exact (List.append_nil w.deeds).symm ▸ h.once
  · exact (List.append_nil w.deeds).symm ▸ h.ready_of_initialised

/-- Whoever has set the lock up neither places nor publishes another mutex. -/
theorem afterSetUp_sleeps (t : TaskId) (answer : Except InitError Unit) (next : Option (Use α)) :
    ∀ s ∈ (afterSetUp t answer next).sleep?, s.call.publishes = false ∧ s.call.Fits := by
  cases next with
  | none => exact forall_mem_none
  | some u =>
    rintro _ ⟨⟩
    exact ⟨rfl, trivial⟩

/-- The mutex is published once. -/
theorem SetUp.publish (h : SetUp w) {m : Mutex} {next : Option (Use α)} {limit : Option Ticks}
    (hAsleep : w.crew.asleep t = some ⟨.publishing m next, limit⟩) :
    SetUp (w.look t (.still (w.object.withMutex m) (afterSetUp t (.ok ()) next))) := by
  obtain ⟨hPlaced, hNone, rfl⟩ := h.publishing t m next limit hAsleep
  have hSelf : w.crew.isIn Call.publishes t = true := Crew.isIn_of_some hAsleep
  have hSleeps := afterSetUp_sleeps t (.ok ()) next
  have hFirst : w.deeds.countP Deed.initialises = 0 := by
    by_contra hSome
    exact h.ready_of_initialised (Nat.pos_of_ne_zero hSome) hNone
  refine h.advance (Or.inl hSelf) ?_ (fun _ => h.filled hPlaced) ?_ ?_
    (fun s hs => (hSleeps s hs).2) ?_ (fun _ => nofun)
  · rintro m' ⟨⟩
    exact ⟨hPlaced, sane_create⟩
  · intro m' next' limit' hSleep
    cases (hSleeps _ hSleep).1
  · intro m' next' limit' hSleep
    cases (hSleeps _ hSleep).1
  · rw [List.countP_append, hFirst, Nat.zero_add]
    exact List.countP_le_length.trans Option.length_toList_le

theorem setUp_look (h : SetUp w) {o : Outcome (Shared α) (Round (Call α) (Deed α))}
    (hTurn : Turn checks t w.object ((w.crew.asleep t).map (·.call)) o) : SetUp (w.look t o) := by
  generalize hFrom : (w.crew.asleep t).map (·.call) = from? at hTurn
  cases hTurn with
  | refused | unready =>
    refine h.pass t [] rfl rfl (Or.inl rfl) forall_mem_none ?_
    rintro _ ⟨⟩
    rfl
  | claimed hFree => exact h.claim hFree t _
  | sought =>
    refine h.pass t [] rfl rfl (Or.inl rfl) ?_ nofun
    rintro _ ⟨⟩
    exact ⟨rfl, trivial⟩
  | waiting _ hPublishes =>
    obtain ⟨s, hAsleep, rfl⟩ := Option.map_eq_some_iff.mp hFrom
    refine h.pass t [] rfl rfl (Or.inl rfl) ?_ nofun
    rintro _ ⟨⟩
    exact ⟨hPublishes, h.fits t s hAsleep⟩
  | placed =>
    obtain ⟨⟨call, limit⟩, hAsleep, rfl⟩ := Option.map_eq_some_iff.mp hFrom
    exact h.place hAsleep
  | givenBack hPlaced =>
    -- whoever is to place the mutex finds its place empty
    obtain ⟨⟨call, limit⟩, hAsleep, rfl⟩ := Option.map_eq_some_iff.mp hFrom
    rw [(h.placing t _ _ _ hAsleep).2.1] at hPlaced
    cases hPlaced
  | published =>
    obtain ⟨⟨call, limit⟩, hAsleep, rfl⟩ := Option.map_eq_some_iff.mp hFrom
    exact h.publish hAsleep
  | looked hMutex _ hLook =>
    have hLooked := looked_of_turn (h.ready _ hMutex).2 hLook
    exact h.pass t _ rfl rfl (Or.inr ⟨_, _, hMutex, rfl, hLooked.sane (h.ready _ hMutex).2⟩)
      hLooked.sleeps hLooked.not_initialises
  | read =>
    refine h.pass t [] rfl rfl (Or.inl rfl) ?_ nofun
    rintro _ ⟨⟩
    exact ⟨rfl, trivial⟩
  | wrote =>
    refine h.pass t [] rfl rfl (Or.inl rfl) ?_ nofun
    rintro _ ⟨⟩
    exact ⟨rfl, trivial⟩
  | @left cell a answer m hMutex =>
    have hUnlock : Mutex.Turn checks t m (Use.leave : Use α).request _ := Mutex.turn_unlock t m
    have hLooked := looked_of_turn (h.ready _ hMutex).2 hUnlock
    obtain ⟨answer', hEnd⟩ := afterRelease_ends t cell a answer (m.unlock t).answer
    refine h.pass t _ rfl rfl (Or.inr ⟨_, _, hMutex, rfl, hLooked.sane (h.ready _ hMutex).2⟩) ?_ ?_
    · intro s hs
      rw [Shared.atMutex, hEnd] at hs
      cases hs
    · intro d hd
      rw [Shared.atMutex, hEnd] at hd
      cases hd
      rfl

/-- A task may be given up; if it has claimed the storage, there will be no mutex. -/
theorem SetUp.abandon (h : SetUp w) (t : TaskId) :
    SetUp { w with crew := w.crew.look t none } := by
  have hPassed : SetUp (⟨w.object, (w.crew.look t none).notify [], w.logged none⟩ : World α) :=
    h.pass t [] rfl rfl (Or.inl rfl) forall_mem_none nofun
  rwa [Crew.notify_nil, World.logged_none] at hPassed

end GlobalLock

end TaskSync
