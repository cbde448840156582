import TaskSync.Proofs.EventGroup.Barrier

/-!
# TaskSync — a barrier used again and again

The parties of a `Meeting` call a barrier as often as they like, each with no
limit to its wait. A released party may run late, and rounds overlap: its fired
entry is in the wait table while faster parties set bits of the next round. A
party that found the table full may sleep through the end of its round, and
then is missing in the next.

The argument is one invariant (`InRound`) with the number of the round and the
parties that have set their bits in it. These sleep, and nothing has fired
them. Every party has called once for each round before, and once more if it
has set its bit in this one. A round ends with the arrival that completes it,
and no move but this one changes the number of the round.

Main result:

* `EventGroup.inRounds_run` — when a party has returned for the `k`-th time each
  has called for the `k`-th time, and has seen the bits of all.
-/

namespace TaskSync

namespace EventGroup

/-- The task whose call begins with a move. -/
def caller? (w : World) : Move → Option TaskId
  | .start t _ _ => if (w.crew.asleep t).isNone then some t else none
  | _ => none

/-- The tasks whose calls begin in a run, in order. -/
def callers (w : World) : List Move → List TaskId
  | [] => []
  | mv :: rest => (caller? w mv).toList ++ callers (w.step protocol mv) rest

/-- The task whose call it was that has ended. -/
def Deed.waiter? : Deed → Option TaskId
  | .waited t _ _ => some t
  | _ => none

/-- The tasks that have returned from a call, in order. -/
def returners (w : World) : List TaskId := w.log.filterMap fun r => r.deed.waiter?

/-- The parties arrive as often as they like, and nobody else uses the group. -/
def Meeting.Repeats (M : Meeting) (moves : List Move) : Prop :=
  ∀ mv ∈ moves, (∃ t now, mv = .resume t now) ∨ ∃ t ∈ M.parties, ∃ now, mv = M.arrival t now

/-- How often a task has called, if the group was new. -/
def calls (moves : List Move) (t : TaskId) : Nat :=
  (callers (.fresh (create 0)) moves).count t

/-- How often a task has returned. -/
def returns (w : World) (t : TaskId) : Nat := (returners w).count t

/-- Nobody gets through the barrier early. -/
structure Meeting.InRounds (M : Meeting) (moves : List Move) (w : World) : Prop where
  /-- As often as one party has returned, each has called. -/
  behind : ∀ t ∈ M.parties, ∀ u ∈ M.parties, returns w t ≤ calls moves u
  /-- As often as all have called, one has returned. -/
  opens : ∀ k, M.parties ≠ [] → (∀ u ∈ M.parties, k ≤ calls moves u) →
    ∃ t ∈ M.parties, k ≤ returns w t
  /-- A party that is not asleep has returned as often as it has called. -/
  underWay : ∀ t ∈ M.parties,
    calls moves t = returns w t + if (w.crew.asleep t).isSome then 1 else 0
  /-- All that has ended are waits of the parties, each with the bits of all. -/
  answered : ∀ r ∈ w.log, ∃ t ∈ M.parties, ∃ v, v &&& M.all = M.all ∧
    r.deed = .waited t (barrierWish M.all) (.ok v)

-- ---------------------------------------------------------------------------
-- Counting calls
-- ---------------------------------------------------------------------------

variable {M : Meeting} {moves : List Move} {mv : Move} {w w' : World} {t u : TaskId}

theorem callers_append (w : World) (moves later : List Move) :
    callers w (moves ++ later) = callers w moves ++ callers (w.run protocol moves) later := by
  induction moves generalizing w with
  | nil => rfl
  | cons mv rest ih =>
    rw [List.cons_append, callers, callers, ih, List.append_assoc]
    rfl

theorem calls_concat (moves : List Move) (mv : Move) (t : TaskId) :
    calls (moves ++ [mv]) t =
      calls moves t + (caller? (after (create 0) moves) mv).toList.count t := by
  rw [calls, callers_append, List.count_append]
  congr 1
  exact congrArg (List.count t) (List.append_nil _)

theorem returns_of_log {before : EventGroup} {wish : EventWish}
    {answer : Except EventBits EventBits}
    (h : w'.log = w.log ++ [⟨before, .waited u wish answer⟩]) (t : TaskId) :
    returns w' t = returns w t + if t = u then 1 else 0 := by
  rw [returns, returners, h, List.filterMap_append, List.count_append]
  show _ + List.count t [u] = _
  rw [List.count_singleton]
  congr 1
  exact if_congr (beq_iff_eq.trans eq_comm) rfl rfl

-- ---------------------------------------------------------------------------
-- Within a round
-- ---------------------------------------------------------------------------

/-- The parties `gathered` have set their bits in the round after `n` others. -/
structure InRound (M : Meeting) (n : Nat) (gathered : List TaskId) (made : TaskId → Nat)
    (w : World) : Prop where
  parties : gathered ⊆ M.parties
  /-- The round is not complete. -/
  missing : M.parties ≠ [] → ¬ M.parties ⊆ gathered
  bits_eq : w.object.bits = M.joint gathered
  made_eq : ∀ t ∈ M.parties, made t = n + if t ∈ gathered then 1 else 0
  underWay : ∀ t ∈ M.parties, made t = returns w t + if (w.crew.asleep t).isSome then 1 else 0
  /-- Nothing releases who has set his bit in this round. -/
  waits : ∀ t ∈ gathered,
    (w.crew.asleep t).isSome ∧ ∀ e, w.object.entryOf? t = some e → e.fired = none
  entries : ∀ e ∈ w.object.waiters,
    e.wish = barrierWish M.all ∧ ∀ v, e.fired = some v → v &&& M.all = M.all
  asleep : ∀ t s, w.crew.asleep t = some s → t ∈ M.parties ∧ s.call.Patient M.all
  answered : ∀ r ∈ w.log, ∃ t ∈ M.parties, ∃ v, v &&& M.all = M.all ∧
    r.deed = .waited t (barrierWish M.all) (.ok v)
  /-- Somebody has returned from each of the rounds before. -/
  opened : M.parties ≠ [] → ∃ t ∈ M.parties, n ≤ returns w t

variable {n : Nat} {gathered : List TaskId} {made : TaskId → Nat}

/-- A task in the middle of a call looks and waits on. -/
theorem InRound.stay (h : InRound M n gathered made w) (hAsleep : (w.crew.asleep u).isSome)
    (hParty : u ∈ M.parties) {g : EventGroup} {s : Sleep Call} (hPatient : s.call.Patient M.all)
    (hBits : g.bits = w.object.bits)
    (hEntries : ∀ e ∈ g.waiters, e ∈ w.object.waiters ∨ e = ⟨u, barrierWish M.all, none⟩)
    (hUnfired : ∀ t ∈ gathered, ∀ e, g.entryOf? t = some e → e.fired = none) :
    InRound M n gathered made ⟨g, w.crew.look u (some s), w.log⟩ := by
  have hSome : ∀ t, ((w.crew.look u (some s)).asleep t).isSome = (w.crew.asleep t).isSome := by
    intro t
    by_cases hSame : t = u
    · subst hSame
      rw [Crew.asleep_look_self, hAsleep]
      rfl
    · rw [Crew.asleep_look_of_ne hSame]
  refine ⟨h.parties, h.missing, hBits.trans h.bits_eq, h.made_eq, fun t hMem => ?_,
    fun t hMem => ?_, fun e hMem => ?_, fun t s' hSleep => ?_, h.answered, h.opened⟩
  · show made t = returns w t + _
    rw [hSome]
    exact h.underWay t hMem
  · rw [hSome]
    exact ⟨(h.waits t hMem).1, hUnfired t hMem⟩
  · rcases hEntries e hMem with hOld | rfl
    · exact h.entries e hOld
    · exact ⟨rfl, nofun⟩
  · rcases Crew.asleep_look_cases hSleep with ⟨hNew, rfl⟩ | hOld
    · obtain rfl := Option.some.inj hNew
      exact ⟨hParty, hPatient⟩
    · exact h.asleep t s' hOld

/-- A task that an earlier round has released returns. -/
theorem InRound.collect (h : InRound M n gathered made w) (hNodup : w.object.tasks.Nodup)
    (hAsleep : (w.crew.asleep u).isSome) (hParty : u ∈ M.parties) {e : EventWaiter}
    {value : EventBits} (hEntry : w.object.entryOf? u = some e) (hFired : e.fired = some value) :
    InRound M n gathered made ⟨w.object.dismiss u, w.crew.look u none,
      w.log ++ [⟨w.object, .waited u (barrierWish M.all) (.ok value)⟩]⟩ := by
  have hOut : ∀ t ∈ gathered, t ≠ u := by
    rintro t hMem rfl
    have hUnfired := (h.waits t hMem).2 e hEntry
    rw [hFired] at hUnfired
    cases hUnfired
  have hReturns : ∀ t, returns ⟨w.object.dismiss u, w.crew.look u none,
      w.log ++ [⟨w.object, .waited u (barrierWish M.all) (.ok value)⟩]⟩ t =
        returns w t + if t = u then 1 else 0 := returns_of_log rfl
  refine ⟨h.parties, h.missing, (bits_dismiss ..).trans h.bits_eq, h.made_eq, fun t hMem => ?_,
    fun t hMem => ?_, fun e' hMem => ?_, fun t s' hSleep => ?_, fun r hMem => ?_, fun hSome => ?_⟩
  · rw [hReturns, h.underWay t hMem]
    by_cases hSame : t = u
    · subst hSame
      rw [Crew.asleep_look_self, if_pos hAsleep, if_pos rfl]
      rfl
    · rw [Crew.asleep_look_of_ne hSame, if_neg hSame]
      rfl
  · rw [Crew.asleep_look_of_ne (hOut t hMem), entryOf?_dismiss_of_ne hNodup (hOut t hMem)]
    exact h.waits t hMem
  · exact h.entries e' ((mem_dismiss hNodup).mp hMem).1
  · rcases Crew.asleep_look_cases hSleep with ⟨hNone, -⟩ | hOld
    · cases hNone
    · exact h.asleep t s' hOld
  · rcases List.mem_append.mp hMem with hOld | hNew
    · exact h.answered r hOld
    · rw [List.mem_singleton.mp hNew]
      have hValue := (h.entries e (entry_of_some hEntry).1).2 value hFired
      exact ⟨u, hParty, value, hValue, rfl⟩
  · obtain ⟨t, hMem, hLe⟩ := h.opened hSome
    refine ⟨t, hMem, hLe.trans ?_⟩
    rw [hReturns]
    exact Nat.le_add_right ..

/-- A look of a party in the middle of its call leaves the round as it is. -/
theorem InRound.resume (h : InRound M n gathered made w) (hNodup : w.object.tasks.Nodup)
    (u : TaskId) (now : Ticks) :
    InRound M n gathered made (w.step protocol (.resume u now)) := by
  cases hAsleep : w.crew.asleep u with
  | none =>
    rw [TaskSync.World.step_resume_of_awake hAsleep]
    exact h
  | some s =>
    obtain ⟨hParty, hPatient⟩ := h.asleep u s hAsleep
    have hSome : (w.crew.asleep u).isSome := Option.isSome_iff_exists.mpr ⟨s, hAsleep⟩
    have hBided := bided_resume hAsleep hPatient now
    generalize w.step protocol (.resume u now) = w' at hBided
    have hUnfired : ∀ t ∈ gathered, ∀ e, w.object.entryOf? t = some e → e.fired = none :=
      fun t hMem => (h.waits t hMem).2
    cases hBided with
    | collected hEntry hFired => exact h.collect hNodup hSome hParty hEntry hFired
    | satisfied _ hHolds =>
      -- the round is not complete
      rw [h.bits_eq, M.joint_and_all_iff h.parties] at hHolds
      exact absurd hHolds (h.missing (List.ne_nil_of_mem hParty))
    | stayed _ _ hNext | crowded _ hNext =>
      exact h.stay hSome hParty hNext rfl (fun e hMem => Or.inl hMem) hUnfired
    | joined hNone hEnlist hNext =>
      have hOwn := entryOf?_enlist_self (entryOf?_eq_none_iff.mp hNone) hEnlist
      have hOther : ∀ t, t ≠ u → _ := fun t hNe => entryOf?_enlist_of_ne (u := t) hNe hEnlist
      obtain ⟨-, rfl⟩ := enlist_eq_some_iff.mp hEnlist
      refine h.stay hSome hParty hNext rfl (fun e hMem => ?_) fun t hMem e hEntry => ?_
      · exact (List.mem_append.mp hMem).imp_right List.mem_singleton.mp
      · by_cases hSame : t = u
        · subst hSame
          obtain rfl := Option.some.inj (hOwn.symm.trans hEntry)
          rfl
        · rw [hOther t hSame] at hEntry
          exact hUnfired t hMem e hEntry

-- ---------------------------------------------------------------------------
-- Arrivals
-- ---------------------------------------------------------------------------

/-- A party that is in no call has not set its bit in this round. -/
theorem InRound.not_gathered (h : InRound M n gathered made w) (hAwake : w.crew.asleep t = none) :
    t ∉ gathered := by
  intro hMem
  have hAsleep := (h.waits t hMem).1
  rw [hAwake] at hAsleep
  cases hAsleep

theorem InRound.concat_subset (h : InRound M n gathered made w) (hParty : t ∈ M.parties) :
    gathered ++ [t] ⊆ M.parties :=
  List.append_subset.mpr ⟨h.parties, fun _ hMem => List.mem_singleton.mp hMem ▸ hParty⟩

/-- A party arrives, and it is not the last. -/
theorem InRound.gather (h : InRound M n gathered made w) (hParty : t ∈ M.parties)
    (hAwake : w.crew.asleep t = none) (hMissing : ¬ M.parties ⊆ gathered ++ [t])
    {g : EventGroup} (notified : List TaskId) (hBits : g.bits = M.joint (gathered ++ [t]))
    (hEntries : ∀ e ∈ g.waiters, e ∈ w.object.waiters ∨ e = ⟨t, barrierWish M.all, none⟩)
    (hOther : ∀ u, u ≠ t → g.entryOf? u = w.object.entryOf? u)
    (hOwn : ∀ e, g.entryOf? t = some e → e.fired = none) :
    InRound M n (gathered ++ [t]) (fun u => made u + [t].count u)
      ⟨g, (w.crew.look t (some ⟨.arrived M.all waitForever, some 0⟩)).notify notified, w.log⟩ := by
  have hNew := h.not_gathered hAwake
  refine ⟨?_, fun _ => hMissing, hBits, fun u hMem => ?_, fun u hMem => ?_, fun u hMem => ?_,
    fun e hMem => ?_, fun u s hSleep => ?_, h.answered, h.opened⟩
  · exact h.concat_subset hParty
  · show made u + _ = _
    rw [h.made_eq u hMem]
    by_cases hSame : u = t
    · subst hSame
      simp [hNew]
    · simp [hSame, Ne.symm hSame]
  · show made u + _ = returns w u + if ((w.crew.look t _).asleep u).isSome then 1 else 0
    rw [h.underWay u hMem]
    by_cases hSame : u = t
    · subst hSame
      simp [hAwake]
    · rw [Crew.asleep_look_of_ne hSame]
      simp [Ne.symm hSame]
  · show ((w.crew.look t _).asleep u).isSome ∧ _
    by_cases hSame : u = t
    · subst hSame
      rw [Crew.asleep_look_self]
      exact ⟨rfl, hOwn⟩
    · rw [Crew.asleep_look_of_ne hSame, hOther u hSame]
      exact h.waits u (by simpa [hSame] using hMem)
  · rcases hEntries e hMem with hOld | rfl
    · exact h.entries e hOld
    · exact ⟨rfl, nofun⟩
  · rcases Crew.asleep_look_cases hSleep with ⟨hNow, rfl⟩ | hOld
    · obtain rfl := Option.some.inj hNow
      exact ⟨hParty, patient_arrived M.all⟩
    · exact h.asleep u s hOld

/-- When the last party arrives all have called as often: nobody was a round ahead. -/
theorem InRound.made_of_complete (h : InRound M n gathered made w) (hAwake : w.crew.asleep t = none)
    (hComplete : M.parties ⊆ gathered ++ [t]) :
    ∀ u ∈ M.parties, made u + [t].count u = n + 1 := by
  intro u hMem
  rw [h.made_eq u hMem]
  by_cases hSame : u = t
  · subst hSame
    simp [h.not_gathered hAwake]
  · have hGathered : u ∈ gathered := by simpa [hSame] using hComplete hMem
    simp [hGathered, Ne.symm hSame]

/-- An entry has fired with the bits of all, in the round that ends or in one before. -/
theorem InRound.entries_afterLast (h : InRound M n gathered made w)
    (hValue : w.object.setValue (M.mask t) = M.all) :
    ∀ e ∈ (afterLast M w t).object.waiters,
      e.wish = barrierWish M.all ∧ ∀ v, e.fired = some v → v &&& M.all = M.all := by
  intro e' hMem
  have hFire : e' ∈ (w.object.set (M.mask t)).object.waiters := hMem
  rw [waiters_set, hValue] at hFire
  obtain ⟨e, hOld, rfl⟩ := List.mem_map.mp hFire
  obtain ⟨hWish, hFired⟩ := h.entries e hOld
  rw [EventWaiter.wish_fire]
  refine ⟨hWish, fun v hNow => ?_⟩
  rw [EventWaiter.fire] at hNow
  split at hNow
  · obtain rfl := Option.some.inj hNow
    exact UInt32.and_self
  · exact hFired v hNow

/-- The last party arrives. It returns at once, and the next round begins. -/
theorem InRound.complete (h : InRound M n gathered made w) (hParty : t ∈ M.parties)
    (hAwake : w.crew.asleep t = none) (hComplete : M.parties ⊆ gathered ++ [t]) :
    InRound M (n + 1) [] (fun u => made u + [t].count u) (afterLast M w t) := by
  have hParties := h.concat_subset hParty
  have hValue : w.object.setValue (M.mask t) = M.all :=
    (Meeting.setValue_eq h.bits_eq hParty).trans (Meeting.joint_eq_all hParties hComplete)
  have hMade := h.made_of_complete hAwake hComplete
  have hReturns : ∀ u, returns (afterLast M w t) u = returns w u + if u = t then 1 else 0 :=
    returns_of_log rfl
  have hAsleep : ∀ u, u ≠ t → (afterLast M w t).crew.asleep u = w.crew.asleep u :=
    fun u hNe => Crew.asleep_look_of_ne hNe _
  have hSelf : (afterLast M w t).crew.asleep t = none := Crew.asleep_look_self _
  refine ⟨List.nil_subset _, fun hSome hNone => hSome (List.subset_nil.mp hNone),
    bits_afterLast hValue, hMade, fun u hMem => ?_, nofun, h.entries_afterLast hValue,
    fun u s hSleep => ?_, fun r hMem => ?_, fun _ => ⟨t, hParty, ?_⟩⟩
  · show made u + _ = _
    rw [hReturns, h.underWay u hMem]
    by_cases hSame : u = t
    · subst hSame
      simp [hSelf, hAwake]
    · rw [hAsleep u hSame]
      simp [hSame, Ne.symm hSame]
  · by_cases hSame : u = t
    · subst hSame
      rw [hSelf] at hSleep
      cases hSleep
    · rw [hAsleep u hSame] at hSleep
      exact h.asleep u s hSleep
  · rcases List.mem_append.mp hMem with hOld | hLast
    · exact h.answered r hOld
    · rw [List.mem_singleton.mp hLast]
      exact ⟨t, hParty, _, (Meeting.complete_iff h.bits_eq hParties).mpr hComplete, rfl⟩
  · have hReturned : returns w t = n := by simpa [h.underWay t hParty, hAwake] using hMade t hParty
    rw [hReturns, if_pos rfl, hReturned]

/-- A party that is in no call arrives. -/
theorem InRound.arrive (h : InRound M n gathered made w) (hTable : Table w.crew w.object)
    (hParty : t ∈ M.parties) (hAwake : w.crew.asleep t = none) (now : Ticks) :
    ∃ n' gathered', InRound M n' gathered' (fun u => made u + [t].count u)
      (w.step protocol (M.arrival t now)) := by
  have hParties := h.concat_subset hParty
  by_cases hComplete : M.parties ⊆ gathered ++ [t]
  · rw [step_last hAwake ((Meeting.complete_iff h.bits_eq hParties).mpr hComplete)]
    exact ⟨_, _, h.complete hParty hAwake hComplete⟩
  have hOut := hTable.not_mem hAwake
  obtain ⟨g, notified, hStep, hRoom⟩ := step_arrival_of_missing hAwake h.bits_eq
    (fun e hMem => (h.entries e hMem).1) hParties hComplete now
  rw [hStep]
  refine ⟨n, gathered ++ [t], ?_⟩
  rcases hRoom with hEnlist | ⟨-, rfl⟩
  · have hOwn :=
      entryOf?_enlist_self (g := ⟨M.joint (gathered ++ [t]), w.object.waiters⟩) hOut hEnlist
    have hOther : ∀ u, u ≠ t → _ := fun u hNe => entryOf?_enlist_of_ne (u := u) hNe hEnlist
    obtain ⟨-, rfl⟩ := enlist_eq_some_iff.mp hEnlist
    refine h.gather hParty hAwake hComplete _ rfl (fun e hMem => ?_) hOther fun e hEntry => ?_
    · exact (List.mem_append.mp hMem).imp_right List.mem_singleton.mp
    · obtain rfl := Option.some.inj (hOwn.symm.trans hEntry)
      rfl
  · refine h.gather hParty hAwake hComplete _ rfl (fun e hMem => Or.inl hMem) (fun u _ => rfl)
      fun e hEntry => ?_
    have hNone : w.object.entryOf? t = none := entryOf?_eq_none_iff.mpr hOut
    have hSome : some e = none := hEntry.symm.trans hNone
    cases hSome

-- ---------------------------------------------------------------------------
-- Runs
-- ---------------------------------------------------------------------------

theorem Meeting.Repeats.kept (hMoves : M.Repeats moves) (t : TaskId) : .abandon t ∉ moves := by
  intro hMem
  rcases hMoves _ hMem with ⟨u, now, hSame⟩ | ⟨u, -, now, hSame⟩
  · cases hSame
  · cases hSame

/-- Every state of a run is in some round. -/
theorem inRound_run (hMoves : M.Repeats moves) :
    ∃ n gathered, InRound M n gathered (calls moves) (after (create 0) moves) := by
  -- by the last move, which may complete the round
  induction moves using List.reverseRecOn with
  | nil =>
    refine ⟨0, [], List.nil_subset _, fun hSome hNone => hSome (List.subset_nil.mp hNone), rfl,
      fun _ _ => rfl, fun _ _ => rfl, nofun, nofun, nofun, nofun, fun hSome => ?_⟩
    obtain ⟨t, hMem⟩ := List.exists_mem_of_ne_nil _ hSome
    exact ⟨t, hMem, Nat.zero_le _⟩
  | append_singleton before mv ih =>
    have hBefore : M.Repeats before := fun m hMem => hMoves m (List.mem_append_left _ hMem)
    obtain ⟨n, gathered, hRound⟩ := ih hBefore
    have hTable := table_run (table_fresh 0) hBefore.kept
    have hCalls := funext (calls_concat before mv)
    have hRun : after (create 0) (before ++ [mv]) =
      (after (create 0) before).step protocol mv := TaskSync.World.run_concat ..
    rw [hRun, hCalls]
    rcases hMoves mv (List.mem_append_right _ List.mem_cons_self) with
      ⟨t, now, rfl⟩ | ⟨t, hParty, now, rfl⟩
    · exact ⟨n, gathered, hRound.resume hTable.nodup t now⟩
    · cases hAsleep : (after (create 0) before).crew.asleep t with
      | none =>
        have hCaller : caller? (after (create 0) before) (M.arrival t now) = some t := by
          rw [Meeting.arrival, caller?, hAsleep]
          rfl
        rw [hCaller]
        exact hRound.arrive hTable hParty hAsleep now
      | some s =>
        -- a task in the middle of a call begins no other
        have hCaller : caller? (after (create 0) before) (M.arrival t now) = none := by
          rw [Meeting.arrival, caller?, hAsleep]
          rfl
        rw [hCaller, Meeting.arrival, TaskSync.World.step_start_of_asleep hAsleep]
        exact ⟨n, gathered, hRound⟩

/-- When a party has returned for the `k`-th time each has called for the `k`-th time, and has
seen the bits of all. -/
theorem inRounds_run (M : Meeting) {moves : List Move} (hMoves : M.Repeats moves) :
    M.InRounds moves (after (create 0) moves) := by
  obtain ⟨n, gathered, hRound⟩ := inRound_run hMoves
  refine ⟨fun t hParty u hOther => ?_, fun k hSome hAll => ?_, hRound.underWay, hRound.answered⟩
  · have hMade := hRound.made_eq t hParty
    have hMade' := hRound.made_eq u hOther
    have hUnder := hRound.underWay t hParty
    -- who has set his bit in this round has not returned from it
    by_cases hGathered : t ∈ gathered
    · rw [if_pos (hRound.waits t hGathered).1] at hUnder
      rw [if_pos hGathered] at hMade
      omega
    · rw [if_neg hGathered] at hMade
      omega
  · obtain ⟨t, hParty, hLe⟩ := hRound.opened hSome
    refine ⟨t, hParty, le_trans ?_ hLe⟩
    obtain ⟨u, hMember, hOut⟩ : ∃ u ∈ M.parties, u ∉ gathered := by
      simpa [List.subset_def] using hRound.missing hSome
    have hMade := hRound.made_eq u hMember
    rw [if_neg hOut] at hMade
    exact (hAll u hMember).trans hMade.le

/-- All have called once, the last has called again, and the first has returned and called again;
the one that found the table full has got into it. -/
def overlapping : List Move :=
  allArrive ++ [.resume ⟨17⟩ 1, eighteen.arrival ⟨18⟩ 1, .resume ⟨1⟩ 2, .resume ⟨17⟩ 2,
    eighteen.arrival ⟨1⟩ 3]

theorem inRounds_run_overlapping :
    eighteen.Repeats overlapping ∧
      eighteen.InRounds overlapping (after (create 0) overlapping) ∧
      (calls overlapping ⟨18⟩, returns (after (create 0) overlapping) ⟨18⟩) = (2, 1) ∧
      (calls overlapping ⟨17⟩, returns (after (create 0) overlapping) ⟨17⟩) = (1, 0) := by
  have hMoves : eighteen.Repeats overlapping := by
    intro mv hMem
    rcases List.mem_append.mp hMem with hFirst | hSecond
    · obtain ⟨t, hParty, rfl⟩ := List.mem_map.mp hFirst
      exact Or.inr ⟨t, hParty, 0, rfl⟩
    · simp only [List.mem_cons, List.not_mem_nil, or_false] at hSecond
      rcases hSecond with rfl | rfl | rfl | rfl | rfl
      · exact Or.inl ⟨_, _, rfl⟩
      · exact Or.inr ⟨⟨18⟩, by decide, 1, rfl⟩
      · exact Or.inl ⟨_, _, rfl⟩
      · exact Or.inl ⟨_, _, rfl⟩
      · exact Or.inr ⟨⟨1⟩, by decide, 3, rfl⟩
  exact ⟨hMoves, inRounds_run eighteen hMoves, by decide +kernel, by decide +kernel⟩

end EventGroup

end TaskSync
