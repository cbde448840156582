import TaskSync.Proofs.EventGroup.Firing

/-!
# TaskSync — meeting at a barrier

Parties with a bit each (`Meeting`) arrive at a barrier, every one of them once
and with no limit to its wait. Until the last is there nobody is released
(`Gathering`). The last arrival fires all who are in the wait table and clears
the bits in the same step.

So the barrier has room for as many parties as the table, and the last. A party
that finds the table full polls the bits, and these are never all set when it
looks: they are incomplete before the last arrival and cleared after it
(`Dispersing`). It waits for ever, at last in the table itself.

Main result:

* `EventGroup.meets_run` — once the last party has arrived, each party that was
  in the table has returned or returns at its next look. The others, who are as
  many as the parties beyond the room of the table and the last, never return.
-/

namespace TaskSync

namespace EventGroup

/-- Who is to meet at a barrier, each with a bit of his own. -/
structure Meeting where
  parties : List TaskId
  bit : TaskId → Nat
  nodup : parties.Nodup
  bit_lt : ∀ t ∈ parties, bit t < 24
  bit_inj : ∀ t ∈ parties, ∀ u ∈ parties, bit t = bit u → t = u

/-- The mask that a party sets. -/
def Meeting.mask (M : Meeting) (t : TaskId) : EventBits := UInt32.ofNat (1 <<< M.bit t)

/-- The masks of some parties together. -/
def Meeting.joint (M : Meeting) (ts : List TaskId) : EventBits :=
  ts.foldr (fun t bits => M.mask t ||| bits) 0

/-- What all parties wait for. -/
def Meeting.all (M : Meeting) : EventBits := M.joint M.parties

/-- The task that begins an operation with a move. -/
def starter? : Move → Option TaskId
  | .start t _ _ => some t
  | _ => none

/-- The parties that have arrived, in order. -/
def arrivals (moves : List Move) : List TaskId := moves.filterMap starter?

/-- The parties that the wait table had no room for when they arrived, the last party apart. -/
def latecomers (moves : List Move) : List TaskId :=
  ((arrivals moves).drop WaitList.limit).dropLast

/-- Each party arrives once at most, and nobody else uses the group. -/
structure Meeting.Admits (M : Meeting) (moves : List Move) : Prop where
  own : ∀ mv ∈ moves, (∃ t now, mv = .resume t now) ∨
    ∃ t now, t ∈ M.parties ∧ mv = .start t now (.arrive (M.mask t) M.all waitForever)
  once : (arrivals moves).Nodup

/-- A party has returned, and has seen the bits of all. -/
def Meeting.Returned (M : Meeting) (w : World) (t : TaskId) : Prop :=
  ∃ v, v &&& M.all = M.all ∧ ∃ r ∈ w.log, r.deed = .waited t (barrierWish M.all) (.ok v)

/-- A party has returned or returns at its next look. -/
def Meeting.Released (M : Meeting) (w : World) (t : TaskId) : Prop :=
  M.Returned w t ∨ ∀ now, M.Returned (w.step protocol (.resume t now)) t

/-- What has become of the parties when all have arrived. -/
structure Meeting.Met (M : Meeting) (moves : List Move) (w : World) : Prop where
  released : ∀ t ∈ M.parties, t ∉ latecomers moves → M.Released w t
  all_released : M.parties.length ≤ WaitList.limit + 1 → ∀ t ∈ M.parties, M.Released w t
  /-- A latecomer does not return, however often the tasks go on. -/
  stranded : ∀ t ∈ latecomers moves, ∀ later : List Move,
    (∀ mv ∈ later, ∃ u now, mv = .resume u now) →
      ((w.run protocol later).crew.asleep t).isSome ∧ ¬ M.Returned (w.run protocol later) t
  latecomers_nodup : (latecomers moves).Nodup
  latecomers_subset : latecomers moves ⊆ M.parties
  length_latecomers : (latecomers moves).length = M.parties.length - (WaitList.limit + 1)

-- ---------------------------------------------------------------------------
-- The bits of the parties
-- ---------------------------------------------------------------------------

namespace Meeting

variable {M : Meeting} {t : TaskId} {ts : List TaskId}

theorem getLsbD_mask (hParty : t ∈ M.parties) (i : Nat) :
    (M.mask t).toBitVec.getLsbD i = decide (M.bit t = i) := by
  have hLt := M.bit_lt t hParty
  rw [mask, UInt32.toBitVec_ofNat', BitVec.getLsbD_ofNat, Nat.one_shiftLeft,
    Nat.testBit_two_pow]
  by_cases hBit : M.bit t = i
  · have hRoom : i < 32 := by omega
    simp [hBit, hRoom]
  · simp [hBit]

theorem getLsbD_joint (hParties : ts ⊆ M.parties) (i : Nat) :
    (M.joint ts).toBitVec.getLsbD i = true ↔ ∃ t ∈ ts, M.bit t = i := by
  induction ts with
  | nil =>
    rw [joint, List.foldr_nil]
    simp
  | cons t rest ih =>
    obtain ⟨hFirst, hRest⟩ := List.cons_subset.mp hParties
    show (M.mask t ||| M.joint rest).toBitVec.getLsbD i = true ↔ _
    rw [UInt32.toBitVec_or, BitVec.getLsbD_or, Bool.or_eq_true, ih hRest, getLsbD_mask hFirst,
      decide_eq_true_eq]
    simp

theorem joint_eq_all (hParties : ts ⊆ M.parties) (hComplete : M.parties ⊆ ts) :
    M.joint ts = M.all := by
  apply UInt32.eq_of_toBitVec_eq
  apply BitVec.eq_of_getLsbD_eq
  intro i _
  rw [Bool.eq_iff_iff, all, getLsbD_joint hParties, getLsbD_joint (fun _ hu => hu)]
  constructor
  · rintro ⟨t, hMem, hBit⟩
    exact ⟨t, hParties hMem, hBit⟩
  · rintro ⟨t, hMem, hBit⟩
    exact ⟨t, hComplete hMem, hBit⟩

/-- The parties that have set their bits are complete if no party is missing. -/
theorem joint_and_all_iff (hParties : ts ⊆ M.parties) :
    M.joint ts &&& M.all = M.all ↔ M.parties ⊆ ts := by
  constructor
  · intro hComplete t hParty
    have hBit : M.all.toBitVec.getLsbD (M.bit t) = true :=
      (getLsbD_joint (fun _ hu => hu) _).mpr ⟨t, hParty, rfl⟩
    rw [← hComplete, UInt32.toBitVec_and, BitVec.getLsbD_and, Bool.and_eq_true,
      getLsbD_joint hParties] at hBit
    obtain ⟨⟨u, hArrived, hSame⟩, -⟩ := hBit
    exact M.bit_inj u (hParties hArrived) t hParty hSame ▸ hArrived
  · intro hComplete
    rw [joint_eq_all hParties hComplete, UInt32.and_self]

theorem joint_append (ts : List TaskId) (t : TaskId) :
    M.joint (ts ++ [t]) = M.joint ts ||| M.mask t := by
  induction ts with
  | nil => exact (UInt32.or_comm ..).trans rfl
  | cons u rest ih =>
    show M.mask u ||| M.joint (rest ++ [t]) = _
    rw [ih, ← UInt32.or_assoc]
    rfl

theorem mask_and_eventMask (hParty : t ∈ M.parties) : M.mask t &&& eventMask = M.mask t := by
  apply UInt32.eq_of_toBitVec_eq
  apply BitVec.eq_of_getLsbD_eq
  intro i _
  rw [UInt32.toBitVec_and, BitVec.getLsbD_and, getLsbD_mask hParty, Bool.and_eq_left_iff_imp,
    decide_eq_true_eq]
  rintro rfl
  have hLt := M.bit_lt t hParty
  generalize M.bit t = i at hLt
  revert i
  decide

theorem all_ne_zero (hParty : t ∈ M.parties) : M.all ≠ 0 := by
  intro hZero
  have hBit : M.all.toBitVec.getLsbD (M.bit t) = true :=
    (getLsbD_joint (fun _ hu => hu) _).mpr ⟨t, hParty, rfl⟩
  rw [hZero] at hBit
  simp at hBit

end Meeting

-- ---------------------------------------------------------------------------
-- Waiting without limit
-- ---------------------------------------------------------------------------

/-- A call waits at the barrier without limit. -/
def Call.Patient (waitFor : EventBits) (k : Call) : Prop :=
  ∀ now, (k.waitAt now).request = barrierWish waitFor ∧
    (k.waitAt now).deadline.wait = waitForever

theorem patient_arrived (waitFor : EventBits) :
    (Call.arrived waitFor waitForever).Patient waitFor := fun _ => ⟨rfl, rfl⟩

variable {waitFor : EventBits} {t u : TaskId} {w w' : World}

theorem holds_barrierWish {bits : EventBits} :
    (barrierWish waitFor).holds bits = true ↔ bits &&& waitFor = waitFor := beq_iff_eq

/-- All that a look in a call that waits without limit can come to. -/
inductive Bided (waitFor : EventBits) (u : TaskId) (w : World) : World → Prop
  | collected {e : EventWaiter} {value : EventBits} :
      w.object.entryOf? u = some e → e.fired = some value →
      Bided waitFor u w ⟨w.object.dismiss u, w.crew.look u none,
        w.log ++ [⟨w.object, .waited u (barrierWish waitFor) (.ok value)⟩]⟩
  | satisfied {bits : EventBits} :
      w.object.entryOf? u = none → w.object.bits &&& waitFor = waitFor →
      Bided waitFor u w ⟨{ w.object with bits }, w.crew.look u none,
        w.log ++ [⟨w.object, .waited u (barrierWish waitFor) (.ok w.object.bits)⟩]⟩
  | stayed {e : EventWaiter} {s : Sleep Call} :
      w.object.entryOf? u = some e → e.fired = none → s.call.Patient waitFor →
      Bided waitFor u w ⟨w.object, w.crew.look u (some s), w.log⟩
  | joined {g : EventGroup} {s : Sleep Call} :
      w.object.entryOf? u = none → w.object.enlist u (barrierWish waitFor) = some g →
      s.call.Patient waitFor → Bided waitFor u w ⟨g, w.crew.look u (some s), w.log⟩
  | crowded {s : Sleep Call} :
      w.object.entryOf? u = none → s.call.Patient waitFor →
      Bided waitFor u w ⟨w.object, w.crew.look u (some s), w.log⟩

theorem bided_resume {s : Sleep Call} (hAsleep : w.crew.asleep u = some s)
    (hPatient : s.call.Patient waitFor) (now : Ticks) :
    Bided waitFor u w (w.step protocol (.resume u now)) := by
  obtain ⟨hRequest, hForever⟩ := hPatient now
  have hNotOver := Waiting.isOver_of_forever hForever now
  have hStep : w.step protocol (.resume u now) =
      w.look u (look (s.call.waitAt now) now u w.object) :=
    TaskSync.World.step_resume hAsleep now
  have hLooked := looked_look (s.call.waitAt now) now u w.object
  have hNext : (Call.waiting { s.call.waitAt now with again := true }).Patient waitFor :=
    fun _ => ⟨hRequest, hForever⟩
  rw [hStep]
  generalize look (s.call.waitAt now) now u w.object = o at hLooked ⊢
  cases hLooked with
  | collected hEntry hFired =>
    rw [TaskSync.World.look_still, hRequest]
    exact .collected hEntry hFired
  | stayed hEntry hUnfired =>
    rw [TaskSync.World.look_suspended]
    exact .stayed hEntry hUnfired hNext
  | satisfied hNone hHolds =>
    rw [hRequest] at hHolds
    rw [TaskSync.World.look_still, hRequest]
    exact .satisfied hNone (holds_barrierWish.mp hHolds)
  | joined hNone _ _ hEnlist =>
    rw [hRequest] at hEnlist
    rw [TaskSync.World.look_suspended]
    exact .joined hNone hEnlist hNext
  | crowded hNone =>
    rw [TaskSync.World.look_suspended]
    exact .crowded hNone hNext
  | expired _ _ hOver | gaveUp _ _ hOver =>
    -- a wait without limit is never over
    rw [hNotOver] at hOver
    cases hOver

-- ---------------------------------------------------------------------------
-- Before the last arrival
-- ---------------------------------------------------------------------------

variable {M : Meeting} {arrived : List TaskId}

/-- Some parties have arrived, and nobody has been released. -/
structure Gathering (M : Meeting) (arrived : List TaskId) (w : World) : Prop where
  bits_eq : w.object.bits = M.joint arrived
  waiters_eq : w.object.waiters =
    (arrived.take WaitList.limit).map fun t => ⟨t, barrierWish M.all, none⟩
  log_eq : w.log = []
  asleep : ∀ t ∈ arrived, ∃ s, w.crew.asleep t = some s ∧ s.call.Patient M.all
  awake : ∀ t, t ∉ arrived → w.crew.asleep t = none

theorem Gathering.mem_waiters (h : Gathering M arrived w) {e : EventWaiter}
    (hMem : e ∈ w.object.waiters) : e.wish = barrierWish M.all ∧ e.fired = none := by
  rw [h.waiters_eq] at hMem
  obtain ⟨t, -, rfl⟩ := List.mem_map.mp hMem
  exact ⟨rfl, rfl⟩

theorem Gathering.tasks_eq (h : Gathering M arrived w) :
    w.object.tasks = arrived.take WaitList.limit := by
  rw [tasks, h.waiters_eq, List.map_map]
  exact List.map_id _

/-- A party that has arrived and is not in the table found it full. -/
theorem Gathering.full (h : Gathering M arrived w) (hArrived : u ∈ arrived)
    (hNone : w.object.entryOf? u = none) : WaitList.limit ≤ w.object.waiters.length := by
  have hOut := entryOf?_eq_none_iff.mp hNone
  rw [h.tasks_eq] at hOut
  have hMany : WaitList.limit < arrived.length := by
    by_contra hFew
    rw [List.take_of_length_le (Nat.le_of_not_lt hFew)] at hOut
    exact hOut hArrived
  rw [h.waiters_eq, List.length_map, List.length_take]
  omega

theorem Gathering.rest (h : Gathering M arrived w) (hArrived : u ∈ arrived) {s : Sleep Call}
    (hPatient : s.call.Patient M.all) :
    Gathering M arrived ⟨w.object, w.crew.look u (some s), w.log⟩ := by
  refine ⟨h.bits_eq, h.waiters_eq, h.log_eq, ?_, ?_⟩
  · intro t hMem
    by_cases hSelf : t = u
    · subst hSelf
      exact ⟨s, Crew.asleep_look_self _, hPatient⟩
    · show ∃ s', (w.crew.look u (some s)).asleep t = some s' ∧ _
      rw [Crew.asleep_look_of_ne hSelf]
      exact h.asleep t hMem
  · intro t hOut
    have hNe : t ≠ u := by
      rintro rfl
      exact hOut hArrived
    exact (Crew.asleep_look_of_ne hNe _).trans (h.awake t hOut)

/-- Nobody is released while a party is missing. -/
theorem Gathering.resume (h : Gathering M arrived w) (hParties : arrived ⊆ M.parties)
    (hMissing : ¬ M.parties ⊆ arrived) (u : TaskId) (now : Ticks) :
    Gathering M arrived (w.step protocol (.resume u now)) := by
  by_cases hArrived : u ∈ arrived
  · obtain ⟨s, hAsleep, hPatient⟩ := h.asleep u hArrived
    have hBided := bided_resume hAsleep hPatient now
    generalize w.step protocol (.resume u now) = w' at hBided
    cases hBided with
    | collected hEntry hFired =>
      rw [(h.mem_waiters (entry_of_some hEntry).1).2] at hFired
      cases hFired
    | satisfied _ hHolds =>
      rw [h.bits_eq, M.joint_and_all_iff hParties] at hHolds
      exact absurd hHolds hMissing
    | stayed _ _ hNext | crowded _ hNext => exact h.rest hArrived hNext
    | joined hNone hEnlist =>
      -- nobody leaves the table before the last arrival
      have hRoom := (enlist_eq_some_iff.mp hEnlist).1
      have hFull := h.full hArrived hNone
      omega
  · rw [TaskSync.World.step_resume_of_awake (h.awake u hArrived)]
    exact h

/-- The move with which a party arrives. -/
def Meeting.arrival (M : Meeting) (t : TaskId) (now : Ticks) : Move :=
  .start t now (.arrive (M.mask t) M.all waitForever)

theorem step_arrival (hAwake : w.crew.asleep t = none) (now : Ticks) :
    w.step protocol (M.arrival t now) =
      w.look t (Request.start now t w.object (.arrive (M.mask t) M.all waitForever)) :=
  TaskSync.World.step_start hAwake now _

theorem Meeting.setValue_eq {g : EventGroup} (hBits : g.bits = M.joint arrived)
    (hParty : t ∈ M.parties) : g.setValue (M.mask t) = M.joint (arrived ++ [t]) := by
  rw [setValue, hBits, Meeting.mask_and_eventMask hParty, Meeting.joint_append]

/-- The bits of all are there with the last arrival. -/
theorem Meeting.complete_iff {g : EventGroup} (hBits : g.bits = M.joint arrived)
    (hParties : arrived ++ [t] ⊆ M.parties) :
    (g.bits ||| M.mask t) &&& M.all = M.all ↔ M.parties ⊆ arrived ++ [t] := by
  rw [hBits, ← Meeting.joint_append, M.joint_and_all_iff hParties]

/-- An arrival that is not the last satisfies nobody. It joins the table or finds it full. -/
theorem step_arrival_of_missing (hAwake : w.crew.asleep t = none)
    (hBits : w.object.bits = M.joint arrived)
    (hWishes : ∀ e ∈ w.object.waiters, e.wish = barrierWish M.all)
    (hParties : arrived ++ [t] ⊆ M.parties) (hMissing : ¬ M.parties ⊆ arrived ++ [t])
    (now : Ticks) :
    ∃ g notified, w.step protocol (M.arrival t now) =
        ⟨g, (w.crew.look t (some ⟨.arrived M.all waitForever, some 0⟩)).notify notified, w.log⟩ ∧
      ((⟨M.joint (arrived ++ [t]), w.object.waiters⟩ : EventGroup).enlist t (barrierWish M.all) =
          some g ∨
        WaitList.limit ≤ w.object.waiters.length ∧
          g = ⟨M.joint (arrived ++ [t]), w.object.waiters⟩) := by
  have hParty : t ∈ M.parties := hParties (List.mem_append_right _ List.mem_cons_self)
  have hValue := Meeting.setValue_eq hBits hParty
  have hSet : (w.object.set (M.mask t)).object = ⟨M.joint (arrived ++ [t]), w.object.waiters⟩ := by
    rw [object_set_of_none, hValue]
    intro e hMem
    rw [hWishes e hMem, hValue, ← Bool.not_eq_true, holds_barrierWish,
      M.joint_and_all_iff hParties]
    exact hMissing
  rw [step_arrival hAwake]
  have hArrived := arrived_start now t w.object (M.mask t) M.all waitForever
  generalize Request.start now t w.object (.arrive (M.mask t) M.all waitForever) = o
    at hArrived ⊢
  cases hArrived with
  | completed hAll => exact absurd ((Meeting.complete_iff hBits hParties).mp hAll) hMissing
  | declined _ hWait => exact absurd hWait (by decide)
  | enlisted _ _ hEnlist =>
    rw [TaskSync.World.look, Round.deed?, TaskSync.World.logged_none]
    exact ⟨_, _, rfl, Or.inl (hSet ▸ hEnlist)⟩
  | crowded _ _ hFull =>
    rw [TaskSync.World.look, Round.deed?, TaskSync.World.logged_none]
    exact ⟨_, _, rfl, Or.inr ⟨hFull, hSet⟩⟩

theorem Gathering.welcome (h : Gathering M arrived w) (t : TaskId) {g : EventGroup}
    (notified : List TaskId) (hBits : g.bits = M.joint (arrived ++ [t]))
    (hWaiters : g.waiters =
      ((arrived ++ [t]).take WaitList.limit).map fun t => ⟨t, barrierWish M.all, none⟩) :
    Gathering M (arrived ++ [t])
      ⟨g, (w.crew.look t (some ⟨.arrived M.all waitForever, some 0⟩)).notify notified, w.log⟩ := by
  refine ⟨hBits, hWaiters, h.log_eq, ?_, ?_⟩
  · intro u hMem
    by_cases hSelf : u = t
    · subst hSelf
      exact ⟨_, Crew.asleep_look_self _, patient_arrived M.all⟩
    · obtain ⟨s, hAsleep, hPatient⟩ := h.asleep u (by simpa [hSelf] using hMem)
      exact ⟨s, (Crew.asleep_look_of_ne hSelf _).trans hAsleep, hPatient⟩
  · intro u hOut
    rw [List.mem_append, List.mem_singleton, not_or] at hOut
    exact (Crew.asleep_look_of_ne hOut.2 _).trans (h.awake u hOut.1)

/-- A party arrives, and it is not the last. -/
theorem Gathering.arrive (h : Gathering M arrived w) (hParties : arrived ++ [t] ⊆ M.parties)
    (hNew : t ∉ arrived) (hMissing : ¬ M.parties ⊆ arrived ++ [t]) (now : Ticks) :
    Gathering M (arrived ++ [t]) (w.step protocol (M.arrival t now)) := by
  obtain ⟨g, notified, hStep, hTable⟩ := step_arrival_of_missing (h.awake t hNew) h.bits_eq
    (fun e hMem => (h.mem_waiters hMem).1) hParties hMissing now
  rw [hStep]
  rcases hTable with hEnlist | ⟨hFull, rfl⟩
  · obtain ⟨hRoom, rfl⟩ := enlist_eq_some_iff.mp hEnlist
    refine h.welcome t _ rfl ?_
    have hFew : arrived.length < WaitList.limit := by
      have hRoom : w.object.waiters.length < WaitList.limit := hRoom
      rw [h.waiters_eq, List.length_map, List.length_take] at hRoom
      omega
    show w.object.waiters ++ _ = _
    rw [h.waiters_eq, List.take_of_length_le (Nat.le_of_lt hFew),
      List.take_of_length_le (List.length_append.trans_le hFew), List.map_append]
    rfl
  · refine h.welcome t _ rfl ?_
    rw [h.waiters_eq, List.length_map, List.length_take] at hFull
    show w.object.waiters = _
    rw [h.waiters_eq, List.take_append_of_le_length (by omega)]

-- ---------------------------------------------------------------------------
-- After the last arrival
-- ---------------------------------------------------------------------------

variable {late : List TaskId}

/-- A party has returned, or the value of its entry releases it. -/
def Meeting.Fired (M : Meeting) (w : World) (t : TaskId) : Prop :=
  M.Returned w t ∧ w.crew.asleep t = none ∨
    ∃ s v, w.crew.asleep t = some s ∧ s.call.Patient M.all ∧ v &&& M.all = M.all ∧
      w.object.entryOf? t = some ⟨t, barrierWish M.all, some v⟩

/-- A party waits, and nothing releases it. -/
structure Meeting.Waits (M : Meeting) (w : World) (t : TaskId) : Prop where
  asleep : ∃ s, w.crew.asleep t = some s ∧ s.call.Patient M.all
  unfired : ∀ e, w.object.entryOf? t = some e → e.fired = none
  unreturned : ∀ r ∈ w.log, ∀ answer, r.deed ≠ .waited t (barrierWish M.all) answer

/-- All parties have arrived, the bits are cleared, and those who were late wait. -/
structure Dispersing (M : Meeting) (late : List TaskId) (w : World) : Prop where
  bits_eq : w.object.bits = 0
  fired : ∀ t ∈ M.parties, t ∉ late → M.Fired w t
  waits : ∀ t ∈ late, M.Waits w t
  others : ∀ t, t ∉ M.parties → w.crew.asleep t = none

theorem Gathering.entry_of_listed (h : Gathering M arrived w) (hNodup : arrived.Nodup)
    (hListed : u ∈ arrived.take WaitList.limit) :
    w.object.entryOf? u = some ⟨u, barrierWish M.all, none⟩ := by
  have hTable : w.object.tasks.Nodup := by
    rw [h.tasks_eq]
    exact hNodup.sublist (List.take_sublist _ _)
  rw [entryOf?_eq_some_iff hTable, h.waiters_eq]
  exact ⟨List.mem_map.mpr ⟨u, hListed, rfl⟩, rfl⟩

theorem Gathering.entry_of_late (h : Gathering M arrived w) (hNodup : arrived.Nodup)
    (hLate : u ∈ arrived.drop WaitList.limit) : w.object.entryOf? u = none := by
  rw [entryOf?_eq_none_iff, h.tasks_eq]
  exact fun hListed => List.disjoint_take_drop hNodup (Nat.le_refl _) hListed hLate

/-- The world after the arrival that completes the bits. -/
def afterLast (M : Meeting) (w : World) (t : TaskId) : World where
  object := { (w.object.set (M.mask t)).object with
    bits := (w.object.set (M.mask t)).object.bits &&& ~~~M.all }
  crew := (w.crew.look t none).notify (w.object.set (M.mask t)).tasks
  log := w.log ++ [⟨w.object, .waited t (barrierWish M.all) (.ok (w.object.bits ||| M.mask t))⟩]

theorem step_last (hAwake : w.crew.asleep t = none)
    (hView : (w.object.bits ||| M.mask t) &&& M.all = M.all) (now : Ticks) :
    w.step protocol (M.arrival t now) = afterLast M w t := by
  rw [step_arrival hAwake]
  have hArrived := arrived_start now t w.object (M.mask t) M.all waitForever
  generalize Request.start now t w.object (.arrive (M.mask t) M.all waitForever) = o
    at hArrived ⊢
  cases hArrived with
  | completed => rfl
  | declined hMore | enlisted hMore | crowded hMore => exact absurd hView hMore

/-- The last arrival clears what all have set. -/
theorem bits_afterLast (hValue : w.object.setValue (M.mask t) = M.all) :
    (afterLast M w t).object.bits = 0 := by
  obtain ⟨cleared, hBits⟩ := w.object.bits_set (M.mask t)
  show (w.object.set (M.mask t)).object.bits &&& ~~~M.all = 0
  rw [hBits, hValue, UInt32.and_comm M.all, UInt32.and_assoc, UInt32.and_not_self,
    UInt32.and_zero]

theorem Gathering.asleep_afterLast (h : Gathering M arrived w) (hNew : t ∉ arrived)
    (hMem : u ∈ arrived) :
    ∃ s, (afterLast M w t).crew.asleep u = some s ∧ s.call.Patient M.all := by
  have hNe : u ≠ t := fun hSelf => hNew (hSelf ▸ hMem)
  obtain ⟨s, hAsleep, hPatient⟩ := h.asleep u hMem
  exact ⟨s, (Crew.asleep_look_of_ne hNe _).trans hAsleep, hPatient⟩

theorem Gathering.fired_of_listed (h : Gathering M arrived w) (hNodup : arrived.Nodup)
    (hNew : t ∉ arrived) (hValue : w.object.setValue (M.mask t) = M.all)
    (hListed : u ∈ arrived.take WaitList.limit) : M.Fired (afterLast M w t) u := by
  obtain ⟨s, hAsleep, hPatient⟩ := h.asleep_afterLast hNew (List.mem_of_mem_take hListed)
  have hEntry := h.entry_of_listed hNodup hListed
  have hHolds : (barrierWish M.all).holds M.all = true := holds_barrierWish.mpr UInt32.and_self
  refine Or.inr ⟨s, M.all, hAsleep, hPatient, UInt32.and_self, ?_⟩
  show (w.object.set (M.mask t)).object.entryOf? u = _
  rw [entry_set hEntry, hValue, Option.filter_some, if_pos hHolds, Option.none_or]

theorem Gathering.waits_of_late (h : Gathering M arrived w) (hNodup : arrived.Nodup)
    (hNew : t ∉ arrived) (hLate : u ∈ arrived.drop WaitList.limit) :
    M.Waits (afterLast M w t) u := by
  have hMem : u ∈ arrived := List.mem_of_mem_drop hLate
  refine ⟨h.asleep_afterLast hNew hMem, ?_, ?_⟩
  · intro e hEntry
    have hNone := entry_set_of_none (h.entry_of_late hNodup hLate) (M.mask t)
    have hSome : some e = none := Eq.trans (Eq.symm hEntry) hNone
    cases hSome
  · intro r hLogged answer hDeed
    rw [afterLast, h.log_eq, List.nil_append, List.mem_singleton] at hLogged
    rw [hLogged] at hDeed
    cases hDeed
    exact hNew hMem

/-- The last party arrives. It returns at once, and all who are in the table have fired. -/
theorem Gathering.last (h : Gathering M arrived w) (hParties : arrived ++ [t] ⊆ M.parties)
    (hOnce : (arrived ++ [t]).Nodup) (hComplete : M.parties ⊆ arrived ++ [t]) (now : Ticks) :
    Dispersing M (arrived.drop WaitList.limit) (w.step protocol (M.arrival t now)) := by
  obtain ⟨hNodup, -, hDisjoint⟩ := List.nodup_append.mp hOnce
  have hNew : t ∉ arrived := fun hMem => hDisjoint t hMem t (List.mem_singleton_self t) rfl
  have hParty : t ∈ M.parties := hParties (List.mem_append_right _ List.mem_cons_self)
  have hValue : w.object.setValue (M.mask t) = M.all :=
    (Meeting.setValue_eq h.bits_eq hParty).trans (Meeting.joint_eq_all hParties hComplete)
  have hView := (Meeting.complete_iff h.bits_eq hParties).mpr hComplete
  rw [step_last (h.awake t hNew) hView]
  refine ⟨bits_afterLast hValue, ?_, fun u hLate => h.waits_of_late hNodup hNew hLate, ?_⟩
  · intro u hMem hPrompt
    rcases List.mem_append.mp (hComplete hMem) with hBefore | hLast
    · rw [← List.take_append_drop WaitList.limit arrived, List.mem_append] at hBefore
      exact h.fired_of_listed hNodup hNew hValue (hBefore.resolve_right hPrompt)
    · obtain rfl := List.mem_singleton.mp hLast
      refine Or.inl ⟨⟨_, hView, ⟨w.object, _⟩, ?_, rfl⟩, Crew.asleep_look_self _⟩
      exact List.mem_append_right _ List.mem_cons_self
  · intro u hOut
    have hNe : u ≠ t := by
      rintro rfl
      exact hOut hParty
    refine (Crew.asleep_look_of_ne hNe _).trans (h.awake u fun hMem => hOut ?_)
    exact hParties (List.mem_append_left _ hMem)

theorem Bided.of_ne (hBided : Bided waitFor u w w') (hNodup : w.object.tasks.Nodup) (hNe : t ≠ u) :
    w'.object.entryOf? t = w.object.entryOf? t ∧ w'.crew.asleep t = w.crew.asleep t := by
  cases hBided with
  | collected => exact ⟨entryOf?_dismiss_of_ne hNodup hNe, Crew.asleep_look_of_ne hNe _⟩
  | satisfied | stayed | crowded => exact ⟨rfl, Crew.asleep_look_of_ne hNe _⟩
  | joined _ hEnlist => exact ⟨entryOf?_enlist_of_ne hNe hEnlist, Crew.asleep_look_of_ne hNe _⟩

theorem Bided.log_eq (hBided : Bided waitFor u w w') :
    ∃ more, w'.log = w.log ++ more ∧
      ∀ r ∈ more, ∃ answer, r.deed = .waited u (barrierWish waitFor) answer := by
  cases hBided with
  | collected | satisfied =>
    refine ⟨[_], rfl, fun r hMem => ?_⟩
    rw [List.mem_singleton.mp hMem]
    exact ⟨_, rfl⟩
  | stayed | joined | crowded => exact ⟨[], (List.append_nil _).symm, nofun⟩

theorem Bided.returned (hBided : Bided M.all u w w') (h : M.Returned w t) : M.Returned w' t := by
  obtain ⟨v, hAll, r, hMem, hDeed⟩ := h
  obtain ⟨more, hLog, -⟩ := hBided.log_eq
  refine ⟨v, hAll, r, ?_, hDeed⟩
  rw [hLog]
  exact List.mem_append_left _ hMem

theorem Meeting.Fired.resume (hFired : M.Fired w u) (hAsleep : ∃ s, w.crew.asleep u = some s)
    (hBided : Bided M.all u w w') :
    M.Returned w' u ∧ w'.crew.asleep u = none ∧ w'.object.bits = w.object.bits := by
  obtain ⟨s, hAsleep⟩ := hAsleep
  rcases hFired with ⟨-, hAwake⟩ | ⟨-, v, -, -, hAll, hEntry⟩
  · rw [hAsleep] at hAwake
    cases hAwake
  · cases hBided with
    | @collected e value hEntry' hValue =>
      obtain rfl := Option.some.inj (hEntry.symm.trans hEntry')
      obtain rfl := Option.some.inj hValue
      refine ⟨⟨v, hAll, ⟨w.object, _⟩, ?_, rfl⟩, Crew.asleep_look_self _, bits_dismiss ..⟩
      exact List.mem_append_right _ List.mem_cons_self
    | stayed hEntry' hUnfired =>
      obtain rfl := Option.some.inj (hEntry.symm.trans hEntry')
      cases hUnfired
    | satisfied hNone | joined hNone | crowded hNone =>
      rw [hEntry] at hNone
      cases hNone

/-- A party that waits while the bits are clear waits on when it has looked. -/
theorem Meeting.Waits.resume (hWaits : M.Waits w u) (hBits : w.object.bits = 0)
    (hAll : M.all ≠ 0) (hBided : Bided M.all u w w') :
    M.Waits w' u ∧ w'.object.bits = w.object.bits := by
  cases hBided with
  | collected hEntry hFired =>
    rw [hWaits.unfired _ hEntry] at hFired
    cases hFired
  | satisfied _ hHolds =>
    rw [hBits, UInt32.zero_and] at hHolds
    exact absurd hHolds.symm hAll
  | stayed _ _ hPatient | crowded _ hPatient =>
    exact ⟨⟨⟨_, Crew.asleep_look_self _, hPatient⟩, hWaits.unfired, hWaits.unreturned⟩, rfl⟩
  | joined hNone hEnlist hPatient =>
    have hEntry' := entryOf?_enlist_self (entryOf?_eq_none_iff.mp hNone) hEnlist
    refine ⟨⟨⟨_, Crew.asleep_look_self _, hPatient⟩, fun e hEntry => ?_, hWaits.unreturned⟩, ?_⟩
    · obtain rfl := Option.some.inj (hEntry'.symm.trans hEntry)
      rfl
    · obtain ⟨-, rfl⟩ := enlist_eq_some_iff.mp hEnlist
      rfl

theorem Meeting.Fired.of_other (hFired : M.Fired w t) (hBided : Bided M.all u w w')
    (hNodup : w.object.tasks.Nodup) (hNe : t ≠ u) : M.Fired w' t := by
  obtain ⟨hEntry, hAsleep⟩ := hBided.of_ne hNodup hNe
  rcases hFired with ⟨hReturned, hAwake⟩ | hListed
  · exact Or.inl ⟨hBided.returned hReturned, hAsleep.trans hAwake⟩
  · right
    rw [hEntry, hAsleep]
    exact hListed

theorem Meeting.Waits.of_other (hWaits : M.Waits w t) (hBided : Bided M.all u w w')
    (hNodup : w.object.tasks.Nodup) (hNe : t ≠ u) : M.Waits w' t := by
  obtain ⟨hEntry, hAsleep⟩ := hBided.of_ne hNodup hNe
  obtain ⟨more, hLog, hMore⟩ := hBided.log_eq
  refine ⟨?_, ?_, ?_⟩
  · rw [hAsleep]
    exact hWaits.asleep
  · rw [hEntry]
    exact hWaits.unfired
  · intro r hMem answer hDeed
    rw [hLog] at hMem
    rcases List.mem_append.mp hMem with hBefore | hNew
    · exact hWaits.unreturned r hBefore answer hDeed
    · obtain ⟨answer', hDeed'⟩ := hMore r hNew
      rw [hDeed] at hDeed'
      cases hDeed'
      exact hNe rfl

theorem Dispersing.patient (h : Dispersing M late w) (hParty : u ∈ M.parties) {s : Sleep Call}
    (hAsleep : w.crew.asleep u = some s) : s.call.Patient M.all := by
  have hSame : ∀ {s'}, w.crew.asleep u = some s' → s'.call.Patient M.all →
      s.call.Patient M.all := by
    intro s' hAsleep' hPatient
    obtain rfl := Option.some.inj (hAsleep.symm.trans hAsleep')
    exact hPatient
  by_cases hLate : u ∈ late
  · obtain ⟨s', hAsleep', hPatient⟩ := (h.waits u hLate).asleep
    exact hSame hAsleep' hPatient
  · rcases h.fired u hParty hLate with ⟨-, hAwake⟩ | ⟨s', -, hAsleep', hPatient, -⟩
    · rw [hAsleep] at hAwake
      cases hAwake
    · exact hSame hAsleep' hPatient

/-- The parties go their ways. -/
theorem Dispersing.resume (h : Dispersing M late w) (hNodup : w.object.tasks.Nodup) (u : TaskId)
    (now : Ticks) : Dispersing M late (w.step protocol (.resume u now)) := by
  cases hAsleep : w.crew.asleep u with
  | none =>
    rw [TaskSync.World.step_resume_of_awake hAsleep]
    exact h
  | some s =>
    have hParty : u ∈ M.parties := by
      by_contra hOut
      rw [h.others u hOut] at hAsleep
      cases hAsleep
    have hBided := bided_resume hAsleep (h.patient hParty hAsleep) now
    generalize w.step protocol (.resume u now) = w' at hBided
    -- the look may change `u` only, and the bits stay clear
    have hSelf : (u ∉ late → M.Fired w' u) ∧ (u ∈ late → M.Waits w' u) ∧
        w'.object.bits = w.object.bits := by
      by_cases hLate : u ∈ late
      · obtain ⟨hWaits, hBits⟩ :=
          (h.waits u hLate).resume h.bits_eq (Meeting.all_ne_zero hParty) hBided
        exact ⟨fun hPrompt => absurd hLate hPrompt, fun _ => hWaits, hBits⟩
      · obtain ⟨hReturned, hAwake, hBits⟩ := (h.fired u hParty hLate).resume ⟨s, hAsleep⟩ hBided
        exact ⟨fun _ => Or.inl ⟨hReturned, hAwake⟩, fun hMem => absurd hMem hLate, hBits⟩
    obtain ⟨hFired, hWaits, hBits⟩ := hSelf
    refine ⟨hBits.trans h.bits_eq, fun t hMem hPrompt => ?_, fun t hMem => ?_, fun t hOut => ?_⟩
    · by_cases hSame : t = u
      · subst hSame
        exact hFired hPrompt
      · exact (h.fired t hMem hPrompt).of_other hBided hNodup hSame
    · by_cases hSame : t = u
      · subst hSame
        exact hWaits hMem
      · exact (h.waits t hMem).of_other hBided hNodup hSame
    · have hNe : t ≠ u := by
        rintro rfl
        exact hOut hParty
      exact (hBided.of_ne hNodup hNe).2.trans (h.others t hOut)

theorem Dispersing.released (h : Dispersing M late w) (hParty : t ∈ M.parties)
    (hPrompt : t ∉ late) : M.Released w t := by
  rcases h.fired t hParty hPrompt with ⟨hReturned, -⟩ | hListed
  · exact Or.inl hReturned
  · obtain ⟨s, v, hAsleep, hPatient, -⟩ := hListed
    refine Or.inr fun now => ?_
    exact ((h.fired t hParty hPrompt).resume ⟨s, hAsleep⟩ (bided_resume hAsleep hPatient now)).1

-- ---------------------------------------------------------------------------
-- Runs
-- ---------------------------------------------------------------------------

variable {moves : List Move} {mv : Move}

theorem Meeting.Admits.kept (hMoves : M.Admits moves) (t : TaskId) : .abandon t ∉ moves := by
  intro hMem
  rcases hMoves.own _ hMem with ⟨u, now, hSame⟩ | ⟨u, now, -, hSame⟩
  · cases hSame
  · cases hSame

theorem arrivals_concat (moves : List Move) (mv : Move) :
    arrivals (moves ++ [mv]) = arrivals moves ++ (starter? mv).toList := by
  rw [arrivals, List.filterMap_append]
  cases hStarter : starter? mv <;> simp [arrivals, hStarter]

theorem Meeting.Admits.of_concat (hMoves : M.Admits (moves ++ [mv])) : M.Admits moves := by
  refine ⟨fun m hMem => hMoves.own m (List.mem_append_left _ hMem), ?_⟩
  have hOnce := hMoves.once
  rw [arrivals_concat] at hOnce
  exact (List.nodup_append.mp hOnce).1

theorem dropLast_drop_concat {α : Type} (l : List α) (a : α) (n : Nat) :
    ((l ++ [a]).drop n).dropLast = l.drop n := by
  rcases Nat.lt_or_ge l.length n with hLt | hLe
  · have hLong : (l ++ [a]).length ≤ n := List.length_append.trans_le hLt
    rw [List.drop_of_length_le hLong, List.drop_of_length_le (Nat.le_of_lt hLt), List.dropLast_nil]
  · rw [List.drop_append_of_le_length hLe, List.dropLast_concat]

theorem arrivals_subset (hMoves : M.Admits moves) : arrivals moves ⊆ M.parties := by
  intro t hMem
  obtain ⟨mv, hMove, hStarter⟩ := List.mem_filterMap.mp hMem
  rcases hMoves.own mv hMove with ⟨u, now, rfl⟩ | ⟨u, now, hParty, rfl⟩
  · cases hStarter
  · cases hStarter
    exact hParty

/-- While parties are missing nobody is released, and then everybody is but the latecomers. -/
theorem gathering_or_dispersing (hMoves : M.Admits moves) :
    ¬ M.parties ⊆ arrivals moves ∧ Gathering M (arrivals moves) (after (create 0) moves) ∨
      M.parties ⊆ arrivals moves ∧
        Dispersing M (latecomers moves) (after (create 0) moves) := by
  -- by the last move: the phase is decided by those who have arrived so far
  induction moves using List.reverseRecOn with
  | nil =>
    by_cases hNobody : M.parties ⊆ []
    · refine Or.inr ⟨hNobody, rfl, fun t hMem => ?_, nofun, fun _ _ => rfl⟩
      exact absurd (hNobody hMem) List.not_mem_nil
    · exact Or.inl ⟨hNobody, rfl, rfl, rfl, nofun, fun _ _ => rfl⟩
  | append_singleton before mv ih =>
    have hBefore := hMoves.of_concat
    have hParties := arrivals_subset hMoves
    have hOnce := hMoves.once
    have hTable := table_run (table_fresh 0) hBefore.kept
    rw [latecomers, after, TaskSync.World.run_concat]
    rw [arrivals_concat] at hParties hOnce ⊢
    rcases hMoves.own mv (List.mem_append_right _ List.mem_cons_self) with
      ⟨t, now, rfl⟩ | ⟨t, now, hParty, rfl⟩
    · have hSame : arrivals before ++ (starter? (.resume t now)).toList = arrivals before :=
        List.append_nil _
      rw [hSame]
      rcases ih hBefore with ⟨hMissing, hGathering⟩ | ⟨hComplete, hDispersing⟩
      · exact Or.inl ⟨hMissing, hGathering.resume (arrivals_subset hBefore) hMissing t now⟩
      · exact Or.inr ⟨hComplete, hDispersing.resume hTable.nodup t now⟩
    · show ¬ M.parties ⊆ arrivals before ++ [t] ∧ Gathering M (arrivals before ++ [t]) _ ∨
        M.parties ⊆ arrivals before ++ [t] ∧
          Dispersing M ((arrivals before ++ [t]).drop WaitList.limit).dropLast _
      rw [dropLast_drop_concat]
      have hNew : t ∉ arrivals before := by
        obtain ⟨-, -, hDisjoint⟩ := List.nodup_append.mp hOnce
        exact fun hMem => hDisjoint t hMem t (List.mem_singleton_self t) rfl
      rcases ih hBefore with ⟨-, hGathering⟩ | ⟨hComplete, -⟩
      · by_cases hLast : M.parties ⊆ arrivals before ++ [t]
        · exact Or.inr ⟨hLast, hGathering.last hParties hOnce hLast now⟩
        · exact Or.inl ⟨hLast, hGathering.arrive hParties hNew hLast now⟩
      · exact absurd (hComplete hParty) hNew

/-- However often the tasks go on, the latecomers are not released. -/
theorem Dispersing.stranded (h : Dispersing M late w) (hTable : Table w.crew w.object)
    (hLate : t ∈ late) {later : List Move} (hLater : ∀ mv ∈ later, ∃ u now, mv = .resume u now) :
    ((w.run protocol later).crew.asleep t).isSome ∧ ¬ M.Returned (w.run protocol later) t := by
  have hRun : Table (w.run protocol later).crew (w.run protocol later).object ∧
      Dispersing M late (w.run protocol later) := by
    refine TaskSync.World.run_induction (I := fun w => Table w.crew w.object ∧
      Dispersing M late w) (fun w mv hMem hw => ?_) ⟨hTable, h⟩
    obtain ⟨u, now, rfl⟩ := hLater mv hMem
    exact ⟨hw.1.step nofun, hw.2.resume hw.1.nodup u now⟩
  have hWaits := hRun.2.waits t hLate
  obtain ⟨s, hAsleep, -⟩ := hWaits.asleep
  refine ⟨Option.isSome_iff_exists.mpr ⟨s, hAsleep⟩, ?_⟩
  rintro ⟨v, -, r, hMem, hDeed⟩
  exact hWaits.unreturned r hMem _ hDeed

theorem latecomers_sublist (moves : List Move) : (latecomers moves).Sublist (arrivals moves) :=
  (List.dropLast_sublist _).trans (List.drop_sublist _ _)

theorem length_latecomers (hMoves : M.Admits moves) (hAll : M.parties ⊆ arrivals moves) :
    (latecomers moves).length = M.parties.length - (WaitList.limit + 1) := by
  have hPerm : (arrivals moves).Perm M.parties :=
    (List.perm_ext_iff_of_nodup hMoves.once M.nodup).mpr fun t =>
      ⟨fun hMem => arrivals_subset hMoves hMem, fun hMem => hAll hMem⟩
  rw [latecomers, List.length_dropLast, List.length_drop, hPerm.length_eq, Nat.sub_sub]

/-- Once the last party has arrived, each party has returned or returns at its next look, but for
the latecomers, who never return. -/
theorem meets_run (M : Meeting) {moves : List Move} (hMoves : M.Admits moves)
    (hAll : M.parties ⊆ arrivals moves) : M.Met moves (after (create 0) moves) := by
  have hTable := table_run (table_fresh 0) hMoves.kept
  have hDispersing : Dispersing M (latecomers moves) (after (create 0) moves) := by
    rcases gathering_or_dispersing hMoves with ⟨hMissing, -⟩ | ⟨-, hDispersing⟩
    · exact absurd hAll hMissing
    · exact hDispersing
  have hSublist := latecomers_sublist moves
  have hLength := length_latecomers hMoves hAll
  refine ⟨fun t hParty hPrompt => hDispersing.released hParty hPrompt, ?_,
    fun t hLate later => hDispersing.stranded hTable hLate, hMoves.once.sublist hSublist,
    fun t hMem => arrivals_subset hMoves (hSublist.subset hMem), hLength⟩
  intro hFew t hParty
  have hNobody : latecomers moves = [] :=
    List.length_eq_zero_iff.mp (hLength.trans (Nat.sub_eq_zero_of_le hFew))
  refine hDispersing.released hParty ?_
  rw [hNobody]
  exact List.not_mem_nil

/-- One party more than the table and the last have room for. -/
def eighteen : Meeting where
  parties := (List.range 18).map fun i => ⟨UInt32.ofNat (i + 1)⟩
  bit t := t.number.toNat - 1
  nodup := by decide
  bit_lt := by decide
  bit_inj := by decide

/-- They arrive one after the other. -/
def allArrive : List Move := eighteen.parties.map fun t => eighteen.arrival t 0

theorem meets_run_eighteen :
    eighteen.Admits allArrive ∧ eighteen.parties ⊆ arrivals allArrive ∧
      eighteen.Met allArrive (after (create 0) allArrive) ∧ latecomers allArrive = [⟨17⟩] := by
  have hMoves : eighteen.Admits allArrive := by
    refine ⟨fun mv hMem => Or.inr ?_, by decide⟩
    obtain ⟨t, hParty, rfl⟩ := List.mem_map.mp hMem
    exact ⟨t, 0, hParty, rfl⟩
  have hAll : eighteen.parties ⊆ arrivals allArrive := by decide
  exact ⟨hMoves, hAll, meets_run eighteen hMoves hAll, by decide⟩

/-- The party that was late has not returned and does not return at its next look. -/
theorem not_all_released :
    ¬ ∀ t ∈ eighteen.parties, eighteen.Released (after (create 0) allArrive) t := by
  intro hAll
  have hLog : (after (create 0) allArrive).log.map (·.deed) =
      [.waited ⟨18⟩ (barrierWish eighteen.all) (.ok eighteen.all)] := by decide
  have hNext : ((after (create 0) allArrive).step protocol (.resume ⟨17⟩ 0)).log.map (·.deed) =
      [.waited ⟨18⟩ (barrierWish eighteen.all) (.ok eighteen.all)] := by decide
  have hNobody : ∀ w : World,
      w.log.map (·.deed) = [.waited ⟨18⟩ (barrierWish eighteen.all) (.ok eighteen.all)] →
        ¬ eighteen.Returned w ⟨17⟩ := by
    rintro w hDeeds ⟨v, -, r, hMem, hDeed⟩
    have hOnly := List.mem_map_of_mem (f := (·.deed)) hMem
    rw [hDeeds, hDeed, List.mem_singleton] at hOnly
    cases hOnly
  rcases hAll ⟨17⟩ (by decide) with hReturned | hReturns
  · exact hNobody _ hLog hReturned
  · exact hNobody _ hNext (hReturns 0)

end EventGroup

end TaskSync
