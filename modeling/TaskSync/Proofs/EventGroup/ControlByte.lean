import TaskSync.Proofs.EventGroup.Firing

/-!
# TaskSync — the control byte of an event group

The top byte of a word of event bits is no event. Without contract checks an
operation may be given any word, so what keeps the byte clear is that the words
to be set are masked. The argument goes by where a word comes from. What a group
stores is the initial value, a value by which it judged who waits, or the rest of
one after a clear (`valuesStored`), and none of these has a control bit. What a
waiter is answered is the bits as they are, or a value that its entry has kept.

One answer is neither. A party that completes its barrier by arriving is answered
its own bits as it gave them, together with the bits before, and is judged by
them; its control bits go out with the answer and count as set (`leak`).

Main results:

* `EventGroup.leaks_by_arrival` — no word that is stored has a control bit, and
  an answer is a stored word with the leak of an arrival and nothing else.
* `EventGroup.leaks` — such an arrival.
-/

namespace TaskSync

namespace EventGroup

/-- The control bits of a word. -/
def controlByte (bits : EventBits) : EventBits := bits &&& ~~~eventMask

/-- The word that an operation has answered. -/
def Deed.value : Deed → EventBits
  | .waited _ _ (.ok value) => value
  | .waited _ _ (.error bits) => bits
  | .set _ left => left
  | .cleared _ before => before

/-- The words that are in the group in the course of a run, those between a set and the clears that
it brings about among them. -/
def valuesStored (w : World) : List Move → List EventBits
  | [] => [w.object.bits]
  | mv :: rest => w.object.bits :: (valueSet? w mv).toList ++ valuesStored (w.step protocol mv) rest

/-- The control bits that go out with the answer to a move: those of an arrival that completes its
barrier. -/
def leak (w : World) : Move → EventBits
  | .start _ _ (.arrive bits waitFor _) =>
    if (w.object.bits ||| bits) &&& waitFor = waitFor then controlByte bits else 0
  | _ => 0

/-- What an operation answers that ends with the move `mv`: a word that has been stored, and the leak
with it. -/
structure Answers (w : World) (mv : Move) (values : List EventBits) (d : Deed) : Prop where
  value : ∃ u ∈ values, d.value = u ||| leak w mv
  control : controlByte d.value = leak w mv

/-- What becomes of control bits in the move `mv` after the run `moves`. -/
structure Leaking (initial : EventBits) (moves : List Move) (mv : Move) : Prop where
  /-- Nothing that the group has held has a control bit. -/
  stored : ∀ u ∈ valuesStored (.fresh (create initial)) moves, controlByte u = 0
  held : (after (create initial) moves).object.bits ∈ valuesStored (.fresh (create initial)) moves
  answered : ∀ d, ((after (create initial) moves).step protocol mv).log =
      (after (create initial) moves).log ++ [⟨(after (create initial) moves).object, d⟩] →
    Answers (after (create initial) moves) mv
      (valuesStored (.fresh (create initial)) (moves ++ [mv])) d
  /-- If no task has been given up in a call, a wait succeeds by what has really been set, and by the
  leak. -/
  succeeded : (∀ t, .abandon t ∉ moves) → ∀ t wish value,
    ((after (create initial) moves).step protocol mv).log =
      (after (create initial) moves).log ++
        [⟨(after (create initial) moves).object, .waited t wish (.ok value)⟩] →
    ∃ u ∈ valuesStored (.fresh (create initial)) (moves ++ [mv]),
      value = u ||| leak (after (create initial) moves) mv ∧ wish.holds value = true

-- ---------------------------------------------------------------------------
-- Control bits
-- ---------------------------------------------------------------------------

section Words

variable {a b : EventBits}

theorem controlByte_or (a b : EventBits) :
    controlByte (a ||| b) = controlByte a ||| controlByte b := by
  apply UInt32.eq_of_toBitVec_eq
  ext i
  simp only [controlByte, UInt32.toBitVec_and, UInt32.toBitVec_or, BitVec.getElem_and,
    BitVec.getElem_or]
  grind

theorem controlByte_masked (a : EventBits) : controlByte (a &&& eventMask) = 0 := by
  rw [controlByte, UInt32.and_assoc]
  exact UInt32.and_zero

theorem controlByte_and (h : controlByte a = 0) (b : EventBits) : controlByte (a &&& b) = 0 := by
  rw [controlByte, UInt32.and_assoc, UInt32.and_comm b, ← UInt32.and_assoc]
  show controlByte a &&& b = 0
  rw [h, UInt32.zero_and]

theorem controlByte_controlByte (a : EventBits) : controlByte (controlByte a) = controlByte a := by
  rw [controlByte, controlByte, UInt32.and_assoc, UInt32.and_self]

/-- A word is its events and its control bits. -/
theorem masked_or_controlByte (a : EventBits) : a &&& eventMask ||| controlByte a = a := by
  apply UInt32.eq_of_toBitVec_eq
  ext i
  simp only [controlByte, UInt32.toBitVec_and, UInt32.toBitVec_or, UInt32.toBitVec_not,
    BitVec.getElem_and, BitVec.getElem_or, BitVec.getElem_not]
  grind

end Words

-- ---------------------------------------------------------------------------
-- What is stored
-- ---------------------------------------------------------------------------

variable {g : EventGroup} {w w' : World} {mv : Move} {moves : List Move} {t : TaskId}
  {e : EventWaiter} {now wait : Ticks} {bits waitFor value : EventBits} {call : Waiting EventWish}
  {o : Outcome EventGroup (Round Call Deed)}

theorem valuesStored_concat (w : World) (moves : List Move) (mv : Move) :
    valuesStored w (moves ++ [mv]) =
      valuesStored w moves ++ (valueSet? (w.run protocol moves) mv).toList ++
        [((w.run protocol moves).step protocol mv).object.bits] := by
  induction moves generalizing w with
  | nil => rfl
  | cons m rest ih => simp [valuesStored, ih, TaskSync.World.run_cons]

theorem last_mem_valuesStored (w : World) (moves : List Move) :
    (w.run protocol moves).object.bits ∈ valuesStored w moves := by
  induction moves generalizing w with
  | nil => exact List.mem_singleton_self _
  | cons m rest ih => exact List.mem_append_right _ (ih _)

theorem controlByte_setValue (h : controlByte g.bits = 0) (bits : EventBits) :
    controlByte (g.setValue bits) = 0 := by
  rw [setValue, controlByte_or, h, controlByte_masked, UInt32.or_self]

theorem controlByte_set (h : controlByte g.bits = 0) (bits : EventBits) :
    controlByte (g.set bits).object.bits = 0 := by
  obtain ⟨cleared, hBits⟩ := g.bits_set bits
  rw [hBits]
  exact controlByte_and (controlByte_setValue h bits) _

theorem Looked.bits_le (h : Looked t now g call o) : ∃ kept, o.object.bits = g.bits &&& kept := by
  cases h with
  | satisfied => exact ⟨_, rfl⟩
  | collected | expired => exact ⟨-1, by simp [Outcome.still]⟩
  | joined _ _ _ hEnlist =>
    obtain ⟨-, rfl⟩ := enlist_eq_some_iff.mp hEnlist
    exact ⟨-1, by simp [Outcome.still]⟩
  | stayed | crowded | gaveUp => exact ⟨-1, by simp [Outcome.still]⟩

theorem Arrived.bits_le (h : Arrived t g bits waitFor wait o) :
    ∃ kept, o.object.bits = (g.set bits).object.bits &&& kept := by
  cases h with
  | completed => exact ⟨_, rfl⟩
  | enlisted _ _ hEnlist =>
    obtain ⟨-, rfl⟩ := enlist_eq_some_iff.mp hEnlist
    exact ⟨-1, by simp⟩
  | declined | crowded => exact ⟨-1, by simp⟩

/-- No move brings a control bit into the group. -/
theorem controlByte_step (h : controlByte w.object.bits = 0) (mv : Move) :
    controlByte (w.step protocol mv).object.bits = 0 := by
  have hStepped := TaskSync.World.stepped_step protocol w mv
  generalize w.step protocol mv = w' at hStepped ⊢
  cases hStepped with
  | idle | abandoned => exact h
  | @started t now r =>
    cases r with
    | await wish wait =>
      obtain ⟨kept, hBits⟩ := (looked_look (.start wish wait now) now t w.object).bits_le
      exact hBits ▸ controlByte_and h kept
    | arrive bits waitFor wait =>
      obtain ⟨kept, hBits⟩ := (arrived_start now t w.object bits waitFor wait).bits_le
      exact hBits ▸ controlByte_and (controlByte_set h bits) kept
  | @resumed t now s =>
    obtain ⟨kept, hBits⟩ := (looked_look (s.call.waitAt now) now t w.object).bits_le
    exact hBits ▸ controlByte_and h kept
  | @acted a =>
    cases a with
    | set bits => exact controlByte_set h bits
    | clear bits => exact controlByte_and h _

theorem valueSet?_eq_some (h : valueSet? w mv = some value) :
    ∃ bits, value = w.object.setValue bits := by
  unfold valueSet? at h
  split at h
  · exact ⟨_, (Option.some.inj h).symm⟩
  · split at h
    · exact ⟨_, (Option.some.inj h).symm⟩
    · cases h
  · cases h

theorem controlByte_stored (h : controlByte w.object.bits = 0) (moves : List Move) :
    ∀ u ∈ valuesStored w moves, controlByte u = 0 := by
  induction moves generalizing w with
  | nil => simpa [valuesStored] using h
  | cons mv rest ih =>
    intro u hIn
    rw [valuesStored, List.mem_append, List.mem_cons, Option.mem_toList] at hIn
    rcases hIn with (rfl | hSet) | hRest
    · exact h
    · obtain ⟨bits, rfl⟩ := valueSet?_eq_some hSet
      exact controlByte_setValue h bits
    · exact ih (controlByte_step h mv) u hRest

-- ---------------------------------------------------------------------------
-- What entries keep
-- ---------------------------------------------------------------------------

theorem mem_of_mem_dismiss (h : e ∈ (g.dismiss t).waiters) : e ∈ g.waiters := by
  unfold dismiss at h
  split at h
  · exact h
  · rename_i i hPos
    obtain ⟨hLt, -, -⟩ := List.findIdx?_eq_some_iff_getElem.mp hPos
    exact List.mem_of_mem_eraseIdx ((swapRemove_perm hLt).mem_iff.mp h)

/-- The values that the entries of the table have kept are among these. -/
def Keeps (g : EventGroup) (values : List EventBits) : Prop :=
  ∀ e ∈ g.waiters, ∀ v, e.fired = some v → v ∈ values

theorem Keeps.mono {values values' : List EventBits} (h : Keeps g values)
    (hSub : values ⊆ values') : Keeps g values' :=
  fun e hMem v hFired => hSub (h e hMem v hFired)

theorem Keeps.dismiss {values : List EventBits} (h : Keeps g values) (t : TaskId) :
    Keeps (g.dismiss t) values := fun e hMem => h e (mem_of_mem_dismiss hMem)

theorem Keeps.enlist {values : List EventBits} {g' : EventGroup} {wish : EventWish}
    (h : Keeps g values) (hEnlist : g.enlist t wish = some g') : Keeps g' values := by
  obtain ⟨-, rfl⟩ := enlist_eq_some_iff.mp hEnlist
  intro e hMem v hFired
  rcases List.mem_append.mp hMem with hOld | hNew
  · exact h e hOld v hFired
  · rw [List.mem_singleton.mp hNew] at hFired
    cases hFired

theorem Keeps.set {values : List EventBits} (h : Keeps g values) (bits : EventBits) :
    Keeps (g.set bits).object (values ++ [g.setValue bits]) := by
  intro e' hIn v hFired
  rw [waiters_set] at hIn
  obtain ⟨e, hMem, rfl⟩ := List.mem_map.mp hIn
  by_cases hFires : e.fires (g.setValue bits) = true
  · rw [EventWaiter.fire, if_pos hFires] at hFired
    simp [← Option.some.inj hFired]
  · rw [EventWaiter.fire, if_neg hFires] at hFired
    exact List.mem_append_left _ (h e hMem v hFired)

theorem Keeps.looked {values : List EventBits} (h : Keeps g values)
    (hLooked : Looked t now g call o) : Keeps o.object values := by
  cases hLooked with
  | collected | expired => exact h.dismiss t
  | joined _ _ _ hEnlist => exact h.enlist hEnlist
  | stayed | satisfied | crowded | gaveUp => exact h

theorem Keeps.arrived {values : List EventBits} (h : Keeps g values)
    (hArrived : Arrived t g bits waitFor wait o) :
    Keeps o.object (values ++ [g.setValue bits]) := by
  cases hArrived with
  | enlisted _ _ hEnlist => exact (h.set bits).enlist hEnlist
  | completed | declined | crowded => exact h.set bits

theorem Keeps.step {values : List EventBits} (h : Keeps w.object values) (mv : Move) :
    Keeps (w.step protocol mv).object (values ++ (valueSet? w mv).toList) := by
  have hMore : values ⊆ values ++ (valueSet? w mv).toList := List.subset_append_left _ _
  have hStepped := TaskSync.World.stepped_step protocol w mv
  generalize w.step protocol mv = w' at hStepped ⊢
  cases hStepped with
  | idle | abandoned => exact h.mono hMore
  | @started t now r hAwake =>
    cases r with
    | await wish wait =>
      exact (h.looked (looked_look (.start wish wait now) now t w.object)).mono hMore
    | arrive bits waitFor wait =>
      have hSet : valueSet? w (.start t now (.arrive bits waitFor wait)) =
          some (w.object.setValue bits) := by simp [valueSet?, hAwake]
      rw [hSet]
      exact h.arrived (arrived_start now t w.object bits waitFor wait)
  | @resumed t now s =>
    exact (h.looked (looked_look (s.call.waitAt now) now t w.object)).mono hMore
  | @acted a =>
    cases a with
    | set bits => exact h.set bits
    | clear bits => exact h.mono hMore

theorem keeps_run (initial : EventBits) (moves : List Move) :
    Keeps (after (create initial) moves).object
      (valuesStored (.fresh (create initial)) moves) := by
  induction moves using List.reverseRecOn with
  | nil => exact nofun
  | append_singleton earlier mv ih =>
    rw [after, TaskSync.World.run_concat, valuesStored_concat]
    exact (ih.step mv).mono (List.subset_append_left _ _)

-- ---------------------------------------------------------------------------
-- What is answered
-- ---------------------------------------------------------------------------

/-- A look answers the bits as they are, or what the task's entry has kept. -/
theorem Looked.answer (h : Looked t now g call o) {d : Deed} (hDeed : o.answer.deed? = some d) :
    (d.value = g.bits ∧ ∀ u wish v, d = .waited u wish (.ok v) → wish.holds v = true) ∨
      ∃ e ∈ g.waiters, e.task = t ∧ e.fired = some d.value ∧
        d = .waited t call.request (.ok d.value) := by
  cases h with
  | collected hEntry hFired =>
    obtain rfl := Option.some.inj hDeed
    obtain ⟨hMem, hTask⟩ := entry_of_some hEntry
    exact Or.inr ⟨_, hMem, hTask, hFired, rfl⟩
  | expired | gaveUp =>
    obtain rfl := Option.some.inj hDeed
    exact Or.inl ⟨rfl, fun u wish v hSame => by cases hSame⟩
  | satisfied _ hHolds =>
    obtain rfl := Option.some.inj hDeed
    refine Or.inl ⟨rfl, fun u wish v hSame => ?_⟩
    cases hSame
    exact hHolds
  | stayed | joined | crowded => cases hDeed

/-- An arrival that ends at once answers what the group holds then, and its own control bits. -/
theorem Arrived.answer (h : Arrived t g bits waitFor wait o) {d : Deed}
    (hDeed : o.answer.deed? = some d) :
    (g.bits ||| bits) &&& waitFor = waitFor ∧
        d = .waited t (barrierWish waitFor) (.ok (g.setValue bits ||| controlByte bits)) ∨
      (g.bits ||| bits) &&& waitFor ≠ waitFor ∧
        d = .waited t (barrierWish waitFor) (.error o.object.bits) := by
  cases h with
  | completed hAll =>
    obtain rfl := Option.some.inj hDeed
    refine Or.inl ⟨hAll, ?_⟩
    rw [setValue, UInt32.or_assoc, masked_or_controlByte]
  | declined hMore =>
    obtain rfl := Option.some.inj hDeed
    exact Or.inr ⟨hMore, rfl⟩
  | enlisted | crowded => cases hDeed

variable {values : List EventBits} {d : Deed}

theorem Answers.of_no_leak (hValue : d.value ∈ values) (hLeak : leak w mv = 0)
    (hClean : controlByte d.value = 0) : Answers w mv values d :=
  ⟨⟨d.value, hValue, by rw [hLeak, UInt32.or_zero]⟩, hClean.trans hLeak.symm⟩

/-- What is answered has been stored, but for the leak. -/
theorem answers_step (hKeeps : Keeps w.object values) (hHeld : w.object.bits ∈ values)
    (hClean : ∀ u ∈ values, controlByte u = 0)
    (hLog : (w.step protocol mv).log = w.log ++ [⟨w.object, d⟩]) :
    Answers w mv
      (values ++ (valueSet? w mv).toList ++ [(w.step protocol mv).object.bits]) d := by
  have hLast := controlByte_step (hClean _ hHeld) mv
  have hLook {t : TaskId} {now : Ticks} {call : Waiting EventWish}
      {o : Outcome EventGroup (Round Call Deed)} (hLooked : Looked t now w.object call o)
      (hDeed : o.answer.deed? = some d) : d.value ∈ values := by
    rcases hLooked.answer hDeed with ⟨hValue, -⟩ | ⟨e, hMem, -, hFired, -⟩
    · exact hValue ▸ hHeld
    · exact hKeeps e hMem _ hFired
  have hStepped := TaskSync.World.stepped_step protocol w mv
  generalize w.step protocol mv = w' at hStepped hLog hLast ⊢
  cases hStepped with
  | idle | abandoned => simp at hLog
  | @started t now r hAwake =>
    have hDeed := TaskSync.World.logged_inj (b := some d) hLog
    cases r with
    | await wish wait =>
      have hValue := hLook (looked_look (.start wish wait now) now t w.object) hDeed
      exact .of_no_leak (by simp [hValue]) rfl (hClean _ hValue)
    | arrive bits waitFor wait =>
      have hSet : valueSet? w (.start t now (.arrive bits waitFor wait)) =
          some (w.object.setValue bits) := by simp [valueSet?, hAwake]
      rcases (arrived_start now t w.object bits waitFor wait).answer hDeed with
        ⟨hAll, rfl⟩ | ⟨hMore, rfl⟩
      · have hLeak : leak w (.start t now (.arrive bits waitFor wait)) = controlByte bits :=
          if_pos hAll
        refine ⟨⟨w.object.setValue bits, by simp [hSet], by rw [hLeak]; rfl⟩, ?_⟩
        rw [hLeak, Deed.value, controlByte_or, controlByte_setValue (hClean _ hHeld),
          controlByte_controlByte, UInt32.zero_or]
      · refine .of_no_leak ?_ (if_neg hMore) hLast
        exact List.mem_append_right _ (List.mem_singleton_self _)
  | @resumed t now s =>
    have hDeed := TaskSync.World.logged_inj (b := some d) hLog
    have hValue := hLook (looked_look (s.call.waitAt now) now t w.object) hDeed
    exact .of_no_leak (by simp [hValue]) rfl (hClean _ hValue)
  | @acted a =>
    have hDeed := TaskSync.World.logged_inj (b := some d) hLog
    cases a with
    | set bits =>
      obtain rfl := Option.some.inj hDeed
      refine .of_no_leak ?_ rfl hLast
      exact List.mem_append_right _ (List.mem_singleton_self _)
    | clear bits =>
      obtain rfl := Option.some.inj hDeed
      exact .of_no_leak (by simp [Deed.value, EventGroup.clear, Outcome.still, hHeld]) rfl
        (hClean _ hHeld)

/-- Who succeeds is satisfied by his answer. -/
theorem holds_step (h : Table w.crew w.object) {wish : EventWish}
    (hLog : (w.step protocol mv).log = w.log ++ [⟨w.object, .waited t wish (.ok value)⟩]) :
    wish.holds value = true := by
  have hLook {t' : TaskId} {now : Ticks} {call : Waiting EventWish}
      {o : Outcome EventGroup (Round Call Deed)} (hLooked : Looked t' now w.object call o)
      (hCall : ∀ s, w.crew.asleep t' = some s → s.call.wish = call.request)
      (hDeed : o.answer.deed? = some (.waited t wish (.ok value))) : wish.holds value = true := by
    rcases hLooked.answer hDeed with ⟨-, hHolds⟩ | ⟨e, hMem, rfl, hFired, hSame⟩
    · exact hHolds _ _ _ rfl
    · obtain ⟨s, hAsleep, hWish⟩ := h.asleep e hMem
      obtain ⟨-, rfl, -⟩ := Deed.waited.inj hSame
      rw [← hCall s hAsleep, hWish]
      exact (h.fired e hMem _ hFired).1
  have hStepped := TaskSync.World.stepped_step protocol w mv
  generalize w.step protocol mv = w' at hStepped hLog
  cases hStepped with
  | idle | abandoned => simp at hLog
  | @started t' now r hAwake =>
    have hDeed := TaskSync.World.logged_inj (b := some _) hLog
    cases r with
    | await wish' wait =>
      refine hLook (looked_look (.start wish' wait now) now t' w.object) (fun s hAsleep => ?_) hDeed
      rw [hAwake] at hAsleep
      cases hAsleep
    | arrive bits waitFor wait =>
      rcases (arrived_start now t' w.object bits waitFor wait).answer hDeed with
        ⟨hAll, hSame⟩ | ⟨-, hSame⟩
      · obtain ⟨-, rfl, hValue⟩ := Deed.waited.inj hSame
        obtain rfl := Except.ok.inj hValue
        rw [setValue, UInt32.or_assoc, masked_or_controlByte]
        exact beq_iff_eq.mpr hAll
      · cases hSame
  | @resumed t' now s hAsleep =>
    have hDeed := TaskSync.World.logged_inj (b := some _) hLog
    refine hLook (looked_look (s.call.waitAt now) now t' w.object) (fun s' hAsleep' => ?_) hDeed
    obtain rfl := Option.some.inj (hAsleep.symm.trans hAsleep')
    exact (s.call.request_waitAt now).symm
  | @acted a =>
    have hDeed := TaskSync.World.logged_inj (b := some _) hLog
    cases a <;> cases hDeed

/-- Whatever words the operations are given, nothing that is stored has a control bit. What is
answered has been stored, but for the control bits of an arrival that completes its barrier. -/
theorem leaks_by_arrival (initial : EventBits) (moves : List Move) (mv : Move) :
    Leaking initial moves mv := by
  have hStored := controlByte_stored (w := .fresh (create initial)) (controlByte_masked initial)
  have hAnswers {d : Deed} (hLog : ((after (create initial) moves).step protocol mv).log =
      (after (create initial) moves).log ++ [⟨(after (create initial) moves).object, d⟩]) :
      Answers (after (create initial) moves) mv
        (valuesStored (.fresh (create initial)) (moves ++ [mv])) d := by
    rw [valuesStored_concat]
    exact answers_step (keeps_run initial moves) (last_mem_valuesStored _ moves) (hStored moves) hLog
  refine ⟨hStored moves, last_mem_valuesStored _ moves, fun d hLog => hAnswers hLog, ?_⟩
  intro hKept t wish value hLog
  obtain ⟨u, hIn, hValue⟩ := (hAnswers hLog).value
  exact ⟨u, hIn, hValue, holds_step (table_run (table_fresh initial) hKept) hLog⟩

/-- A task arrives with a control bit and waits for an event, and another for a control bit. -/
def withControlBits : List Move :=
  [.start ⟨1⟩ 0 (.arrive 0x01000001 1 0), .start ⟨2⟩ 0 (.arrive 0x02000000 0x02000000 0)]

/-- The control bit of the first is answered, and the second is told that its own has been set. No
control bit has ever been stored. -/
theorem leaks :
    (after (create 0) withControlBits).log.map (·.deed) =
        [.waited ⟨1⟩ (barrierWish 1) (.ok 0x01000001),
          .waited ⟨2⟩ (barrierWish 0x02000000) (.ok 0x02000000)] ∧
      valuesStored (.fresh (create 0)) withControlBits = [0, 1, 0, 0, 0] := ⟨rfl, rfl⟩

end EventGroup

end TaskSync
