import TaskSync.Proofs.ByteStream.Receiving

/-!
# TaskSync — how long a flush is in force

A flush lets receivers take what is buffered until the next read. Steps that are
no reads leave the flag and the bytes alone (`keeps_step`), and a read that finds
them takes some, so a flush lasts until bytes are taken out or dropped.

There is one exception. A receive into a buffer without room reads nothing; as a
blocking call or as a poll it does not look at the stream, but in an interrupt
handler it counts as a read and ends the flush.

Main result:

* `ByteStream.flush_lasts_run` — as long as no byte has been taken out or dropped
  and no interrupt handler has received into a buffer without room, every receive
  that looks after a flush is served.
-/

namespace TaskSync

namespace ByteStream

/-- After the first `n` operations no byte has been taken out and nothing has been dropped. -/
def Untouched (n : Nat) (log : List (Record ByteStream Deed)) : Prop :=
  ∀ r ∈ log.drop n, bytesOut r = [] ∧ r.deed.isReset = false

instance (n : Nat) (log : List (Record ByteStream Deed)) : Decidable (Untouched n log) :=
  inferInstanceAs (Decidable (∀ r ∈ log.drop n, _))

/-- A step that ends no flush and takes no byte away. -/
structure Keeps (s s' : ByteStream) : Prop where
  flushed : s.flushed = true → s'.flushed = true
  available : s.available ≤ s'.available

variable {s : ByteStream} {w : World} {m : Move} {room : Nat} {again : Bool} {how : Manner}

-- ---------------------------------------------------------------------------
-- What ends no flush
-- ---------------------------------------------------------------------------

theorem Keeps.refl (s : ByteStream) : Keeps s s := ⟨id, Nat.le_refl _⟩

theorem keeps_wakeAtTrigger (s : ByteStream) : Keeps s s.wakeAtTrigger.object := by
  obtain ⟨_, _, hObject⟩ := s.object_wakeAtTrigger
  rw [hObject]
  exact ⟨id, Nat.le_refl _⟩

theorem keeps_put (s : ByteStream) (data : List UInt8) : Keeps s (s.put data).object := by
  obtain ⟨_, _, hObject⟩ := s.object_put data
  rw [hObject]
  refine ⟨id, ?_⟩
  show s.ring.length ≤ (s.ring.write data).1.length
  rw [ByteRing.length_write]
  exact Nat.le_add_right _ _

theorem Turn.keeps {t : TaskId} {o : Outcome ByteStream (Round Call Deed)}
    (hTurn : Turn t s .sending o) : Keeps s o.object := by
  cases hTurn with
  | refused | joinedSenders | crowdedSenders | gaveUpSending => exact ⟨id, Nat.le_refl _⟩
  | @sent data =>
    have hPut := keeps_put (s.dropSender t) data
    exact ⟨hPut.flushed, hPut.available⟩

theorem keeps_pollSend (s : ByteStream) (data : List UInt8) (waker : WakerId) :
    Keeps s (s.pollSend data waker).object := by
  rw [pollSend]
  split
  · exact .refl s
  split
  · exact ⟨id, Nat.le_refl _⟩
  · exact keeps_put s data

theorem keeps_sendNow (s : ByteStream) (data : List UInt8) : Keeps s (s.sendNow data).object := by
  rw [sendNow]
  split
  · exact .refl s
  split
  · exact .refl s
  · exact keeps_put s data

theorem keeps_setTrigger (s : ByteStream) (level : Nat) :
    Keeps s (s.setTrigger level).object := by
  rw [setTrigger]
  split
  · exact .refl s
  · have hWake := keeps_wakeAtTrigger { s with trigger := max level 1 }
    exact ⟨hWake.flushed, hWake.available⟩

/-- A flush leaves a stream with bytes flushed. -/
theorem flushed_flush (hSome : s.available ≠ 0) :
    (protocol.act .flush s).object = { s with
      flushed := true, receivers := .empty, receiverWakers := .empty } := by
  show (Act.flush.perform s).object = _
  rw [Act.perform, flush, if_neg fun hEmpty => hSome (isEmpty_iff.mp hEmpty)]
  rfl

theorem keeps_flush (s : ByteStream) : Keeps s (protocol.act .flush s).object := by
  by_cases hNone : s.available = 0
  · show Keeps s (Act.flush.perform s).object
    rw [Act.perform, flush, if_pos (isEmpty_iff.mpr hNone)]
    exact .refl s
  · rw [flushed_flush hNone]
    exact ⟨fun _ => rfl, Nat.le_refl _⟩

/-- A move that can end a flush. -/
inductive Spends (w : World) : Move → Prop
  | looks {m : Move} {room : Nat} {again : Bool} {how : Manner} :
      Tries w m room again how → room ≠ 0 → Spends w m
  /-- A receive without room, if it is one of an interrupt handler. -/
  | empty : Spends w (.act (.receiveNow 0))
  | reset : Spends w (.act .reset)

theorem spends_or_keeps_act (w : World) (a : Act) :
    Spends w (.act a) ∨ Keeps w.object (protocol.act a w.object).object := by
  cases a with
  | pollReceive room again waker =>
    by_cases hRoom : room = 0
    · subst hRoom
      exact Or.inr (.refl _)
    · exact Or.inl (.looks .polls hRoom)
  | receiveNow room =>
    by_cases hRoom : room = 0
    · subst hRoom
      exact Or.inl .empty
    · exact Or.inl (.looks .defers hRoom)
  | reset => exact Or.inl .reset
  | pollSend data waker => exact Or.inr (keeps_pollSend w.object data waker)
  | sendNow data => exact Or.inr (keeps_sendNow w.object data)
  | flush => exact Or.inr (keeps_flush w.object)
  | close => exact Or.inr ⟨id, Nat.le_refl _⟩
  | setTrigger level => exact Or.inr (keeps_setTrigger w.object level)

/-- Any other move leaves a flush in force and the bytes where they are. -/
theorem spends_or_keeps (h : Poised w) (m : Move) :
    Spends w m ∨ Keeps w.object (w.step protocol m).object := by
  cases m with
  | start t now r =>
    cases hAsleep : w.crew.asleep t with
    | some sleep =>
      rw [World.step, hAsleep]
      exact Or.inr (.refl _)
    | none =>
      rw [World.step_start hAsleep]
      cases r with
      | send data wait =>
        exact Or.inr (turn_round (.sending (.start ⟨data⟩ wait now)) w.object now t).keeps
      | receive room wait =>
        by_cases hRoom : room = 0
        · subst hRoom
          exact Or.inr (.refl _)
        · exact Or.inl (.looks (.begins hAsleep) hRoom)
  | resume t now =>
    cases hAsleep : w.crew.asleep t with
    | none =>
      rw [World.step_resume_of_awake hAsleep]
      exact Or.inr (.refl _)
    | some sleep =>
      obtain ⟨call, limit⟩ := sleep
      cases call with
      | sending call =>
        rw [World.step_resume hAsleep]
        exact Or.inr (turn_round (.sending call) w.object now t).keeps
      | receiving call => exact Or.inl (.looks (.goesOn hAsleep) (h.parked t _ hAsleep).2)
  | act a => exact spends_or_keeps_act w a
  | abandon t => exact Or.inr (.refl _)

-- ---------------------------------------------------------------------------
-- A flush in force
-- ---------------------------------------------------------------------------

/-- There are bytes for receivers to take, whatever the trigger level. -/
structure InForce (s : ByteStream) : Prop where
  flushed : s.flushed = true
  buffered : s.available ≠ 0

theorem InForce.of_keeps {s' : ByteStream} (h : InForce s) (hKeeps : Keeps s s') : InForce s' where
  flushed := hKeeps.flushed h.flushed
  buffered := by
    have hSome := h.buffered
    have hLe := hKeeps.available
    omega

/-- A flush in force serves every receive that looks. -/
theorem InForce.served (h : InForce w.object) (hPoised : Poised w) (hValid : w.object.ring.Valid)
    (hTries : Tries w m room again how) (hRoom : room ≠ 0) :
    ∃ data, data ≠ [] ∧
      (w.step protocol m).log = w.logged (some (.received room again how (.ok data))) := by
  obtain ⟨answer, hLog, hAnswered⟩ := hPoised.answered hValid hTries hRoom
  obtain ⟨data, rfl⟩ := hAnswered.ok_iff.mpr ⟨h.buffered, Or.inr (Or.inr (Or.inl h.flushed))⟩
  obtain ⟨-, hPos, -⟩ := hAnswered.took data rfl
  exact ⟨data, List.ne_nil_of_length_pos hPos, hLog⟩

theorem Untouched.of_prefix {n : Nat} {log log' : List (Record ByteStream Deed)}
    (h : Untouched n log') (hPrefix : log <+: log') : Untouched n log :=
  fun r hr => h r ((hPrefix.drop n).subset hr)

theorem Untouched.of_le {n n' : Nat} {log : List (Record ByteStream Deed)} (h : Untouched n log)
    (hLe : n ≤ n') : Untouched n' log :=
  fun r hr => h r (List.drop_subset_drop_left log hLe hr)

/-- What a step ends is among what has ended since. -/
theorem Untouched.ended {d : Deed} (h : Untouched w.log.length (w.step protocol m).log)
    (hLog : (w.step protocol m).log = w.logged (some d)) :
    bytesOut ⟨w.object, d⟩ = [] ∧ d.isReset = false := by
  refine h ⟨w.object, d⟩ ?_
  rw [hLog, World.logged_some, List.drop_left]
  exact List.mem_singleton_self _

/-- A move that takes no byte and drops none leaves a flush in force, if it is no receive without
room in an interrupt handler. -/
theorem InForce.step (h : InForce w.object) (hPoised : Poised w) (hValid : w.object.ring.Valid)
    (hEmpty : m ≠ .act (.receiveNow 0))
    (hUntouched : Untouched w.log.length (w.step protocol m).log) :
    InForce (w.step protocol m).object := by
  rcases spends_or_keeps hPoised m with hSpends | hKeeps
  · cases hSpends with
    | looks hTries hRoom =>
      -- it would have been served, and so have taken bytes
      obtain ⟨data, hData, hLog⟩ := h.served hPoised hValid hTries hRoom
      exact absurd (hUntouched.ended hLog).1 hData
    | empty => exact absurd rfl hEmpty
    | reset => cases (hUntouched.ended (d := .reset) rfl).2
  · exact h.of_keeps hKeeps

theorem InForce.run {capacity : Nat} {later : List Move} (h : InForce w.object) (hPoised : Poised w)
    (hSound : Sound capacity w) (hEmpty : .act (.receiveNow 0) ∉ later)
    (hUntouched : Untouched w.log.length (w.run protocol later).log) :
    InForce (w.run protocol later).object := by
  -- the flush is carried forward, so the world it is in force in is generalised
  induction later generalizing w with
  | nil => exact h
  | cons m rest ih =>
    rw [List.mem_cons, not_or] at hEmpty
    have hNow : Untouched w.log.length (w.step protocol m).log :=
      hUntouched.of_prefix (World.log_prefix_run ..)
    have hRest := hUntouched.of_le (World.log_prefix_step protocol w m).length_le
    exact ih (h.step hPoised hSound.valid (Ne.symm hEmpty.1) hNow) (hPoised.step m) (hSound.step m)
      hEmpty.2 hRest

-- ---------------------------------------------------------------------------
-- Runs
-- ---------------------------------------------------------------------------

theorem inForce_run {allocator : Allocator} {capacity trigger : Nat} {s : ByteStream}
    (hCreate : create allocator capacity trigger = .ok s) {moves later : List Move}
    (hSome : (s.after moves).object.available ≠ 0)
    (hUntouched : Untouched (s.after moves).log.length
      (s.after (moves ++ .act .flush :: later)).log)
    (hEmpty : .act (.receiveNow 0) ∉ later) :
    InForce (s.after (moves ++ .act .flush :: later)).object := by
  have hRun : s.after (moves ++ .act .flush :: later) =
      ((s.after moves).step protocol (.act .flush)).run protocol later :=
    TaskSync.World.run_append ..
  rw [hRun] at hUntouched ⊢
  have hStart : InForce ((s.after moves).step protocol (.act .flush)).object := by
    show InForce (protocol.act .flush (s.after moves).object).object
    rw [flushed_flush hSome]
    exact ⟨rfl, hSome⟩
  have hLe := ((s.after moves).log_prefix_step protocol (.act .flush)).length_le
  exact hStart.run ((poised_run hCreate moves).step _) ((sound_run hCreate moves).step _) hEmpty
    (hUntouched.of_le hLe)

/-- After a flush of a stream with bytes, and as long as no byte has been taken out or dropped and
no interrupt handler has received into a buffer without room, every receive that looks gets at least
one byte. -/
theorem flush_lasts_run {allocator : Allocator} {capacity trigger : Nat} {s : ByteStream}
    (hCreate : create allocator capacity trigger = .ok s) {moves later : List Move}
    (hSome : (s.after moves).object.available ≠ 0)
    (hUntouched : Untouched (s.after moves).log.length
      (s.after (moves ++ .act .flush :: later)).log)
    (hEmpty : .act (.receiveNow 0) ∉ later) {m : Move} {room : Nat} {again : Bool} {how : Manner}
    (hTries : Tries (s.after (moves ++ .act .flush :: later)) m room again how) (hRoom : room ≠ 0) :
    ∃ data, data ≠ [] ∧ ((s.after (moves ++ .act .flush :: later)).step protocol m).log =
      (s.after (moves ++ .act .flush :: later)).logged
        (some (.received room again how (.ok data))) :=
  (inForce_run hCreate hSome hUntouched hEmpty).served (poised_run hCreate _)
    (sound_run hCreate _).valid hTries hRoom

/-- Two bytes of the four that a receiver waits for. -/
def halfLevel : List Move := [.start ⟨1⟩ 0 (.receive 8 waitForever), .act (.sendNow [10, 11])]

/-- Receives without room, more bytes, a higher trigger level and a sender that finds no space. -/
def unread : List Move :=
  [.start ⟨2⟩ 1 (.receive 0 waitForever), .act (.sendNow [12]), .act (.setTrigger 8),
    .act (.pollReceive 0 true ⟨7⟩), .start ⟨3⟩ 1 (.send [1, 2, 3, 4, 5, 6, 7] waitForever)]

theorem flush_lasts_run_unread :
    ∃ s, create .standard 8 4 = .ok s ∧ (s.after halfLevel).object.available ≠ 0 ∧
      Untouched (s.after halfLevel).log.length
        (s.after (halfLevel ++ .act .flush :: unread)).log ∧
      .act (.receiveNow 0) ∉ unread ∧
      Tries (s.after (halfLevel ++ .act .flush :: unread)) (.resume ⟨1⟩ 2) 8 true
        (.blocking waitForever false) ∧
      ∃ data, data ≠ [] ∧
        ((s.after (halfLevel ++ .act .flush :: unread)).step protocol (.resume ⟨1⟩ 2)).log =
          (s.after (halfLevel ++ .act .flush :: unread)).logged
            (some (.received 8 true (.blocking waitForever false) (.ok data))) := by
  have hEmpty : .act (.receiveNow 0) ∉ unread := by simp [unread]
  refine ⟨_, rfl, ?_⟩
  generalize hStream : ByteStream.mk _ _ _ _ _ _ _ _ = s
  have hCreate : create .standard 8 4 = .ok s := hStream ▸ rfl
  have hSome : (s.after halfLevel).object.available ≠ 0 := by
    subst hStream
    decide
  have hUntouched : Untouched (s.after halfLevel).log.length
      (s.after (halfLevel ++ .act .flush :: unread)).log := by
    subst hStream
    decide +kernel
  have hAsleep : (s.after (halfLevel ++ .act .flush :: unread)).crew.asleep ⟨1⟩ =
      some ⟨.receiving ⟨⟨8⟩, ⟨0, waitForever⟩, true⟩, none⟩ := by
    subst hStream
    rfl
  have hTries : Tries (s.after (halfLevel ++ .act .flush :: unread)) (.resume ⟨1⟩ 2) 8 true
      (.blocking waitForever false) := .goesOn hAsleep
  exact ⟨hSome, hUntouched, hEmpty, hTries,
    flush_lasts_run hCreate hSome hUntouched hEmpty hTries (by decide)⟩

/-- A receive without room in an interrupt handler leaves the bytes alone and ends the flush. -/
theorem receiveNow_zero (hSome : s.available ≠ 0) :
    (protocol.act (.receiveNow 0) s).object.flushed = false ∧
      (protocol.act (.receiveNow 0) s).object.ring.toList = s.ring.toList := by
  have hEmpty : s.ring.isEmpty = false := by
    rw [← Bool.not_eq_true, isEmpty_iff]
    exact hSome
  show (s.receiveNow 0).object.flushed = false ∧ (s.receiveNow 0).object.ring.toList = _
  rw [receiveNow, if_neg (Bool.eq_false_iff.mp hEmpty), take_of_not_isEmpty hEmpty]
  constructor
  · obtain ⟨_, _, hObject⟩ := (s.drained 0).object_wakeAtTrigger
    show (s.drained 0).wakeAtTrigger.object.flushed = false
    rw [hObject]
    rfl
  · show (s.drained 0).wakeAtTrigger.object.ring.toList = s.ring.toList
    rw [ring_wakeAtTrigger]
    exact s.ring.toList_snd_read 0

/-- After it, a receiver that the flush has woken waits again, with both bytes still there. -/
theorem not_served_after_empty_read :
    ∃ s, create .standard 8 4 = .ok s ∧
      (s.after halfLevel).object.closed = false ∧ (s.after halfLevel).object.available ≠ 0 ∧
      Untouched (s.after halfLevel).log.length
        (s.after (halfLevel ++ .act .flush :: [.act (.receiveNow 0)])).log ∧
      Tries (s.after (halfLevel ++ .act .flush :: [.act (.receiveNow 0)])) (.resume ⟨1⟩ 2) 8 true
        (.blocking waitForever false) ∧
      ((s.after (halfLevel ++ .act .flush :: [.act (.receiveNow 0)])).step protocol
        (.resume ⟨1⟩ 2)).log.length =
          (s.after (halfLevel ++ .act .flush :: [.act (.receiveNow 0)])).log.length ∧
      ((s.after (halfLevel ++ .act .flush :: [.act (.receiveNow 0)])).step protocol
        (.resume ⟨1⟩ 2)).crew.isIn Side.receiving.has ⟨1⟩ = true := by
  refine ⟨_, rfl, ?_⟩
  generalize hStream : ByteStream.mk _ _ _ _ _ _ _ _ = s
  have hAsleep : (s.after (halfLevel ++ .act .flush :: [.act (.receiveNow 0)])).crew.asleep ⟨1⟩ =
      some ⟨.receiving ⟨⟨8⟩, ⟨0, waitForever⟩, true⟩, none⟩ := by
    subst hStream
    rfl
  refine ⟨?_, ?_, ?_, .goesOn hAsleep, ?_, ?_⟩
  all_goals subst hStream
  all_goals decide +kernel

end ByteStream

end TaskSync
