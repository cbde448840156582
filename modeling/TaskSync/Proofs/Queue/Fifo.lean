import TaskSync.Proofs.Queue.Runs
import TaskSync.Proofs.Runs.Errands
import TaskSync.Queue.Items

/-!
# TaskSync — a queue is a bounded first-in-first-out list

Whatever order tasks, asynchronous operations and interrupt handlers take their
steps in, a queue behaves like a list of items that is appended to at one end
and taken from at the other (`Fifo`). The law is stated once for a step
(`obeys_turn` for the looks of tasks, `obeys_deal` for steps that do not wait)
and lifted to runs by the invariant `Sound`.

Main result:

* `Queue.behaves_run` — in every state of every run the ring holds the items of
  a list within the capacity, each next move ends as `Ends` says and does to that
  list what `Fifo` says, and the items removed so far followed by the list are the
  items sent.
-/

namespace TaskSync

namespace Queue

/-- What a step does to the items of a queue, oldest first. -/
inductive Fifo (capacity size : Nat) :
    List (List UInt8) → Option Deed → List (List UInt8) → Prop
  /-- No operation has ended. -/
  | nothing {items} : Fifo capacity size items none items
  | sent {items item} :
      item.length = size → items.length < capacity →
      Fifo capacity size items (some (.sent item (.ok ()))) (items ++ [item])
  | appended {items item} :
      item.length = size → items.length < capacity →
      Fifo capacity size items (some (.overwrote item (.ok false))) (items ++ [item])
  | replaced {first rest item} :
      item.length = size → (first :: rest).length = capacity →
      Fifo capacity size (first :: rest) (some (.overwrote item (.ok true))) (rest ++ [item])
  | received {first rest} :
      first.length = size →
      Fifo capacity size (first :: rest) (some (.received size (.ok first))) rest
  | full {items item e} :
      item.length = size → items.length = capacity → (e = .full ∨ e = .timeout) →
      Fifo capacity size items (some (.sent item (.error e))) items
  | empty {e} :
      (e = .empty ∨ e = .timeout) →
      Fifo capacity size [] (some (.received size (.error e))) []
  | misfit {items d} : Misfit size d → Fifo capacity size items (some d) items

/-- What a look at a queue is for. It may be the `last` of its operation, served or not. -/
inductive Errand
  | send (item : List UInt8) (last : Bool)
  | overwrite (item : List UInt8)
  /-- A receive into a buffer of `size` bytes. -/
  | receive (size : Nat) (last : Bool)

/-- What the operations on a queue are for. -/
def errands : Errands Request Call Act Errand where
  ofRequest _
    | .send item wait => .send item (wait == 0)
    | .receive size wait => .receive size (wait == 0)
  ofCall now
    | .sending w => .send w.request.item (w.isOver now)
    | .receiving size w => .receive size (w.isOver now)
  ofAct
    | .pollSend item _ => .send item false
    | .pollReceive size _ => .receive size false
    | .sendNow item => .send item true
    | .sendOverwriting item => .overwrite item
    | .receiveNow size => .receive size true

/-- How a look ends at a queue that holds `items`: in a deed with the item or the buffer it was
for, or for now in nothing. -/
inductive Ends (capacity size : Nat) (items : List (List UInt8)) :
    Option Errand → Option Deed → Prop
  /-- Nobody has looked. -/
  | idle : Ends capacity size items none none
  | sent {item last answer} :
      Ends capacity size items (some (.send item last)) (some (.sent item answer))
  | overwrote {item answer} :
      Ends capacity size items (some (.overwrite item)) (some (.overwrote item answer))
  | received {room last answer} :
      Ends capacity size items (some (.receive room last)) (some (.received room answer))
  | sendWaits {item} :
      item.length = size → items.length = capacity →
      Ends capacity size items (some (.send item false)) none
  | receiveWaits : items = [] → Ends capacity size items (some (.receive size false)) none

/-- The queue holds these items and nothing else. -/
structure Holds (q : Queue) (capacity size : Nat) (items : List (List UInt8)) : Prop where
  count : q.count = items.length
  bytes : q.ring.toList = items.flatten
  length : q.ring.length = items.length * size
  sizes : ∀ item ∈ items, item.length = size
  bounded : items.length ≤ capacity

/-- The item that an operation has appended. -/
def appended? (r : Record Queue Deed) : Option (List UInt8) :=
  match r.deed with
  | .sent item (.ok _) | .overwrote item (.ok _) => some item
  | _ => none

/-- The item that an operation has removed: the one received, or the oldest of a full queue. -/
def removed? (r : Record Queue Deed) : Option (List UInt8) :=
  match r.deed with
  | .received _ (.ok item) => some item
  | .overwrote _ (.ok true) => r.before.items.head?
  | _ => none

/-- The items that were sent, in order. -/
def sentItems (log : List (Record Queue Deed)) : List (List UInt8) := log.filterMap appended?

/-- The items that were received or overwritten, in order. -/
def removedItems (log : List (Record Queue Deed)) : List (List UInt8) := log.filterMap removed?

/-- A queue in use behaves like a bounded first-in-first-out list. -/
structure Behaves (capacity size : Nat) (w : World) : Prop where
  holds : w.object.Holds capacity size w.object.items
  history : removedItems w.log ++ w.object.items = sentItems w.log
  law : ∀ m : Move, ∃ ended, (w.step protocol m).log = w.logged ended ∧
    Ends capacity size w.object.items (w.errand? errands m) ended ∧
    Fifo capacity size w.object.items ended (w.step protocol m).object.items

-- ---------------------------------------------------------------------------
-- The law of a step
-- ---------------------------------------------------------------------------

/-- A step from `q` to `q'` that ended an operation, or none, obeys the law. -/
structure Obeys (q q' : Queue) (ended : Option Deed) : Prop where
  consistent : q'.Consistent
  capacity_eq : q'.capacity = q.capacity
  itemSize_eq : q'.itemSize = q.itemSize
  fifo : Fifo q.capacity q.itemSize q.items ended q'.items

theorem lt_of_not_full {q : Queue} (h : q.Consistent) (hRoom : q.count ≠ q.capacity) :
    q.items.length < q.capacity := by
  have hLe := h.count_le
  rw [length_items]
  omega

theorem length_items_of_full {q : Queue} (h : q.count = q.capacity) :
    q.items.length = q.capacity := by
  rw [length_items, h]

theorem items_eq_nil_of_count {q : Queue} (h : q.count = 0) : q.items = [] :=
  List.eq_nil_of_length_eq_zero (by rw [length_items, h])

/-- Two queues of the same content; lines and wakers have no part in the law. -/
structure Alike (q p : Queue) : Prop where
  ring : p.ring = q.ring
  count : p.count = q.count
  capacity : p.capacity = q.capacity
  itemSize : p.itemSize = q.itemSize

variable {q p : Queue}

theorem Alike.refl (q : Queue) : Alike q q := ⟨rfl, rfl, rfl, rfl⟩

theorem Alike.consistent (hAlike : Alike q p) (h : q.Consistent) : p.Consistent where
  valid := hAlike.ring ▸ h.valid
  capacity_ring := by
    rw [hAlike.ring, hAlike.capacity, hAlike.itemSize]
    exact h.capacity_ring
  length_ring := by
    rw [hAlike.ring, hAlike.count, hAlike.itemSize]
    exact h.length_ring
  count_le := by
    rw [hAlike.count, hAlike.capacity]
    exact h.count_le

theorem Alike.items_eq (hAlike : Alike q p) : p.items = q.items := by
  rw [items, items, hAlike.ring, hAlike.count, hAlike.itemSize]

theorem Obeys.still (h : q.Consistent) (hAlike : Alike q p) {ended : Option Deed}
    (hEnd : Fifo q.capacity q.itemSize q.items ended q.items) : Obeys q p ended where
  consistent := hAlike.consistent h
  capacity_eq := hAlike.capacity
  itemSize_eq := hAlike.itemSize
  fifo := by
    rw [hAlike.items_eq]
    exact hEnd

theorem Obeys.push (h : q.Consistent) (hAlike : Alike q p) {item : List UInt8}
    (hItem : item.length = q.itemSize) (hRoom : q.count ≠ q.capacity) {ended : Option Deed}
    (hEnd : Fifo q.capacity q.itemSize q.items ended (q.items ++ [item])) :
    Obeys q (p.push item).object ended := by
  have hSame := hAlike.consistent h
  have hItem' : item.length = p.itemSize := hItem.trans hAlike.itemSize.symm
  have hLt : p.count < p.capacity := by
    have hLe := h.count_le
    rw [hAlike.count, hAlike.capacity]
    omega
  refine ⟨hSame.push hLt hItem', hAlike.capacity, hAlike.itemSize, ?_⟩
  rw [items_push hSame hLt hItem', hAlike.items_eq]
  exact hEnd

theorem Obeys.pop (h : q.Consistent) (hAlike : Alike q p) (hSome : q.count ≠ 0) {size : Nat}
    (hFits : size = q.itemSize) :
    Obeys q p.pop.object (some (.received size (.ok p.pop.answer))) := by
  have hSame := hAlike.consistent h
  have hPos : 0 < p.count := by
    rw [hAlike.count]
    omega
  have hSplit := items_eq_answer_cons hSame hPos
  have hFirst : p.pop.answer.length = size := by
    rw [hFits, ← hAlike.itemSize]
    exact length_of_mem_items hSame (hSplit ▸ List.mem_cons_self)
  refine ⟨hSame.pop hPos, hAlike.capacity, hAlike.itemSize, ?_⟩
  rw [← hAlike.items_eq, hSplit, ← hFits]
  exact .received hFirst

theorem obeys_turn (h : q.Consistent) {t : TaskId} {side : Side}
    {o : Outcome Queue (Round Call Deed)} (hTurn : Turn t q side o) :
    Obeys q o.object o.answer.deed? := by
  cases hTurn with
  | sent hItem hRoom =>
    have hAlike : Alike q { q with senders := q.senders.remove t } := ⟨rfl, rfl, rfl, rfl⟩
    exact .push h hAlike hItem hRoom (.sent hItem (lt_of_not_full h hRoom))
  | received hSize hSome =>
    have hAlike : Alike q { q with receivers := q.receivers.remove t } := ⟨rfl, rfl, rfl, rfl⟩
    exact .pop h hAlike hSome hSize
  | joinedSenders | joinedReceivers | crowded =>
    refine .still h ?_ .nothing
    exact ⟨rfl, rfl, rfl, rfl⟩
  | gaveUpSending hItem hFull hWhy =>
    refine .still h ?_ (.full hItem (length_items_of_full hFull) hWhy)
    exact ⟨rfl, rfl, rfl, rfl⟩
  | gaveUpReceiving hSize hNone hWhy =>
    refine .still h ?_ ?_
    · exact ⟨rfl, rfl, rfl, rfl⟩
    · rw [items_eq_nil_of_count hNone, hSize]
      exact .empty hWhy

/-- Overwriting takes the oldest item out of a full queue and appends. -/
theorem Obeys.replace (h : q.Consistent) (hPos : 0 < q.capacity)
    (hFull : q.count = q.capacity) {item : List UInt8} (hItem : item.length = q.itemSize) :
    Obeys q (q.dropOldest.push item).object (some (.overwrote item (.ok true))) := by
  have hSome : 0 < q.count := by omega
  have hRoom : q.dropOldest.count < q.dropOldest.capacity := by
    show q.count - 1 < q.capacity
    omega
  have hLength := length_items_of_full hFull
  refine ⟨(h.dropOldest hSome).push hRoom hItem, rfl, rfl, ?_⟩
  rw [items_push (h.dropOldest hSome) hRoom hItem, items_dropOldest hSome]
  cases hItems : q.items with
  | nil =>
    rw [hItems, List.length_nil] at hLength
    omega
  | cons first rest => exact .replaced hItem (hItems ▸ hLength)

theorem obeys_deal (h : q.Consistent) (hPos : 0 < q.capacity)
    {o : Outcome Queue (Option Deed)} (hDeal : Deal q o) : Obeys q o.object o.answer := by
  cases hDeal with
  | misfit hMisfit => exact .still h (.refl q) (.misfit hMisfit)
  | full hItem hFull =>
    exact .still h (.refl q) (.full hItem (length_items_of_full hFull) (Or.inl rfl))
  | empty hSize hNone =>
    refine .still h (.refl q) ?_
    rw [items_eq_nil_of_count hNone, hSize]
    exact .empty (Or.inl rfl)
  | pendingSend | pendingReceive =>
    refine .still h ?_ .nothing
    exact ⟨rfl, rfl, rfl, rfl⟩
  | sent hItem hRoom =>
    exact .push h (.refl q) hItem hRoom (.sent hItem (lt_of_not_full h hRoom))
  | appended hItem hRoom =>
    exact .push h (.refl q) hItem hRoom (.appended hItem (lt_of_not_full h hRoom))
  | replaced hItem hFull => exact .replace h hPos hFull hItem
  | received hSize hSome => exact .pop h (.refl q) hSome hSize

-- ---------------------------------------------------------------------------
-- How a look ends
-- ---------------------------------------------------------------------------

theorem ends_resume {k : Call} (hFits : k.Fits q) (now : Ticks) (t : TaskId) :
    Ends q.capacity q.itemSize q.items (some (errands.ofCall now k))
      (protocol.resume k now t q).answer.deed? := by
  cases k with
  | sending w =>
    have hComes := w.comes_round now t q
    show Ends _ _ _ (some (.send w.request.item (w.isOver now)))
      ((w.round now t q).map (Round.map Call.sending (Deed.sent w.request.item))).answer.deed?
    generalize w.round now t q = o at hComes ⊢
    cases hComes with
    | served | gaveUp => exact .sent
    | joined hServe hOver | crowded hServe hOver =>
      rw [hOver]
      exact .sendWaits hFits (length_items_of_full (serve_send_eq_none_iff.mp hServe))
  | receiving size w =>
    have hComes := w.comes_round now t q
    show Ends _ _ _ (some (.receive size (w.isOver now)))
      ((w.round now t q).map (Round.map (Call.receiving size) (Deed.received size))).answer.deed?
    generalize w.round now t q = o at hComes ⊢
    cases hComes with
    | served | gaveUp => exact .received
    | joined hServe hOver | crowded hServe hOver =>
      rw [hOver, show size = q.itemSize from hFits]
      exact .receiveWaits (items_eq_nil_of_count (serve_receive_eq_none_iff.mp hServe))

/-- A first look is for what the call is for, and ends as its other looks do. -/
theorem ends_start (r : Request) (now : Ticks) (t : TaskId) (q : Queue) :
    Ends q.capacity q.itemSize q.items (some (errands.ofRequest now r))
      (protocol.start r now t q).answer.deed? := by
  show Ends _ _ _ _ (r.start now t q).answer.deed?
  cases r with
  | send item wait =>
    rw [Request.start]
    by_cases hSize : item.length = q.itemSize
    · have hEnds := ends_resume (k := .sending (.start ⟨item⟩ wait now)) hSize now t
      have hErrand : errands.ofCall now (.sending (.start ⟨item⟩ wait now)) =
          .send item (wait == 0) := congrArg (Errand.send item) (Waiting.isOver_start ..)
      rw [hErrand] at hEnds
      rw [checkSize_of_eq hSize]
      exact hEnds
    · rw [checkSize_of_ne hSize]
      exact .sent
  | receive size wait =>
    rw [Request.start]
    by_cases hSize : size = q.itemSize
    · have hEnds := ends_resume (k := .receiving size (.start {} wait now)) hSize now t
      have hErrand : errands.ofCall now (.receiving size (.start {} wait now)) =
          .receive size (wait == 0) := congrArg (Errand.receive size) (Waiting.isOver_start ..)
      rw [hErrand] at hEnds
      rw [checkSize_of_eq hSize]
      exact hEnds
    · rw [checkSize_of_ne hSize]
      exact .received

theorem ends_act (a : Act) (q : Queue) :
    Ends q.capacity q.itemSize q.items (some (errands.ofAct a)) (protocol.act a q).answer := by
  show Ends _ _ _ _ (a.perform q).answer
  cases a with
  | sendNow | sendOverwriting | receiveNow => constructor
  | pollSend item waker =>
    rw [Act.perform, pollSend]
    by_cases hItem : item.length = q.itemSize
    · rw [checkSize_of_eq hItem]
      by_cases hFull : q.count = q.capacity
      · rw [if_pos (isFull_iff.mpr hFull)]
        exact .sendWaits hItem (length_items_of_full hFull)
      · rw [if_neg (fun hIs => hFull (isFull_iff.mp hIs))]
        exact .sent
    · rw [checkSize_of_ne hItem]
      exact .sent
  | pollReceive size waker =>
    rw [Act.perform, pollReceive]
    by_cases hSize : size = q.itemSize
    · rw [checkSize_of_eq hSize]
      by_cases hNone : q.count = 0
      · rw [if_pos (isEmpty_iff.mpr hNone), hSize]
        exact .receiveWaits (items_eq_nil_of_count hNone)
      · rw [if_neg (fun hIs => hNone (isEmpty_iff.mp hIs))]
        exact .received
    · rw [checkSize_of_ne hSize]
      exact .received

-- ---------------------------------------------------------------------------
-- The law of a run
-- ---------------------------------------------------------------------------

/-- What a step does to the items, its record does to the history. -/
theorem Fifo.history {capacity size : Nat} {w : World} {ended : Option Deed}
    {items' : List (List UInt8)} (hFifo : Fifo capacity size w.object.items ended items')
    (hHistory : removedItems w.log ++ w.object.items = sentItems w.log) :
    removedItems (w.logged ended) ++ items' = sentItems (w.logged ended) := by
  unfold removedItems sentItems at *
  generalize hItems : w.object.items = items at hFifo hHistory
  cases hFifo with
  | nothing =>
    rw [World.logged_none]
    exact hHistory
  | misfit hMisfit =>
    rw [World.logged_some, List.filterMap_append, List.filterMap_append, ← hHistory]
    cases hMisfit <;> simp [List.filterMap_cons, removed?, appended?]
  | sent | appended | replaced | received | full | empty =>
    -- an overwritten item is named by the state before, not by the answer
    rw [World.logged_some, List.filterMap_append, List.filterMap_append, ← hHistory]
    simp [List.filterMap_cons, removed?, appended?, hItems]

/-- What every move keeps. -/
structure Sound (capacity size : Nat) (w : World) : Prop where
  consistent : w.object.Consistent
  positive : 0 < capacity
  capacity_eq : w.object.capacity = capacity
  itemSize_eq : w.object.itemSize = size
  fits : ∀ t s, w.crew.asleep t = some s → s.call.Fits w.object
  history : removedItems w.log ++ w.object.items = sentItems w.log

theorem sound_fresh {allocator : Allocator} {capacity size : Nat} {q : Queue}
    (hCreate : create allocator capacity size = .ok q) :
    Sound capacity size (.fresh q) := by
  obtain ⟨hPos, ring, hRing, rfl⟩ := created_of_ok hCreate
  obtain ⟨hValid, hCapacity, hEmpty⟩ := ByteRing.valid_of_create hRing
  have hLength : ring.length = 0 := by rw [← ByteRing.length_toList, hEmpty, List.length_nil]
  refine ⟨⟨hValid, hCapacity, ?_, Nat.zero_le _⟩, hPos, rfl, rfl, ?_, rfl⟩
  · show ring.length = 0 * size
    rw [hLength, Nat.zero_mul]
  · intro t s hAsleep
    cases hAsleep

variable {capacity size : Nat} {w : World}

theorem Sound.holds (h : Sound capacity size w) :
    w.object.Holds capacity size w.object.items where
  count := (length_items w.object).symm
  bytes := (flatten_items h.consistent).symm
  length := by rw [length_items, h.consistent.length_ring, h.itemSize_eq]
  sizes := fun item hMem => (length_of_mem_items h.consistent hMem).trans h.itemSize_eq
  bounded := by
    rw [length_items, ← h.capacity_eq]
    exact h.consistent.count_le

/-- A look after which the task sleeps in a call with a fitting buffer, if it
sleeps, leaves only such calls asleep. -/
theorem Sound.fits_look (h : Sound capacity size w) {t : TaskId}
    {fate : Option (Sleep Call)} (hFate : ∀ s, fate = some s → s.call.Fits w.object) :
    ∀ u s, (w.crew.look t fate).asleep u = some s → s.call.Fits w.object := by
  intro u s hAsleep
  by_cases hSelf : u = t
  · subst hSelf
    exact hFate s ((Crew.asleep_look_self _).symm.trans hAsleep)
  · exact h.fits u s ((Crew.asleep_look_of_ne hSelf _).symm.trans hAsleep)

theorem Sound.obeys (h : Sound capacity size w) (m : Move) :
    ∃ ended, (w.step protocol m).log = w.logged ended ∧
      Obeys w.object (w.step protocol m).object ended ∧
      ∀ t s, (w.step protocol m).crew.asleep t = some s → s.call.Fits w.object := by
  have hIdle : Obeys w.object w.object none := .still h.consistent (.refl _) .nothing
  have hStepped := w.stepped_step protocol m
  generalize w.step protocol m = w' at hStepped ⊢
  cases hStepped with
  | idle => exact ⟨none, w.logged_none.symm, hIdle, h.fits⟩
  | @started t now r hOut =>
    have hTurn := turn_start r now t w.object
    generalize protocol.start r now t w.object = o at hTurn ⊢
    rcases hTurn with hTurn | ⟨d, hMisfit, rfl⟩
    · exact ⟨_, rfl, obeys_turn h.consistent hTurn, h.fits_look fun _ => hTurn.fits⟩
    · exact ⟨_, rfl, .still h.consistent (.refl _) (.misfit hMisfit),
        h.fits_look fun _ hNone => by cases hNone⟩
  | @resumed t now s hAsleep =>
    have hTurn := turn_round (h.fits t s hAsleep) now t
    exact ⟨_, rfl, obeys_turn h.consistent hTurn, h.fits_look fun _ => hTurn.fits⟩
  | @acted a =>
    have hPos : 0 < w.object.capacity := h.capacity_eq ▸ h.positive
    exact ⟨_, rfl, obeys_deal h.consistent hPos (deal_act a w.object), h.fits⟩
  | abandoned =>
    exact ⟨none, w.logged_none.symm, hIdle, h.fits_look fun _ hNone => by cases hNone⟩

theorem Sound.step (h : Sound capacity size w) (m : Move) :
    Sound capacity size (w.step protocol m) := by
  obtain ⟨ended, hLog, hObeys, hFits⟩ := h.obeys m
  refine ⟨hObeys.consistent, h.positive, hObeys.capacity_eq.trans h.capacity_eq,
    hObeys.itemSize_eq.trans h.itemSize_eq, ?_, ?_⟩
  · intro t s hAsleep
    exact (hFits t s hAsleep).of_itemSize_eq hObeys.itemSize_eq
  · rw [hLog]
    exact hObeys.fifo.history h.history

theorem Sound.ends (h : Sound capacity size w) (m : Move) :
    ∃ ended, (w.step protocol m).log = w.logged ended ∧
      Ends capacity size w.object.items (w.errand? errands m) ended := by
  rw [← h.capacity_eq, ← h.itemSize_eq]
  exact World.ended_step .idle (fun t now r _ => ends_start r now t w.object)
    (fun t now s hAsleep => ends_resume (h.fits t s hAsleep) now t)
    (fun a => ends_act a w.object) m

theorem Sound.behaves (h : Sound capacity size w) : Behaves capacity size w where
  holds := h.holds
  history := h.history
  law := by
    intro m
    obtain ⟨ended, hLog, hObeys, -⟩ := h.obeys m
    obtain ⟨ended', hLog', hEnds⟩ := h.ends m
    obtain rfl : ended = ended' := World.logged_inj (hLog.symm.trans hLog')
    refine ⟨ended, hLog, hEnds, ?_⟩
    rw [← h.capacity_eq, ← h.itemSize_eq]
    exact hObeys.fifo

theorem sound_run {allocator : Allocator} {capacity size : Nat} {q : Queue}
    (hCreate : create allocator capacity size = .ok q)
    (moves : List Move) : Sound capacity size (q.after moves) :=
  after_induction (fun _ m _ h => h.step m) (sound_fresh hCreate)

/-- In every state of every run a queue behaves like a bounded first-in-first-out list. -/
theorem behaves_run {allocator : Allocator} {capacity size : Nat} {q : Queue}
    (hCreate : create allocator capacity size = .ok q)
    (moves : List Move) : Behaves capacity size (q.after moves) :=
  (sound_run hCreate moves).behaves

/-- A sender waits at a full queue, and an interrupt handler overtakes it. -/
def overtaken : List Move :=
  [.start ⟨1⟩ 0 (.send [7] 5), .start ⟨2⟩ 0 (.send [8] 5), .act (.sendOverwriting [9]),
    .start ⟨3⟩ 1 (.receive 1 0), .resume ⟨2⟩ 2]

theorem behaves_run_overtaken :
    ∃ q, create .standard 1 1 = .ok q ∧ Behaves 1 1 (q.after overtaken) ∧
      sentItems (q.after overtaken).log = [[7], [9], [8]] ∧
      removedItems (q.after overtaken).log = [[7], [9]] ∧
      (q.after overtaken).object.items = [[8]] := by
  obtain ⟨q, hCreate⟩ : ∃ q, create .standard 1 1 = .ok q := ⟨_, rfl⟩
  refine ⟨q, hCreate, behaves_run hCreate overtaken, ?_, ?_, ?_⟩
  all_goals
    cases hCreate
    decide +kernel

end Queue

end TaskSync
