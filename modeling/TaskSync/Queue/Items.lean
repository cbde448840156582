import TaskSync.Queue.Basic
import TaskSync.ByteRing.Lemmas

/-!
# TaskSync — the queue as a list of items

The items of a queue, oldest first (`Queue.items`), and what each transfer
does to them. A queue is **consistent** (`Queue.Consistent`) if its ring holds
exactly `count` items and no more than the capacity; every transfer keeps it
so.

* `items_push`: a pushed item comes last.
* `answer_pop`, `items_pop`: the first item is taken out.
* `items_dropOldest`: the first item is dropped.
-/

namespace TaskSync

/-- The first `count` runs of `size` bytes. -/
def cutItems (size : Nat) : Nat → List UInt8 → List (List UInt8)
  | 0, _ => []
  | count + 1, bytes => bytes.take size :: cutItems size count (bytes.drop size)

@[simp] theorem length_cutItems (size count : Nat) (bytes : List UInt8) :
    (cutItems size count bytes).length = count := by
  induction count generalizing bytes with
  | zero => rfl
  | succ count ih => rw [cutItems, List.length_cons, ih]

/-- Cutting loses nothing and adds nothing. -/
theorem flatten_cutItems {size count : Nat} {bytes : List UInt8}
    (h : bytes.length = count * size) : (cutItems size count bytes).flatten = bytes := by
  induction count generalizing bytes with
  | zero =>
    rw [Nat.zero_mul] at h
    rw [cutItems, List.flatten_nil, List.eq_nil_of_length_eq_zero h]
  | succ count ih =>
    rw [Nat.succ_mul] at h
    rw [cutItems, List.flatten_cons, ih (by rw [List.length_drop]; omega),
      List.take_append_drop]

/-- An item put behind the bytes is cut off last. -/
theorem cutItems_append {size count : Nat} {bytes item : List UInt8}
    (h : bytes.length = count * size) (hitem : item.length = size) :
    cutItems size (count + 1) (bytes ++ item) = cutItems size count bytes ++ [item] := by
  induction count generalizing bytes with
  | zero =>
    rw [Nat.zero_mul] at h
    rw [List.eq_nil_of_length_eq_zero h, List.nil_append, cutItems, cutItems, cutItems,
      List.take_of_length_le (Nat.le_of_eq hitem), List.nil_append]
  | succ count ih =>
    rw [Nat.succ_mul] at h
    rw [cutItems, List.take_append_of_le_length (by omega),
      List.drop_append_of_le_length (by omega), ih (by rw [List.length_drop]; omega)]
    rfl

theorem length_of_mem_cutItems {size count : Nat} {bytes item : List UInt8}
    (h : bytes.length = count * size) (hmem : item ∈ cutItems size count bytes) :
    item.length = size := by
  induction count generalizing bytes with
  | zero => cases hmem
  | succ count ih =>
    rw [Nat.succ_mul] at h
    rcases List.mem_cons.mp hmem with rfl | hmem
    · rw [List.length_take]
      omega
    · exact ih (by rw [List.length_drop]; omega) hmem

namespace Queue

/-- The queued items, oldest first. -/
def items (q : Queue) : List (List UInt8) := cutItems q.itemSize q.count q.ring.toList

/-- The ring holds the queued items and nothing else. -/
structure Consistent (q : Queue) : Prop where
  valid : q.ring.Valid
  capacity_ring : q.ring.capacity = q.capacity * q.itemSize
  length_ring : q.ring.length = q.count * q.itemSize
  count_le : q.count ≤ q.capacity

@[simp] theorem length_items (q : Queue) : q.items.length = q.count := length_cutItems _ _ _

/-- The ring holds the items end to end. -/
theorem flatten_items {q : Queue} (h : q.Consistent) : q.items.flatten = q.ring.toList :=
  flatten_cutItems (by rw [ByteRing.length_toList, h.length_ring])

theorem length_of_mem_items {q : Queue} (h : q.Consistent) {item : List UInt8}
    (hmem : item ∈ q.items) : item.length = q.itemSize :=
  length_of_mem_cutItems (by rw [ByteRing.length_toList, h.length_ring]) hmem

-- ---------------------------------------------------------------------------
-- Pushing
-- ---------------------------------------------------------------------------

theorem length_le_space {q : Queue} (h : q.Consistent) (hroom : q.count < q.capacity)
    {item : List UInt8} (hitem : item.length = q.itemSize) : item.length ≤ q.ring.space := by
  have hmul : (q.count + 1) * q.itemSize ≤ q.capacity * q.itemSize :=
    Nat.mul_le_mul_right _ hroom
  rw [Nat.succ_mul] at hmul
  rw [ByteRing.space, h.capacity_ring, h.length_ring, hitem]
  omega

theorem Consistent.push {q : Queue} (h : q.Consistent) (hroom : q.count < q.capacity)
    {item : List UInt8} (hitem : item.length = q.itemSize) : (q.push item).object.Consistent where
  valid := h.valid.write item
  capacity_ring := (ByteRing.capacity_write _ _).trans h.capacity_ring
  length_ring := by
    have hspace := length_le_space h hroom hitem
    change (q.ring.write item).1.length = (q.count + 1) * q.itemSize
    rw [ByteRing.length_write, h.length_ring, Nat.min_eq_left hspace, hitem, Nat.succ_mul]
  count_le := hroom

/-- A pushed item comes last. -/
theorem items_push {q : Queue} (h : q.Consistent) (hroom : q.count < q.capacity)
    {item : List UInt8} (hitem : item.length = q.itemSize) :
    (q.push item).object.items = q.items ++ [item] := by
  change cutItems q.itemSize (q.count + 1) (q.ring.write item).1.toList = _
  rw [ByteRing.toList_write h.valid, List.take_of_length_le (length_le_space h hroom hitem),
    cutItems_append (by rw [ByteRing.length_toList, h.length_ring]) hitem]
  rfl

-- ---------------------------------------------------------------------------
-- Taking out
-- ---------------------------------------------------------------------------

theorem items_eq_cons {q : Queue} (hpos : 0 < q.count) :
    q.items = q.ring.toList.take q.itemSize ::
      cutItems q.itemSize (q.count - 1) (q.ring.toList.drop q.itemSize) := by
  obtain ⟨count, hcount⟩ := Nat.exists_eq_succ_of_ne_zero (Nat.ne_of_gt hpos)
  rw [items, hcount]
  rfl

/-- What is taken out is the first item. -/
theorem answer_pop {q : Queue} (h : q.Consistent) (hpos : 0 < q.count) :
    some q.pop.answer = q.items.head? := by
  rw [items_eq_cons hpos]
  exact congrArg some (ByteRing.fst_read h.valid q.itemSize)

theorem items_pop {q : Queue} (hpos : 0 < q.count) : q.pop.object.items = q.items.tail := by
  rw [items_eq_cons hpos, List.tail_cons, ← ByteRing.toList_snd_read]
  rfl

/-- Taking out splits the items into the first and the rest. -/
theorem items_eq_answer_cons {q : Queue} (h : q.Consistent) (hpos : 0 < q.count) :
    q.items = q.pop.answer :: q.pop.object.items := by
  have hfirst := answer_pop h hpos
  rw [items_pop hpos]
  cases hitems : q.items with
  | nil =>
    rw [hitems] at hfirst
    cases hfirst
  | cons first rest =>
    rw [hitems, List.head?_cons] at hfirst
    rw [Option.some.inj hfirst, List.tail_cons]

theorem items_dropOldest {q : Queue} (hpos : 0 < q.count) : q.dropOldest.items = q.items.tail := by
  rw [items_eq_cons hpos, List.tail_cons, ← ByteRing.toList_discard]
  rfl

/-- A consistent queue stays so when it gives up the bytes of one item. -/
theorem Consistent.dropOldest {q : Queue} (h : q.Consistent) (hpos : 0 < q.count) :
    q.dropOldest.Consistent where
  valid := h.valid.discard _
  capacity_ring := h.capacity_ring
  length_ring := by
    have hlen := h.length_ring
    obtain ⟨count, hcount⟩ := Nat.exists_eq_succ_of_ne_zero (Nat.ne_of_gt hpos)
    change q.ring.length - min q.itemSize q.ring.length = (q.count - 1) * q.itemSize
    rw [hlen, hcount, Nat.succ_mul, Nat.succ_sub_one, Nat.min_eq_left (by omega),
      Nat.add_sub_cancel]
  count_le := Nat.le_trans (Nat.sub_le _ _) h.count_le

theorem Consistent.pop {q : Queue} (h : q.Consistent) (hpos : 0 < q.count) :
    q.pop.object.Consistent where
  valid := h.valid.read _
  capacity_ring := h.capacity_ring
  length_ring := (h.dropOldest hpos).length_ring
  count_le := Nat.le_trans (Nat.sub_le _ _) h.count_le

end Queue

end TaskSync
