import TaskSync.ByteRing.Basic
import TaskSync.ByteRing.StretchLemmas

/-!
# TaskSync — the byte ring as a list

What each operation does to the buffered bytes (`ByteRing.toList`), for a ring
whose start and length fit its cells (`ByteRing.Valid`). Every operation keeps
a ring valid.

* `toList_write`, `written_write`: bytes are appended as far as there is space.
* `fst_read`, `toList_snd_read`: the oldest bytes are taken out.
* `toList_discard`, `toList_clear`: the oldest bytes, or all, are dropped.
-/

namespace TaskSync

namespace ByteRing

/-- Start and length of the ring fit its cells. -/
structure Valid (r : ByteRing) : Prop where
  length_le : r.length ≤ r.capacity
  start_lt : r.start < r.capacity ∨ r.start = 0 ∧ r.capacity = 0

@[simp] theorem length_toList (r : ByteRing) : r.toList.length = r.length := by
  simp [toList]

theorem getElem?_toList (r : ByteRing) {i : Nat} (h : i < r.length) :
    r.toList[i]? = some (r.cells.getD ((r.start + i) % r.capacity) 0) := by
  rw [toList, List.getElem?_map, List.getElem?_range h]
  rfl

-- ---------------------------------------------------------------------------
-- Writing
-- ---------------------------------------------------------------------------

@[simp] theorem start_write (r : ByteRing) (data : List UInt8) :
    (r.write data).1.start = r.start := rfl

@[simp] theorem capacity_write (r : ByteRing) (data : List UInt8) :
    (r.write data).1.capacity = r.capacity := by
  simp [write, capacity]

theorem length_write (r : ByteRing) (data : List UInt8) :
    (r.write data).1.length = r.length + min data.length r.space := rfl

theorem written_write (r : ByteRing) (data : List UInt8) :
    (r.write data).2 = min data.length r.space := rfl

theorem Valid.write {r : ByteRing} (h : r.Valid) (data : List UInt8) : (r.write data).1.Valid where
  length_le := by
    rw [capacity_write, length_write]
    have := h.length_le
    unfold space
    omega
  start_lt := by
    rw [capacity_write]
    exact h.start_lt

/-- The cells after a write, counted from where it began. -/
theorem getElem?_cells_write {r : ByteRing} (h : r.Valid) (data : List UInt8) {k : Nat}
    (hk : k < r.capacity) :
    (r.write data).1.cells[(r.start + r.length + k) % r.capacity]? =
      if k < min data.length r.space then data[k]?
      else r.cells[(r.start + r.length + k) % r.capacity]? := by
  have hle := h.length_le
  have hspace : r.space = r.cells.size - r.length := rfl
  have hindex : r.writeIndex = (r.start + r.length) % r.capacity := by
    rw [writeIndex, if_neg (by omega)]
  have hlt : r.writeIndex < r.cells.size := by
    rw [hindex]
    exact Nat.mod_lt _ (by omega)
  have hlen : (data.take (min data.length r.space)).length = min data.length r.space := by
    rw [List.length_take]
    omega
  have hspread := @Stretch.getElem?_scatter_stretches r.cells r.writeIndex
    (data.take (min data.length r.space)) k hlt (by omega) hk
  rw [hlen] at hspread
  rw [← Nat.mod_add_mod, ← hindex]
  refine hspread.trans ?_
  split
  · rw [List.getElem?_take, if_pos ‹_›]
  · rfl

/-- Bytes are appended as far as there is space. -/
theorem toList_write {r : ByteRing} (h : r.Valid) (data : List UInt8) :
    (r.write data).1.toList = r.toList ++ data.take r.space := by
  have hle := h.length_le
  have hspace : r.space = r.capacity - r.length := rfl
  apply List.ext_getElem?
  intro i
  by_cases hi : i < (r.write data).1.length
  · rw [getElem?_toList _ hi, capacity_write, start_write, Array.getD_eq_getD_getElem?]
    rw [length_write] at hi
    by_cases hold : i < r.length
    · -- an old byte: seen from where the write began, it lies behind the written ones
      have hcell := getElem?_cells_write h data (k := r.capacity - r.length + i) (by omega)
      rw [if_neg (by omega),
        show r.start + r.length + (r.capacity - r.length + i) = r.start + i + r.capacity by omega,
        Nat.add_mod_right] at hcell
      rw [List.getElem?_append_left (by simpa using hold), getElem?_toList _ hold, hcell,
        Array.getD_eq_getD_getElem?]
    · have hcell := getElem?_cells_write h data (k := i - r.length) (by omega)
      rw [if_pos (by omega),
        show r.start + r.length + (i - r.length) = r.start + i by omega] at hcell
      rw [List.getElem?_append_right (by simpa using hold), length_toList, hcell,
        List.getElem?_take, if_pos (by omega), List.getElem?_eq_getElem (by omega)]
      rfl
  · rw [length_write] at hi
    rw [List.getElem?_eq_none (by rw [length_toList, length_write]; omega),
      List.getElem?_eq_none (by rw [List.length_append, length_toList, List.length_take]; omega)]

-- ---------------------------------------------------------------------------
-- Giving up the oldest bytes
-- ---------------------------------------------------------------------------

@[simp] theorem capacity_advance (r : ByteRing) (n : Nat) :
    (r.advance n).capacity = r.capacity := rfl

theorem length_advance (r : ByteRing) (n : Nat) : (r.advance n).length = r.length - n := rfl

theorem Valid.advance {r : ByteRing} (h : r.Valid) (n : Nat) : (r.advance n).Valid where
  length_le := by
    have := h.length_le
    rw [length_advance, capacity_advance]
    omega
  start_lt := by
    have hlt := h.start_lt
    rw [capacity_advance]
    simp only [ByteRing.advance]
    split
    · omega
    · by_cases hcap : r.capacity = 0
      · have := h.length_le
        omega
      · exact Or.inl (Nat.mod_lt _ (by omega))

/-- The oldest bytes are given up. -/
theorem toList_advance (r : ByteRing) {n : Nat} : (r.advance n).toList = r.toList.drop n := by
  apply List.ext_getElem?
  intro i
  by_cases hi : i < r.length - n
  · rw [getElem?_toList _ (by rwa [length_advance]), capacity_advance, List.getElem?_drop,
      getElem?_toList _ (by omega)]
    have hstart : (r.advance n).start = (r.start + n) % r.capacity := by
      simp only [ByteRing.advance]
      rw [if_neg (by omega)]
    rw [hstart, Nat.mod_add_mod, Nat.add_assoc]
    rfl
  · rw [List.getElem?_eq_none (by rw [length_toList, length_advance]; omega),
      List.getElem?_eq_none (by rw [List.length_drop, length_toList]; omega)]

theorem Valid.discard {r : ByteRing} (h : r.Valid) (n : Nat) : (r.discard n).Valid := h.advance _

@[simp] theorem toList_discard (r : ByteRing) (n : Nat) : (r.discard n).toList = r.toList.drop n := by
  rw [discard, toList_advance]
  by_cases hn : n ≤ r.length
  · rw [Nat.min_eq_left hn]
  · rw [Nat.min_eq_right (by omega), List.drop_eq_nil_of_le (by simp),
      List.drop_eq_nil_of_le (by simp; omega)]

theorem Valid.clear {r : ByteRing} (h : r.Valid) : r.clear.Valid where
  length_le := Nat.zero_le _
  start_lt := by
    have := h.start_lt
    change 0 < r.capacity ∨ 0 = 0 ∧ r.capacity = 0
    omega

@[simp] theorem toList_clear (r : ByteRing) : r.clear.toList = [] := rfl

theorem Valid.read {r : ByteRing} (h : r.Valid) (room : Nat) : (r.read room).2.Valid := h.advance _

/-- The oldest bytes are taken out, as far as there is room. -/
theorem fst_read {r : ByteRing} (h : r.Valid) (room : Nat) :
    (r.read room).1 = r.toList.take room := by
  have hle := h.length_le
  by_cases hcap : r.capacity = 0
  · have hz : r.length = 0 := by omega
    simp [read, toList, hz, stretches_of_zero, Stretch.gather]
  · have hstart : r.start < r.capacity := by have := h.start_lt; omega
    have htotal : min room r.length ≤ r.capacity := by omega
    rw [read, toList, ← List.map_take, List.take_range]
    exact Stretch.gather_stretches hstart htotal

theorem toList_snd_read (r : ByteRing) (room : Nat) :
    (r.read room).2.toList = r.toList.drop room := toList_discard r room

-- ---------------------------------------------------------------------------
-- A new ring
-- ---------------------------------------------------------------------------

theorem valid_of_create {allocator : Allocator} {capacity : Nat} {r : ByteRing}
    (h : create allocator capacity = .ok r) :
    r.Valid ∧ r.capacity = capacity ∧ r.toList = [] := by
  unfold create Allocator.allocate at h
  split at h
  · obtain rfl : _ = r := Except.ok.inj h
    refine ⟨⟨Nat.zero_le _, ?_⟩, ?_, rfl⟩
    · simpa [ByteRing.capacity] using Nat.eq_zero_or_pos capacity |>.symm
    · simp [ByteRing.capacity]
  · cases h

end ByteRing

end TaskSync
