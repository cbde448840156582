import TaskSync.ByteRing.Stretch

/-!
# TaskSync — what copying by stretches does

A circle of cells needs two runs at most (`length_stretches_le`).

* `Stretch.getElem?_scatter_stretches`: bytes that are spread over a circle lie
  there in turn, and the cells behind them are as before.
* `Stretch.gather_stretches`: gathering reads the cells of the circle in turn.
-/

namespace TaskSync

theorem stretches_of_zero (capacity index : Nat) : stretches capacity index 0 = [] := by
  rw [stretches, dif_pos (Or.inl rfl)]

/-- The first run, and the runs that hold what is left. -/
theorem stretches_cons {capacity index total : Nat} (hindex : index < capacity) (hpos : 0 < total) :
    stretches capacity index total =
      ⟨index, min (capacity - index) total⟩ ::
        stretches capacity ((index + min (capacity - index) total) % capacity)
          (total - min (capacity - index) total) := by
  rw [stretches, dif_neg (by omega)]

theorem stretches_of_le {capacity index total : Nat} (hpos : 0 < total)
    (hfit : index + total ≤ capacity) : stretches capacity index total = [⟨index, total⟩] := by
  rw [stretches, dif_neg (by omega)]
  have hsize : min (capacity - index) total = total := by omega
  simp only [hsize, Nat.sub_self, stretches_of_zero]

theorem stretches_of_lt {capacity index total : Nat} (hindex : index < capacity)
    (hwrap : capacity < index + total) (hcap : total ≤ capacity) :
    stretches capacity index total =
      [⟨index, capacity - index⟩, ⟨0, total - (capacity - index)⟩] := by
  rw [stretches, dif_neg (by omega)]
  have hsize : min (capacity - index) total = capacity - index := by omega
  have hmod : (index + (capacity - index)) % capacity = 0 := by
    rw [Nat.add_sub_cancel' (Nat.le_of_lt hindex), Nat.mod_self]
  simp only [hsize, hmod]
  rw [stretches_of_le (by omega) (by omega)]

/-- From any position there are two runs at most: up to the end, and the rest. -/
theorem length_stretches_le {capacity index total : Nat} (hindex : index < capacity)
    (htotal : total ≤ capacity) : (stretches capacity index total).length ≤ 2 := by
  by_cases hzero : total = 0
  · simp [hzero, stretches_of_zero]
  by_cases hfit : index + total ≤ capacity
  · simp [stretches_of_le (by omega) hfit]
  · simp [stretches_of_lt hindex (by omega) htotal]

namespace Stretch

@[simp] theorem size_overwrite (cells : Array UInt8) (index : Nat) (data : List UInt8) :
    (overwrite cells index data).size = cells.size := by
  induction data generalizing cells index with
  | nil => rfl
  | cons b bs ih => simp [overwrite, ih]

@[simp] theorem size_scatter (cells : Array UInt8) (data : List UInt8) (runs : List Stretch) :
    (scatter cells data runs).size = cells.size := by
  induction runs generalizing cells data with
  | nil => rfl
  | cons s rest ih => simp [scatter, ih]

theorem getElem?_overwrite (cells : Array UInt8) (index : Nat) (data : List UInt8) (j : Nat)
    (hfit : index + data.length ≤ cells.size) :
    (overwrite cells index data)[j]? =
      if index ≤ j ∧ j < index + data.length then data[j - index]? else cells[j]? := by
  induction data generalizing cells index with
  | nil => rw [overwrite, List.length_nil, if_neg (by omega)]
  | cons b bs ih =>
    simp only [List.length_cons] at hfit
    rw [overwrite, ih _ _ (by simp; omega)]
    simp only [List.length_cons, Array.getElem?_setIfInBounds]
    by_cases h1 : index + 1 ≤ j ∧ j < index + 1 + bs.length
    · rw [if_pos h1, if_pos (by omega)]
      have hj : j - index = (j - (index + 1)) + 1 := by omega
      rw [hj, List.getElem?_cons_succ]
    · rw [if_neg h1]
      by_cases h2 : index = j
      · subst h2
        rw [if_pos rfl, if_pos (by omega), if_pos (by omega)]
        simp
      · rw [if_neg h2, if_neg (by omega)]

private theorem mod_of_lt_twice {n d : Nat} (h : n < d + d) : n % d = if n < d then n else n - d := by
  split
  · exact Nat.mod_eq_of_lt ‹_›
  · rw [Nat.mod_eq_sub_mod (by omega), Nat.mod_eq_of_lt (by omega)]

/-- Bytes that are spread over a circle from position `index` on lie there in
turn, and the cells behind them are as before. -/
theorem getElem?_scatter_stretches {cells : Array UInt8} {index : Nat} {data : List UInt8}
    {k : Nat} (hindex : index < cells.size) (hdata : data.length ≤ cells.size)
    (hk : k < cells.size) :
    (scatter cells data (stretches cells.size index data.length))[(index + k) % cells.size]? =
      if k < data.length then data[k]? else cells[(index + k) % cells.size]? := by
  rw [mod_of_lt_twice (by omega)]
  by_cases hzero : data.length = 0
  · simp [hzero, stretches_of_zero, scatter]
  by_cases hfit : index + data.length ≤ cells.size
  · rw [stretches_of_le (by omega) hfit]
    simp only [scatter, List.take_length]
    rw [getElem?_overwrite _ _ _ _ hfit]
    by_cases hkd : k < data.length
    · rw [if_pos hkd, if_pos (show index + k < cells.size by omega), if_pos (by omega),
        Nat.add_sub_cancel_left]
    · rw [if_neg hkd, if_neg (by split <;> omega)]
  · have hlen : (data.drop (cells.size - index)).length = data.length - (cells.size - index) := by
      simp
    rw [stretches_of_lt hindex (by omega) hdata]
    simp only [scatter]
    rw [← hlen, List.take_length, getElem?_overwrite _ _ _ _ (by simp; omega),
      getElem?_overwrite _ _ _ _ (by simp; omega), hlen]
    simp only [List.length_take, List.getElem?_take, List.getElem?_drop, Nat.zero_le, true_and,
      Nat.zero_add, Nat.sub_zero]
    by_cases hkd : k < data.length
    · rw [if_pos hkd]
      by_cases hend : index + k < cells.size
      · rw [if_pos hend, if_neg (by omega), if_pos (by omega), if_pos (by omega)]
        congr 1
        omega
      · rw [if_neg hend, if_pos (by omega)]
        congr 1
        omega
    · rw [if_neg hkd]
      split
      · omega
      · rw [if_neg (by omega), if_neg (by omega)]

theorem toList_extract_eq {cells : Array UInt8} (index : Nat) {size : Nat}
    (hfit : index + size ≤ cells.size) :
    (cells.extract index (index + size)).toList =
      (List.range size).map fun k => cells.getD (index + k) 0 := by
  apply List.ext_getElem?
  intro k
  by_cases hk : k < size
  · rw [List.getElem?_map, List.getElem?_range hk]
    simp [hk, Array.getD_eq_getD_getElem?, show index + k < cells.size by omega]
  · rw [List.getElem?_eq_none (by rw [Array.length_toList, Array.size_extract]; omega),
      List.getElem?_eq_none (by rw [List.length_map, List.length_range]; omega)]

/-- The bytes in the runs of a circle from position `index` on are those that
lie there in turn. -/
theorem gather_stretches {cells : Array UInt8} {index total : Nat} (hindex : index < cells.size)
    (htotal : total ≤ cells.size) :
    gather cells (stretches cells.size index total) =
      (List.range total).map fun k => cells.getD ((index + k) % cells.size) 0 := by
  by_cases hzero : total = 0
  · simp [hzero, stretches_of_zero, gather]
  by_cases hfit : index + total ≤ cells.size
  · rw [stretches_of_le (by omega) hfit]
    simp only [gather, List.flatMap_cons, List.flatMap_nil, List.append_nil]
    rw [toList_extract_eq _ hfit]
    refine List.map_congr_left fun k hk => ?_
    rw [Nat.mod_eq_of_lt (by simp at hk; omega)]
  · rw [stretches_of_lt hindex (by omega) htotal]
    simp only [gather, List.flatMap_cons, List.flatMap_nil, List.append_nil]
    rw [toList_extract_eq _ (by omega), toList_extract_eq _ (by omega)]
    have hsplit : total = (cells.size - index) + (total - (cells.size - index)) := by omega
    conv => rhs; rw [hsplit, List.range_add, List.map_append, List.map_map]
    congr 1
    · refine List.map_congr_left fun k hk => ?_
      rw [Nat.mod_eq_of_lt (by simp at hk; omega)]
    · refine List.map_congr_left fun k hk => ?_
      simp only [List.mem_range] at hk
      simp only [Function.comp_apply, Nat.zero_add]
      rw [mod_of_lt_twice (by omega), if_neg (by omega)]
      congr 1
      omega

end Stretch

end TaskSync
