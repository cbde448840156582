import TaskSync.ByteRing.Lemmas

/-!
# TaskSync — copying in and out, turn by turn

A ring reckons in words of 64 bits and copies in turns: each turn moves one run
of neighbouring bytes, up to the end of the array, and the loop goes on until
all bytes are moved. Here the loops are written out with everything that can
go wrong in them: a sum that is no word, a difference below zero, a remainder
by zero, a slice that reaches beyond its array, a copy between slices of
different sizes, and a loop that is not done after so many turns. `none` says
that something of the kind has happened.

A ring whose room the allocator has granted (`ByteRing.Fits`) never comes to it,
and what the loops do is what the ring's operations do:

* `ByteRing.write?_eq`, `ByteRing.read?_eq` — two turns are enough.
* `ByteRing.discard?_eq`, `ByteRing.space?_eq`.
-/

namespace TaskSync

-- ---------------------------------------------------------------------------
-- Steps that can go wrong
-- ---------------------------------------------------------------------------

namespace Checked

/-- A sum that has to be a word. -/
def add (a b : Nat) : Option Nat := if a + b < addressSpace then some (a + b) else none

/-- A difference that has to be a word. -/
def sub (a b : Nat) : Option Nat := if b ≤ a then some (a - b) else none

/-- A remainder by something that must not be zero. -/
def mod (a b : Nat) : Option Nat := if b = 0 then none else some (a % b)

/-- The bytes from one position up to another. -/
def slice (l : List UInt8) (first last : Nat) : Option (List UInt8) :=
  if first ≤ last ∧ last ≤ l.length then some ((l.drop first).take (last - first)) else none

/-- The array with other bytes from one position up to another, as many as were there. -/
def paste (cells : Array UInt8) (first last : Nat) (bytes : List UInt8) : Option (Array UInt8) :=
  if first ≤ last ∧ last ≤ cells.size ∧ bytes.length = last - first then
    some (Stretch.overwrite cells first bytes)
  else none

theorem add_eq {a b : Nat} (h : a + b < addressSpace) : add a b = some (a + b) := if_pos h

theorem sub_eq {a b : Nat} (h : b ≤ a) : sub a b = some (a - b) := if_pos h

theorem mod_eq {a b : Nat} (h : 0 < b) : mod a b = some (a % b) := if_neg (Nat.ne_of_gt h)

theorem slice_eq {l : List UInt8} {first size : Nat} (h : first + size ≤ l.length) :
    slice l first (first + size) = some ((l.drop first).take size) := by
  rw [slice, if_pos ⟨Nat.le_add_right .., h⟩, Nat.add_sub_cancel_left]

theorem paste_eq {cells : Array UInt8} {first size : Nat} {bytes : List UInt8}
    (h : first + size ≤ cells.size) (hBytes : bytes.length = size) :
    paste cells first (first + size) bytes = some (Stretch.overwrite cells first bytes) :=
  if_pos ⟨Nat.le_add_right .., h, hBytes.trans (Nat.add_sub_cancel_left ..).symm⟩

end Checked

namespace Stretch

/-- Bytes that are written one after the other lie there one after the other. -/
theorem overwrite_append (cells : Array UInt8) (index : Nat) (data more : List UInt8) :
    overwrite cells index (data ++ more) =
      overwrite (overwrite cells index data) (index + data.length) more := by
  induction data generalizing cells index with
  | nil => rfl
  | cons b bs ih =>
    rw [List.cons_append, overwrite, ih, overwrite, List.length_cons]
    congr 1
    omega

theorem gather_cons (cells : Array UInt8) (index size : Nat) (rest : List Stretch) :
    gather cells (⟨index, size⟩ :: rest) =
      (cells.extract index (index + size)).toList ++ gather cells rest := List.flatMap_cons

/-- Bytes that are written to the front of an array stand before the rest of it. -/
theorem toList_overwrite_zero {cells : Array UInt8} {data : List UInt8}
    (hfit : data.length ≤ cells.size) :
    (overwrite cells 0 data).toList = data ++ cells.toList.drop data.length := by
  apply List.ext_getElem?
  intro i
  rw [Array.getElem?_toList, getElem?_overwrite _ _ _ _ (by omega)]
  by_cases hi : i < data.length
  · rw [if_pos ⟨Nat.zero_le i, by omega⟩, List.getElem?_append_left hi, Nat.sub_zero]
  · rw [if_neg (by omega), List.getElem?_append_right (by omega), List.getElem?_drop,
      Nat.add_sub_cancel' (by omega), Array.getElem?_toList]

end Stretch

namespace ByteRing

open Checked

-- ---------------------------------------------------------------------------
-- The operations, turn by turn
-- ---------------------------------------------------------------------------

/-- How many more bytes fit. -/
def space? (r : ByteRing) : Option Nat := sub r.capacity r.length

/-- Where the next byte goes. -/
def writeIndex? (r : ByteRing) : Option Nat :=
  if r.capacity = 0 then some 0 else do mod (← add r.start r.length) r.capacity

/-- Gives up the oldest `n` bytes. -/
def advance? (r : ByteRing) (n : Nat) : Option ByteRing := do
  let left ← sub r.length n
  let start ← if left = 0 then some 0 else do mod (← add r.start n) r.capacity
  return { r with length := left, start }

/-- Copies `data` in, of which `written` bytes are in, until `total` are. -/
def writeFrom? (data : List UInt8) (total turns : Nat) (r : ByteRing) (written : Nat) :
    Option (ByteRing × Nat) :=
  if total ≤ written then some (r, written)
  else
    match turns with
    | 0 => none
    | turns + 1 => do
      let index ← r.writeIndex?
      let size := min (← sub r.capacity index) (← sub total written)
      let chunk ← slice data written (← add written size)
      let cells ← paste r.cells index (← add index size) chunk
      let length ← add r.length size
      writeFrom? data total turns { r with cells, length } (← add written size)

/-- Appends as many bytes of `data` as fit and says how many those are. -/
def write? (turns : Nat) (r : ByteRing) (data : List UInt8) : Option (ByteRing × Nat) := do
  writeFrom? data (min data.length (← r.space?)) turns r 0

/-- Copies out to `out`, to which `done` bytes are copied, until `total` are. -/
def readFrom? (total turns : Nat) (r : ByteRing) (out : Array UInt8) (done : Nat) :
    Option (ByteRing × Array UInt8 × Nat) :=
  if total ≤ done then some (r, out, done)
  else
    match turns with
    | 0 => none
    | turns + 1 => do
      let size := min (← sub r.capacity r.start) (← sub total done)
      let chunk ← slice r.cells.toList r.start (← add r.start size)
      let out ← paste out done (← add done size) chunk
      readFrom? total turns (← r.advance? size) out (← add done size)

/-- Takes the oldest bytes out to a buffer, as many as there are or go in, and says how many
those are. -/
def read? (turns : Nat) (r : ByteRing) (out : Array UInt8) : Option (ByteRing × Array UInt8 × Nat) :=
  readFrom? (min out.size r.length) turns r out 0

/-- Drops the oldest bytes, at most `n` of them. -/
def discard? (r : ByteRing) (n : Nat) : Option ByteRing := r.advance? (min n r.length)

-- ---------------------------------------------------------------------------
-- Rings that keep to their words
-- ---------------------------------------------------------------------------

/-- A ring in room that the allocator has granted. An empty one starts at the front. -/
structure Fits (r : ByteRing) : Prop extends r.Valid where
  granted : r.capacity ≤ largestRequest
  rewound : r.length = 0 → r.start = 0

variable {r : ByteRing}

/-- Positions in a ring can be added. -/
theorem Fits.lt_addressSpace (h : r.Fits) {n : Nat} (hn : n ≤ r.capacity + r.capacity) :
    n < addressSpace := by
  have hLimit : largestRequest + largestRequest < addressSpace := by decide
  have := h.granted
  omega

theorem Fits.start_le (h : r.Fits) : r.start ≤ r.capacity := by
  have := h.start_lt
  omega

theorem Fits.start_lt_of_pos (h : r.Fits) (hPos : 0 < r.capacity) : r.start < r.capacity := by
  have := h.start_lt
  omega

theorem Fits.advance (h : r.Fits) (n : Nat) : (r.advance n).Fits where
  toValid := h.toValid.advance n
  granted := h.granted
  rewound hEmpty := by
    rw [length_advance] at hEmpty
    exact if_pos hEmpty

theorem Fits.clear (h : r.Fits) : r.clear.Fits where
  toValid := h.toValid.clear
  granted := h.granted
  rewound _ := rfl

theorem Fits.write (h : r.Fits) (data : List UInt8) : (r.write data).1.Fits where
  toValid := h.toValid.write data
  granted := by
    rw [capacity_write]
    exact h.granted
  rewound hEmpty := by
    rw [length_write] at hEmpty
    rw [start_write]
    exact h.rewound (by omega)

theorem Fits.space?_eq (h : r.Fits) : r.space? = some r.space := sub_eq h.length_le

theorem Fits.writeIndex?_eq (h : r.Fits) : r.writeIndex? = some r.writeIndex := by
  unfold writeIndex? writeIndex
  by_cases hCap : r.capacity = 0
  · rw [if_pos hCap, if_pos hCap]
  · have hSum : r.start + r.length ≤ r.capacity + r.capacity :=
      Nat.add_le_add h.start_le h.length_le
    rw [if_neg hCap, if_neg hCap, add_eq (h.lt_addressSpace hSum)]
    exact mod_eq (Nat.pos_of_ne_zero hCap)

theorem Fits.advance?_eq (h : r.Fits) {n : Nat} (hn : n ≤ r.length) :
    r.advance? n = some (r.advance n) := by
  have hle := h.length_le
  unfold advance? ByteRing.advance
  rw [sub_eq hn]
  simp only [Option.bind_eq_bind, Option.bind_some, Option.pure_def]
  by_cases hLeft : r.length - n = 0
  · rw [if_pos hLeft, if_pos hLeft]
  · have hSum : r.start + n ≤ r.capacity + r.capacity := Nat.add_le_add h.start_le (by omega)
    rw [if_neg hLeft, if_neg hLeft, add_eq (h.lt_addressSpace hSum), Option.bind_some,
      mod_eq (by omega), Option.bind_some]

/-- Nothing changes if nothing is given up. -/
theorem Fits.advance_zero (h : r.Fits) : r.advance 0 = r := by
  have hStart : (if r.length = 0 then 0 else (r.start + 0) % r.capacity) = r.start := by
    split
    · rename_i hEmpty
      exact (h.rewound hEmpty).symm
    · have := h.length_le
      exact Nat.mod_eq_of_lt (h.start_lt_of_pos (by omega))
  show ({ r with length := r.length - 0,
                 start := if r.length - 0 = 0 then 0 else (r.start + 0) % r.capacity } : ByteRing) = r
  rw [Nat.sub_zero, hStart]

/-- Bytes may be given up in parts. -/
theorem advance_advance (r : ByteRing) (n m : Nat) : (r.advance n).advance m = r.advance (n + m) := by
  have hStart : (if r.length - n - m = 0 then 0 else ((r.advance n).start + m) % r.capacity) =
      if r.length - (n + m) = 0 then 0 else (r.start + (n + m)) % r.capacity := by
    rw [Nat.sub_sub]
    split
    · rfl
    · rw [show (r.advance n).start = (r.start + n) % r.capacity from if_neg (by omega),
        Nat.mod_add_mod, Nat.add_assoc]
  show ({ r with length := r.length - n - m, start := _ } : ByteRing) =
    { r with length := r.length - (n + m), start := _ }
  rw [Nat.sub_sub]
  exact congrArg (fun start => ({ r with length := r.length - (n + m), start } : ByteRing)) hStart

-- ---------------------------------------------------------------------------
-- The loops
-- ---------------------------------------------------------------------------

theorem writeIndex_lt (hPos : 0 < r.capacity) : r.writeIndex < r.capacity := by
  rw [writeIndex, if_neg (by omega)]
  exact Nat.mod_lt _ hPos

/-- A copy that is done is done. -/
theorem writeFrom?_done (data : List UInt8) {total written : Nat} (turns : Nat)
    (h : total ≤ written) : writeFrom? data total turns r written = some (r, written) := by
  unfold writeFrom?
  exact if_pos h

theorem readFrom?_done {total done : Nat} (turns : Nat) (out : Array UInt8) (h : total ≤ done) :
    readFrom? total turns r out done = some (r, out, done) := by
  unfold readFrom?
  exact if_pos h

/-- The ring after a turn that copied `chunk` in. -/
def filled (r : ByteRing) (chunk : List UInt8) : ByteRing :=
  { r with
    cells := Stretch.overwrite r.cells r.writeIndex chunk
    length := r.length + chunk.length }

@[simp] theorem capacity_filled (chunk : List UInt8) : (r.filled chunk).capacity = r.capacity :=
  Stretch.size_overwrite ..

theorem Fits.filled (h : r.Fits) {chunk : List UInt8} (hSpace : chunk.length ≤ r.space) :
    (r.filled chunk).Fits where
  length_le := by
    have := h.length_le
    rw [capacity_filled]
    show r.length + chunk.length ≤ r.capacity
    unfold space at hSpace
    omega
  start_lt := by
    rw [capacity_filled]
    exact h.start_lt
  granted := by
    rw [capacity_filled]
    exact h.granted
  rewound hEmpty := h.rewound (by simp only [ByteRing.filled] at hEmpty; omega)

theorem writeIndex_filled (hPos : 0 < r.capacity) (chunk : List UInt8) :
    (r.filled chunk).writeIndex = (r.writeIndex + chunk.length) % r.capacity := by
  rw [writeIndex, capacity_filled, writeIndex, if_neg (by omega), if_neg (by omega),
    Nat.mod_add_mod, Nat.add_assoc]
  rfl

/-- One turn of copying in: the bytes up to the end of the array, or all that are left. -/
theorem Fits.writeFrom?_turn (h : r.Fits) {data : List UInt8} {total written : Nat} (turns : Nat)
    (hLeft : written < total) (hData : total ≤ data.length) (hTotal : total ≤ r.capacity) :
    let size := min (r.capacity - r.writeIndex) (total - written)
    writeFrom? data total (turns + 1) r written =
      writeFrom? data total turns (r.filled ((data.drop written).take size)) (written + size) := by
  intro size
  have hle := h.length_le
  have hRoom : r.space = r.capacity - r.length := rfl
  have hIndex := writeIndex_lt (r := r) (by omega)
  have hSize : size ≤ r.capacity - r.writeIndex ∧ size ≤ total - written := by omega
  have hChunk : ((data.drop written).take size).length = size := by
    rw [List.length_take, List.length_drop]
    omega
  conv =>
    lhs
    unfold writeFrom?
  rw [if_neg (by omega), h.writeIndex?_eq]
  simp only [Option.bind_eq_bind, Option.bind_some]
  rw [sub_eq (Nat.le_of_lt hIndex), sub_eq (Nat.le_of_lt hLeft)]
  simp only [Option.bind_some]
  rw [show min (r.capacity - r.writeIndex) (total - written) = size from rfl]
  rw [add_eq (h.lt_addressSpace (n := written + size) (by omega)), Option.bind_some,
    slice_eq (by omega), Option.bind_some,
    add_eq (h.lt_addressSpace (n := r.writeIndex + size) (by omega)), Option.bind_some,
    paste_eq (by show _ ≤ r.capacity; omega) hChunk, Option.bind_some,
    add_eq (h.lt_addressSpace (n := r.length + size) (by omega)), Option.bind_some,
    Option.bind_some, ByteRing.filled, hChunk]

/-- A copy of nothing changes nothing. -/
theorem writeFrom?_end (data : List UInt8) (total turns : Nat) (r : ByteRing) :
    writeFrom? data total turns r total =
      some ({ r with
        cells := Stretch.scatter r.cells ((data.drop total).take (total - total))
          (stretches r.capacity r.writeIndex (total - total))
        length := r.length + (total - total) }, total) := by
  rw [writeFrom?_done _ _ (Nat.le_refl _), Nat.sub_self, stretches_of_zero]
  rfl

/-- Copying in is done within as many turns as there are runs of neighbouring cells. -/
theorem Fits.writeFrom?_eq (h : r.Fits) {data : List UInt8} {total written turns : Nat}
    (hle : written ≤ total) (hData : total ≤ data.length) (hTotal : total ≤ r.capacity)
    (hSpace : total - written ≤ r.space)
    (hTurns : (stretches r.capacity r.writeIndex (total - written)).length ≤ turns) :
    writeFrom? data total turns r written =
      some ({ r with
        cells := Stretch.scatter r.cells ((data.drop written).take (total - written))
          (stretches r.capacity r.writeIndex (total - written))
        length := r.length + (total - written) }, total) := by
  rcases Nat.eq_or_lt_of_le hle with rfl | hLeft
  · exact writeFrom?_end ..
  -- each turn copies the first of the runs that are left
  induction turns generalizing r written with
  | zero =>
    rw [stretches_cons (writeIndex_lt (by omega)) (by omega), List.length_cons] at hTurns
    omega
  | succ turns ih =>
    have hRoom : r.space = r.capacity - r.length := rfl
    have hIndex := writeIndex_lt (r := r) (by omega)
    rw [h.writeFrom?_turn turns hLeft hData hTotal]
    have hRuns := stretches_cons hIndex (show 0 < total - written by omega)
    generalize hSize : min (r.capacity - r.writeIndex) (total - written) = size at hRuns
    generalize hFilled : r.filled ((data.drop written).take size) = next
    have hChunk : ((data.drop written).take size).length = size := by
      rw [List.length_take, List.length_drop]
      omega
    have hCapacity : next.capacity = r.capacity := hFilled ▸ capacity_filled _
    have hLength : next.length = r.length + size := by
      rw [← hFilled, ByteRing.filled, hChunk]
    have hNext : next.writeIndex = (r.writeIndex + size) % r.capacity := by
      rw [← hFilled, writeIndex_filled (by omega), hChunk]
    have hRest : total - (written + size) = total - written - size := by omega
    have hCopied : writeFrom? data total turns next (written + size) =
        some ({ next with
          cells := Stretch.scatter next.cells ((data.drop (written + size)).take (total - written - size))
            (stretches r.capacity ((r.writeIndex + size) % r.capacity) (total - written - size))
          length := next.length + (total - written - size) }, total) := by
      rw [← hRest, ← hNext, ← hCapacity]
      rcases Nat.eq_or_lt_of_le (show written + size ≤ total by omega) with hEnd | hMore
      · rw [hEnd]
        exact writeFrom?_end ..
      · have hFits : next.Fits := hFilled ▸ h.filled (by omega)
        rw [hRuns, List.length_cons] at hTurns
        refine ih hFits (Nat.le_of_lt hMore) (by omega) ?_ ?_ hMore
        · show total - (written + size) ≤ next.capacity - next.length
          omega
        · rw [hCapacity, hNext, hRest]
          omega
    have hSum : r.length + size + (total - written - size) = r.length + (total - written) := by omega
    rw [hCopied, hRuns, Stretch.scatter, List.take_take, List.drop_take, List.drop_drop,
      Nat.min_eq_left (show size ≤ total - written by omega), hLength, hSum, ← hFilled]
    rfl

/-- Two turns are enough to append bytes. -/
theorem Fits.write?_eq (h : r.Fits) (data : List UInt8) : r.write? 2 data = some (r.write data) := by
  have hRoom : r.space = r.capacity - r.length := rfl
  rw [write?, h.space?_eq, Option.bind_eq_bind, Option.bind_some]
  generalize hTotal : min data.length r.space = total
  have hTurns : (stretches r.capacity r.writeIndex (total - 0)).length ≤ 2 := by
    by_cases hPos : 0 < r.capacity
    · exact length_stretches_le (writeIndex_lt hPos) (by omega)
    · rw [show total - 0 = 0 by omega, stretches_of_zero]
      decide
  rw [h.writeFrom?_eq (by omega) (by omega) (by omega) (by omega) hTurns, ByteRing.write, hTotal]
  rfl

-- ---------------------------------------------------------------------------
-- Copying out
-- ---------------------------------------------------------------------------

/-- One turn of copying out. -/
theorem Fits.readFrom?_turn (h : r.Fits) {out : Array UInt8} {total done : Nat} (turns : Nat)
    (hLeft : done < total) (hOut : total ≤ out.size) (hTotal : total - done ≤ r.length)
    (hCapacity : total ≤ r.capacity) :
    let size := min (r.capacity - r.start) (total - done)
    readFrom? total (turns + 1) r out done =
      readFrom? total turns (r.advance size)
        (Stretch.overwrite out done (r.cells.extract r.start (r.start + size)).toList)
        (done + size) := by
  intro size
  have hle := h.length_le
  have hStart := h.start_lt_of_pos (by omega)
  have hCells : r.cells.toList.length = r.capacity := Array.length_toList
  have hChunk : (r.cells.extract r.start (r.start + size)).toList =
      (r.cells.toList.drop r.start).take size := by
    rw [Array.toList_extract, List.extract_eq_take_drop, Nat.add_sub_cancel_left]
  have hLength : ((r.cells.toList.drop r.start).take size).length = size := by
    rw [List.length_take, List.length_drop]
    omega
  conv =>
    lhs
    unfold readFrom?
  rw [if_neg (by omega), sub_eq (Nat.le_of_lt hStart)]
  simp only [Option.bind_eq_bind, Option.bind_some]
  rw [sub_eq (Nat.le_of_lt hLeft)]
  simp only [Option.bind_some]
  rw [show min (r.capacity - r.start) (total - done) = size from rfl]
  rw [add_eq (h.lt_addressSpace (n := r.start + size) (by omega)), Option.bind_some,
    slice_eq (by omega), Option.bind_some,
    add_eq (h.lt_addressSpace (n := done + size) (by omega)), Option.bind_some,
    paste_eq (by omega) hLength, Option.bind_some, h.advance?_eq (by omega), Option.bind_some,
    Option.bind_some, hChunk]

/-- Copying nothing out changes nothing. -/
theorem Fits.readFrom?_end (h : r.Fits) (total turns : Nat) (out : Array UInt8) :
    readFrom? total turns r out total =
      some (r.advance (total - total), Stretch.overwrite out total
        (Stretch.gather r.cells (stretches r.capacity r.start (total - total))), total) := by
  rw [readFrom?_done _ _ (Nat.le_refl _), Nat.sub_self, stretches_of_zero, h.advance_zero]
  rfl

/-- Copying out is done within as many turns as there are runs of neighbouring cells. -/
theorem Fits.readFrom?_eq (h : r.Fits) {out : Array UInt8} {total done turns : Nat}
    (hle : done ≤ total) (hOut : total ≤ out.size) (hTotal : total - done ≤ r.length)
    (hCapacity : total ≤ r.capacity)
    (hTurns : (stretches r.capacity r.start (total - done)).length ≤ turns) :
    readFrom? total turns r out done =
      some (r.advance (total - done), Stretch.overwrite out done
        (Stretch.gather r.cells (stretches r.capacity r.start (total - done))), total) := by
  rcases Nat.eq_or_lt_of_le hle with rfl | hLeft
  · exact h.readFrom?_end ..
  -- each turn copies the first of the runs that are left
  induction turns generalizing r out done with
  | zero =>
    rw [stretches_cons (h.start_lt_of_pos (by omega)) (by omega), List.length_cons] at hTurns
    omega
  | succ turns ih =>
    have hStart := h.start_lt_of_pos (by omega)
    rw [h.readFrom?_turn turns hLeft hOut hTotal hCapacity]
    have hRuns := stretches_cons hStart (show 0 < total - done by omega)
    generalize hSize : min (r.capacity - r.start) (total - done) = size at hRuns
    have hChunk : (r.cells.extract r.start (r.start + size)).toList.length = size := by
      rw [Array.length_toList, Array.size_extract]
      show min _ r.capacity - _ = _
      omega
    have hRest : total - (done + size) = total - done - size := by omega
    -- a ring that is emptied starts at the front again, but then nothing is left to copy
    have hAgain : stretches r.capacity (r.advance size).start (total - done - size) =
        stretches r.capacity ((r.start + size) % r.capacity) (total - done - size) := by
      by_cases hEnd : total - done - size = 0
      · rw [hEnd, stretches_of_zero, stretches_of_zero]
      · rw [show (r.advance size).start = (r.start + size) % r.capacity from if_neg (by omega)]
    have hCopied : ∀ out : Array UInt8, total ≤ out.size →
        readFrom? total turns (r.advance size) out (done + size) =
          some ((r.advance size).advance (total - done - size), Stretch.overwrite out (done + size)
            (Stretch.gather r.cells (stretches r.capacity ((r.start + size) % r.capacity)
              (total - done - size))), total) := by
      intro out hOut
      rw [← hAgain, ← hRest]
      rcases Nat.eq_or_lt_of_le (show done + size ≤ total by omega) with hEnd | hMore
      · rw [hEnd]
        exact (h.advance size).readFrom?_end ..
      · rw [hRuns, List.length_cons, ← hAgain, ← hRest] at hTurns
        refine ih (h.advance size) (Nat.le_of_lt hMore) hOut ?_ hCapacity
          (Nat.le_of_succ_le_succ hTurns) hMore
        rw [length_advance]
        omega
    rw [hCopied _ (by rwa [Stretch.size_overwrite]), advance_advance, hRuns,
      Stretch.gather_cons, Stretch.overwrite_append, hChunk,
      show size + (total - done - size) = total - done by omega]

/-- Two turns are enough to take bytes out. -/
theorem Fits.read?_eq (h : r.Fits) (out : Array UInt8) :
    r.read? 2 out = some ((r.read out.size).2, Stretch.overwrite out 0 (r.read out.size).1,
      min out.size r.length) := by
  have hle := h.length_le
  rw [read?]
  have hTurns : (stretches r.capacity r.start (min out.size r.length - 0)).length ≤ 2 := by
    by_cases hPos : 0 < r.capacity
    · exact length_stretches_le (h.start_lt_of_pos hPos) (by omega)
    · rw [show min out.size r.length - 0 = 0 by omega, stretches_of_zero]
      decide
  exact h.readFrom?_eq (Nat.zero_le _) (by omega) (by omega) (by omega) hTurns

theorem Fits.discard?_eq (h : r.Fits) (n : Nat) : r.discard? n = some (r.discard n) :=
  h.advance?_eq (Nat.min_le_right ..)

end ByteRing

end TaskSync
