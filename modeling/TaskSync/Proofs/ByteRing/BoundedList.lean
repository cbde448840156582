import TaskSync.Machine.Transfers
import TaskSync.Proofs.ByteRing.Loops
import TaskSync.Proofs.Runs.Machine

/-!
# TaskSync — the byte ring is a bounded list

Seen from outside a ring is a list of at most `capacity` bytes: a write appends
to it as far as there is space, a read takes from its front as far as the buffer
goes, and so on (`ByteRing.Op.onList`). The ring's own operations
(`ByteRing.Op.onRing`) are carried out turn by turn in words (`ByteRing.Op.run?`,
from `TaskSync.Proofs.ByteRing.Loops`), with two turns for a copy.

Main result:

* `ByteRing.refines_run` — after any operations on a ring of any capacity the
  ring shows the list, no operation goes wrong, and each tells its caller what it
  would tell of the list (`ByteRing.Refines`).

A machine deals with its rings by these operations (`ByteRing.perform_at`).
-/

namespace TaskSync

namespace ByteRing

/-- An operation on a ring. -/
inductive Op
  | write (data : List UInt8)
  /-- Into the buffer `out`. -/
  | read (out : Array UInt8)
  | discard (n : Nat)
  | clear

/-- What an operation tells its caller. -/
inductive Reply
  | wrote (count : Nat)
  /-- How many bytes were read, and the buffer after that. -/
  | read (count : Nat) (out : List UInt8)
  | done
deriving DecidableEq

namespace Op

/-- The operation turn by turn, with two turns for a copy; `none` if something goes wrong. -/
def run? (r : ByteRing) : Op → Option (ByteRing × Reply)
  | .write data => do
    let (r, count) ← r.write? 2 data
    return (r, .wrote count)
  | .read out => do
    let (r, out, count) ← r.read? 2 out
    return (r, .read count out.toList)
  | .discard n => do return (← r.discard? n, .done)
  | .clear => some (r.clear, .done)

/-- The operation on a ring. -/
def onRing (r : ByteRing) : Op → ByteRing × Reply
  | .write data => ((r.write data).1, .wrote (r.write data).2)
  | .read out =>
    let data := (r.read out.size).1
    ((r.read out.size).2, .read data.length (data ++ out.toList.drop data.length))
  | .discard n => (r.discard n, .done)
  | .clear => (r.clear, .done)

/-- The operation on a list of at most `capacity` bytes. -/
def onList (capacity : Nat) (l : List UInt8) : Op → List UInt8 × Reply
  | .write data =>
    let count := min data.length (capacity - l.length)
    (l ++ data.take count, .wrote count)
  | .read out =>
    let count := min out.size l.length
    (l.drop count, .read count (l.take count ++ out.toList.drop count))
  | .discard n => (l.drop (min n l.length), .done)
  | .clear => ([], .done)

end Op

/-- The ring after some operations. -/
def after (r : ByteRing) (ops : List Op) : ByteRing := ops.foldl (fun r op => (op.onRing r).1) r

/-- The list after the same operations, from an empty one. -/
def contents (capacity : Nat) (ops : List Op) : List UInt8 :=
  ops.foldl (fun l op => (op.onList capacity l).1) []

/-- A ring of `capacity` bytes shows the list `l`, and so does whatever is done to it next. -/
structure Refines (capacity : Nat) (r : ByteRing) (l : List UInt8) : Prop where
  toList : r.toList = l
  length : r.length = l.length
  length_le : l.length ≤ capacity
  start : if capacity = 0 then r.start = 0 else r.start < capacity
  space : r.space? = some (capacity - l.length)
  isEmpty : r.isEmpty = decide (l = [])
  isFull : r.isFull = decide (l.length = capacity)
  /-- The next operation does not go wrong. -/
  runs : ∀ op : Op, op.run? r = some (op.onRing r)
  reply : ∀ op : Op, (op.onRing r).2 = (op.onList capacity l).2
  next : ∀ op : Op, (op.onRing r).1.toList = (op.onList capacity l).1

variable {allocator : Allocator} {r : ByteRing} {capacity : Nat}

-- ---------------------------------------------------------------------------
-- One operation
-- ---------------------------------------------------------------------------

theorem length_fst_read (h : r.Fits) (room : Nat) : (r.read room).1.length = min room r.length := by
  rw [fst_read h.toValid, List.length_take, length_toList]

/-- What is done turn by turn is the operation. -/
theorem Fits.run?_eq (h : r.Fits) (op : Op) : op.run? r = some (op.onRing r) := by
  cases op with
  | write data =>
    rw [Op.run?, h.write?_eq]
    rfl
  | read out =>
    have hLength := length_fst_read h out.size
    rw [Op.run?, h.read?_eq, Op.onRing]
    simp only [Option.bind_eq_bind, Option.bind_some, Option.pure_def]
    rw [hLength, Stretch.toList_overwrite_zero (by omega), hLength]
  | discard n =>
    rw [Op.run?, h.discard?_eq]
    rfl
  | clear => rfl

theorem Fits.onRing (h : r.Fits) (op : Op) :
    (op.onRing r).1.Fits ∧ (op.onRing r).1.capacity = r.capacity := by
  cases op with
  | write data => exact ⟨h.write data, capacity_write r data⟩
  | read | discard => exact ⟨h.advance _, rfl⟩
  | clear => exact ⟨h.clear, rfl⟩

/-- An operation tells its caller what it would tell of the list. -/
theorem Fits.reply_eq (h : r.Fits) (op : Op) :
    (op.onRing r).2 = (op.onList r.capacity r.toList).2 := by
  cases op with
  | write data =>
    rw [Op.onList, length_toList]
    rfl
  | read out =>
    simp only [Op.onRing, Op.onList]
    rw [length_fst_read h, fst_read h.toValid, length_toList]
    have hTake : r.toList.take out.size = r.toList.take (min out.size r.length) := by
      rw [← length_toList r, List.take_eq_take_min]
    rw [hTake]
  | discard | clear => rfl

/-- The ring after an operation shows the list after it. -/
theorem Fits.toList_onRing (h : r.Fits) (op : Op) :
    (op.onRing r).1.toList = (op.onList r.capacity r.toList).1 := by
  cases op with
  | write data =>
    rw [Op.onList, length_toList]
    show (r.write data).1.toList = _
    rw [toList_write h.toValid, List.take_eq_take_min, Nat.min_comm]
    rfl
  | read out =>
    rw [Op.onList, length_toList]
    exact toList_advance r
  | discard n =>
    rw [Op.onList, length_toList]
    exact toList_advance r
  | clear => rfl

/-- A ring shows the list of its bytes. -/
theorem Fits.refines (h : r.Fits) : Refines r.capacity r r.toList where
  toList := rfl
  length := r.length_toList.symm
  length_le := by
    rw [length_toList]
    exact h.length_le
  start := by
    split
    · have := h.start_lt
      omega
    · exact h.start_lt_of_pos (by omega)
  space := by
    rw [length_toList]
    exact h.space?_eq
  isEmpty := by
    have hNil : r.length = 0 ↔ r.toList = [] := by
      rw [← length_toList r, List.length_eq_zero_iff]
    exact decide_eq_decide.mpr hNil
  isFull := by
    rw [length_toList]
    rfl
  runs := h.run?_eq
  reply := h.reply_eq
  next := h.toList_onRing

-- ---------------------------------------------------------------------------
-- Runs
-- ---------------------------------------------------------------------------

theorem after_concat (r : ByteRing) (ops : List Op) (op : Op) :
    r.after (ops ++ [op]) = (op.onRing (r.after ops)).1 := List.foldl_concat ..

theorem contents_concat (capacity : Nat) (ops : List Op) (op : Op) :
    contents capacity (ops ++ [op]) = (op.onList capacity (contents capacity ops)).1 :=
  List.foldl_concat ..

theorem created (h : capacity ≤ allocator.limit) :
    ∃ r, create allocator capacity = .ok r ∧ r.Fits ∧ r.capacity = capacity ∧ r.toList = [] := by
  have hCreate : create allocator capacity = .ok ⟨Array.replicate capacity 0, 0, 0⟩ := by
    rw [create, Allocator.allocate, if_pos h]
    rfl
  obtain ⟨hValid, hCapacity, hEmpty⟩ := valid_of_create hCreate
  exact ⟨_, hCreate, ⟨hValid, hCapacity.trans_le (h.trans allocator.limit_le), fun _ => rfl⟩,
    hCapacity, hEmpty⟩

/-- Every operation keeps a ring in its words and the list what the ring shows. -/
theorem Fits.after (h : r.Fits) (hEmpty : r.toList = []) (ops : List Op) :
    (r.after ops).Fits ∧ (r.after ops).capacity = r.capacity ∧
      (r.after ops).toList = contents r.capacity ops := by
  induction ops using List.reverseRecOn with
  | nil => exact ⟨h, rfl, hEmpty⟩
  | append_singleton ops op ih =>
    obtain ⟨hFits, hCapacity, hList⟩ := ih
    obtain ⟨hNext, hSame⟩ := hFits.onRing op
    rw [after_concat, contents_concat]
    refine ⟨hNext, hSame.trans hCapacity, ?_⟩
    rw [hFits.toList_onRing, hCapacity, hList]

/-- A ring that the allocator grants is a bounded list, whatever is done to it. -/
theorem refines_run (h : capacity ≤ allocator.limit) :
    ∃ r, create allocator capacity = .ok r ∧
      ∀ ops : List Op, Refines capacity (r.after ops) (contents capacity ops) := by
  obtain ⟨r, hCreate, hFits, rfl, hEmpty⟩ := created h
  refine ⟨r, hCreate, fun ops => ?_⟩
  obtain ⟨hAfter, hCapacity, hList⟩ := hFits.after hEmpty ops
  rw [← hList, ← hCapacity]
  exact hAfter.refines

/-- Four bytes go in and three come out, so that the next write goes around the end of the array
and fills it; then some are dropped, and a buffer that is too large is read into. -/
def aroundTheEnd : List Op :=
  [.write [1, 2, 3, 4], .read #[0, 0, 0], .write [5, 6, 7, 8, 9], .discard 2]

theorem refines_run_aroundTheEnd :
    5 ≤ Allocator.standard.limit ∧ ∃ r, create .standard 5 = .ok r ∧
      Refines 5 (r.after aroundTheEnd) (contents 5 aroundTheEnd) ∧
      (r.after aroundTheEnd).toList = [6, 7, 8] ∧
      ((Op.read #[9, 9, 9, 9]).onRing (r.after aroundTheEnd)).2 = .read 3 [6, 7, 8, 9] := by
  have hGranted : 5 ≤ Allocator.standard.limit := by decide
  obtain ⟨r, hCreate, hRun⟩ := refines_run hGranted
  refine ⟨hGranted, r, hCreate, hRun _, ?_, ?_⟩
  · rw [(hRun _).toList]
    decide
  · rw [(hRun _).reply]
    decide

-- ---------------------------------------------------------------------------
-- Rings in a machine
-- ---------------------------------------------------------------------------

/-- The operation that an action of a machine comes down to. A machine reads into a buffer of
its own. -/
def Op.ofAction? : RingAction → Option Op
  | .create _ => none
  | .write data => some (.write data)
  | .read room => some (.read (Array.replicate room blankByte))
  | .discard n => some (.discard n)
  | .clear => some .clear

/-- What a machine answers. -/
def Reply.answer : Reply → Answer
  | .wrote count => .number count
  | .read count out => .read count out
  | .done => .done

/-- An action on a named ring is the operation on the ring. -/
theorem perform_at {s : Machine} {id : Name} {place : Ref} {action : RingAction} {op : Op}
    (hAt : s.named? ByteRing id = some (place, r)) (hOp : Op.ofAction? action = some op) :
    s.performRing id action =
      (s.put place (op.onRing r).1).finish (.ok (op.onRing r).2.answer) := by
  cases action with
  | create capacity => cases hOp
  | write | discard | clear =>
    obtain rfl := Option.some.inj hOp
    exact Machine.onObject_eq hAt _
  | read room =>
    obtain rfl := Option.some.inj hOp
    simp only [Op.onRing]
    rw [Machine.performRing, Machine.onObject_eq hAt, Array.size_replicate,
      Array.toList_replicate, List.drop_replicate]
    rfl

end ByteRing

end TaskSync
