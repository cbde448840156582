import TaskSync.Machine.Mutexes
import TaskSync.Proofs.Interrupts.Wakes

/-!
# TaskSync — rooms and their tenants

A mutex in static storage is the tenant of a room. The room is claimed by an
exchange of its flag and reset after that, so a mutex is new whatever an earlier
tenant has left behind (`Chamber.claim_eq`); it is reset and set free when the
mutex is given up, in whatever state that is.

What matters of a machine for its rooms is which names there are, which mutex
lies in which room, and which rooms are claimed. The rooms are in order
(`Machine.Housed`) if each claimed room has exactly one tenant with a name, and
each tenant a room that is claimed. Between the claim of a room and the naming of
its tenant one room is claimed for a mutex to come.

* `Machine.Housed.of_same` — what leaves names, rooms and tenants alone keeps order.
* `Machine.Housed.remove`, `Machine.Housed.create`, `Machine.housed_placeMutex`
  — so does giving up a mutex, and claiming a room for a new one.
-/

namespace TaskSync

-- ---------------------------------------------------------------------------
-- A room with what lies in it
-- ---------------------------------------------------------------------------

/-- A room and the mutex in it, which stays there when the room is free. -/
structure Chamber where
  claimed : Bool
  state : Mutex

namespace Chamber

/-- Sets the flag, and says whether it was not set before. -/
def exchange (c : Chamber) : Chamber × Bool :=
  if c.claimed then (c, false) else ({ c with claimed := true }, true)

/-- Writes a new mutex over the old one, and then its kind. -/
def reset (c : Chamber) (kind : MutexKind) : Chamber :=
  { c with state := { Mutex.create .normal with kind } }

/-- Claims the room for a new mutex. -/
def claim (c : Chamber) (kind : MutexKind) : Except CreateError Chamber :=
  match c.exchange with
  | (_, false) => .error .storageInUse
  | (c, true) => .ok (c.reset kind)

/-- Gives the room back. -/
def release (c : Chamber) : Chamber := { c.reset .normal with claimed := false }

/-- The room without what lies in it. -/
def room (c : Chamber) : MutexStorage := ⟨c.claimed⟩

/-- Whatever lies in a room, a claim succeeds with a new mutex or fails, as it does without what
lies there. -/
theorem claim_eq (c : Chamber) (kind : MutexKind) :
    (c.claim kind).map (fun c => (c.room, c.state)) = c.room.claim kind := by
  obtain ⟨claimed, state⟩ := c
  cases claimed <;> rfl

end Chamber

-- ---------------------------------------------------------------------------
-- Rooms and tenants of a machine
-- ---------------------------------------------------------------------------

/-- Objects of type `σ` are neither rooms nor tenants. -/
class Roomless (σ : Type) [Stored σ] : Prop where
  clear : ∀ {o : Object} {x : σ}, Stored.stored? o = some x →
    o.storage? = none ∧ (Stored.stored? o : Option MutexStorage) = none

instance : Roomless ByteRing := ⟨fun {o} _ h => by cases o <;> cases h; exact ⟨rfl, rfl⟩⟩
instance : Roomless Queue := ⟨fun {o} _ h => by cases o <;> cases h; exact ⟨rfl, rfl⟩⟩
instance : Roomless ByteStream := ⟨fun {o} _ h => by cases o <;> cases h; exact ⟨rfl, rfl⟩⟩
instance : Roomless EventGroup := ⟨fun {o} _ h => by cases o <;> cases h; exact ⟨rfl, rfl⟩⟩
instance : Roomless (Signal Datum) := ⟨fun {o} _ h => by cases o <;> cases h; exact ⟨rfl, rfl⟩⟩
instance : Roomless Watch := ⟨fun {o} _ h => by cases o <;> cases h; exact ⟨rfl, rfl⟩⟩
instance : Roomless GlobalLock := ⟨fun {o} _ h => by cases o <;> cases h; exact ⟨rfl, rfl⟩⟩
instance : Roomless Cell := ⟨fun {o} _ h => by cases o <;> cases h; exact ⟨rfl, rfl⟩⟩
instance : Roomless (TaskMutex Int) := ⟨fun {o} _ h => by cases o <;> cases h; exact ⟨rfl, rfl⟩⟩
instance : Roomless Spinlock := ⟨fun {o} _ h => by cases o <;> cases h; exact ⟨rfl, rfl⟩⟩
instance : Roomless Critical := ⟨fun {o} _ h => by cases o <;> cases h; exact ⟨rfl, rfl⟩⟩

/-- The place that a call writes to without looking what is there: the watch that it waits with. -/
def Call.written? : Call → Option Ref
  | .watch place _ _ => some place
  | _ => none

namespace Machine

/-- The room of the mutex at a place, if it lies in one. -/
def storageAt (s : Machine) (place : Ref) : Option Ref := s.objects[place]?.bind Object.storage?

/-- The mutex with a name lies in the room at `r`. -/
def Lodges (s : Machine) (id : Name) (r : Ref) : Prop :=
  ∃ place, s.ref? id = some place ∧ s.storageAt place = some r

/-- There is neither a room nor a tenant at a place. -/
def Clear (s : Machine) (place : Ref) : Prop :=
  s.storageAt place = none ∧ s.get? MutexStorage place = none

/-- A place is in use, but neither as a room nor as a tenant. -/
def Plain (s : Machine) (place : Ref) : Prop := place < s.objects.size ∧ s.Clear place

/-- A call writes over neither a room nor a tenant. -/
def Spares (s : Machine) (call : Call) : Prop :=
  ∀ place, call.written? = some place → s.Plain place

/-- The rooms are in order, but for a room claimed for a mutex that has no name yet. -/
structure Housed (coming : Option Ref) (s : Machine) : Prop where
  bound : ∀ id place, s.ref? id = some place → place < s.objects.size
  shared : s.Plain sharedLock
  spared : ∀ worker x, s.suspensions.find? worker = some x → s.Spares x.call
  /-- The room of a tenant is claimed. -/
  claimed : ∀ id r, s.Lodges id r → s.get? MutexStorage r = some ⟨true⟩
  /-- A room that is claimed has a tenant. -/
  lodged : ∀ r, s.get? MutexStorage r = some ⟨true⟩ → (∃ id, s.Lodges id r) ∨ coming = some r
  alone : ∀ id id' r, s.Lodges id r → s.Lodges id' r → id = id'
  vacant : ∀ r, coming = some r →
    s.get? MutexStorage r = some ⟨true⟩ ∧ ∀ id, ¬ s.Lodges id r

variable {σ : Type} [Stored σ] {s s' : Machine} {coming : Option Ref} {r place : Ref}
  {id id' : Name} {x : σ}

theorem clear_of_get? [Roomless σ] (hAt : s.get? σ r = some x) : s.Clear r := by
  obtain ⟨o, hObject, hStored⟩ := Option.bind_eq_some_iff.mp hAt
  obtain ⟨hStorage, hRoom⟩ := Roomless.clear hStored
  exact ⟨by rw [storageAt, hObject]; exact hStorage, by rw [get?, hObject]; exact hRoom⟩

/-- Nobody notices a new object who finds in it what was there before. -/
theorem bind_put {α : Type} {find : Object → Option α} {y : σ}
    (hSame : ∀ o, s.objects[r]? = some o → find (Stored.store y) = find o) (place : Ref) :
    (s.put r y).objects[place]?.bind find = s.objects[place]?.bind find := by
  by_cases hHere : r = place
  · subst hHere
    rw [Machine.put, Array.getElem?_setIfInBounds_self]
    split
    · rename_i hLt
      have hObject := Array.getElem?_eq_getElem hLt
      rw [hObject]
      exact hSame _ hObject
    · rename_i hOut
      rw [Array.getElem?_eq_none (Nat.le_of_not_lt hOut)]
  · rw [Machine.put, Array.getElem?_setIfInBounds_ne hHere]

-- ---------------------------------------------------------------------------
-- Rooms that are claimed and set free
-- ---------------------------------------------------------------------------

section

variable {room : MutexStorage} (hAt : s.get? MutexStorage r = some room)

include hAt

theorem room_putRoom (room' : MutexStorage) (place : Ref) :
    (s.put r room').get? MutexStorage place =
      if r = place then some room' else s.get? MutexStorage place := by
  obtain ⟨o, hObject, -⟩ := Option.bind_eq_some_iff.mp hAt
  split
  · rename_i hHere
    exact hHere ▸ get?_put_self (Array.getElem?_eq_some_iff.mp hObject).1 room'
  · rename_i hElsewhere
    exact get?_put_of_ne hElsewhere room'

/-- A room is no tenant, claimed or free. -/
theorem storageAt_putRoom (room' : MutexStorage) (place : Ref) :
    (s.put r room').storageAt place = s.storageAt place := by
  refine bind_put (fun o hObject => ?_) place
  rw [get?, hObject] at hAt
  cases o <;> cases hAt
  rfl

/-- Nor has it a mutex. -/
theorem mutexAt?_putRoom (room' : MutexStorage) (place : Ref) :
    (s.put r room').mutexAt? place = s.mutexAt? place := by
  refine bind_put (fun o hObject => ?_) place
  rw [get?, hObject] at hAt
  cases o <;> cases hAt
  rfl

theorem lodges_putRoom (room' : MutexStorage) (id : Name) (other : Ref) :
    (s.put r room').Lodges id other ↔ s.Lodges id other := by
  simp only [Lodges, storageAt_putRoom hAt]
  rfl

end

-- ---------------------------------------------------------------------------
-- Steps that leave rooms and tenants alone
-- ---------------------------------------------------------------------------

/-- The names, the rooms and the tenants are as before, and so are the calls that are suspended. -/
structure SameHousing (s s' : Machine) : Prop where
  names : s'.names = s.names
  suspensions : s'.suspensions = s.suspensions
  size : s'.objects.size = s.objects.size
  storageAt : ∀ place, s'.storageAt place = s.storageAt place
  room : ∀ r, s'.get? MutexStorage r = s.get? MutexStorage r

theorem SameHousing.of_objects (hObjects : s'.objects = s.objects) (hNames : s'.names = s.names)
    (hSuspensions : s'.suspensions = s.suspensions) : SameHousing s s' where
  names := hNames
  suspensions := hSuspensions
  size := congrArg Array.size hObjects
  storageAt _ := by rw [Machine.storageAt, Machine.storageAt, hObjects]
  room _ := by rw [get?, get?, hObjects]

theorem SameHousing.refl (s : Machine) : SameHousing s s := .of_objects rfl rfl rfl

theorem SameHousing.trans {s'' : Machine} (h : SameHousing s s') (h' : SameHousing s' s'') :
    SameHousing s s'' where
  names := h'.names.trans h.names
  suspensions := h'.suspensions.trans h.suspensions
  size := h'.size.trans h.size
  storageAt place := (h'.storageAt place).trans (h.storageAt place)
  room r := (h'.room r).trans (h.room r)

theorem SameHousing.ref? (h : SameHousing s s') (id : Name) : s'.ref? id = s.ref? id := by
  rw [Machine.ref?, Machine.ref?, h.names]

theorem SameHousing.lodges (h : SameHousing s s') : s'.Lodges id r ↔ s.Lodges id r := by
  simp only [Lodges, h.ref?, h.storageAt]

theorem SameHousing.clear (h : SameHousing s s') (hClear : s.Clear r) : s'.Clear r :=
  ⟨(h.storageAt r).trans hClear.1, (h.room r).trans hClear.2⟩

theorem SameHousing.plain (h : SameHousing s s') (hPlain : s.Plain r) : s'.Plain r :=
  ⟨h.size ▸ hPlain.1, h.clear hPlain.2⟩

theorem SameHousing.spares {call : Call} (h : SameHousing s s') (hSpares : s.Spares call) :
    s'.Spares call := fun place hWritten => h.plain (hSpares place hWritten)

/-- What leaves the names, the rooms and the tenants alone keeps the rooms in order. -/
theorem Housed.of_same (h : Housed coming s) (hSame : SameHousing s s') : Housed coming s' where
  bound id place hRef := by
    rw [hSame.size]
    exact h.bound id place ((hSame.ref? id).symm.trans hRef)
  shared := hSame.plain h.shared
  spared worker x hFound :=
    hSame.spares (h.spared worker x (hSame.suspensions ▸ hFound))
  claimed id r hLodges := (hSame.room r).trans (h.claimed id r (hSame.lodges.mp hLodges))
  lodged r hRoom := by
    simp only [hSame.lodges]
    exact h.lodged r ((hSame.room r).symm.trans hRoom)
  alone id id' r hLodges hLodges' :=
    h.alone id id' r (hSame.lodges.mp hLodges) (hSame.lodges.mp hLodges')
  vacant r hComing := by
    simp only [hSame.lodges, hSame.room]
    exact h.vacant r hComing

/-- An object may be put in the place of one that is in the same room, or the same room. -/
theorem SameHousing.replace {x : σ} (hSame : ∀ o, s.objects[r]? = some o →
    (Stored.store x).storage? = o.storage? ∧
      (Stored.stored? (Stored.store x) : Option MutexStorage) = Stored.stored? o) :
    SameHousing s (s.put r x) := by
  refine ⟨rfl, rfl, by simp [Machine.put], bind_put fun o hObject => (hSame o hObject).1, ?_⟩
  exact bind_put fun o hObject => (hSame o hObject).2

/-- What is neither a room nor a tenant may be put in the place of another such. -/
theorem SameHousing.put [Roomless σ] (hClear : s.Clear r) (x : σ) : SameHousing s (s.put r x) := by
  refine .replace fun o hObject => ?_
  obtain ⟨hStorage, hRoom⟩ := Roomless.clear (Stored.stored?_store x)
  obtain ⟨hStorage', hRoom'⟩ := hClear
  rw [Machine.storageAt, hObject] at hStorage'
  rw [get?, hObject] at hRoom'
  exact ⟨hStorage.trans hStorage'.symm, hRoom.trans hRoom'.symm⟩

theorem SameHousing.happened (s : Machine) (k : Kernel) (events : List Event) :
    SameHousing s (s.happened k events) := .of_objects rfl rfl rfl

theorem SameHousing.settle [Roomless σ] {α : Type} (hClear : s.Clear r) (o : Outcome σ α) :
    SameHousing s (s.settle r o) := by
  rw [settle_eq]
  exact (SameHousing.put hClear o.object).trans (.happened ..)

theorem SameHousing.settleDeferring [Roomless σ] {α : Type} (hClear : s.Clear r)
    (o : Outcome σ α) : SameHousing s (s.settleDeferring r o) := by
  rw [settleDeferring_eq]
  exact (SameHousing.put hClear o.object).trans (.happened ..)

/-- A mutex stays in its room, whatever is done with it. -/
theorem SameHousing.settleMutex {α : Type} (s : Machine) (r : Ref) (o : Outcome Mutex α) :
    SameHousing s (s.settleMutex r o) := by
  have hSame {β : Type} {find : Object → Option β}
      (hFind : ∀ x : Object, find (x.withMutex o.object) = find x) (place : Ref) :
      (s.objects.modify r (·.withMutex o.object))[place]?.bind find =
        s.objects[place]?.bind find := by
    rw [Array.getElem?_modify]
    split
    · cases s.objects[place]? <;> simp [hFind]
    · rfl
  have hModified : SameHousing s { s with objects := s.objects.modify r (·.withMutex o.object) } :=
    ⟨rfl, rfl, by simp, hSame fun x => by cases x <;> rfl, hSame fun x => by cases x <;> rfl⟩
  rw [Machine.settleMutex, deliver_eq]
  exact hModified.trans (.happened ..)

-- ---------------------------------------------------------------------------
-- Giving up what has a name
-- ---------------------------------------------------------------------------

/-- The object at a place is given up: the room of its mutex is free, and nothing else changes. -/
structure GivenUp (s : Machine) (place : Ref) (s' : Machine) : Prop where
  names : s'.names = s.names
  suspensions : s'.suspensions = s.suspensions
  size : s'.objects.size = s.objects.size
  storageAt : ∀ r, s'.storageAt r = s.storageAt r
  mutexAt? : ∀ r, s'.mutexAt? r = s.mutexAt? r
  room : ∀ r, s'.get? MutexStorage r =
    if s.storageAt place = some r then (s.get? MutexStorage r).map fun _ => .free
    else s.get? MutexStorage r

theorem givenUp_giveUp (s : Machine) (place : Ref) : s.GivenUp place (s.giveUp place) := by
  have hStill (hNone : ∀ r, s.storageAt place = some r → s.get? MutexStorage r = none) :
      s.GivenUp place s := by
    refine ⟨rfl, rfl, rfl, fun _ => rfl, fun _ => rfl, fun r => ?_⟩
    split
    · rename_i hHere
      rw [hNone r hHere]
      rfl
    · rfl
  rw [giveUp]
  cases hStorage : s.objects[place]?.bind Object.storage? with
  | none =>
    have hNone : s.storageAt place = none := hStorage
    refine hStill fun r hHere => ?_
    rw [hNone] at hHere
    cases hHere
  | some home =>
    have hHome : s.storageAt place = some home := hStorage
    dsimp only
    cases hRoom : s.get? MutexStorage home with
    | none =>
      refine hStill fun r hHere => ?_
      rw [hHome] at hHere
      exact Option.some.inj hHere ▸ hRoom
    | some room =>
      refine ⟨rfl, rfl, by simp [Machine.put], storageAt_putRoom hRoom _, mutexAt?_putRoom hRoom _,
        fun r => ?_⟩
      rw [room_putRoom hRoom, hHome]
      by_cases hSame : home = r
      · rw [if_pos hSame, if_pos (congrArg some hSame), ← hSame, hRoom]
        rfl
      · rw [if_neg hSame, if_neg fun hHere => hSame (Option.some.inj hHere)]

/-- A name is taken away: the room of the mutex that had it is free, and nothing else changes. -/
structure Removed (s : Machine) (id : Name) (s' : Machine) : Prop where
  ref? : ∀ id', s'.ref? id' = if id' = id then none else s.ref? id'
  suspensions : s'.suspensions = s.suspensions
  size : s'.objects.size = s.objects.size
  storageAt : ∀ place, s'.storageAt place = s.storageAt place
  mutexAt? : ∀ place, s'.mutexAt? place = s.mutexAt? place
  left : ∀ r, s.Lodges id r →
    s'.get? MutexStorage r = (s.get? MutexStorage r).map fun _ => .free
  others : ∀ r, ¬ s.Lodges id r → s'.get? MutexStorage r = s.get? MutexStorage r

theorem removed_remove (s : Machine) (id : Name) : s.Removed id (s.remove id) := by
  unfold remove
  split
  · rename_i hNone
    refine ⟨fun id' => ?_, rfl, rfl, fun _ => rfl, fun _ => rfl, fun r hLodges => ?_,
      fun _ _ => rfl⟩
    · by_cases hSame : id' = id
      · rw [if_pos hSame, hSame, hNone]
      · rw [if_neg hSame]
    · obtain ⟨place, hSome, -⟩ := hLodges
      rw [hNone] at hSome
      cases hSome
  · rename_i place hRef
    have hGivenUp := s.givenUp_giveUp place
    have hLodges (r : Ref) : s.Lodges id r ↔ s.storageAt place = some r := by simp [Lodges, hRef]
    refine ⟨fun id' => ?_, hGivenUp.suspensions, hGivenUp.size, hGivenUp.storageAt,
      hGivenUp.mutexAt?, fun r hLeft => ?_, fun r hStays => ?_⟩
    · show (s.names.erase id).find? id' = _
      by_cases hSame : id' = id
      · rw [if_pos hSame, hSame, Directory.find?_erase_self]
      · rw [if_neg hSame]
        exact Directory.find?_erase_of_ne _ hSame
    · exact (hGivenUp.room r).trans (if_pos ((hLodges r).mp hLeft))
    · exact (hGivenUp.room r).trans (if_neg fun hHere => hStays ((hLodges r).mpr hHere))

section Removing

variable (hRemoved : s.Removed id s')

include hRemoved

theorem Removed.lodges : s'.Lodges id' r ↔ id' ≠ id ∧ s.Lodges id' r := by
  simp only [Lodges, hRemoved.ref?, hRemoved.storageAt]
  by_cases hSame : id' = id <;> simp [hSame]

theorem Removed.plain (hPlain : s.Plain place) : s'.Plain place := by
  obtain ⟨hLt, hStorage, hRoom⟩ := hPlain
  refine ⟨hRemoved.size ▸ hLt, (hRemoved.storageAt place).trans hStorage, ?_⟩
  by_cases hLodges : s.Lodges id place
  · rw [hRemoved.left place hLodges, hRoom]
    rfl
  · rw [hRemoved.others place hLodges, hRoom]

/-- A mutex that is given up in whatever state leaves its room free. -/
theorem Removed.housed (h : Housed coming s) : Housed coming s' where
  bound id' place hRef := by
    rw [hRemoved.ref?] at hRef
    rw [hRemoved.size]
    exact h.bound id' place (Option.ite_none_left_eq_some.mp hRef).2
  shared := hRemoved.plain h.shared
  spared worker x hFound place hWritten :=
    hRemoved.plain (h.spared worker x (hRemoved.suspensions ▸ hFound) place hWritten)
  claimed id' r hLodges := by
    obtain ⟨hNe, hLodges⟩ := hRemoved.lodges.mp hLodges
    have hOther : ¬ s.Lodges id r := fun hSelf => hNe (h.alone id' id r hLodges hSelf)
    rw [hRemoved.others r hOther]
    exact h.claimed id' r hLodges
  lodged r hRoom := by
    have hOther : ¬ s.Lodges id r := by
      intro hSelf
      rw [hRemoved.left r hSelf] at hRoom
      cases hOld : s.get? MutexStorage r <;> simp [hOld, MutexStorage.free] at hRoom
    rw [hRemoved.others r hOther] at hRoom
    refine (h.lodged r hRoom).imp_left ?_
    rintro ⟨id', hLodges⟩
    refine ⟨id', hRemoved.lodges.mpr ⟨?_, hLodges⟩⟩
    rintro rfl
    exact hOther hLodges
  alone id' id'' r hLodges hLodges' :=
    h.alone id' id'' r (hRemoved.lodges.mp hLodges).2 (hRemoved.lodges.mp hLodges').2
  vacant r hComing := by
    obtain ⟨hRoom, hNobody⟩ := h.vacant r hComing
    rw [hRemoved.others r (hNobody id)]
    exact ⟨hRoom, fun id' hLodges => hNobody id' (hRemoved.lodges.mp hLodges).2⟩

end Removing

theorem Housed.remove (h : Housed coming s) (id : Name) : Housed coming (s.remove id) :=
  (s.removed_remove id).housed h

-- ---------------------------------------------------------------------------
-- New objects and names
-- ---------------------------------------------------------------------------

theorem storageAt_add (s : Machine) (x : σ) (place : Ref) : (s.add x).1.storageAt place =
    if place = s.objects.size then (Stored.store x).storage? else s.storageAt place := by
  rw [storageAt, add, Array.getElem?_push]
  split <;> rfl

theorem room_add (s : Machine) (x : σ) (r : Ref) : (s.add x).1.get? MutexStorage r =
    if r = s.objects.size then Stored.stored? (Stored.store x) else s.get? MutexStorage r := by
  rw [get?, add, Array.getElem?_push]
  split <;> rfl

theorem plain_add (x : σ) (hPlain : s.Plain place) : (s.add x).1.Plain place := by
  obtain ⟨hLt, hStorage, hRoom⟩ := hPlain
  have hNe : place ≠ s.objects.size := Nat.ne_of_lt hLt
  refine ⟨?_, ?_, ?_⟩
  · simpa [Machine.add] using Nat.lt_succ_of_lt hLt
  · rw [storageAt_add, if_neg hNe, hStorage]
  · rw [room_add, if_neg hNe, hRoom]

/-- An object without a name is nobody's tenant. -/
theorem Housed.lodges_add (h : Housed coming s) (x : σ) :
    (s.add x).1.Lodges id r ↔ s.Lodges id r := by
  refine exists_congr fun place => and_congr_right fun hRef => ?_
  rw [storageAt_add, if_neg (Nat.ne_of_lt (h.bound id place hRef))]

/-- A new object may be anything but a room that is claimed. -/
theorem Housed.add (h : Housed coming s) {x : σ}
    (hFree : (Stored.stored? (Stored.store x) : Option MutexStorage) ≠ some ⟨true⟩) :
    Housed coming (s.add x).1 := by
  have hSize : (s.add x).1.objects.size = s.objects.size + 1 := by simp [Machine.add]
  have hRoom (r : Ref) : (s.add x).1.get? MutexStorage r = some ⟨true⟩ ↔
      s.get? MutexStorage r = some ⟨true⟩ := by
    rw [room_add]
    split
    · rename_i hNew
      have hNone : s.get? MutexStorage r = none := by simp [get?, hNew]
      simp [hNone, hFree]
    · rfl
  refine ⟨fun id place hRef => ?_, plain_add x h.shared,
    fun worker y hFound place hWritten => plain_add x (h.spared worker y hFound place hWritten),
    fun id r hLodges => ?_, fun r hClaimed => ?_, fun id id' r hLodges hLodges' => ?_,
    fun r hComing => ?_⟩
  · exact hSize ▸ Nat.lt_succ_of_lt (h.bound id place hRef)
  · exact (hRoom r).mpr (h.claimed id r ((h.lodges_add x).mp hLodges))
  · simp only [h.lodges_add]
    exact h.lodged r ((hRoom r).mp hClaimed)
  · exact h.alone id id' r ((h.lodges_add x).mp hLodges) ((h.lodges_add x).mp hLodges')
  · simp only [h.lodges_add, hRoom]
    exact h.vacant r hComing

theorem ref?_name (s : Machine) (id id' : Name) (place : Ref) :
    (s.name id place).ref? id' = if id' = id then some place else s.ref? id' := by
  show ((s.remove id).names.insert id place).find? id' = _
  by_cases hSame : id' = id
  · rw [if_pos hSame, hSame, Directory.find?_insert_self]
  · rw [if_neg hSame, Directory.find?_insert_of_ne _ _ hSame]
    exact ((s.removed_remove id).ref? id').trans (if_neg hSame)

/-- Who has a new name lodges where its object does. -/
theorem lodges_name : (s.name id place).Lodges id' r ↔
    id' = id ∧ s.storageAt place = some r ∨ id' ≠ id ∧ s.Lodges id' r := by
  have hStorage (other : Ref) : (s.name id place).storageAt other = s.storageAt other :=
    (s.removed_remove id).storageAt other
  simp only [Lodges, ref?_name, hStorage]
  by_cases hSame : id' = id <;> simp [hSame]

/-- The mutex that a room was claimed for is named, and the rooms are in order again. -/
theorem Housed.name (h : Housed coming s) (id : Name) (hLt : place < s.objects.size)
    (hComing : s.storageAt place = coming) : Housed none (s.name id place) := by
  have hRemoved := h.remove id
  have hRoom (r : Ref) : (s.name id place).get? MutexStorage r =
      (s.remove id).get? MutexStorage r := rfl
  have hTenant (r : Ref) (hHere : s.storageAt place = some r) :
      s.get? MutexStorage r = some ⟨true⟩ ∧ ∀ id, ¬ s.Lodges id r :=
    h.vacant r (hComing.symm.trans hHere)
  refine ⟨fun id' other hRef => ?_, hRemoved.shared, hRemoved.spared, fun id' r hLodges => ?_,
    fun r hClaimed => ?_, fun id₁ id₂ r hLodges hLodges' => ?_, nofun⟩
  · show other < (s.remove id).objects.size
    rw [(s.removed_remove id).size]
    rw [ref?_name] at hRef
    split at hRef
    · exact Option.some.inj hRef ▸ hLt
    · exact h.bound id' other hRef
  · rw [hRoom]
    rcases lodges_name.mp hLodges with ⟨-, hHere⟩ | ⟨hNe, hOld⟩
    · rw [(s.removed_remove id).others r ((hTenant r hHere).2 id)]
      exact (hTenant r hHere).1
    · exact hRemoved.claimed id' r ((s.removed_remove id).lodges.mpr ⟨hNe, hOld⟩)
  · rcases hRemoved.lodged r hClaimed with ⟨id', hLodges⟩ | hComing'
    · exact Or.inl ⟨id', lodges_name.mpr (Or.inr ((s.removed_remove id).lodges.mp hLodges))⟩
    · exact Or.inl ⟨id, lodges_name.mpr (Or.inl ⟨rfl, hComing.trans hComing'⟩)⟩
  · rcases lodges_name.mp hLodges with ⟨rfl, hHere⟩ | ⟨hNe, hOld⟩ <;>
      rcases lodges_name.mp hLodges' with ⟨rfl, hHere'⟩ | ⟨hNe', hOld'⟩
    · rfl
    · exact absurd hOld' ((hTenant r hHere).2 id₂)
    · exact absurd hOld ((hTenant r hHere').2 id₁)
    · exact h.alone id₁ id₂ r hOld hOld'

/-- A new object under a name: nothing that has to do with rooms, a free room, or the mutex that a
room was claimed for. -/
theorem Housed.create (h : Housed coming s) (id : Name) {x : σ}
    (hFree : (Stored.stored? (Stored.store x) : Option MutexStorage) ≠ some ⟨true⟩)
    (hComing : (Stored.store x).storage? = coming) : Housed none (s.create id x) := by
  have hAdded := h.add hFree
  refine hAdded.name id (by simp [Machine.add]) ?_
  rw [storageAt_add]
  exact (if_pos rfl).trans hComing

/-- A new object has the name, with the mutex and in the room that it came with. -/
theorem create_spec (s : Machine) (id : Name) (x : σ) :
    (s.create id x).ref? id = some s.objects.size ∧
      (s.create id x).mutexAt? s.objects.size = (Stored.store x).mutex? ∧
      (s.create id x).storageAt s.objects.size = (Stored.store x).storage? := by
  refine ⟨?_, ?_, ?_⟩
  · exact (ref?_name (s.add x).1 id id s.objects.size).trans (if_pos rfl)
  · refine (((s.add x).1.removed_remove id).mutexAt? s.objects.size).trans ?_
    simp [mutexAt?, Machine.add]
  · refine (((s.add x).1.removed_remove id).storageAt s.objects.size).trans ?_
    rw [storageAt_add, if_pos rfl]

/-- A new object that is neither a room nor a tenant. -/
theorem Housed.createClear [Roomless σ] (h : Housed none s) (id : Name) (x : σ) :
    Housed none (s.create id x) := by
  obtain ⟨hStorage, hRoom⟩ := Roomless.clear (Stored.stored?_store x)
  refine h.create id ?_ hStorage
  rw [hRoom]
  exact nofun

theorem plain_putRoom {room : MutexStorage} (hRoom : s.get? MutexStorage r = some room)
    (room' : MutexStorage) (hPlain : s.Plain place) : (s.put r room').Plain place := by
  obtain ⟨hLt, hStorage, hNone⟩ := hPlain
  have hNe : r ≠ place := by
    rintro rfl
    rw [hRoom] at hNone
    cases hNone
  refine ⟨by simpa [Machine.put] using hLt, ?_, ?_⟩
  · rw [storageAt_putRoom hRoom, hStorage]
  · rw [room_putRoom hRoom, if_neg hNe, hNone]

/-- A free room is claimed for a mutex to come. -/
theorem Housed.claim (h : Housed none s) (hRoom : s.get? MutexStorage r = some ⟨false⟩) :
    Housed (some r) (s.put r (⟨true⟩ : MutexStorage)) := by
  have hNobody (id : Name) : ¬ s.Lodges id r := by
    intro hTenant
    rw [h.claimed id r hTenant] at hRoom
    cases hRoom
  refine ⟨fun id place hRef => ?_, plain_putRoom hRoom _ h.shared,
    fun worker x hFound place hWrites =>
      plain_putRoom hRoom _ (h.spared worker x hFound place hWrites),
    fun id r' hTenant => ?_, fun r' hClaimed => ?_, fun id id' r' hTenant hTenant' => ?_, ?_⟩
  · simpa [Machine.put] using h.bound id place hRef
  · rw [room_putRoom hRoom]
    split
    · rfl
    · exact h.claimed id r' ((lodges_putRoom hRoom _ id r').mp hTenant)
  · rw [room_putRoom hRoom] at hClaimed
    simp only [lodges_putRoom hRoom]
    split at hClaimed
    · rename_i hHere
      exact Or.inr (congrArg some hHere)
    · exact Or.inl ((h.lodged r' hClaimed).resolve_right (Option.some_ne_none r').symm)
  · exact h.alone id id' r' ((lodges_putRoom hRoom _ id r').mp hTenant)
      ((lodges_putRoom hRoom _ id' r').mp hTenant')
  · rintro _ ⟨⟩
    refine ⟨(room_putRoom hRoom _ r).trans (if_pos rfl), fun id hTenant => ?_⟩
    exact hNobody id ((lodges_putRoom hRoom _ id r).mp hTenant)

section Placing

variable {kind : MutexKind} {storage : Option Name} {name : Name} {placed : Placed Mutex}
  {result : Result}

theorem placeMutex_free (hAt : s.named? MutexStorage name = some (r, ⟨false⟩)) :
    s.placeMutex kind (some name) =
      .ok (s.put r (⟨true⟩ : MutexStorage), ⟨.create kind, some r⟩) := by
  simp [placeMutex, hAt, MutexStorage.claim]

theorem placeMutex_claimed (hAt : s.named? MutexStorage name = some (r, ⟨true⟩)) :
    s.placeMutex kind (some name) = .error (.error (.create .storageInUse)) := by
  simp [placeMutex, hAt, MutexStorage.claim]

theorem placeMutex_missing (hAt : s.named? MutexStorage name = none) :
    s.placeMutex kind (some name) = .error missing := by
  simp [placeMutex, hAt]

/-- A new mutex has allocated room or a room that was free. -/
theorem placeMutex_ok (hPlace : s.placeMutex kind storage = .ok (s', placed)) :
    storage = none ∧ s' = s ∧ placed = ⟨.create kind, none⟩ ∨
      ∃ name r, storage = some name ∧ s.named? MutexStorage name = some (r, ⟨false⟩) ∧
        s' = s.put r (⟨true⟩ : MutexStorage) ∧ placed = ⟨.create kind, some r⟩ := by
  cases storage with
  | none =>
    cases hPlace
    exact Or.inl ⟨rfl, rfl, rfl⟩
  | some name =>
    match hAt : s.named? MutexStorage name with
    | none =>
      rw [placeMutex_missing hAt] at hPlace
      cases hPlace
    | some (r, ⟨true⟩) =>
      rw [placeMutex_claimed hAt] at hPlace
      cases hPlace
    | some (r, ⟨false⟩) =>
      rw [placeMutex_free hAt] at hPlace
      cases hPlace
      exact Or.inr ⟨name, r, rfl, hAt, rfl, rfl⟩

/-- There is no room for a new mutex in storage that is missing or claimed. -/
theorem placeMutex_error (hPlace : s.placeMutex kind storage = .error result) :
    ∃ name, storage = some name ∧ (s.named? MutexStorage name = none ∧ result = missing ∨
      ∃ r, s.named? MutexStorage name = some (r, ⟨true⟩) ∧
        result = .error (.create .storageInUse)) := by
  cases storage with
  | none => cases hPlace
  | some name =>
    refine ⟨name, rfl, ?_⟩
    match hAt : s.named? MutexStorage name with
    | none =>
      rw [placeMutex_missing hAt] at hPlace
      cases hPlace
      exact Or.inl ⟨rfl, rfl⟩
    | some (r, ⟨true⟩) =>
      rw [placeMutex_claimed hAt] at hPlace
      cases hPlace
      exact Or.inr ⟨r, rfl, rfl⟩
    | some (r, ⟨false⟩) =>
      rw [placeMutex_free hAt] at hPlace
      cases hPlace

/-- The room that a new mutex was put into is claimed for it. -/
theorem housed_placeMutex (h : Housed none s)
    (hPlace : s.placeMutex kind storage = .ok (s', placed)) : Housed placed.storage s' := by
  rcases placeMutex_ok hPlace with ⟨-, rfl, rfl⟩ | ⟨name, r, -, hAt, rfl, rfl⟩
  · exact h
  · exact h.claim (get?_of_named? hAt)

end Placing

end Machine

end TaskSync
