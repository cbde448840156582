import TaskSync.Machine.Control
import TaskSync.Proofs.Mutex.Housing
import TaskSync.Proofs.Waits.Machine

/-!
# TaskSync — one mutex at a time in static storage

A machine that starts with its rooms in order keeps them so, whatever is asked of
it (`Machine.Housed.report`): operations keep them in order, and the rounds of a
call, the two ends of a block and the work of the kernels leave them alone. A call
that has been suspended remembers where it will write, and that place stays what
it is. The rooms are in order between requests, and also between the commands of
one that runs a block of them (`Machine.Turn`).

* `Machine.Hospitable` — what this comes to: a room is claimed as long as exactly
  one mutex lies in it, nobody else can move in, and who moves in is new.
* `Machine.hospitable_after` — so it is after any turns.
-/

namespace TaskSync

namespace Machine

variable {s s' : Machine} {worker : Worker} {id : Name} {r : Ref}

-- ---------------------------------------------------------------------------
-- Calls
-- ---------------------------------------------------------------------------

theorem SameHousing.complete (s : Machine) (worker : Worker) (next : Continuation)
    (result : Result) : SameHousing s (s.complete worker next result).1 := by
  unfold Machine.complete
  split
  case h_6 => exact .nameGuard ..
  case h_7 =>
    split
    · exact .refl s
    · rename_i lock change _ _ cell hCell
      have hChanged (changed : Machine) (hSame : SameHousing s changed) :
          SameHousing s (changed.unlock worker lock).1 := hSame.trans (.unlock ..)
      cases change.apply cell.value with
      | error f =>
        dsimp only
        split <;> exact hChanged s (.refl s)
      | ok =>
        dsimp only
        split <;> exact hChanged _ (.put (clear_of_get? hCell) _)
  all_goals exact .refl s

theorem SameHousing.roundAt {ρ σ α : Type} [Blocks ρ σ α] [Stored σ] [Roomless σ] (s : Machine)
    (t : TaskId) (r : Ref) (w : Waiting ρ) (resume : Waiting ρ → Call) (result : α → Result) :
    SameHousing s (s.roundAt t r w resume result).1 := by
  unfold Machine.roundAt
  split
  · exact .refl s
  · exact .settle (clear_of_get? ‹_›) _

/-- A round leaves the rooms alone, if its call writes over none. -/
theorem SameHousing.round (s : Machine) (t : TaskId) {call : Call}
    (hSpares : s.Spares call) :
    SameHousing s (s.round t call).1 := by
  cases call with
  | queueSend | queueReceive | streamSend | streamReceive | events => exact .roundAt ..
  | watch watch signal w =>
    unfold Machine.round
    dsimp only
    split
    · exact .refl s
    · rename_i x hAt
      have hSettled := SameHousing.settle (clear_of_get? hAt) (w.round s.now t x)
      split
      · exact hSettled.trans (.put (hSettled.clear (hSpares watch rfl).2) _)
      · exact hSettled
      · exact hSettled
  | lockWithin | lock =>
    unfold Machine.round
    dsimp only
    split
    · exact .refl s
    · exact .settleMutex ..
  | sleep =>
    unfold Machine.round
    dsimp only
    split <;> exact .refl s

/-- A call that sleeps will write where it was going to. -/
theorem written?_round {t : TaskId} {call call' : Call} {limit : Option Ticks}
    (h : (s.round t call).2 = .suspended call' limit) : call'.written? = call.written? := by
  cases call with
  | queueSend | queueReceive | streamSend | streamReceive | events =>
    unfold Machine.round Machine.roundAt at h
    dsimp only at h
    split at h
    · cases h
    · dsimp only at h
      split at h <;> cases h
      rfl
  | watch | lockWithin | lock =>
    unfold Machine.round at h
    dsimp only at h
    split at h
    · cases h
    · split at h <;> cases h
      rfl
  | sleep =>
    unfold Machine.round at h
    dsimp only at h
    split at h <;> cases h
    rfl

theorem SameHousing.suspend (s : Machine) (worker : Worker) (limit : Option Ticks) :
    SameHousing s (s.suspend worker limit).1 := (SameHousing.note s _).trans (.withActive ..)

theorem SameHousing.callerTask (s : Machine) (worker : Worker) (call : Call) :
    SameHousing s (s.callerTask worker call).1 := by
  unfold Machine.callerTask
  split
  · exact .refl s
  · exact .currentTask s worker

/-- Driven on, a call leaves the rooms alone, if it writes over none; asleep, it still does not. -/
theorem sameHousing_drive {call : Call} {permits : Nat} {driven : Driven} (hSpares : s.Spares call)
    (hDrive : s.drive worker call permits = (s', driven)) :
    SameHousing s s' ∧ ∀ call', driven = .asleep call' → s'.Spares call' := by
  induction permits using Nat.strong_induction_on generalizing s call with
  | _ permits ih =>
    rcases hCaller : s.callerTask worker call with ⟨caller, t⟩
    have hCalled := SameHousing.callerTask s worker call
    rw [hCaller] at hCalled
    have hTurned (turned : Machine) (round : Round Call Result)
        (hRound : caller.round t call = (turned, round)) : SameHousing s turned := by
      have hAfter := SameHousing.round caller t (hCalled.spares hSpares)
      rw [hRound] at hAfter
      exact hCalled.trans hAfter
    rcases hRound : caller.round t call with ⟨turned, result | ⟨next, limit⟩⟩
    · rw [drive, hCaller] at hDrive
      dsimp only at hDrive
      rw [hRound] at hDrive
      cases hDrive
      refine ⟨hTurned _ _ hRound, ?_⟩
      rintro _ ⟨⟩
    · have hSame := (hTurned _ _ hRound).trans (.suspend turned worker limit)
      have hStill := written?_round (congrArg (·.2) hRound)
      have hNext : (turned.suspend worker limit).1.Spares next := fun place hWrites =>
        hSame.plain (hSpares place (hStill ▸ hWrites))
      rcases drive_of_suspended hCaller hRound permits with hSlept | ⟨fewer, rfl, -, hAgain⟩
      · rw [hSlept] at hDrive
        cases hDrive
        refine ⟨hSame, ?_⟩
        rintro _ ⟨⟩
        exact hNext
      · rw [hAgain] at hDrive
        obtain ⟨hDriven, hAsleep⟩ := ih fewer (Nat.lt_succ_self fewer) hNext hDrive
        exact ⟨hSame.trans hDriven, hAsleep⟩

theorem Housed.suspensions (h : Housed none s) {suspensions : Directory Worker Suspension}
    (hSpared : ∀ worker x, suspensions.find? worker = some x → s.Spares x.call) :
    Housed none { s with suspensions } :=
  ⟨h.bound, h.shared, hSpared, h.claimed, h.lodged, h.alone, h.vacant⟩

theorem Housed.fallAsleep (h : Housed none s) {x : Suspension} (hSpares : s.Spares x.call) :
    Housed none (s.fallAsleep worker x) := by
  refine h.suspensions fun other y hFound => ?_
  by_cases hSelf : other = worker
  · rw [hSelf, Directory.find?_insert_self] at hFound
    cases hFound
    exact hSpares
  · rw [Directory.find?_insert_of_ne _ _ hSelf] at hFound
    exact h.spared other y hFound

/-- A worker that is suspended no more. -/
theorem Housed.awake (h : Housed none s) (worker : Worker) :
    Housed none { s with suspensions := s.suspensions.erase worker } := by
  refine h.suspensions fun other y hFound => ?_
  by_cases hSelf : other = worker
  · rw [hSelf, Directory.find?_erase_self] at hFound
    cases hFound
  · rw [Directory.find?_erase_of_ne _ hSelf] at hFound
    exact h.spared other y hFound

theorem Housed.driven (h : Housed none s) {call : Call} {permits : Nat} {driven : Driven}
    (hSpares : s.Spares call) (hDrive : s.drive worker call permits = (s', driven)) :
    Housed none s' ∧ ∀ call', driven = .asleep call' → s'.Spares call' :=
  (sameHousing_drive hSpares hDrive).imp_left h.of_same

theorem Housed.callFrom (h : Housed none s) {call : Call} (hSpares : s.Spares call)
    (next : Continuation) (frames : List Frame) :
    Housed none (s.callFrom worker call next frames).1 := by
  have hBegun (after : Machine) (driven : Driven)
      (hBegin : s.beginCall worker call = (after, driven)) :
      Housed none after ∧ ∀ call', driven = .asleep call' → after.Spares call' := by
    unfold beginCall at hBegin
    split at hBegin
    · cases hBegin
      exact ⟨h, nofun⟩
    · exact h.driven hSpares hBegin
  unfold Machine.callFrom
  split <;> rename_i hBegin <;> obtain ⟨hAfter, hAsleep⟩ := hBegun _ _ hBegin
  · exact hAfter.of_same (.complete ..)
  · exact hAfter.fallAsleep (hAsleep _ rfl)

-- ---------------------------------------------------------------------------
-- Blocks and workers
-- ---------------------------------------------------------------------------

theorem SameHousing.openBlock (s : Machine) (worker : Worker) (body : List Command)
    (kind : BlockKind) : SameHousing s (s.openBlock worker body kind).1 := by
  cases kind with
  | critical id =>
    unfold Machine.openBlock
    dsimp only
    split
    · exact .refl s
    · rename_i hAt
      split
      · exact .refl s
      · exact .putMasked (get?_of_named? hAt) ..
  | holding id =>
    unfold Machine.openBlock
    dsimp only
    split
    · exact .refl s
    · rename_i hAt
      split
      · exact .refl s
      · exact .readyGlobal (get?_of_named? hAt) ‹_›
  | interrupt | hostInterrupt => exact .of_objects rfl rfl rfl

/-- The call that goes before a block takes a lock. -/
theorem written?_openBlock {body : List Command} {kind : BlockKind} {call : Call}
    {next : Continuation} (hOpen : s.openBlock worker body kind = (s', .calling call next)) :
    call.written? = none := by
  cases kind with
  | critical =>
    unfold openBlock at hOpen
    dsimp only at hOpen
    split at hOpen
    · cases hOpen
    · split at hOpen <;> cases hOpen
  | holding =>
    unfold openBlock at hOpen
    dsimp only at hOpen
    split at hOpen
    · cases hOpen
    · split at hOpen
      · cases hOpen
      · cases hOpen
        rfl
  | interrupt | hostInterrupt => cases hOpen

theorem SameHousing.closeBlock (s : Machine) (worker : Worker) (results : List Result)
    (block : Block) : SameHousing s (s.closeBlock worker results block).1 := by
  cases block with
  | operation => exact .refl s
  | critical r locked =>
    unfold Machine.closeBlock
    dsimp only
    split
    · exact .refl s
    · exact .putMasked ‹_› ..
  | holding lock =>
    have hReleased := SameHousing.unlock s worker lock
    unfold Machine.closeBlock
    dsimp only
    split <;> exact hReleased
  | interrupt yields cx =>
    have hLeft : SameHousing s { s with inHandler := false } := .of_objects rfl rfl rfl
    unfold Machine.closeBlock
    dsimp only
    split
    · exact hLeft.trans (.yieldFromInterrupt _)
    · exact hLeft
  | hostInterrupt cx =>
    have hLeft (host : Host) : SameHousing s { s with host } := .of_objects rfl rfl rfl
    unfold Machine.closeBlock
    dsimp only
    split
    · exact (hLeft _).trans (.yieldFromInterrupt _)
    · exact hLeft _

/-- An operation that is answered on the spot. -/
theorem Housed.answered (h : Housed none s) {a : Action} {result : Result}
    {gathered : InterruptContext}
    (hPerform : s.perform worker a = (s', .answered result gathered)) : Housed none s' := by
  have hAfter : Orderly (s.perform worker a) := orderly_perform h a
  rw [hPerform] at hAfter
  exact hAfter

/-- An operation that comes down to a call. -/
theorem Housed.called (h : Housed none s) {a : Action} {begun : Machine} {call : Call}
    {next : Continuation} {frames : List Frame} {completed : Option Completed}
    (hPerform : s.perform worker a = (begun, .calling call next))
    (hCall : begun.callFrom worker call next frames = (s', completed)) : Housed none s' := by
  have hBegun : Orderly (s.perform worker a) := orderly_perform h a
  rw [hPerform] at hBegun
  have hAfter : Housed none (begun.callFrom worker call next frames).1 :=
    hBegun.1.callFrom hBegun.2 next frames
  rw [hCall] at hAfter
  exact hAfter

/-- A block that is opened on the spot, or not at all. -/
theorem Housed.opened (h : Housed none s) {kind : BlockKind} {body : List Command}
    {opening : Opening} (hOpen : s.openBlock worker body kind = (s', opening)) :
    Housed none s' := by
  have hAfter := SameHousing.openBlock s worker body kind
  rw [hOpen] at hAfter
  exact h.of_same hAfter

/-- A block that a call goes before. -/
theorem Housed.calledBefore (h : Housed none s) {kind : BlockKind} {body : List Command}
    {begun : Machine} {call : Call} {next : Continuation} {frames : List Frame}
    {completed : Option Completed}
    (hOpen : s.openBlock worker body kind = (begun, .calling call next))
    (hCall : begun.callFrom worker call next frames = (s', completed)) : Housed none s' := by
  have hSpares : begun.Spares call := by
    intro place hWrites
    rw [written?_openBlock hOpen] at hWrites
    cases hWrites
  have hAfter : Housed none (begun.callFrom worker call next frames).1 :=
    (h.opened hOpen).callFrom hSpares next frames
  rw [hCall] at hAfter
  exact hAfter

theorem Housed.closed (h : Housed none s) {results : List Result} {block : Block} {result : Result}
    (hClose : s.closeBlock worker results block = (s', result)) : Housed none s' := by
  have hAfter := SameHousing.closeBlock s worker results block
  rw [hClose] at hAfter
  exact h.of_same hAfter

/-- A worker that runs its operation keeps the rooms in order. -/
theorem Housed.runFrames (h : Housed none s) (frames : List Frame) :
    Housed none (s.runFrames worker frames).1 := by
  fun_induction Machine.runFrames s worker frames
  case case1 => exact h
  case case2 hClose => exact h.closed hClose
  case case3 hClose _ _ ih => exact ih (h.closed hClose)
  case case4 hPerform ih => exact ih (h.answered hPerform)
  case case5 hPerform _ hCall => exact h.called hPerform hCall
  case case6 hPerform _ _ hCall ih => exact ih (h.called hPerform hCall)
  case case7 hPerform _ _ _ hCall ih => exact ih (h.called hPerform hCall)
  case case8 hOpen ih | case9 hOpen ih => exact ih (h.opened hOpen)
  case case10 hOpen _ hCall => exact h.calledBefore hOpen hCall
  case case11 hOpen _ _ hCall ih => exact ih (h.calledBefore hOpen hCall)
  case case12 hOpen _ _ _ hCall ih => exact ih (h.calledBefore hOpen hCall)

theorem Housed.continueWith (h : Housed none s) (x : Suspension) (result : Result) :
    Housed none (s.continueWith worker x result).1 := by
  have hCompleted := SameHousing.complete s worker x.next result
  unfold Machine.continueWith
  split <;> rename_i hComplete <;> rw [hComplete] at hCompleted
  · exact (h.of_same hCompleted).runFrames _
  · exact (h.of_same hCompleted).runFrames _

/-- A worker that goes on keeps the rooms in order. -/
theorem Housed.resume (h : Housed none s) (worker : Worker) :
    Housed none (s.resume worker).1 := by
  unfold Machine.resume
  split
  · exact h
  · rename_i x hFound
    have hActive := SameHousing.withActive s (s.active.unsuspend worker)
    have hAwake := (h.of_same hActive).awake worker
    have hSpares := hActive.spares (h.spared worker x hFound)
    dsimp only
    split <;> rename_i hDrive <;> obtain ⟨hAfter, hAsleep⟩ := hAwake.driven hSpares hDrive
    · exact hAfter.continueWith ..
    · exact hAfter.fallAsleep (hAsleep _ rfl)

theorem Housed.resumeLogged (h : Housed none s) (worker : Worker) :
    Housed none (s.resumeLogged worker).1 := by
  have hResumed := h.resume worker
  unfold Machine.resumeLogged
  generalize s.resume worker = resumed at hResumed ⊢
  obtain ⟨after, r | _⟩ := resumed
  · exact hResumed.of_same (SameHousing.note after (.finished worker r))
  · exact hResumed

theorem Housed.runReady (h : Housed none s) (bound : Nat) : Housed none (s.runReady bound).1 := by
  induction bound generalizing s with
  | zero =>
    unfold Machine.runReady
    exact h
  | succ bound ih =>
    unfold Machine.runReady
    split
    · exact h
    · exact h
    · rename_i hBound _
      cases hBound
      exact ih (h.resumeLogged _)

-- ---------------------------------------------------------------------------
-- The host
-- ---------------------------------------------------------------------------

theorem Housed.hostTurn (h : Housed none s) (hTurn : s.hostTurn = some s') : Housed none s' := by
  have hResumed (worker : Worker) : Housed none (s.hostResume worker) := by
    have hWoken := h.resume worker
    unfold Machine.hostResume
    split
    · split <;> rename_i hResume <;> rw [hResume] at hWoken
      · exact hWoken.of_same (.of_objects rfl rfl rfl)
      · exact hWoken
    · exact h.of_same (.of_objects rfl rfl rfl)
  unfold Machine.hostTurn at hTurn
  split at hTurn
  · cases hTurn
    exact hResumed _
  · obtain ⟨n, -, rfl⟩ := Option.map_eq_some_iff.mp hTurn
    exact h.of_same (.of_objects rfl rfl rfl)

theorem Housed.hostWait (h : Housed none s) (holds : Machine → Bool) (bound : Nat) :
    Housed none (s.hostWait holds bound).1 := by
  fun_induction Machine.hostWait s holds bound with
  | case1 => exact h
  | case2 _ _ _ _ hTurn ih => exact ih (h.hostTurn hTurn)
  | case3 => exact h

theorem Housed.hostSettle (h : Housed none s) : Housed none s.hostSettle := h.hostWait ..

theorem Housed.hostJoin (h : Housed none s) (worker : Worker) :
    Housed none (s.hostJoin worker).1 := by
  have hWaited := h.hostWait (fun s => (s.filed? worker).isSome) hostPatience
  unfold Machine.hostJoin
  dsimp only
  split
  · exact hWaited.of_same (.of_objects rfl rfl rfl)
  · exact hWaited

theorem Housed.hostCommand (h : Housed none s) (worker : Worker) (background : Bool)
    (c : Command) : Housed none (s.hostCommand worker background c).1 := by
  have hRun (begun : Machine) (hBegun : SameHousing s begun) :
      Housed none (begun.runCommand worker c).1 := (h.of_same hBegun).runFrames _
  have hNoted : SameHousing s { s with background := s.background.insert worker none } :=
    .of_objects rfl rfl rfl
  have hFiled {after : Machine} (hAfter : Housed none after) (r : Result) :
      Housed none (after.fileResult worker r) := hAfter.of_same (.of_objects rfl rfl rfl)
  unfold Machine.hostCommand
  cases background with
  | false =>
    have hAfter := hRun s (.refl s)
    simp only [Bool.false_eq_true, if_false]
    generalize s.runCommand worker c = run at hAfter ⊢
    obtain ⟨after, r | _⟩ := run
    · exact Housed.hostSettle hAfter
    · exact Housed.hostJoin hAfter worker
  | true =>
    have hAfter := hRun _ hNoted
    simp only [if_true]
    generalize Machine.runCommand _ worker c = run at hAfter ⊢
    obtain ⟨after, r | _⟩ := run
    · exact (hFiled hAfter _).hostSettle
    · exact Housed.hostSettle hAfter

-- ---------------------------------------------------------------------------
-- Requests
-- ---------------------------------------------------------------------------

theorem Housed.control (h : Housed none s) (c : Control) : Housed none (s.control c).1 := by
  cases c with
  | tick n => exact h.of_same (.of_objects rfl rfl rfl)
  | run => exact h.runReady _
  | step worker =>
    have hResumed := h.resumeLogged worker
    unfold Machine.control
    dsimp only
    split <;> rename_i hResume <;> rw [hResume] at hResumed <;> exact hResumed
  | wake t => exact h.of_same (.wake s t)
  | kill worker => exact (h.of_same (.withActive ..)).awake worker
  | waitFor id gauge value =>
    unfold Machine.control
    dsimp only
    have hWaited (holds : Machine → Bool) := h.hostWait holds hostPatience
    split <;> rename_i hWait
    · exact congrArg (·.1) hWait ▸ hWaited _
    · exact congrArg (·.1) hWait ▸ hWaited _
  | join worker => exact h.hostJoin worker

theorem Housed.handle (h : Housed none s) (q : Request) : Housed none (s.handle q).1 := by
  cases q with
  | control c => exact h.control c
  | command worker background c =>
    unfold Machine.handle
    dsimp only
    split
    · exact h.hostCommand ..
    · have hRun : Housed none (s.runCommand worker c).1 := h.runFrames _
      split <;> rename_i hEnd <;> rw [hEnd] at hRun <;> exact hRun

theorem Housed.report (h : Housed none s) (q : Request) : Housed none (s.report q).1 := by
  have hCleared : Housed none { s with log := [] } := h.of_same (.of_objects rfl rfl rfl)
  exact hCleared.handle q

theorem housed_boot (checks : Bool) (installed : Option KernelChoice) (now : Ticks) :
    Housed none (boot checks installed now) := by
  have hRoom (r : Ref) : (boot checks installed now).get? MutexStorage r = none := by
    match r with
    | 0 => rfl
    | r + 1 => rfl
  refine ⟨nofun, ⟨Nat.one_pos, rfl, rfl⟩, nofun, ?_, fun r hClaimed => ?_, ?_, nofun⟩
  · rintro id r ⟨place, hRef, -⟩
    cases hRef
  · rw [hRoom r] at hClaimed
    cases hClaimed
  · rintro id id' r ⟨place, hRef, -⟩
    cases hRef

/-- What a machine does next: it answers a request, or carries out a command of an operation that
is under way, or comes to the end of one of its blocks. -/
inductive Turn
  | request (q : Request)
  | action (worker : Worker) (a : Action) (frames : List Frame)
  | opening (worker : Worker) (kind : BlockKind) (body : List Command) (frames : List Frame)
  | closing (worker : Worker) (results : List Result) (block : Block)

/-- The machine after a turn. -/
def turn (s : Machine) : Turn → Machine
  | .request q => (s.report q).1
  | .action worker a frames =>
    match s.perform worker a with
    | (s, .answered ..) => s
    | (s, .calling call next) => (s.callFrom worker call next frames).1
  | .opening worker kind body frames =>
    match s.openBlock worker body kind with
    | (s, .calling call next) => (s.callFrom worker call next frames).1
    | (s, _) => s
  | .closing worker results block => (s.closeBlock worker results block).1

/-- The machine after some turns. -/
def after (s : Machine) (turns : List Turn) : Machine := turns.foldl turn s

/-- Every turn keeps the rooms in order. -/
theorem Housed.turn (h : Housed none s) (t : Turn) : Housed none (s.turn t) := by
  cases t with
  | request q => exact h.report q
  | action worker a frames =>
    unfold Machine.turn
    dsimp only
    split
    · exact h.answered ‹_›
    · rename_i called call next hPerform
      exact h.called hPerform (Prod.eta (called.callFrom worker call next frames)).symm
  | opening worker kind body frames =>
    unfold Machine.turn
    dsimp only
    split
    · rename_i called call next hOpen
      exact h.calledBefore hOpen (Prod.eta (called.callFrom worker call next frames)).symm
    · exact h.opened ‹_›
  | closing worker results block =>
    exact h.closed (Prod.eta (s.closeBlock worker results block)).symm

theorem Housed.after (h : Housed none s) (turns : List Turn) : Housed none (s.after turns) := by
  induction turns generalizing s with
  | nil => exact h
  | cons t turns ih => exact ih (h.turn t)

end Machine

-- ---------------------------------------------------------------------------
-- Mutexes that come and go
-- ---------------------------------------------------------------------------

/-- The name, kind and storage of the mutex that an operation makes. -/
def Action.mutex? : Action → Option (Name × MutexKind × Option Name)
  | .mutex id (.create kind storage) | .guarded id (.create kind _ storage) =>
    some (id, kind, storage)
  | _ => none

namespace Machine

variable {s s' : Machine} {worker : Worker} {a : Action} {id : Name} {r : Ref} {kind : MutexKind}
  {storage : Option Name}

/-- An operation gives up the mutex that has a name. -/
inductive Ends (s : Machine) (id : Name) : Action → Prop
  | delete {place : Ref} {m : Placed Mutex} :
    s.named? (Placed Mutex) id = some (place, m) → Ends s id (.mutex id .delete)
  | drop {place : Ref} {m : Placed Mutex} :
    s.named? (Placed Mutex) id = some (place, m) → Ends s id (.mutex id .drop)
  | unwrap {place : Ref} {g : Placed (Guarded Int)} :
    s.named? (Placed (Guarded Int)) id = some (place, g) → Ends s id (.guarded id .unwrap)
  | dropGuarded {place : Ref} {g : Placed (Guarded Int)} :
    s.named? (Placed (Guarded Int)) id = some (place, g) → Ends s id (.guarded id .drop)

/-- A name has been given to a new mutex, in the storage that was asked for. -/
structure MovedIn (s : Machine) (id : Name) (kind : MutexKind) (storage : Option Name)
    (s' : Machine) : Prop where
  new : ∃ place, s'.ref? id = some place ∧ s'.mutexAt? place = some ⟨kind, none, 0, .empty⟩
  room : ∀ name, storage = some name → ∃ r, s.named? MutexStorage name = some (r, ⟨false⟩) ∧
    s'.Lodges id r

/-- Rooms have one tenant at most, and whoever moves in or out finds or leaves them free. -/
structure Hospitable (s : Machine) : Prop where
  /-- A room is claimed as long as exactly one mutex lies in it. -/
  claimed : ∀ r room, s.get? MutexStorage r = some room →
    (room.claimed = true ↔ ∃! id, s.Lodges id r)
  /-- Nobody moves into a claimed room, and its tenant stays as it is. -/
  refused : ∀ worker a id kind name r room, a.mutex? = some (id, kind, some name) →
    s.named? MutexStorage name = some (r, room) → room.claimed = true →
    s.perform worker a = s.finish (.error (.create .storageInUse))
  /-- There is a new mutex wherever there is allocated room or a free one. -/
  admitted : ∀ worker a id kind storage, a.mutex? = some (id, kind, storage) →
    (∀ name, storage = some name → ∃ r, s.named? MutexStorage name = some (r, ⟨false⟩)) →
    ∃ s' : Machine, s.perform worker a = s'.finish (.ok .done)
  created : ∀ worker a id kind storage (s' : Machine), a.mutex? = some (id, kind, storage) →
    s.perform worker a = s'.finish (.ok .done) → s.MovedIn id kind storage s'
  /-- A mutex that is given up leaves its room free, also where giving it up is a fault. -/
  freed : ∀ worker a id r, s.Ends id a → s.Lodges id r →
    ∃ (s' : Machine) (result : Result), s.perform worker a = s'.finish result ∧
      s'.get? MutexStorage r = some ⟨false⟩ ∧ s'.ref? id = none

theorem movedIn_create {σ : Type} [Stored σ] {placed : Placed Mutex} {x : σ}
    (hPlace : s.placeMutex kind storage = .ok (s', placed))
    (hMutex : (Stored.store x).mutex? = some placed.object)
    (hStorage : (Stored.store x).storage? = placed.storage) :
    s.MovedIn id kind storage (s'.create id x) := by
  obtain ⟨hName, hObject, hRoom⟩ := s'.create_spec id x
  rw [hMutex] at hObject
  rw [hStorage] at hRoom
  rcases placeMutex_ok hPlace with ⟨rfl, -, rfl⟩ | ⟨name, r, rfl, hAt, -, rfl⟩
  · exact ⟨⟨_, hName, hObject⟩, nofun⟩
  · refine ⟨⟨_, hName, hObject⟩, ?_⟩
    rintro _ ⟨⟩
    exact ⟨r, hAt, _, hName, hRoom⟩

/-- An operation that makes a mutex finds no room for it, or moves it in. -/
theorem perform_mutex? (s : Machine) (worker : Worker)
    (hMakes : a.mutex? = some (id, kind, storage)) :
    (∃ result, s.placeMutex kind storage = .error result ∧
      s.perform worker a = s.finish result) ∨
    ∃ moved s', s.placeMutex kind storage = .ok moved ∧
      s.perform worker a = s'.finish (.ok .done) ∧ s.MovedIn id kind storage s' := by
  cases hPlace : s.placeMutex kind storage with
  | error result =>
    refine Or.inl ⟨result, rfl, ?_⟩
    unfold Action.mutex? at hMakes
    split at hMakes <;> cases hMakes
    · simp only [perform, performMutex, hPlace]
    · simp only [perform, performGuarded, hPlace]
  | ok moved =>
    obtain ⟨s₁, placed⟩ := moved
    refine Or.inr ⟨(s₁, placed), ?_⟩
    unfold Action.mutex? at hMakes
    split at hMakes <;> cases hMakes
    · refine ⟨s₁.create id placed, rfl, ?_, movedIn_create hPlace rfl rfl⟩
      simp only [perform, performMutex, hPlace]
    · rename_i value
      refine ⟨s₁.create id (⟨⟨placed.object, value⟩, placed.storage⟩ : Placed (Guarded Int)), rfl,
        ?_, movedIn_create hPlace rfl rfl⟩
      simp only [perform, performGuarded, hPlace]

/-- An operation that ends a mutex takes its name away, whatever it answers. -/
theorem Ends.perform (h : s.Ends id a) :
    ∃ result, s.perform worker a = (s.remove id).finish result := by
  cases h with
  | delete hAt | drop hAt | unwrap hAt | dropGuarded hAt => exact ⟨_, onObject_eq hAt _⟩

theorem Housed.hospitable (h : Housed none s) : s.Hospitable where
  claimed r room hRoom := by
    constructor
    · intro hClaimed
      obtain ⟨claimed⟩ := room
      cases hClaimed
      obtain ⟨id, hLodges⟩ := (h.lodged r hRoom).resolve_right (Option.some_ne_none r).symm
      exact ⟨id, hLodges, fun other hOther => h.alone other id r hOther hLodges⟩
    · rintro ⟨id, hLodges, -⟩
      rw [h.claimed id r hLodges] at hRoom
      cases hRoom
      rfl
  refused worker a id kind name r room hMakes hAt hClaimed := by
    obtain ⟨claimed⟩ := room
    cases hClaimed
    have hRefused : s.placeMutex kind (some name) = .error (.error (.create .storageInUse)) :=
      placeMutex_claimed hAt
    rcases s.perform_mutex? worker hMakes with ⟨result, hPlace, hPerform⟩ | ⟨moved, s', hPlace, -⟩
    · rw [hRefused] at hPlace
      cases hPlace
      exact hPerform
    · rw [hRefused] at hPlace
      cases hPlace
  admitted worker a id kind storage hMakes hRoom := by
    rcases s.perform_mutex? worker hMakes with ⟨result, hPlace, -⟩ | ⟨moved, s', -, hPerform, -⟩
    · obtain ⟨name, rfl, ⟨hNone, -⟩ | ⟨r, hSome, -⟩⟩ := placeMutex_error hPlace <;>
        obtain ⟨r', hAt⟩ := hRoom name rfl
      · rw [hNone] at hAt
        cases hAt
      · rw [hSome] at hAt
        cases hAt
    · exact ⟨s', hPerform⟩
  created worker a id kind storage s' hMakes hDone := by
    rcases s.perform_mutex? worker hMakes with
      ⟨result, hPlace, hPerform⟩ | ⟨moved, s₂, -, hPerform, hMoved⟩ <;> rw [hPerform] at hDone
    · obtain ⟨name, -, ⟨-, rfl⟩ | ⟨r, -, rfl⟩⟩ := placeMutex_error hPlace <;> cases hDone
    · cases hDone
      exact hMoved
  freed worker a id r hEnds hLodges := by
    obtain ⟨result, hPerform⟩ := hEnds.perform
    refine ⟨s.remove id, result, hPerform, ?_, ?_⟩
    · rw [(s.removed_remove id).left r hLodges, h.claimed id r hLodges]
      rfl
    · rw [(s.removed_remove id).ref?, if_pos rfl]

/-- However a machine is used, its rooms are in order; and whatever lies in a room, a new mutex
takes its place. -/
theorem hospitable_after (checks : Bool) (installed : Option KernelChoice) (now : Ticks)
    (turns : List Turn) :
    ((boot checks installed now).after turns).Hospitable ∧
      ∀ (chamber : Chamber) (kind : MutexKind),
        (chamber.claim kind).map (fun taken => (taken.room, taken.state)) =
          chamber.room.claim kind :=
  ⟨((housed_boot checks installed now).after turns).hospitable, Chamber.claim_eq⟩

example :
    let s := (((boot true none 0).create "room" MutexStorage.free).turn
      (.action 1 (.mutex "m" (.create .recursive (some "room"))) []))
    s.perform 2 (.guarded "n" (.create .normal 7 (some "room"))) =
      s.finish (.error (.create .storageInUse)) := rfl

end Machine

end TaskSync
