import TaskSync.Proofs.Refusals.Operations

/-!
# TaskSync — calls that are refused too late

A call that gets past its first check is not refused any more
(`Machine.drive_not_refused`): the checks of a kernel and of a handler go before its
rounds. So the operations that are refused in time leave everything that tasks
can wait at untouched. Four operations are not (`Late`): `flush`, `close` and
`reset` of a byte stream have changed the stream before they look for a kernel,
which they need only to wake those who wait; and a party that arrives at a barrier
has set its bits, woken others and joined the waiters before it turns out that
it must not wait.

* `untouched_or_late` — whoever is refused finds everything as it was, or has made one
  of the four calls; and each of the four leaves its step behind.
* `closed_by_refused_call` — it does: a stream is closed by a call that is refused.
-/

namespace TaskSync

variable {s s' : Machine} {worker : Worker} {id : Name} {r : Ref}

-- ---------------------------------------------------------------------------
-- Calls that have begun
-- ---------------------------------------------------------------------------

/-- A call of `lock` can only find that it waits for itself. -/
theorem LockCall.round_refuses {checks : Bool} {now : Ticks} {t : TaskId} {m : Mutex}
    {c : LockCall} {f : Fault}
    (h : (c.round checks now t m).answer = .finished (.error f)) : f.refuses = false := by
  have hSelfBlock : ∀ {f : Fault}, atSelfBlock checks = .finished (.error f) →
      f.refuses = false := by
    intro f hEnd
    unfold atSelfBlock at hEnd
    split at hEnd <;> cases hEnd
    rfl
  have hFirst : ∀ {m : Mutex} {f : Fault},
      (firstLook checks now t m).answer = .finished (.error f) → f.refuses = false := by
    intro m f hEnd
    unfold firstLook at hEnd
    rw [Outcome.map] at hEnd
    dsimp only at hEnd
    split at hEnd
    · cases hEnd
    · exact hSelfBlock hEnd
    · cases hEnd
  cases c with
  | selfBlocked => exact hFirst h
  | attempt w =>
    unfold round at h
    dsimp only at h
    split at h
    · cases h
    · exact hSelfBlock h
    · exact hFirst h
    · cases h

namespace Machine

@[simp] theorem installed_settle {σ α : Type} [Stored σ] (s : Machine) (r : Ref)
    (o : Outcome σ α) : (s.settle r o).installed = s.installed := by
  rw [settle_eq]
  rfl

@[simp] theorem installed_settleMutex {α : Type} (s : Machine) (r : Ref) (o : Outcome Mutex α) :
    (s.settleMutex r o).installed = s.installed := by
  rw [settleMutex, deliver_eq]
  rfl

@[simp] theorem installed_currentTask (s : Machine) (worker : Worker) :
    (s.currentTask worker).1.installed = s.installed := by
  unfold currentTask hostTask
  split <;> rfl

@[simp] theorem installed_callerTask (s : Machine) (worker : Worker) (call : Call) :
    (s.callerTask worker call).1.installed = s.installed := by
  unfold callerTask
  split
  · rfl
  · exact installed_currentTask s worker

@[simp] theorem installed_withActive (s : Machine) (k : Kernel) :
    (s.withActive k).installed = s.installed := by
  unfold withActive
  split <;> rfl

@[simp] theorem installed_suspend (s : Machine) (worker : Worker) (limit : Option Ticks) :
    (s.suspend worker limit).1.installed = s.installed := by
  unfold suspend
  rw [installed_withActive, note_eq]
  rfl

theorem roundAt_not_refused {ρ σ ε α : Type} [Blocks ρ σ (Except ε α)] [Stored σ] (s : Machine)
    (t : TaskId) (r : Ref) (w : Waiting ρ) (resume : Waiting ρ → Call) (failure : ε → Failure)
    (answer : α → Answer) {result : Result}
    (h : (s.roundAt t r w resume (.ofExcept failure answer)).2 = .finished result) :
    result.isRefusal = false := by
  unfold roundAt at h
  split at h
  · cases h
    rfl
  · dsimp only at h
    split at h <;> cases h
    exact isRefusal_ofExcept ..

theorem installed_roundAt {ρ σ α : Type} [Blocks ρ σ α] [Stored σ] (s : Machine)
    (t : TaskId) (r : Ref) (w : Waiting ρ) (resume : Waiting ρ → Call) (result : α → Result) :
    (s.roundAt t r w resume result).1.installed = s.installed := by
  unfold roundAt
  split
  · rfl
  · exact installed_settle ..

/-- No round of a call is refused. -/
theorem round_not_refused {t : TaskId} {call : Call} {result : Result}
    (h : (s.round t call).2 = .finished result) : result.isRefusal = false := by
  cases call with
  | queueSend | queueReceive | streamSend | streamReceive | events =>
    exact roundAt_not_refused s t _ _ _ _ _ h
  | watch watch signal w =>
    unfold round at h
    dsimp only at h
    split at h
    · cases h
      rfl
    · split at h <;> cases h <;> rfl
  | lockWithin r w =>
    unfold round at h
    dsimp only at h
    split at h
    · cases h
      rfl
    · dsimp only at h
      split at h <;> cases h
      exact isRefusal_ofExcept ..
  | lock r call =>
    unfold round at h
    dsimp only at h
    split at h
    · cases h
      rfl
    · dsimp only at h
      split at h <;> cases h
      rename_i hEnd
      refine isRefusal_ofFaulty _ fun f hFault => ?_
      rw [hFault] at hEnd
      exact LockCall.round_refuses hEnd
  | sleep start limit bound begun =>
    unfold round at h
    dsimp only at h
    split at h <;> cases h
    rfl

/-- A round leaves the kernels alone. -/
theorem installed_round (s : Machine) (t : TaskId) (call : Call) :
    (s.round t call).1.installed = s.installed := by
  cases call with
  | queueSend | queueReceive | streamSend | streamReceive | events =>
    exact installed_roundAt s t _ _ _ _
  | watch watch signal w =>
    unfold round
    dsimp only
    split
    · rfl
    · split <;> exact installed_settle ..
  | lockWithin | lock =>
    unfold round
    dsimp only
    split
    · rfl
    · exact installed_settleMutex ..
  | sleep =>
    unfold round
    dsimp only
    split <;> rfl

/-- A call that is driven on is not refused any more. -/
theorem drive_not_refused {call : Call} {permits : Nat} {result : Result}
    (h : s.drive worker call permits = (s', .finished result)) :
    result.isRefusal = false ∧ s'.installed = s.installed := by
  fun_induction drive s worker call permits with
  | case1 _ s call caller t hCaller after answer hRound =>
    cases h
    have hInstalled := installed_round caller t call
    have hCalled := installed_callerTask s worker call
    rw [hRound] at hInstalled
    rw [hCaller] at hCalled
    exact ⟨round_not_refused (congrArg (·.2) hRound), hInstalled.trans hCalled⟩
  | case2 s call caller t hCaller after call' limit hRound slept permits hSuspend ih =>
    have hInstalled := installed_round caller t call
    have hCalled := installed_callerTask s worker call
    have hSlept := installed_suspend after worker limit
    rw [hRound] at hInstalled
    rw [hCaller] at hCalled
    rw [hSuspend] at hSlept
    have hEnd := ih h
    exact ⟨hEnd.1, hEnd.2.trans (hSlept.trans (hInstalled.trans hCalled))⟩
  | case3 => cases h

/-- What is done with the result of a call is not refused where there is a kernel. -/
theorem complete_not_refused {next : Continuation} {result answer : Result}
    (hResult : result.isRefusal = false) (hKernel : s.installed = none → next = .plain)
    (h : s.complete worker next result = (s', .answered answer)) : answer.isRefusal = false := by
  unfold complete at h
  split at h
  · cases h
    exact hResult
  · cases h
    rfl
  · cases h
    rfl
  · cases h
    rfl
  · cases h
    rfl
  · rename_i name g _
    have hNamed : (s.nameGuard worker name g).2 = answer := by
      cases h
      rfl
    rw [← hNamed]
    by_contra hRefused
    have hNone := (nameGuard_refused (Bool.not_eq_false _ ▸ hRefused)).1
    cases hKernel hNone
  · rename_i c lock change _
    split at h
    · cases h
      rfl
    · rename_i cell _
      have hReleased : ∀ changed : Machine, changed.installed = s.installed →
          (changed.unlock worker lock).2.isRefusal = false := by
        intro changed hInstalled
        by_contra hRefused
        have hNone := (unlock_refused (Bool.not_eq_false _ ▸ hRefused)).1
        cases hKernel (hInstalled ▸ hNone)
      dsimp only at h
      split at h
      · cases h
        exact isRefusal_ofFaulty _ (change.apply_refuses cell.value)
      · cases h
        exact hReleased _ (by split <;> rfl)
  · cases h
  · cases h
    exact hResult

@[simp] theorem complete_fault (s : Machine) (worker : Worker) (next : Continuation) (f : Fault) :
    s.complete worker next (.fault f) = (s, .answered (.fault f)) := by
  cases next <;> rfl

/-- A call that gets past the first check is not refused. -/
theorem callFrom_not_refused {call : Call} {next : Continuation} {frames : List Frame}
    {answer : Result} (hKernel : s.installed = none → next = .plain)
    (hBegun : s.beginCall worker call = s.drive worker call permitsPerWorker)
    (h : s.callFrom worker call next frames = (s', some (.answered answer))) :
    answer.isRefusal = false := by
  unfold callFrom at h
  rw [hBegun] at h
  cases hDrive : s.drive worker call permitsPerWorker with
  | mk after driven =>
    cases driven with
    | asleep call' =>
      rw [hDrive] at h
      cases h
    | finished result =>
      have hEnd := drive_not_refused hDrive
      have hCompleted : after.complete worker next result = (s', .answered answer) := by
        rw [hDrive] at h
        dsimp only at h
        injection h with hAfter hAnswer
        rw [← hAfter, ← Option.some.inj hAnswer]
      exact complete_not_refused hEnd.1 (hEnd.2 ▸ hKernel) hCompleted

/-- Only the first check refuses a call, and nothing has happened then. -/
theorem callFrom_refused {call : Call} {next : Continuation} {frames : List Frame}
    {answer : Result} (hSleeps : call.isSleep = true → next = .plain)
    (h : s.callFrom worker call next frames = (s', some (.answered answer)))
    (hRefused : answer.isRefusal = true) :
    s' = s ∧ ∃ f, s.enter worker = .error f ∧ answer = .fault f := by
  by_contra hOtherwise
  have hAdmitted : answer.isRefusal = false := by
    cases hSleep : call.isSleep with
    | true =>
      refine callFrom_not_refused (fun _ => hSleeps hSleep) ?_ h
      rw [beginCall, hSleep, if_pos rfl]
    | false =>
      cases hEnter : s.enter worker with
      | ok =>
        refine callFrom_not_refused (fun hNone => ?_) ?_ h
        · rw [enter, hNone] at hEnter
          cases hEnter
        · rw [beginCall, hSleep, hEnter, if_neg nofun]
      | error f =>
        refine absurd ?_ hOtherwise
        rw [callFrom, beginCall, hSleep, hEnter, if_neg nofun] at h
        dsimp only at h
        rw [complete_fault] at h
        cases h
        exact ⟨rfl, f, hEnter, rfl⟩
  rw [hAdmitted] at hRefused
  cases hRefused

/-- An operation is refused on the spot, or by the first check of its call. -/
theorem runCommand_refused {a : Action} {answer : Result}
    (hSleeps : ∀ s₁ call next, s.perform worker a = (s₁, .calling call next) →
      call.isSleep = true → next = .plain)
    (h : s.runCommand worker (.action a) = (s', .finished answer))
    (hRefused : answer.isRefusal = true) :
    (∃ gathered, s.perform worker a = (s', .answered answer gathered)) ∨
      ∃ call next f, s.perform worker a = (s', .calling call next) ∧
        s'.enter worker = .error f ∧ answer = .fault f := by
  cases hPerform : s.perform worker a with
  | mk s₁ step =>
    cases step with
    | answered result gathered =>
      rw [runCommand_answered hPerform] at h
      cases h
      exact Or.inl ⟨gathered, rfl⟩
    | calling call next =>
      rw [runCommand_calling hPerform] at h
      split at h
      · cases h
      · rename_i hCalled
        cases h
        obtain ⟨rfl, f, hEnter, hAnswer⟩ :=
          callFrom_refused (hSleeps s₁ call next hPerform) hCalled hRefused
        exact Or.inr ⟨call, next, f, rfl, hEnter, hAnswer⟩
      · cases h
        cases hRefused

end Machine

-- ---------------------------------------------------------------------------
-- Refused in time, and too late
-- ---------------------------------------------------------------------------

/-- Refused in time, a call leaves everything untouched. -/
theorem untouched_of_early {a : Action} {answer : Result} (hEarly : a.comesLate = false)
    (h : s.runCommand worker (.action a) = (s', .finished answer))
    (hRefused : answer.isRefusal = true) : Untouched s s' := by
  have hHarmless : Harmless s (s.perform worker a) := Machine.harmless_perform hEarly
  have hSleeps : ∀ s₁ call next, s.perform worker a = (s₁, .calling call next) →
      call.isSleep = true → next = .plain := by
    intro s₁ call next hPerform
    rw [hPerform] at hHarmless
    exact hHarmless.2
  rcases Machine.runCommand_refused hSleeps h hRefused with
    ⟨gathered, hPerform⟩ | ⟨call, next, f, hPerform, -, -⟩
  · rw [hPerform] at hHarmless
    exact hHarmless hRefused
  · rw [hPerform] at hHarmless
    exact hHarmless.1

/-- The step by which an operation wakes whoever waits at a stream, if it takes one. -/
def ByteStream.wakingStep? (x : ByteStream) : StreamAction → Option (Outcome ByteStream Unit)
  | .flush => x.flush
  | .close => some x.close
  | .reset => some x.reset
  | _ => none

/-- An operation is refused too late, with a fault, and leaves a machine behind in which its
step has been taken. -/
inductive Late (s : Machine) (worker : Worker) : Action → Fault → Machine → Prop
  /-- Whoever waits at a stream is to be woken, and there is no kernel. -/
  | waking {id : Name} {r : Ref} {x : ByteStream} {a : StreamAction} {o : Outcome ByteStream Unit} :
      s.named? ByteStream id = some (r, x) → x.wakingStep? a = some o → s.installed = none →
      Late s worker (.stream id a) .kernelMissing (s.settle r o)
  /-- A party at a barrier, inside a handler, has to wait for others. -/
  | arriving {id : Name} {r : Ref} {g : EventGroup} {bits waitFor : EventBits} {wait : Ticks} :
      s.named? EventGroup id = some (r, g) →
      s.contract (Machine.checkWait waitFor (bits ||| waitFor)) = .ok () →
      s.enter worker = .error .blockingInInterrupt →
      (g.arrive (s.currentTask worker).2 bits waitFor wait).answer = none →
      Late s worker (.events id (.arrive bits waitFor wait)) .blockingInInterrupt
        ((s.currentTask worker).1.settle r (g.arrive (s.currentTask worker).2 bits waitFor wait))

namespace Machine

variable {x : ByteStream} {o : Outcome ByteStream Unit} {a : StreamAction}

theorem perform_waking (hAt : s.named? ByteStream id = some (r, x))
    (hStep : x.wakingStep? a = some o) :
    s.perform worker (.stream id a) = s.finishWakingAll r o := by
  cases a with
  | flush =>
    have hFlush : x.flush = some o := hStep
    show s.onObject ByteStream id _ = _
    rw [onObject_eq hAt, hFlush]
  | close | reset =>
    cases hStep
    exact onObject_eq hAt _
  | _ => cases hStep

/-- Without a step to take there is nothing to refuse. -/
theorem perform_not_waking (hLate : (Action.stream id a).comesLate = true)
    (hAt : s.named? ByteStream id = some (r, x)) (hStep : x.wakingStep? a = none) :
    s.perform worker (.stream id a) = s.finish (.ok .done) := by
  cases a with
  | flush =>
    have hFlush : x.flush = none := hStep
    show s.onObject ByteStream id _ = _
    rw [onObject_eq hAt, hFlush]
  | close | reset => cases hStep
  | _ => cases hLate

/-- The first check of a call finds that there is no kernel, or that a handler is running. -/
theorem enter_eq_error {f : Fault} (h : s.enter worker = .error f) :
    s.installed = none ∧ f = .kernelMissing ∨
      s.inInterrupt worker = true ∧ f = .blockingInInterrupt := by
  unfold enter at h
  split at h
  · rename_i hNone
    cases h
    exact Or.inl ⟨Option.isNone_iff_eq_none.mp hNone, rfl⟩
  · split at h
    · rename_i hInside
      cases h
      exact Or.inr ⟨(Bool.and_eq_true_iff.mp hInside).2, rfl⟩
    · cases h

/-- A step on an object changes nothing about who may begin a call. -/
@[simp] theorem enter_settle {σ α : Type} [Stored σ] (s : Machine) (r : Ref) (o : Outcome σ α)
    (worker : Worker) : (s.settle r o).enter worker = s.enter worker := by
  rw [settle_eq]
  rfl

/-- Nor does the number of a worker. -/
@[simp] theorem enter_currentTask (s : Machine) (other worker : Worker) :
    (s.currentTask other).1.enter worker = s.enter worker := by
  rcases currentTask_cases s other with hSame | hNumbered
  · rw [hSame]
  · rw [hNumbered]
    rfl

section Arrival

variable {g : EventGroup} {bits waitFor : EventBits} {wait : Ticks}

/-- An arrival that is decided at once. -/
theorem perform_decided (hAt : s.named? EventGroup id = some (r, g))
    (hKept : s.contract (checkWait waitFor (bits ||| waitFor)) = .ok ())
    (hKernel : s.installed ≠ none) {decided : Except EventBits EventBits}
    (hAnswer : (g.arrive (s.currentTask worker).2 bits waitFor wait).answer = some decided) :
    s.perform worker (.events id (.arrive bits waitFor wait)) =
      ((s.currentTask worker).1.settle r
        (g.arrive (s.currentTask worker).2 bits waitFor wait)).finish
        (.ofExcept .eventTimeout (fun b => .number b.toNat) decided) := by
  have hSome : ¬ s.installed.isNone = true := by simpa using hKernel
  show s.onObject EventGroup id _ = _
  rw [onObject_eq hAt, hKept]
  dsimp only
  rw [if_neg hSome, hAnswer]

/-- An arrival after which the party has to wait. -/
theorem perform_undecided (hAt : s.named? EventGroup id = some (r, g))
    (hKept : s.contract (checkWait waitFor (bits ||| waitFor)) = .ok ())
    (hKernel : s.installed ≠ none)
    (hAnswer : (g.arrive (s.currentTask worker).2 bits waitFor wait).answer = none) :
    ∃ call : Call, call.isSleep = false ∧
      s.perform worker (.events id (.arrive bits waitFor wait)) =
        ((s.currentTask worker).1.settle r
          (g.arrive (s.currentTask worker).2 bits waitFor wait), .calling call .plain) := by
  have hSome : ¬ s.installed.isNone = true := by simpa using hKernel
  refine ⟨.events r (.start (EventGroup.barrierWish waitFor) wait
    ((s.currentTask worker).1.settle r
      (g.arrive (s.currentTask worker).2 bits waitFor wait)).now), rfl, ?_⟩
  show s.onObject EventGroup id _ = _
  rw [onObject_eq hAt, hKept]
  dsimp only
  rw [if_neg hSome, hAnswer]

end Arrival

end Machine

/-- A call that is refused at its first check. -/
theorem Machine.runCommand_of_enter {a : Action} {call : Call} {f : Fault}
    (hPerform : s.perform worker a = (s', .calling call .plain)) (hWaits : call.isSleep = false)
    (hEnter : s'.enter worker = .error f) :
    s.runCommand worker (.action a) = (s', .finished (.fault f)) := by
  have hCall : s'.callFrom worker call .plain [⟨.operation, [], []⟩] =
      (s', some (.answered (.fault f))) := by
    rw [Machine.callFrom, Machine.beginCall, hWaits, if_neg nofun, hEnter]
    rfl
  rw [Machine.runCommand_calling hPerform, hCall]

/-- Each of the four operations that are refused too late leaves its step behind. -/
theorem Late.runCommand {a : Action} {f : Fault} (h : Late s worker a f s') :
    s.runCommand worker (.action a) = (s', .finished (.fault f)) ∧ f.refuses = true := by
  cases h with
  | @waking id r x a o hAt hStep hKernel =>
    have hPerform : s.perform worker (.stream id a) = s.finishWakingAll r o :=
      Machine.perform_waking hAt hStep
    rw [Machine.finishWakingAll, hKernel] at hPerform
    exact ⟨Machine.runCommand_answered hPerform, rfl⟩
  | @arriving id r g bits waitFor wait hAt hKept hEnter hUndecided =>
    have hKernel : s.installed ≠ none := by
      intro hNone
      rw [Machine.enter, hNone] at hEnter
      cases hEnter
    obtain ⟨call, hWaits, hPerform⟩ := Machine.perform_undecided hAt hKept hKernel hUndecided
    refine ⟨Machine.runCommand_of_enter hPerform hWaits ?_, rfl⟩
    rw [Machine.enter_settle, Machine.enter_currentTask, hEnter]

/-- Byte streams: a step that was to wake others is refused too late. -/
theorem late_of_stream {a : StreamAction} {f : Fault}
    (hLate : (Action.stream id a).comesLate = true)
    (hRun : s.runCommand worker (.action (.stream id a)) = (s', .finished (.fault f))) :
    Late s worker (.stream id a) f s' := by
  cases hAt : s.named? ByteStream id with
  | none =>
    have hPerform : s.perform worker (.stream id a) = s.noObject := by
      cases a with
      | flush | close | reset =>
        show s.onObject ByteStream id _ = _
        rw [Machine.onObject, hAt]
      | _ => cases hLate
    rw [Machine.runCommand_answered hPerform] at hRun
    cases hRun
  | some found =>
    obtain ⟨r, x⟩ := found
    cases hStep : x.wakingStep? a with
    | none =>
      rw [Machine.runCommand_answered (Machine.perform_not_waking hLate hAt hStep)] at hRun
      cases hRun
    | some o =>
      have hPerform : s.perform worker (.stream id a) = s.finishWakingAll r o :=
      Machine.perform_waking hAt hStep
      rw [Machine.finishWakingAll] at hPerform
      rw [Machine.runCommand_answered hPerform] at hRun
      split at hRun
      · rename_i hKernel
        cases hRun
        exact .waking hAt hStep (Option.isNone_iff_eq_none.mp hKernel)
      · cases hRun

/-- An arrival that has to wait is refused when it has left its step behind. -/
theorem late_of_undecided {r : Ref} {g : EventGroup} {bits waitFor : EventBits} {wait : Ticks}
    {f : Fault} (hAt : s.named? EventGroup id = some (r, g))
    (hKept : s.contract (Machine.checkWait waitFor (bits ||| waitFor)) = .ok ())
    (hKernel : s.installed ≠ none)
    (hAnswer : (g.arrive (s.currentTask worker).2 bits waitFor wait).answer = none)
    (hRun : s.runCommand worker (.action (.events id (.arrive bits waitFor wait))) =
      (s', .finished (.fault f))) (hRefuses : f.refuses = true) :
    Late s worker (.events id (.arrive bits waitFor wait)) f s' := by
  obtain ⟨call, hWaits, hPerform⟩ := Machine.perform_undecided hAt hKept hKernel hAnswer
  have hPlain : ∀ s₁ c next, s.perform worker (.events id (.arrive bits waitFor wait)) =
      (s₁, .calling c next) → c.isSleep = true → next = .plain := by
    intro s₁ c next hCalled _
    rw [hPerform] at hCalled
    cases hCalled
    rfl
  rcases Machine.runCommand_refused hPlain hRun hRefuses with
    ⟨_, hOther⟩ | ⟨_, _, breach, hCalled, hEnter, hFault⟩
  · rw [hPerform] at hOther
    cases hOther
  · rw [hPerform] at hCalled
    cases hCalled
    cases hFault
    rw [Machine.enter_settle, Machine.enter_currentTask] at hEnter
    rcases Machine.enter_eq_error hEnter with ⟨hNone, -⟩ | ⟨hHandler, rfl⟩
    · exact absurd hNone hKernel
    · exact .arriving hAt hKept hEnter hAnswer

/-- Barriers: an arrival is refused at its first check, or after it. -/
theorem untouched_or_late_of_arrival {bits waitFor : EventBits} {wait : Ticks} {f : Fault}
    (hRun : s.runCommand worker (.action (.events id (.arrive bits waitFor wait))) =
      (s', .finished (.fault f))) (hRefuses : f.refuses = true) :
    Untouched s s' ∨ Late s worker (.events id (.arrive bits waitFor wait)) f s' := by
  have hStill : ∀ result : Result, s.perform worker (.events id (.arrive bits waitFor wait)) =
      s.finish result → Untouched s s' := by
    intro result hPerform
    rw [Machine.runCommand_answered hPerform] at hRun
    cases hRun
    exact .refl s
  cases hAt : s.named? EventGroup id with
  | none =>
    refine Or.inl (hStill Machine.missing ?_)
    show s.onObject EventGroup id _ = _
    rw [Machine.onObject, hAt]
    rfl
  | some found =>
    obtain ⟨r, g⟩ := found
    cases hKept : s.contract (Machine.checkWait waitFor (bits ||| waitFor)) with
    | error breach =>
      refine Or.inl (hStill (.fault breach) ?_)
      show s.onObject EventGroup id _ = _
      rw [Machine.onObject_eq hAt, hKept]
    | ok =>
      by_cases hKernel : s.installed = none
      · refine Or.inl (hStill (.fault .kernelMissing) ?_)
        show s.onObject EventGroup id _ = _
        rw [Machine.onObject_eq hAt, hKept, hKernel]
        rfl
      · cases hAnswer : (g.arrive (s.currentTask worker).2 bits waitFor wait).answer with
        | some decided =>
          rw [Machine.runCommand_answered
            (Machine.perform_decided hAt hKept hKernel hAnswer)] at hRun
          cases decided <;> cases hRun
        | none =>
          exact Or.inr (late_of_undecided hAt hKept hKernel hAnswer hRun hRefuses)

/-- A call that is refused leaves everything that tasks can wait at untouched, unless it is one of
the four that are refused too late; and these are refused, and leave behind what `Late` says. -/
theorem untouched_or_late (s : Machine) (worker : Worker) (a : Action) (f : Fault) (s' : Machine) :
    (s.runCommand worker (.action a) = (s', .finished (.fault f)) → f.refuses = true →
      Untouched s s' ∨ Late s worker a f s') ∧
    (Late s worker a f s' →
      s.runCommand worker (.action a) = (s', .finished (.fault f)) ∧ f.refuses = true) := by
  refine ⟨fun hRun hRefuses => ?_, Late.runCommand⟩
  cases hLate : a.comesLate with
  | false => exact Or.inl (untouched_of_early hLate hRun hRefuses)
  | true =>
    cases a with
    | stream id a => exact Or.inr (late_of_stream hLate hRun)
    | events id a =>
      cases a with
      | arrive bits waitFor wait => exact untouched_or_late_of_arrival hRun hRefuses
      | _ => cases hLate
    | _ => cases hLate

/-- A machine with one event group, inside an interrupt handler. -/
def handling : Machine :=
  { (Machine.boot true (some .simulated) 0).create "g" (EventGroup.create 0) with
    inHandler := true }

/-- The party sets its bit and is entered into the wait table before it is refused. -/
theorem untouched_or_late_arrivalInHandler :
    ∃ s', handling.runCommand 1 (.action (.events "g" (.arrive 1 3 5))) =
        (s', .finished (.fault .blockingInInterrupt)) ∧
      Fault.blockingInInterrupt.refuses = true ∧ ¬ Untouched handling s' ∧
      Late handling 1 (.events "g" (.arrive 1 3 5)) .blockingInInterrupt s' := by
  have hLate : Late handling 1 (.events "g" (.arrive 1 3 5)) .blockingInInterrupt
      (handling.settle 1 ((EventGroup.create 0).arrive ⟨1⟩ 1 3 5)) :=
    .arriving rfl rfl rfl (by decide)
  have hRun := hLate.runCommand.1
  have hTouched : ¬ Untouched handling
      (handling.settle 1 ((EventGroup.create 0).arrive ⟨1⟩ 1 3 5)) := by
    intro h
    have hSame := h 1 (.events (EventGroup.create 0)) rfl rfl
    cases hSame
  exact ⟨_, hRun, rfl, hTouched,
    ((untouched_or_late handling 1 _ _ _).1 hRun rfl).resolve_left hTouched⟩

/-- A stream is closed by a call that is refused because there is no kernel. -/
theorem closed_by_refused_call :
    ∃ x s', ByteStream.create .standard 4 1 = .ok x ∧
      ((Machine.boot true none 0).create "s" x).runCommand 1 (.action (.stream "s" .close)) =
        (s', .finished (.fault .kernelMissing)) ∧
      ¬ Untouched ((Machine.boot true none 0).create "s" x) s' := by
  refine ⟨_, _, rfl, (Late.waking (r := 1) rfl rfl rfl).runCommand.1, fun h => ?_⟩
  have := h 1 _ rfl rfl
  cases this

end TaskSync
