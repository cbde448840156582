import TaskSync.Machine.Run

/-!
# TaskSync — turns of a stack of frames

`Machine.runFrames` goes on turn by turn: it carries out a command of the
innermost frame, opens a block for it, or closes the frame. Each turn is an
equation here, so that proofs about runs of commands name the turn they are
about.
-/

namespace TaskSync

namespace Machine

variable {s s' : Machine} {worker : Worker} {block : Block} {results : List Result}
  {rest : List Command} {frames : List Frame} {r : Result}

/-- An action that is answered on the spot. -/
theorem runFrames_answered {a : Action} {gathered : InterruptContext}
    (hPerform : s.perform worker a = (s', .answered r gathered)) :
    s.runFrames worker (⟨block, results, .action a :: rest⟩ :: frames) =
      s'.runFrames worker
        (addGathered gathered (recordTop r (⟨block, results, rest⟩ :: frames))) := by
  conv =>
    lhs
    rw [runFrames, hPerform]

/-- A block that is opened on the spot. -/
theorem runFrames_opened {kind : BlockKind} {body : List Command} {inner : Block}
    (hOpen : s.openBlock worker body kind = (s', .opened inner)) :
    s.runFrames worker (⟨block, results, .block kind body :: rest⟩ :: frames) =
      s'.runFrames worker (⟨inner, [], body⟩ :: ⟨block, results, rest⟩ :: frames) := by
  conv =>
    lhs
    rw [runFrames, hOpen]

/-- The end of a block inside another. -/
theorem runFrames_closed (hClose : s.closeBlock worker results block = (s', r)) (f : Frame) :
    s.runFrames worker (⟨block, results, []⟩ :: f :: frames) =
      s'.runFrames worker (f.record r :: frames) := by
  conv =>
    lhs
    rw [runFrames, hClose]

/-- The end of an operation that is a single command. -/
theorem runFrames_operation :
    s.runFrames worker [⟨.operation, [r], []⟩] = (s, .finished r) := by
  rw [runFrames, closeBlock]
  rfl

-- ---------------------------------------------------------------------------
-- Operations that are a single action
-- ---------------------------------------------------------------------------

variable {a : Action}

/-- An action that is answered on the spot. -/
theorem runCommand_answered {gathered : InterruptContext}
    (hPerform : s.perform worker a = (s', .answered r gathered)) :
    s.runCommand worker (.action a) = (s', .finished r) := by
  unfold runCommand
  rw [runFrames_answered hPerform]
  exact runFrames_operation

/-- An action that comes down to a call. -/
theorem runCommand_calling {call : Call} {next : Continuation}
    (hPerform : s.perform worker a = (s', .calling call next)) :
    s.runCommand worker (.action a) =
      match s'.callFrom worker call next [⟨.operation, [], []⟩] with
      | (s, none) => (s, .asleep)
      | (s, some (.answered r)) => (s, .finished r)
      | (s, some (.opened ..)) => (s, .finished missing) := by
  unfold runCommand
  rw [runFrames, hPerform]
  simp only
  generalize s'.callFrom worker call next _ = begun
  obtain ⟨s'', _ | _ | _⟩ := begun
  · rfl
  · exact runFrames_operation
  · exact runFrames_operation

/-- A call that is finished at its first look. -/
theorem beginCall_of_round {call : Call} (hEnter : s.enter worker = .ok ())
    (hWaits : call.isSleep = false)
    (hRound : (s.currentTask worker).1.round (s.currentTask worker).2 call = (s', .finished r)) :
    s.beginCall worker call = (s', .finished r) := by
  unfold beginCall drive callerTask
  simp only [hWaits, hEnter, Bool.false_eq_true, if_false, hRound]

end Machine

end TaskSync
