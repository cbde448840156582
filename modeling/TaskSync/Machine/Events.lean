import TaskSync.Machine.Step

/-!
# TaskSync — operations on event groups, signals and watches

How a machine carries out the operations on objects that tell of changes. Bits
are checked before anything is done with them. A party that arrives at a
barrier has set its bits before it is known whether it may wait for the others.
-/

namespace TaskSync

namespace Machine

/-- Whether bits may be waited for. -/
def checkWait (wanted all : EventBits) : Except Fault Unit := do
  EventGroup.checkWanted wanted
  EventGroup.checkBits all

def performEvents (s : Machine) (worker : Worker) (id : Name) : EventAction → Machine × Step
  | .create bits => (s.create id (EventGroup.create bits)).finish (.ok .done)
  | .get => s.onObject EventGroup id fun _ g => s.finish (.ok (.number g.bits.toNat))
  | .set bits => s.onObject EventGroup id fun r g =>
    match s.contract (EventGroup.checkBits bits) with
    | .error f => s.finish (.fault f)
    | .ok () => s.finishStep r (g.set bits) fun now => .ok (.number now.toNat)
  | .clear bits => s.onObject EventGroup id fun r g =>
    s.finishStep r (g.clear bits) fun before => .ok (.number before.toNat)
  | .wait wish wait => s.onObject EventGroup id fun r _ =>
    match s.contract (checkWait wish.wanted wish.wanted) with
    | .error f => s.finish (.fault f)
    | .ok () => (s, .calling (.events r (.start wish wait s.now)) .plain)
  | .arrive bits waitFor wait => s.onObject EventGroup id fun r g =>
    match s.contract (checkWait waitFor (bits ||| waitFor)) with
    | .error f => s.finish (.fault f)
    | .ok () =>
      if s.installed.isNone then s.finish (.fault .kernelMissing)
      else
        let (s, task) := s.currentTask worker
        let o := g.arrive task bits waitFor wait
        let s := s.settle r o
        match o.answer with
        | some decided => s.finish (.ofExcept .eventTimeout (fun b => .number b.toNat) decided)
        | none =>
          (s, .calling (.events r (.start (EventGroup.barrierWish waitFor) wait s.now)) .plain)
  | .setDeferring bits => s.onObject EventGroup id fun r g =>
    match s.contract (EventGroup.checkBits bits) with
    | .error f => s.finish (.fault f)
    | .ok () =>
      s.finishDeferring r ((g.set bits).map Except.ok) Failure.eventTimeout fun now => .number now.toNat

def performSignal (s : Machine) (id : Name) : SignalAction → Machine × Step
  | .create value => (s.create id (Signal.create value)).finish (.ok .done)
  | .get => s.onObject (Signal Datum) id fun _ x => s.finish (.ok (.datum x.value))
  | .set value => s.onObject (Signal Datum) id fun r x =>
    s.finishStep r (x.set value) fun _ => .ok .done
  | .watch watch => s.onObject (Signal Datum) id fun r _ =>
    (s.create watch (⟨r, none⟩ : Watch)).finish (.ok .done)
  | .setDeferring value => s.onObject (Signal Datum) id fun r x =>
    let o := x.set value
    let needWake := !o.tasks.isEmpty
    (s.settleDeferring r o, .answered (.ok (.flag needWake)) ⟨needWake, false⟩)

/-- The answer that is a value or nothing. -/
def datumAnswer : Option Datum → Answer
  | some value => .datum value
  | none => .done

def performWatch (s : Machine) (id : Name) : WatchAction → Machine × Step
  | .seen => s.onObject Watch id fun _ w => s.finish (.ok (datumAnswer w.seen))
  | .glance => s.onObject Watch id fun r w =>
    match s.get? (Signal Datum) w.signal with
    | none => s.noObject
    | some x =>
      match x.changed? w.seen with
      | none => s.finish (.ok .done)
      | some value => (s.put r { w with seen := some value }).finish (.ok (.datum value))
  | .wait wait => s.onObject Watch id fun r w =>
    (s, .calling (.watch r w.signal (.start ⟨w.seen⟩ wait s.now)) .plain)
  | .waitLater future => s.onObject Watch id fun r _ => s.addFuture future (.watch r none)

end Machine

end TaskSync
