import TaskSync.Machine.Step

/-!
# TaskSync — operations on rings, queues and streams

How a machine carries out the operations on objects that pass bytes. A queue
checks the size of an item before it looks for a kernel, and a receive into a
buffer without room is answered without looking at all; what is left comes down
to a step on the object or to a blocking call.
-/

namespace TaskSync

namespace Machine

def performRing (s : Machine) (id : Name) : RingAction → Machine × Step
  | .create capacity =>
    s.finishCreate id
      ((ByteRing.create s.allocator capacity).mapError AllocationRefused.toCreateError)
  | .write data => s.onObject ByteRing id fun r ring =>
    let (ring, written) := ring.write data
    (s.put r ring).finish (.ok (.number written))
  | .read room => s.onObject ByteRing id fun r ring =>
    let (data, ring) := ring.read room
    (s.put r ring).finish (.ok (.read data.length (fillFront room blankByte data)))
  | .discard n => s.onObject ByteRing id fun r ring => (s.put r (ring.discard n)).finish (.ok .done)
  | .clear => s.onObject ByteRing id fun r ring => (s.put r ring.clear).finish (.ok .done)

def performQueue (s : Machine) (id : Name) : QueueAction → Machine × Step
  | .create capacity itemSize => s.finishCreate id (Queue.create s.allocator capacity itemSize)
  | .send item wait brief => s.onObject Queue id fun r q =>
    match q.checkSize item.length with
    | .error e => s.finish (if brief then .ok (.flag false) else .error (.queue e))
    | .ok () =>
      (s, .calling (.queueSend r (.start ⟨item⟩ wait s.now)) (if brief then .brief else .plain))
  | .receive size wait brief => s.onObject Queue id fun r q =>
    let size := size.getD q.itemSize
    match q.checkSize size with
    | .error e =>
      s.finish (if brief then .ok (.received false (fillFront size blankByte []))
        else .error (.queue e))
    | .ok () =>
      (s, .calling (.queueReceive r (.start {} wait s.now))
        (if brief then .buffer size else .plain))
  | .sendLater future item => s.onObject Queue id fun r _ => s.addFuture future (.queueSend r item)
  | .receiveLater future size => s.onObject Queue id fun r q =>
    s.addFuture future (.queueReceive r (size.getD q.itemSize))
  | .sendDeferring item brief => s.onObject Queue id fun r q =>
    let o := q.sendNow item
    if brief then
      let needWake := !o.tasks.isEmpty
      (s.settleDeferring r o, .answered (.ok (.flag o.answer.isOk)) ⟨needWake, needWake⟩)
    else s.finishDeferring r o .queue fun _ => .done
  | .overwriteDeferring item => s.onObject Queue id fun r q =>
    s.finishDeferring r (q.sendOverwriting item) .queue .flag
  | .receiveDeferring size => s.onObject Queue id fun r q =>
    s.finishDeferring r (q.receiveNow (size.getD q.itemSize)) .queue .bytes
  | .delete => s.onObject Queue id fun _ q =>
    (s.remove id).finish (.ofCheck (s.contract q.checkDelete))

/-- The end of a step that wakes whoever waits, which needs a kernel even if nobody does. -/
def finishWakingAll (s : Machine) (r : Ref) (o : Outcome ByteStream Unit) : Machine × Step :=
  (s.settle r o).finish (if s.installed.isNone then .fault .kernelMissing else .ok .done)

def performStream (s : Machine) (id : Name) : StreamAction → Machine × Step
  | .create capacity trigger => s.finishCreate id (ByteStream.create s.allocator capacity trigger)
  | .send data wait => s.onObject ByteStream id fun r _ =>
    (s, .calling (.streamSend r (.start ⟨data⟩ wait s.now)) .plain)
  | .receive room wait => s.onObject ByteStream id fun r _ =>
    if room = 0 then s.finish (.ok (.bytes []))
    else (s, .calling (.streamReceive r (.start ⟨room⟩ wait s.now)) .plain)
  | .sendLater future data => s.onObject ByteStream id fun r _ =>
    s.addFuture future (.streamSend r data)
  | .receiveLater future room => s.onObject ByteStream id fun r _ =>
    s.addFuture future (.streamReceive r room false)
  | .flush => s.onObject ByteStream id fun r x =>
    match x.flush with
    | none => s.finish (.ok .done)
    | some o => s.finishWakingAll r o
  | .close => s.onObject ByteStream id fun r x => s.finishWakingAll r x.close
  | .reset => s.onObject ByteStream id fun r x => s.finishWakingAll r x.reset
  | .setTrigger level => s.onObject ByteStream id fun r x =>
    s.finishStep r (x.setTrigger level) (.ofExcept .stream fun _ => .done)
  | .sendDeferring data => s.onObject ByteStream id fun r x =>
    s.finishDeferring r (x.sendNow data) .stream .number
  | .receiveDeferring room => s.onObject ByteStream id fun r x =>
    s.finishDeferring r (x.receiveNow room) .stream .bytes

end Machine

end TaskSync
