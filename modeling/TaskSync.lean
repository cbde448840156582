import TaskSync.Machine.Control
import TaskSync.Queue.Items
import TaskSync.EventGroup.Sweep
import TaskSync.EventGroup.Table
import TaskSync.Proofs.Runs.Crew
import TaskSync.Proofs.Runs.Rounds
import TaskSync.Proofs.Runs.World
import TaskSync.Proofs.Runs.Executor
import TaskSync.Proofs.Queue.Fifo
import TaskSync.Proofs.Queue.Wakeups
import TaskSync.Proofs.Queue.Machine
import TaskSync.Proofs.ByteStream.Delivery
import TaskSync.Proofs.ByteStream.Waiters
import TaskSync.Proofs.ByteStream.Machine
import TaskSync.Proofs.Mutex.Ownership
import TaskSync.Proofs.Mutex.Wakeups
import TaskSync.Proofs.Mutex.Machine
import TaskSync.Proofs.EventGroup.Firing
import TaskSync.Proofs.EventGroup.Barrier
import TaskSync.Proofs.EventGroup.Rounds
import TaskSync.Proofs.EventGroup.Machine
import TaskSync.Proofs.Runs.Since
import TaskSync.Proofs.Mutex.Order
import TaskSync.Proofs.ByteStream.Receiving
import TaskSync.Proofs.ByteStream.Flush
import TaskSync.Proofs.ByteStream.Standoff
import TaskSync.Proofs.Signal.Runs
import TaskSync.Proofs.Futures
import TaskSync.Proofs.Signal.Changes
import TaskSync.Proofs.Signal.Machine
import TaskSync.Proofs.ByteStream.Roster
import TaskSync.Proofs.EventGroup.Roster
import TaskSync.Proofs.Mutex.Roster
import TaskSync.Proofs.Mutex.Tenancy
import TaskSync.Proofs.Queue.Roster
import TaskSync.Proofs.Runs.System
import TaskSync.Proofs.Signal.Roster
import TaskSync.Proofs.WaitLists
import TaskSync.Proofs.Runs.Frames
import TaskSync.Proofs.Interrupts.Wakes
import TaskSync.Proofs.Interrupts.Registrations
import TaskSync.Proofs.Interrupts.Handlers
import TaskSync.Proofs.Interrupts.Twins
import TaskSync.Proofs.Refusals.Late
import TaskSync.Proofs.GlobalLock.Serial
import TaskSync.Proofs.GlobalLock.Serialised
import TaskSync.Proofs.GlobalLock.Machine
import TaskSync.Proofs.ByteRing.BoundedList
import TaskSync.Proofs.TaskMutex.Machine
import TaskSync.Proofs.Waits.Deadlines
import TaskSync.Proofs.Waits.Traces
import TaskSync.Proofs.Waits.Machine
import TaskSync.Proofs.EventGroup.Evaluation
import TaskSync.Proofs.EventGroup.ControlByte
import TaskSync.Proofs.Signal.Latest
import TaskSync.Proofs.Waits.Conversions
import TaskSync.Proofs.WaitList.Registrations
import TaskSync.Proofs.Interrupts.Nesting
import TaskSync.Proofs.Spinlock.Guards
