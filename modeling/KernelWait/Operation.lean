import KernelWait.Kernel

/-!
# Operations

What threads do to the kernel outside of waiting: to objects, to the queues of objects, to signals,
and the passing of time. Operations are data, so that a history is a list of them and its effect a
fold.

**The effect of a history is that of its parts in turn** (`Operation.runAll_append`).
-/

namespace KernelWait

/-- One thing that a thread does to the kernel. -/
inductive Operation where
  /-- create and list an object -/
  | create (blueprint : Object.Blueprint)
  /-- act on an object, listed or not -/
  | act (target : Target) (action : Object.Action)
  /-- let a ticket join the queue of an object -/
  | enroll (target : Target) (interest : Events) (waker : Waker)
  /-- withdraw a ticket from the queue of an object -/
  | disenroll (target : Target) (token : Token)
  /-- delete a listed semaphore -/
  | deleteSemaphore (id : ObjectId)
  /-- delete a listed port -/
  | deletePort (id : ObjectId)
  /-- close a listed endpoint -/
  | closeEndpoint (id : ObjectId)
  /-- end a listed thread -/
  | exitThread (id : ObjectId) (status : Int32)
  /-- take an exited thread out of the directory -/
  | reapThread (id : ObjectId)
  /-- send a signal -/
  | send (sender receiver : ThreadId) (signal : Signal)
  /-- block a signal -/
  | block (thread : ThreadId) (signal : Signal)
  /-- block a signal no longer -/
  | unblock (thread : ThreadId) (signal : Signal)
  /-- take the deliverable signals -/
  | take (thread : ThreadId)
  /-- throw the pending signals away -/
  | clear (thread : ThreadId)
  /-- forget all signals of a thread -/
  | cleanup (thread : ThreadId)
  /-- let signals abort a session -/
  | register (thread : ThreadId) (session : SessionId)
  /-- let signals abort no session -/
  | unregister (thread : ThreadId)
  /-- read the clock -/
  | tell
  /-- let time pass -/
  | elapse (nanos : Nat)
  deriving DecidableEq, Repr

/-- The answer to an operation. -/
inductive Answer where
  /-- there is no such object -/
  | absent
  /-- an object's answer -/
  | object (answer : ObjectAnswer)
  /-- the number of a new object -/
  | created (id : ObjectId)
  /-- the status of a reaped thread -/
  | status (status : Int32)
  /-- what became of an attempt to join a queue -/
  | enrollment (enrollment : Enrollment)
  /-- whether a ticket was in the queue -/
  | found (was : Bool)
  /-- done -/
  | done
  /-- a signal operation is refused -/
  | refused (cause : SignalError)
  /-- the signals taken -/
  | taken (signals : List PendingSignal)
  /-- how many signals were thrown away -/
  | discarded (count : Nat)
  /-- the time stamp of the present moment -/
  | time (stamp : Int64)
  deriving DecidableEq, Repr

namespace Answer

/-- The answer to a signal operation. -/
def ofSignal : Except SignalError Unit → Answer
  | .ok _ => done
  | .error cause => refused cause

/-- The answer to the reaping of a thread. -/
def ofReap : Except ObjectError Int32 → Answer
  | .ok s => status s
  | .error cause => object (.refused cause)

end Answer

namespace Operation

/-- Carries an operation out. -/
def run (k : Kernel) : Operation → Kernel × Answer
  | create blueprint =>
    let (k', id) := k.create blueprint
    (k', .created id)
  | act target action =>
    match k.act target action with
    | (k', some answer) => (k', .object answer)
    | (k', none) => (k', .absent)
  | enroll target interest waker =>
    match k.enroll target interest waker with
    | (k', some enrollment) => (k', .enrollment enrollment)
    | (k', none) => (k', .absent)
  | disenroll target token =>
    let (k', found) := k.disenroll target token
    (k', .found found)
  | deleteSemaphore id =>
    let (k', answer) := k.deleteSemaphore id
    (k', .object answer)
  | deletePort id =>
    let (k', answer) := k.deletePort id
    (k', .object answer)
  | closeEndpoint id =>
    let (k', answer) := k.closeEndpoint id
    (k', .object answer)
  | exitThread id status =>
    let (k', answer) := k.exitThread id status
    (k', .object answer)
  | reapThread id =>
    let (k', answer) := k.reapThread id
    (k', .ofReap answer)
  | send sender receiver signal =>
    let (k', answer) := k.send sender receiver signal
    (k', .ofSignal answer)
  | block thread signal =>
    let (k', answer) := k.block thread signal
    (k', .ofSignal answer)
  | unblock thread signal => (k.unblock thread signal, .done)
  | take thread =>
    let (signals, taken) := k.signals.take thread
    ({ k with signals := signals }, .taken taken)
  | clear thread =>
    let (signals, count) := k.signals.clear thread
    ({ k with signals := signals }, .discarded count)
  | cleanup thread =>
    let (signals, count) := k.signals.cleanup thread
    ({ k with signals := signals }, .discarded count)
  | register thread session => ({ k with signals := k.signals.register thread session }, .done)
  | unregister thread => ({ k with signals := k.signals.unregister thread }, .done)
  | tell =>
    let (k', stamp) := k.tell
    (k', .time stamp)
  | elapse nanos => (k.elapse nanos, .done)

/-- The kernel after an operation. -/
def effect (k : Kernel) (op : Operation) : Kernel := (op.run k).1

/-- The kernel after a history of operations. -/
def runAll (k : Kernel) (ops : List Operation) : Kernel := ops.foldl effect k

@[simp] theorem runAll_nil (k : Kernel) : runAll k [] = k := rfl

@[simp] theorem runAll_cons (k : Kernel) (op : Operation) (ops : List Operation) :
    runAll k (op :: ops) = runAll (effect k op) ops := rfl

theorem runAll_append (k : Kernel) (ops later : List Operation) :
    runAll k (ops ++ later) = runAll (runAll k ops) later :=
  List.foldl_append

end Operation

end KernelWait
