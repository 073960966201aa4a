import KernelWait.Registry
import KernelWait.Signal.Table

/-!
# The kernel

All that threads share: the objects with their queues, the signals, the sessions of the waits in
progress, and the clock. Each function here is one step that no other thread can interrupt.

**Objects reach sessions only through queues, and signals only through the active wait of a
thread**: nothing else here touches a notifier.
-/

namespace KernelWait

/-- All that threads share. -/
structure Kernel where
  /-- the objects and their directory -/
  registry : Registry := {}
  /-- the signals of all threads -/
  signals : SignalTable := {}
  /-- the sessions of the waits in progress -/
  sessions : SessionTable := {}
  /-- the time -/
  clock : Clock
  deriving Repr

namespace Kernel

/-! ## Objects -/

/-- What an object is ready for; an object that never was is ready for nothing. -/
def readiness (k : Kernel) (target : Target) : Events :=
  match k.registry.get? target with
  | some e => e.readiness
  | none => ∅

/-- Creates and lists an object; the answer is its number. -/
def create (k : Kernel) (blueprint : Object.Blueprint) : Kernel × ObjectId :=
  let (registry, id) := k.registry.create (.ofBlueprint blueprint)
  ({ k with registry := registry }, id)

/-- Performs an action on an object. There is no answer if there is no such object, or one of
another kind. -/
def act (k : Kernel) (target : Target) (a : Object.Action) : Kernel × Option ObjectAnswer :=
  match k.registry.get? target with
  | none => (k, none)
  | some e =>
    let (e', sessions, answer) := e.act a k.sessions
    ({ k with registry := k.registry.put target e', sessions := sessions }, answer)

/-- Lets a ticket join the queue of an object, unless the object is ready for it. -/
def enroll (k : Kernel) (target : Target) (interest : Events) (waker : Waker) :
    Kernel × Option Enrollment :=
  match k.registry.get? target with
  | none => (k, none)
  | some e =>
    let (e', enrollment) := e.enroll interest waker
    ({ k with registry := k.registry.put target e' }, some enrollment)

/-- Withdraws a ticket from the queue of an object, and says whether it was there. -/
def disenroll (k : Kernel) (target : Target) (token : Token) : Kernel × Bool :=
  match k.registry.get? target with
  | none => (k, false)
  | some e =>
    let (e', found) := e.disenroll token
    ({ k with registry := k.registry.put target e' }, found)

/-- Takes an object out of the directory and performs its last action. -/
def remove (k : Kernel) (kind : Kind) (id : ObjectId) (last : Object.Action) :
    Kernel × ObjectAnswer :=
  match k.registry.resolve kind id with
  | .error cause => (k, .refused cause)
  | .ok target =>
    let unlisted := { k with registry := k.registry.unlist kind id }
    ((unlisted.act target last).1, .done)

/-- Deletes a listed semaphore. -/
def deleteSemaphore (k : Kernel) (id : ObjectId) : Kernel × ObjectAnswer :=
  k.remove .semaphore id (.semaphore .delete)

/-- Deletes a listed port. -/
def deletePort (k : Kernel) (id : ObjectId) : Kernel × ObjectAnswer :=
  k.remove .port id (.port .close)

/-- Closes a listed endpoint. -/
def closeEndpoint (k : Kernel) (id : ObjectId) : Kernel × ObjectAnswer :=
  k.remove .endpoint id (.endpoint .close)

/-- Ends a listed thread; it stays listed until it is reaped. -/
def exitThread (k : Kernel) (id : ObjectId) (status : Int32) : Kernel × ObjectAnswer :=
  match k.registry.resolve .thread id with
  | .error cause => (k, .refused cause)
  | .ok target =>
    match k.act target (.thread (.exit status)) with
    | (k', some (.flag true)) => (k', .done)
    | (k', _) => (k', .refused .closed)

/-- The status a thread exited with, if it did. -/
def exitStatus? (k : Kernel) (target : Target) : Option Int32 :=
  match k.registry.get? target with
  | some ⟨_, .thread t, _⟩ => t.exitStatus
  | _ => none

/-- Takes an exited thread out of the directory; the answer is its status. -/
def reapThread (k : Kernel) (id : ObjectId) : Kernel × Except ObjectError Int32 :=
  match k.registry.resolve .thread id with
  | .error cause => (k, .error cause)
  | .ok target =>
    match k.exitStatus? target with
    | none => (k, .error .wouldBlock)
    | some status => ({ k with registry := k.registry.unlist .thread id }, .ok status)

/-! ## Signals -/

/-- Aborts a session on behalf of a signal, and counts it if the session accepts. -/
def interrupt (k : Kernel) (session : SessionId) : Kernel :=
  let (sessions, accepted) := k.sessions.abort session
  let signals :=
    if accepted then { k.signals with interrupted := k.signals.interrupted + 1 } else k.signals
  { k with sessions := sessions, signals := signals }

/-- Aborts the active wait of a thread, if it has one. -/
def interruptActive (k : Kernel) (thread : ThreadId) : Kernel :=
  match (k.signals.get thread).activeWait with
  | none => k
  | some session => k.interrupt session

/-- Sends a signal, with the time stamp of the present moment. If it can be delivered it aborts the active
wait of its receiver. -/
def send (k : Kernel) (sender receiver : ThreadId) (signal : Signal) :
    Kernel × Except SignalError Unit :=
  match k.signals.enqueue receiver ⟨signal, sender, k.clock.stamp⟩ with
  | .error cause => (k, .error cause)
  | .ok signals =>
    let queued := { k with signals := signals, clock := k.clock.read }
    if (signals.get receiver).delivers signal then (queued.interruptActive receiver, .ok ())
    else (queued, .ok ())

/-- Blocks a signal for a thread. -/
def block (k : Kernel) (thread : ThreadId) (signal : Signal) : Kernel × Except SignalError Unit :=
  match k.signals.block thread signal with
  | .error cause => (k, .error cause)
  | .ok signals => ({ k with signals := signals }, .ok ())

/-- Blocks a signal no longer. If it is pending it aborts the active wait of the thread. -/
def unblock (k : Kernel) (thread : ThreadId) (signal : Signal) : Kernel :=
  let signals := k.signals.unblock thread signal
  let freed := { k with signals := signals }
  if (signals.get thread).pending.any (·.signal == signal) then freed.interruptActive thread
  else freed

/-- Whether a signal could be delivered to a thread now. -/
def hasPending (k : Kernel) (thread : ThreadId) : Bool := (k.signals.get thread).hasDeliverable

/-- Whether a thread blocks a signal. -/
def isBlocked (k : Kernel) (thread : ThreadId) (signal : Signal) : Bool :=
  (k.signals.get thread).blocked.contains signal

/-- How many signals are pending for a thread. -/
def pendingCount (k : Kernel) (thread : ThreadId) : Nat := (k.signals.get thread).pending.length

/-! ## Time -/

/-- Reads the clock. -/
def tell (k : Kernel) : Kernel × Int64 := ({ k with clock := k.clock.read }, k.clock.stamp)

/-- Arms a timeout now. -/
def arm (k : Kernel) (timeout : Timeout) : Kernel × Deadline :=
  ({ k with clock := timeout.consult k.clock }, timeout.arm k.clock)

/-- The kernel after so many nanoseconds. -/
def elapse (k : Kernel) (nanos : Nat) : Kernel := { k with clock := k.clock.elapse nanos }

/-- The kernel when a deadline has come; without one no time passes. -/
def sleepUntil (k : Kernel) (deadline : Deadline) : Kernel :=
  match deadline with
  | .never => k
  | .due moment => { k with clock := k.clock.advanceTo moment }

end Kernel

end KernelWait
