import KernelWait.Session.Ticket
import KernelWait.Wait.System
import KernelWait.Watch

/-!
# Wait calls

A multiplexed wait as a process: what its caller asks for and gets back, and what a call in progress
knows. A call goes over its slots several times, and divides them into those that it has passed and
those that lie ahead.

**A refused call is no call**: nothing is counted and no session is opened (`System.begin`).
-/

namespace KernelWait

/-- What a caller asks for. -/
structure Request where
  /-- the calling thread -/
  thread : ThreadId
  /-- the objects and events waited for -/
  watches : List Watch
  /-- how to wait -/
  flags : Flags
  /-- how long to wait -/
  timeout : Timeout
  /-- signals can reach the caller -/
  signalled : Bool := true
  deriving DecidableEq, Repr

/-- What a caller gets back. -/
structure Reply where
  /-- the outcome, or the cause of a refusal -/
  answer : Except WaitError Outcome
  /-- the watches with what the call has written -/
  watches : List Watch

/-- A watch in a call in progress, and the object it was resolved to. -/
structure Slot where
  /-- the watch -/
  watch : Watch
  /-- the object, if the name stands for a live one -/
  target : Option Target := none
  deriving DecidableEq, Repr

/-- What a call does next. -/
inductive Stage where
  /-- look the next name up -/
  | resolving
  /-- register for signals -/
  | registering
  /-- look for a pending signal -/
  | checking
  /-- poll the next object -/
  | polling
  /-- join the queue of the object just polled -/
  | enrolling
  /-- sleep -/
  | blocked (position : Block)
  /-- collect what fired -/
  | draining
  /-- unregister, end the session and return -/
  | leaving (answer : Except WaitError Outcome)

/-- A call in progress. -/
structure Call where
  /-- the calling thread -/
  thread : ThreadId
  /-- a signal aborts the call -/
  interruptible : Bool
  /-- only the first ready watch is reported -/
  singleShot : Bool
  /-- the deadline had passed when the call began -/
  poll : Bool
  /-- the session of the call -/
  session : Session
  /-- the slots the present stage is done with -/
  passed : List Slot := []
  /-- the slots it still has to look at -/
  ahead : List Slot
  /-- something was ready at once -/
  immediate : Bool := false
  /-- what the call does next -/
  stage : Stage := .resolving

/-- How far a call has come. -/
inductive Progress where
  /-- it is still in progress -/
  | running (call : Call)
  /-- it has returned -/
  | returned (reply : Reply)

namespace Call

/-- All slots of a call, in the order of its watches. -/
def slots (c : Call) : List Slot := c.passed ++ c.ahead

/-- The watches of a call as they stand. -/
def watches (c : Call) : List Watch := c.slots.map Slot.watch

/-- The call at another stage, with all its slots to be looked at again. -/
def rewind (c : Call) (stage : Stage) : Call :=
  { c with passed := [], ahead := c.slots, stage := stage }

/-- The call with the next slot looked at, and written. -/
def pass (c : Call) (slot : Slot) : Call :=
  { c with passed := c.passed ++ [slot], ahead := c.ahead.tail }

/-- The call with the next slot looked at, and ready at once for some events. -/
def passReady (c : Call) (slot : Slot) (events : Events) : Call :=
  { c.pass { slot with watch := { slot.watch with result := events } } with immediate := true }

end Call

/-! ## Beginning a call -/

namespace System

/-- Why a request is refused, if it is. The kind of timeout is no matter of the flags here. -/
def refusal? (s : System) (r : Request) : Option WaitError :=
  if r.flags.meets .timeoutKinds then
    some (.invalidArgument "timeout kind belongs in the timeout argument, not the flags")
  else s.countRefusal? r.watches.length

/-- Begins a call: it is counted, its deadline is set, and its session is opened. -/
def begin (s : System) (r : Request) : System × Progress :=
  match s.refusal? r with
  | some cause => (s, .returned ⟨.error cause, r.watches⟩)
  | none =>
    let counted := s.record .calls
    let (armed, deadline) := s.kernel.arm r.timeout
    match Session.new armed r.watches.length deadline with
    | .error cause => ({ counted with kernel := armed }, .returned ⟨.error cause, r.watches⟩)
    | .ok (kernel, session) =>
      ({ counted with kernel := kernel },
        .running {
          thread := r.thread
          interruptible := r.signalled && r.flags.includes .interruptible
          singleShot := r.flags.includes .singleShot
          poll := deadline.hasPassed s.kernel.clock.now
          session := session
          ahead := r.watches.map fun w => { watch := w } })

end System

end KernelWait
