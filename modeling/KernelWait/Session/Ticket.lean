import KernelWait.Kernel
import KernelWait.Session.Blocking

/-!
# Sessions and their tickets

The private side of a wait in progress: a table of tickets, each of them at most one entry in the
queue of one object. The slot of a ticket is its place in the table, and its waker names that slot.

**A session leaves nothing behind**: draining withdraws every ticket before it collects what fired,
and closing withdraws whatever is left (`Session.drain`, `Session.close`).
-/

namespace KernelWait

/-- One object waited for. -/
structure Ticket where
  /-- the entry of the call that the ticket belongs to -/
  index : Nat
  /-- the events waited for -/
  interest : Events
  /-- the object whose queue the ticket joined, and its number there, until it is withdrawn -/
  place : Option (Target × Token)
  deriving DecidableEq, Repr

namespace Ticket

/-- Whether the ticket has not been withdrawn yet. -/
def isEnrolled (t : Ticket) : Bool := t.place.isSome

/-- The ticket once it is withdrawn. -/
def withdrawn (t : Ticket) : Ticket := { t with place := none }

/-- Takes the ticket's entry out of the object's queue; it may have fired and be gone already. -/
def leave (t : Ticket) (k : Kernel) : Kernel :=
  match t.place with
  | none => k
  | some (target, token) => (k.disenroll target token).1

end Ticket

/-- A wait in progress, as its owner sees it. -/
structure Session where
  /-- the number of its notifier -/
  id : SessionId
  /-- the tickets, by slot -/
  tickets : List Ticket := []
  /-- how many tickets it can have -/
  capacity : Nat
  /-- when it is given up -/
  deadline : Deadline
  deriving DecidableEq, Repr

namespace Session

/-- Opens a session for so many tickets. -/
def new (k : Kernel) (capacity : Nat) (deadline : Deadline) : Except WaitError (Kernel × Session) :=
  match Notifier.new? capacity with
  | .error cause => .error cause
  | .ok n =>
    .ok ({ k with sessions := k.sessions.add n },
      { id := k.sessions.nextId, capacity := capacity, deadline := deadline })

/-- Moves the session on to a phase. -/
def advance (k : Kernel) (s : Session) (phase : Phase) : Kernel :=
  { k with sessions := k.sessions.modify s.id (Notifier.advance phase) }

/-- Lets a new ticket join the queue of an object, on behalf of an entry of the call. An object that
is ready takes no ticket. There is no enrollment if there is no such object. -/
def enroll (k : Kernel) (s : Session) (index : Nat) (target : Target) (interest : Events) :
    Except WaitError (Kernel × Session × Option Enrollment) :=
  let slot := s.tickets.length
  if s.capacity ≤ slot then
    .error (.resourceExhausted ("ticket table full at " ++ Text.natText slot))
  else
    match k.enroll target interest ⟨s.id, slot⟩ with
    | (k', some (.enrolled token)) =>
      .ok (k', { s with tickets := s.tickets ++ [⟨index, interest, some (target, token)⟩] },
        some (.enrolled token))
    | (k', answer) => .ok (k', s, answer)

/-- Withdraws tickets, from a slot on, and collects what each of them has fired with. -/
def collect (id : SessionId) : Nat → List Ticket → Kernel → Kernel × List (Nat × Events)
  | _, [], k => (k, [])
  | slot, ticket :: tickets, k =>
    let left := ticket.leave k
    let (sessions, events) := left.sessions.take ⟨id, slot⟩
    let (k', fired) := collect id (slot + 1) tickets { left with sessions := sessions }
    (k', if events ∩ ticket.interest = ∅ then fired
      else (ticket.index, events ∩ ticket.interest) :: fired)

/-- The notifier of the session, while it exists. -/
def notifier? (k : Kernel) (s : Session) : Option Notifier := k.sessions.get? s.id

/-- Withdraws every ticket and ends the session; the answer is what fired, by ticket. -/
def drain (k : Kernel) (s : Session) : Kernel × Session × List (Nat × Events) :=
  let begun :=
    match s.notifier? k with
    | some n => if n.phase.wakes then s.advance k .draining else k
    | none => k
  let (collected, fired) := collect s.id 0 s.tickets begun
  (s.advance collected .done, { s with tickets := s.tickets.map Ticket.withdrawn }, fired)

/-- Withdraws the tickets that are left and lets the session go. -/
def close (k : Kernel) (s : Session) : Kernel :=
  let left := s.tickets.foldl (fun k ticket => ticket.leave k) k
  { left with sessions := left.sessions.discard s.id }

/-- So many steps of the session's owner in its blocked phase. -/
def blockSteps (steps : Nat) (k : Kernel) (s : Session) (b : Block) : Kernel × Block :=
  match s.notifier? k with
  | none => (k, b)
  | some n =>
    let (n', b') := Block.steps s.deadline k.clock.now steps n b
    ({ k with sessions := k.sessions.put s.id n' }, b')

/-- The blocked phase of a session that nobody disturbs. It sleeps until its deadline if nothing
else ends the phase; without a deadline there may be no end. -/
def block (k : Kernel) (s : Session) : Option (Kernel × Verdict) :=
  match s.blockSteps Block.enough (s.advance k .blocked) .looking with
  | (k', .finished verdict) => some (k', verdict)
  | (k', b) =>
    match s.blockSteps Block.enough (k'.sleepUntil s.deadline) b with
    | (k'', .finished verdict) => some (k'', verdict)
    | _ => none

end Session

end KernelWait
