import KernelWait.Events
import KernelWait.Limits
import KernelWait.Object.Reaction

/-!
# Message ports

A port is a queue of messages with a fixed capacity: readable while a message is queued, writable
while there is room, and invalid once closed. Closing throws the queued messages away.

**Messages leave in the order in which they came** (`Port.send` adds at the back, `Port.receive`
takes from the front).
-/

namespace KernelWait

/-- A message port. -/
structure Port where
  /-- how many messages it holds -/
  capacity : Nat
  /-- the messages, oldest first -/
  queue : List Message := []
  /-- the port is gone -/
  closed : Bool := false
  deriving DecidableEq, Repr

namespace Port

/-- What can be done to a port. -/
inductive Action where
  /-- queue a message -/
  | send (message : Message)
  /-- take the oldest message -/
  | receive
  /-- mark it as gone -/
  | close
  deriving DecidableEq, Repr

/-- An empty port. Every port has room for one message at least. -/
def new (capacity : Nat) : Port := { capacity := max capacity 1 }

/-- What a port is ready for. -/
def readiness (p : Port) : Events :=
  if p.closed then .invalid
  else
    (if p.queue.isEmpty then ∅ else .read) ∪ (if p.queue.length < p.capacity then .write else ∅)

/-- Queues a message. -/
def send (message : Message) (p : Port) : Except ObjectError Port :=
  if p.closed then .error .closed
  else if p.capacity ≤ p.queue.length then .error .full
  else .ok { p with queue := p.queue ++ [message] }

/-- Takes the oldest message. -/
def receive (p : Port) : Except ObjectError (Message × Port) :=
  if p.closed then .error .closed
  else
    match p.queue with
    | [] => .error .wouldBlock
    | message :: rest => .ok (message, { p with queue := rest })

/-- Performs an action. -/
def perform (p : Port) : Action → Reaction Port
  | .send message =>
    match p.send message with
    | .error cause => .refuse p cause
    | .ok p' => .announce p' .done
  | .receive =>
    match p.receive with
    | .error cause => .refuse p cause
    | .ok (message, p') => .announce p' (.message message)
  | .close =>
    if p.closed then .quiet p .done else .announce { p with closed := true, queue := [] } .done

end Port

end KernelWait
