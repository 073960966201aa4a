import KernelWait.Object.Kind

/-!
# Watches

One entry of a multiplexed wait: the object it names, the events asked for, and the two things that
the call writes back, namely what fired and whether the name stood for a live object.

**What may be reported for a watch** is what was asked for and what its kind reports unasked
(`Watch.reportable`).
-/

namespace KernelWait

/-- What a call found out about the name in a watch. -/
inductive Status where
  /-- nothing yet -/
  | pending
  /-- it stands for a live object -/
  | ok
  /-- it stands for none -/
  | invalidObject
  deriving DecidableEq, Repr, Inhabited

namespace Status

/-- The name of a status. -/
def name : Status → String
  | pending => "pending"
  | ok => "ok"
  | invalidObject => "invalid_object"

/-- All statuses. -/
def all : List Status := [pending, ok, invalidObject]

/-- The status with a name. -/
def ofName? (name : String) : Option Status := all.find? (·.name == name)

end Status

/-- One entry of a multiplexed wait. -/
structure Watch where
  /-- the kind of the object -/
  kind : Kind
  /-- the object's number -/
  id : ObjectId
  /-- the events asked for -/
  requested : Events
  /-- the events that fired, written by the call -/
  result : Events := ∅
  /-- what became of the name, written by the call -/
  status : Status := .pending
  deriving DecidableEq, Repr

namespace Watch

/-- A watch for an object of a kind, with the events that make sense for it: a semaphore is always
watched for acquisition and a thread for its end. -/
def preset (kind : Kind) (id : ObjectId) (events : Events) : Watch :=
  match kind with
  | .semaphore => { kind := kind, id := id, requested := .read }
  | .thread => { kind := kind, id := id, requested := .invalid }
  | .endpoint | .port => { kind := kind, id := id, requested := events }

/-- The events that may be reported. -/
def reportable (w : Watch) : Events := w.requested ∪ w.kind.implicitEvents

/-- Whether anything fired. -/
def isReady (w : Watch) : Bool := w.result != ∅

/-- The watch before the call has written anything. -/
def reset (w : Watch) : Watch := { w with result := ∅, status := .pending }

/-- The watch without what fired. -/
def clear (w : Watch) : Watch := { w with result := ∅ }

/-- The watch with more events fired. -/
def fire (w : Watch) (events : Events) : Watch := { w with result := w.result ∪ events }

/-- Watches of which nothing after the first ready one is ready. -/
def keepFirst : List Watch → List Watch
  | [] => []
  | w :: ws => if w.isReady then w :: ws.map clear else w :: keepFirst ws

end Watch

/-- The result of a wait that is not refused. -/
inductive Outcome where
  /-- so many watches have fired -/
  | ready (count : Nat)
  /-- the deadline passed and nothing had -/
  | timedOut
  deriving DecidableEq, Repr

namespace Outcome

/-- The number of watches that have fired. -/
def readyCount : Outcome → Nat
  | ready count => count
  | timedOut => 0

/-- Whether the deadline passed. -/
def isTimeout : Outcome → Bool
  | ready _ => false
  | timedOut => true

end Outcome

end KernelWait
