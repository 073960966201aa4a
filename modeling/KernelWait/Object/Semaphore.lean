import KernelWait.Events
import KernelWait.Object.Reaction

/-!
# Semaphores

A counting semaphore is readable while its count is positive, and invalid once deleted. The count
saturates at the greatest 32-bit integer.

**Acquiring never makes a semaphore ready for more**, so it tells nobody; releasing and deleting
do (`Semaphore.perform`).
-/

namespace KernelWait

/-- A counting semaphore. -/
structure Semaphore where
  /-- how much can be acquired -/
  count : Int32
  /-- the semaphore is gone -/
  deleted : Bool := false
  deriving DecidableEq, Repr

namespace Semaphore

/-- What can be done to a semaphore. -/
inductive Action where
  /-- add to the count -/
  | release (n : Int32)
  /-- take from the count -/
  | acquire (n : Int32)
  /-- mark it as gone -/
  | delete
  deriving DecidableEq, Repr

/-- What a semaphore is ready for. -/
def readiness (s : Semaphore) : Events :=
  if s.deleted then .invalid else if 0 < s.count then .read else ∅

/-- A sum that stays at the greatest 32-bit integer instead of passing it. -/
def saturatingAdd (a b : Int32) : Int32 :=
  Int32.ofInt (min (a.toInt + b.toInt) Int32.maxValue.toInt)

/-- The cause of a refusal: a count that is not positive, or a semaphore that is gone. -/
def refusal? (what : String) (n : Int32) (s : Semaphore) : Option ObjectError :=
  if n ≤ 0 then some (.invalidArgument (what ++ " count " ++ Text.intText n.toInt))
  else if s.deleted then some .closed
  else none

/-- Adds to the count. -/
def release (n : Int32) (s : Semaphore) : Except ObjectError Semaphore :=
  match s.refusal? "release" n with
  | some cause => .error cause
  | none => .ok { s with count := saturatingAdd s.count n }

/-- Takes from the count if there is enough. -/
def acquire (n : Int32) (s : Semaphore) : Except ObjectError Semaphore :=
  match s.refusal? "acquire" n with
  | some cause => .error cause
  | none => if s.count < n then .error .wouldBlock else .ok { s with count := s.count - n }

/-- Performs an action. -/
def perform (s : Semaphore) : Action → Reaction Semaphore
  | .release n =>
    match s.release n with
    | .error cause => .refuse s cause
    | .ok s' => .announce s' .done
  | .acquire n =>
    match s.acquire n with
    | .error cause => .refuse s cause
    | .ok s' => .quiet s' .done
  | .delete =>
    if s.deleted then .quiet s .done else .announce { s with deleted := true } .done

end Semaphore

end KernelWait
