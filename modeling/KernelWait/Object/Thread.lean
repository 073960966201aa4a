import KernelWait.Events
import KernelWait.Object.Reaction

/-!
# Threads

The record of a thread. It is ready for nothing while the thread runs and invalid once it has
exited; the exit status stays readable.

**A thread exits once**: a later exit changes nothing and says so (`Thread.perform`).
-/

namespace KernelWait

/-- The record of a thread. -/
structure Thread where
  /-- the thread's name -/
  name : String
  /-- the status it exited with -/
  exitStatus : Option Int32 := none
  deriving DecidableEq, Repr

namespace Thread

/-- What can be done to a thread. -/
inductive Action where
  /-- end it -/
  | exit (status : Int32)
  deriving DecidableEq, Repr

/-- Whether a thread still runs. -/
def isAlive (t : Thread) : Bool := t.exitStatus.isNone

/-- What a thread is ready for. -/
def readiness (t : Thread) : Events :=
  if t.isAlive then ∅ else .invalid

/-- Performs an action; the answer says whether the thread was still running. -/
def perform (t : Thread) : Action → Reaction Thread
  | .exit status =>
    if t.isAlive then .announce { t with exitStatus := some status } (.flag true)
    else .quiet t (.flag false)

end Thread

end KernelWait
