import KernelWait.Error
import KernelWait.Signal.Basic
import KernelWait.Stored.Signals

/-!
# Stored refusals

The stored forms of refusals. A wait's or an object's refusal is stored as a tag with its content
beside it, and a signal operation's as an object whose one member is named for the cause.
-/

namespace KernelWait

namespace Stored

/-- A refusal with its content, if it has any. -/
def cause (name : String) (content : Option Json) : Json := .tag "error_type" "details" name content

/-- The name and the content of a refusal. -/
def cause? (j : Json) : Option (String × Option Json) := j.tagged? "error_type" "details"

end Stored

instance : Stored WaitError where
  toJson
    | .invalidArgument text => Stored.cause "invalid_argument" (Stored.toJson text)
    | .interrupted => Stored.cause "interrupted" none
    | .noValidTargets count => Stored.cause "no_valid_targets" (Stored.toJson count)
    | .resourceExhausted text => Stored.cause "resource_exhausted" (Stored.toJson text)
  ofJson? j :=
    match Stored.cause? j with
    | some ("invalid_argument", content) => Stored.filled? WaitError.invalidArgument content
    | some ("interrupted", content) => Stored.bare? .interrupted content
    | some ("no_valid_targets", content) => Stored.filled? WaitError.noValidTargets content
    | some ("resource_exhausted", content) => Stored.filled? WaitError.resourceExhausted content
    | _ => none

instance : Stored ObjectError where
  toJson
    | .notFound id => Stored.cause "not_found" (Stored.toJson id)
    | .wouldBlock => Stored.cause "would_block" none
    | .closed => Stored.cause "closed" none
    | .full => Stored.cause "full" none
    | .invalidArgument text => Stored.cause "invalid_argument" (Stored.toJson text)
  ofJson? j :=
    match Stored.cause? j with
    | some ("not_found", content) => Stored.filled? ObjectError.notFound content
    | some ("would_block", content) => Stored.bare? .wouldBlock content
    | some ("closed", content) => Stored.bare? .closed content
    | some ("full", content) => Stored.bare? .full content
    | some ("invalid_argument", content) => Stored.filled? ObjectError.invalidArgument content
    | _ => none

instance : Stored SignalError where
  toJson
    | .invalidSignal number => .record [("InvalidSignal", Stored.toJson number)]
    | .unblockable signal => .record [("Unblockable", Stored.toJson signal)]
    | .queueFull thread => .record [("QueueFull", Stored.toJson thread)]
  ofJson? j :=
    match j.content? with
    | some ("InvalidSignal", content) => (Stored.ofJson? content).map SignalError.invalidSignal
    | some ("Unblockable", content) => (Stored.ofJson? content).map SignalError.unblockable
    | some ("QueueFull", content) => (Stored.ofJson? content).map SignalError.queueFull
    | _ => none

end KernelWait
