import KernelWait.Text.Numeral

/-!
# Refusals

Why a wait call or an operation on an object is refused, with the message, the diagnostic code and
the advice that go with each cause. A wait's refusal also has the negative number that a system
call returns.

**The returned numbers tell the causes apart** (`WaitError.errno_eq_iff`).
-/

namespace KernelWait

/-- The number an object goes by within its kind. -/
abbrev ObjectId := Int32

/-- Why a wait call is refused as a whole. -/
inductive WaitError where
  /-- an argument makes no sense -/
  | invalidArgument (text : String)
  /-- a signal ended the wait -/
  | interrupted
  /-- none of so many entries names a live object -/
  | noValidTargets (count : Nat)
  /-- there was no room for the wait's bookkeeping -/
  | resourceExhausted (text : String)
  deriving DecidableEq, Repr

namespace WaitError

/-- The wording of a refusal. -/
def message : WaitError → String
  | invalidArgument text => "Invalid argument: " ++ text
  | interrupted => "Wait was interrupted"
  | noValidTargets count =>
    "None of the " ++ Text.natText count ++ " descriptors refer to a live object"
  | resourceExhausted text => "Resource exhausted: " ++ text

/-- The diagnostic code of a refusal. -/
def code : WaitError → String
  | invalidArgument _ => "wait::invalid_argument"
  | interrupted => "wait::interrupted"
  | noValidTargets _ => "wait::no_valid_targets"
  | resourceExhausted _ => "wait::resource_exhausted"

/-- What a caller may do about a refusal. -/
def help : WaitError → String
  | invalidArgument _ => "Check the descriptor count, object type codes, and flag bits."
  | interrupted =>
    "A signal was delivered to the waiting thread. Retry the wait if appropriate."
  | noValidTargets _ =>
    "Every descriptor failed to resolve. Inspect per-descriptor status."
  | resourceExhausted _ => "Ticket allocation failed. Reduce the number of waited objects."

/-- What a system call returns for a refusal. -/
def errno : WaitError → Int
  | invalidArgument _ => -22
  | interrupted => -4
  | noValidTargets _ => -9
  | resourceExhausted _ => -12

/-- Two refusals return the same number just when they have the same cause. -/
theorem errno_eq_iff (a b : WaitError) : a.errno = b.errno ↔ a.code = b.code := by
  cases a <;> cases b <;> simp [errno, code]

end WaitError

/-- Why an operation on an object is refused. -/
inductive ObjectError where
  /-- no live object has this number -/
  | notFound (id : ObjectId)
  /-- the operation cannot be done now -/
  | wouldBlock
  /-- the object is gone -/
  | closed
  /-- the object has no room left -/
  | full
  /-- an argument makes no sense -/
  | invalidArgument (text : String)
  deriving DecidableEq, Repr

namespace ObjectError

/-- The wording of a refusal. -/
def message : ObjectError → String
  | notFound id => "Object " ++ Text.intText id.toInt ++ " not found"
  | wouldBlock => "Operation would block"
  | closed => "Object is closed"
  | full => "Object is full"
  | invalidArgument text => "Invalid argument: " ++ text

/-- The diagnostic code of a refusal. -/
def code : ObjectError → String
  | notFound _ => "object::not_found"
  | wouldBlock => "object::would_block"
  | closed => "object::closed"
  | full => "object::full"
  | invalidArgument _ => "object::invalid_argument"

/-- What a caller may do about a refusal, if anything. -/
def help : ObjectError → Option String
  | notFound _ => some "The object may have been deleted or never existed."
  | closed => some "The object was deleted, closed, or its owner exited."
  | _ => none

end ObjectError

end KernelWait
