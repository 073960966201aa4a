import KernelWait.Error
import KernelWait.Events

/-!
# Kinds of objects

The four kinds of objects that can be waited for, with the code each has at the system-call
boundary and the events that are reported for it even when nobody asked.

**Reading a code undoes writing it** (`Kind.ofCode_code`), and no other code stands for a kind
(`Kind.ofCode_eq_ok_iff`).
-/

namespace KernelWait

/-- The kind of an object. -/
inductive Kind where
  /-- an endpoint of a byte stream, behind a descriptor number -/
  | endpoint
  /-- a counting semaphore -/
  | semaphore
  /-- a message port -/
  | port
  /-- a thread -/
  | thread
  deriving DecidableEq, Repr, Inhabited

namespace Kind

/-- All kinds, in the order of their codes. -/
def all : List Kind := [endpoint, semaphore, port, thread]

/-- The code of a kind at the system-call boundary. -/
def code : Kind → UInt16
  | endpoint => 0
  | semaphore => 1
  | port => 2
  | thread => 3

/-- The name of a kind. -/
def name : Kind → String
  | endpoint => "descriptor"
  | semaphore => "semaphore"
  | port => "port"
  | thread => "thread"

/-- The name of a kind as a title. -/
def title : Kind → String
  | endpoint => "Descriptor"
  | semaphore => "Semaphore"
  | port => "Port"
  | thread => "Thread"

/-- The kind with a name. -/
def ofName? (name : String) : Option Kind := all.find? (·.name == name)

/-- The kind with a code. -/
def ofCode (code : UInt16) : Except WaitError Kind :=
  match code with
  | 0 => .ok endpoint
  | 1 => .ok semaphore
  | 2 => .ok port
  | 3 => .ok thread
  | other => .error (.invalidArgument ("unknown object type " ++ Text.natText other.toNat))

/-- The events that are reported for a kind even when nobody asked. -/
def implicitEvents : Kind → Events
  | endpoint => .invalid ∪ .error ∪ .disconnected
  | semaphore | port | thread => .invalid

theorem ofCode_code (k : Kind) : ofCode k.code = .ok k := by
  cases k <;> rfl

/-- Only the code of a kind stands for it. -/
theorem ofCode_eq_ok_iff {code : UInt16} {k : Kind} : ofCode code = .ok k ↔ code = k.code := by
  constructor
  · intro h
    unfold ofCode at h
    split at h <;> first | (injection h with h; subst h; rfl) | simp at h
  · rintro rfl
    exact ofCode_code k

/-- Every kind reports that its object is gone. -/
theorem invalid_inter_implicitEvents (k : Kind) : Events.invalid ∩ k.implicitEvents = .invalid := by
  cases k <;> rfl

end Kind

end KernelWait
