import KernelWait.Error

/-!
# Reactions of objects

What an operation does to an object: the answer to the caller, the object afterwards, and whether
the waiting tickets are told of its readiness.

**A refused operation leaves the object as it was and tells nobody** (`Reaction.refuse`).
-/

namespace KernelWait

/-- A message of a port. -/
structure Message where
  /-- a number chosen by the sender -/
  code : Int32
  /-- the bytes of the message -/
  data : List UInt8
  deriving DecidableEq, Repr

/-- The answer of an object to an operation. -/
inductive ObjectAnswer where
  /-- the operation is done -/
  | done
  /-- the operation is refused -/
  | refused (cause : ObjectError)
  /-- whether the operation made a difference -/
  | flag (changed : Bool)
  /-- how much was accepted -/
  | count (n : Nat)
  /-- a message taken out -/
  | message (message : Message)
  /-- bytes taken out -/
  | bytes (bytes : List UInt8)
  deriving DecidableEq, Repr

/-- What an operation does to an object. -/
structure Reaction (α : Type) where
  /-- what the caller is told -/
  answer : ObjectAnswer
  /-- the object afterwards -/
  object : α
  /-- the waiting tickets are told of the object's readiness -/
  announces : Bool
  deriving DecidableEq, Repr

namespace Reaction

variable {α β : Type}

/-- The operation is refused. -/
def refuse (object : α) (cause : ObjectError) : Reaction α := ⟨.refused cause, object, false⟩

/-- The operation does not make the object ready for more, so nobody is told. -/
def quiet (object : α) (answer : ObjectAnswer) : Reaction α := ⟨answer, object, false⟩

/-- The operation changes the object, and the waiting tickets are told. -/
def announce (object : α) (answer : ObjectAnswer) : Reaction α := ⟨answer, object, true⟩

/-- The same reaction of a larger object. -/
def map (f : α → β) (r : Reaction α) : Reaction β := ⟨r.answer, f r.object, r.announces⟩

@[simp] theorem answer_map (f : α → β) (r : Reaction α) : (r.map f).answer = r.answer := rfl

@[simp] theorem object_map (f : α → β) (r : Reaction α) : (r.map f).object = f r.object := rfl

@[simp] theorem announces_map (f : α → β) (r : Reaction α) :
    (r.map f).announces = r.announces := rfl

end Reaction

end KernelWait
