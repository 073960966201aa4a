import KernelWait.Text.Legend

/-!
# Readiness events

What an object can be ready for, as a set of bits in a sixteen-bit word. Sets of events are
intersected and joined; bits without a name are carried along untouched.

**Intersection and union are those of sets**: they are commutative, associative and idempotent,
and an intersection lies in both of its parts.
-/

namespace KernelWait

/-- A set of readiness events. -/
structure Events where
  /-- one bit for each event -/
  bits : UInt16
  deriving DecidableEq, Repr, Inhabited

namespace Events

instance : EmptyCollection Events := ⟨⟨0⟩⟩
instance : Inter Events := ⟨fun a b => ⟨a.bits &&& b.bits⟩⟩
instance : Union Events := ⟨fun a b => ⟨a.bits ||| b.bits⟩⟩

/-- Data is there to read, a message is queued, or a semaphore can be acquired. -/
def read : Events := ⟨0x0001⟩

/-- There is room to write. -/
def write : Events := ⟨0x0002⟩

/-- An error is latched. -/
def error : Events := ⟨0x0004⟩

/-- The peer hung up. -/
def disconnected : Events := ⟨0x0080⟩

/-- The object was deleted or closed, or the thread has exited. -/
def invalid : Events := ⟨0x1000⟩

/-- The names of the events, lowest bit first. -/
def legend : Text.Legend :=
  [("READ", 0x0001), ("WRITE", 0x0002), ("ERROR", 0x0004), ("PRIORITY_READ", 0x0008),
    ("PRIORITY_WRITE", 0x0010), ("HIGH_PRIORITY_READ", 0x0020), ("HIGH_PRIORITY_WRITE", 0x0040),
    ("DISCONNECTED", 0x0080), ("INVALID", 0x1000)]

/-- All events that have a name. -/
def all : Events := ⟨0x10FF⟩

/-- The named events of a set. -/
def truncate (e : Events) : Events := e ∩ all

/-- Whether every event of the set has a name. -/
def isKnown (e : Events) : Bool := e.truncate == e

/-- The set of events of a word, if every bit of it has a name. -/
def ofBits? (bits : UInt16) : Option Events :=
  if isKnown ⟨bits⟩ then some ⟨bits⟩ else none

/-- The set as text, the form in which it is stored. -/
def text (e : Events) : List Char := Text.writeBits legend e.bits.toNat

/-- The set that a text stands for. -/
def ofText? (cs : List Char) : Option Events :=
  (Text.readBits? legend 16 cs).map fun n => ⟨UInt16.ofNat n⟩

/-- The set for a reader of diagnostics. -/
def describe (e : Events) : String := "WaitEvents(" ++ Text.showBits legend e.bits.toNat ++ ")"

/-! ## The algebra of event sets -/

theorem ext_bits {a b : Events} (h : a.bits = b.bits) : a = b := by
  cases a; cases b; simpa using h

@[simp] theorem bits_inter (a b : Events) : (a ∩ b).bits = a.bits &&& b.bits := rfl

@[simp] theorem bits_union (a b : Events) : (a ∪ b).bits = a.bits ||| b.bits := rfl

@[simp] theorem bits_empty : (∅ : Events).bits = 0 := rfl

theorem inter_comm (a b : Events) : a ∩ b = b ∩ a :=
  ext_bits (UInt16.and_comm _ _)

theorem inter_assoc (a b c : Events) : a ∩ b ∩ c = a ∩ (b ∩ c) :=
  ext_bits (UInt16.and_assoc _ _ _)

@[simp] theorem inter_self (a : Events) : a ∩ a = a :=
  ext_bits (by simp)

@[simp] theorem inter_empty (a : Events) : a ∩ ∅ = ∅ :=
  ext_bits (by simp)

@[simp] theorem empty_inter (a : Events) : ∅ ∩ a = ∅ :=
  ext_bits (by simp)

theorem union_comm (a b : Events) : a ∪ b = b ∪ a :=
  ext_bits (UInt16.or_comm _ _)

theorem union_assoc (a b c : Events) : a ∪ b ∪ c = a ∪ (b ∪ c) :=
  ext_bits (UInt16.or_assoc _ _ _)

@[simp] theorem union_self (a : Events) : a ∪ a = a :=
  ext_bits (by simp)

@[simp] theorem union_empty (a : Events) : a ∪ ∅ = a :=
  ext_bits (by simp)

@[simp] theorem empty_union (a : Events) : ∅ ∪ a = a :=
  ext_bits (by simp)

/-- The named part of a set lies in the named events. -/
@[simp] theorem truncate_inter_all (e : Events) : e.truncate ∩ all = e.truncate := by
  simp [truncate, inter_assoc]

end Events

end KernelWait
