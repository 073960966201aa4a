import KernelWait.Text.Legend

/-!
# Flags of a wait call

What a caller asks of a multiplexed wait besides the events: whether signals may abort it, how the
timeout value is to be read, and whether one ready object is enough. Bits without a name are
carried along; only the system-call boundary refuses them.

**Clearing the timeout kinds leaves none of them** and touches no other flag.
-/

namespace KernelWait

/-- A set of call flags. -/
structure Flags where
  /-- one bit for each flag -/
  bits : UInt32
  deriving DecidableEq, Repr, Inhabited

namespace Flags

instance : EmptyCollection Flags := ⟨⟨0⟩⟩
instance : Inter Flags := ⟨fun a b => ⟨a.bits &&& b.bits⟩⟩
instance : Union Flags := ⟨fun a b => ⟨a.bits ||| b.bits⟩⟩
instance : SDiff Flags := ⟨fun a b => ⟨a.bits &&& ~~~b.bits⟩⟩

/-- A pending or arriving signal aborts the wait. -/
def interruptible : Flags := ⟨0x0001⟩

/-- The timeout runs from the start of the call. -/
def relativeTimeout : Flags := ⟨0x0008⟩

/-- The timeout is a time on the kernel clock. -/
def absoluteTimeout : Flags := ⟨0x0010⟩

/-- Only the first ready object is reported. -/
def singleShot : Flags := ⟨0x0100⟩

/-- The flags that say how the timeout value is read. -/
def timeoutKinds : Flags := relativeTimeout ∪ absoluteTimeout

/-- The names of the flags, lowest bit first. -/
def legend : Text.Legend :=
  [("INTERRUPTIBLE", 0x0001), ("RELATIVE_TIMEOUT", 0x0008), ("ABSOLUTE_TIMEOUT", 0x0010),
    ("SINGLE_SHOT", 0x0100)]

/-- All flags that have a name. -/
def all : Flags := ⟨0x0119⟩

/-- Whether every flag of `b` is set in `a`. -/
def includes (a b : Flags) : Bool := a ∩ b == b

/-- Whether some flag is set in both. -/
def meets (a b : Flags) : Bool := a ∩ b != ∅

/-- The named flags of a set. -/
def truncate (f : Flags) : Flags := f ∩ all

/-- The set of flags of a word, if every bit of it has a name. -/
def ofBits? (bits : UInt32) : Option Flags :=
  if truncate ⟨bits⟩ = ⟨bits⟩ then some ⟨bits⟩ else none

/-- The set as text, the form in which it is stored. -/
def text (f : Flags) : List Char := Text.writeBits legend f.bits.toNat

/-- The set that a text stands for. -/
def ofText? (cs : List Char) : Option Flags :=
  (Text.readBits? legend 32 cs).map fun n => ⟨UInt32.ofNat n⟩

/-- The set for a reader of diagnostics. -/
def describe (f : Flags) : String := "WaitFlags(" ++ Text.showBits legend f.bits.toNat ++ ")"

/-! ## Clearing flags -/

theorem ext_bits {a b : Flags} (h : a.bits = b.bits) : a = b := by
  cases a; cases b; simpa using h

@[simp] theorem bits_inter (a b : Flags) : (a ∩ b).bits = a.bits &&& b.bits := rfl

@[simp] theorem bits_sdiff (a b : Flags) : (a \ b).bits = a.bits &&& ~~~b.bits := rfl

/-- What was cleared is gone. -/
@[simp] theorem sdiff_inter_self (a b : Flags) : (a \ b) ∩ b = ∅ :=
  ext_bits (by simp [UInt32.and_assoc, show (∅ : Flags).bits = 0 from rfl])

/-- A flag outside the cleared ones is as it was. -/
theorem sdiff_inter_of_disjoint {a b c : Flags} (h : c.bits &&& b.bits = 0) :
    (a \ b) ∩ c = a ∩ c := by
  have hc : ~~~b.bits &&& c.bits = c.bits := by
    apply UInt32.toBitVec_inj.1
    have h' := congrArg UInt32.toBitVec h
    simp only [UInt32.toBitVec_and] at h' ⊢
    ext i hi
    have hi' := congrArg (fun v => v.getLsbD i) h'
    simp only [BitVec.getLsbD_and] at hi'
    simp only [UInt32.toBitVec_not, BitVec.getElem_and, BitVec.getElem_not]
    cases hb : b.bits.toBitVec[i] <;> cases hcc : c.bits.toBitVec[i] <;>
      simp_all
  exact ext_bits (by simp [UInt32.and_assoc, hc])

end Flags

end KernelWait
