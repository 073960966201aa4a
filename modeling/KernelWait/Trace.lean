import KernelWait.Text.Numeral

/-!
# Trace identifiers

The identifier that a system call carries through diagnostics: a random number of 128 bits, six of
which say what kind of identifier it is. It is written in lower-case hexadecimal, in five groups.

**An identifier always has 32 digits**, with its version and variant at their fixed places
(`TraceId.length_digits`).
-/

namespace KernelWait

/-- An identifier made of random bits. -/
structure TraceId where
  /-- the random number -/
  value : BitVec 128
  deriving DecidableEq, Repr

namespace TraceId

/-- The bits that are fixed: four for the version and two for the variant. -/
def fixedBits : BitVec 128 := 0x00000000_0000_f000_c000_000000000000#128

/-- What the fixed bits are: version four, and the variant whose first bit alone is set. -/
def marks : BitVec 128 := 0x00000000_0000_4000_8000_000000000000#128

/-- The number that is written. -/
def marked (t : TraceId) : BitVec 128 := (t.value &&& ~~~fixedBits) ||| marks

/-- The digits of an identifier. -/
def digits (t : TraceId) : List Char := Text.hexPadded 32 t.marked.toNat

/-- The lengths of the groups of digits. -/
def groups : List Nat := [8, 4, 4, 4, 12]

/-- A text cut into groups of the given lengths, joined by hyphens. -/
def hyphenate : List Nat → List Char → List Char
  | [], _ => []
  | [n], cs => cs.take n
  | n :: ns, cs => cs.take n ++ '-' :: hyphenate ns (cs.drop n)

/-- The text of an identifier. -/
def text (t : TraceId) : String := String.ofList (hyphenate groups t.digits)

theorem length_digits (t : TraceId) : t.digits.length = 32 := by
  have h : (Text.hex t.marked.toNat).length ≤ 32 :=
    (Nat.length_toDigits_le_iff (by decide) (by decide)).2 t.marked.isLt
  simp only [digits, Text.hexPadded, List.length_append, List.length_replicate]
  omega

end TraceId

end KernelWait
