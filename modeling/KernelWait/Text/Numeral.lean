/-!
# Numerals

How whole numbers are written (decimal, and hexadecimal with or without leading zeros) and read.
A numeral is read by a base and an upper bound: it may carry one plus sign, must hold at least one
digit and nothing else, and must stay below the bound.

**Reading undoes writing**: `value?_toDigits` for digits, for every base up to sixteen.
-/

namespace KernelWait.Text

/-! ## Writing -/

/-- A natural number in decimal. -/
def decimal (n : Nat) : List Char :=
  Nat.toDigits 10 n

/-- An integer in decimal, with a minus sign below zero. -/
def decimalInt : Int → List Char
  | .ofNat n => decimal n
  | .negSucc n => '-' :: decimal (n + 1)

/-- A natural number in hexadecimal, with lower-case letters. -/
def hex (n : Nat) : List Char :=
  Nat.toDigits 16 n

/-- A natural number in hexadecimal, padded with zeros to a width. -/
def hexPadded (width n : Nat) : List Char :=
  List.replicate (width - (hex n).length) '0' ++ hex n

/-- A hexadecimal number behind its `0x`. -/
def hexMarked (n : Nat) : List Char :=
  '0' :: 'x' :: hex n

/-- The decimal text of a natural number. -/
def natText (n : Nat) : String :=
  String.ofList (decimal n)

/-- The decimal text of an integer. -/
def intText (i : Int) : String :=
  String.ofList (decimalInt i)

/-! ## Reading -/

/-- The value of a digit, letters of either case counting from ten. -/
def digitValue? (c : Char) : Option Nat :=
  let n := c.toNat
  if 48 ≤ n ∧ n ≤ 57 then some (n - 48)
  else if 97 ≤ n ∧ n ≤ 102 then some (n - 87)
  else if 65 ≤ n ∧ n ≤ 70 then some (n - 55)
  else none

/-- The value of a digit in a base. -/
def digitOf? (base : Nat) (c : Char) : Option Nat :=
  (digitValue? c).filter (· < base)

/-- Reads digits onto a value already read. -/
def valueFrom? (base : Nat) : Nat → List Char → Option Nat
  | acc, [] => some acc
  | acc, c :: cs => (digitOf? base c).bind fun d => valueFrom? base (acc * base + d) cs

/-- The value of a text made of digits only, at least one of them. -/
def value? (base : Nat) (cs : List Char) : Option Nat :=
  if cs.isEmpty then none else valueFrom? base 0 cs

/-- A text without one plus sign at its front. -/
def dropPlus : List Char → List Char
  | '+' :: cs => cs
  | cs => cs

/-- Reads an unsigned numeral below a bound; one plus sign may stand in front. -/
def unsigned? (base bound : Nat) (cs : List Char) : Option Nat :=
  (value? base (dropPlus cs)).filter (· < bound)

/-! ## Reading undoes writing -/

theorem digitOf?_digitChar {base d : Nat} (hb : base ≤ 16) (hd : d < base) :
    digitOf? base d.digitChar = some d := by
  have h16 : d < 16 := Nat.lt_of_lt_of_le hd hb
  have hv : ∀ n, n < 16 → digitValue? n.digitChar = some n := by decide
  simp [digitOf?, hv d h16, hd]

theorem valueFrom?_append (base acc : Nat) (cs ds : List Char) :
    valueFrom? base acc (cs ++ ds) =
      (valueFrom? base acc cs).bind fun n => valueFrom? base n ds := by
  induction cs generalizing acc with
  | nil => rfl
  | cons c cs ih => cases h : digitOf? base c <;> simp [valueFrom?, h, ih]

theorem valueFrom?_toDigits {base : Nat} (h1 : 1 < base) (hb : base ≤ 16) (n : Nat) :
    valueFrom? base 0 (Nat.toDigits base n) = some n := by
  induction n using Nat.strongRecOn with
  | _ n ih =>
    rw [Nat.toDigits_eq_if h1]
    split
    · next hn => simp [valueFrom?, digitOf?_digitChar hb hn]
    · next hn =>
      have hlt : n / base < n := Nat.div_lt_self (by omega) h1
      rw [valueFrom?_append, ih _ hlt]
      have hmod : n % base < base := Nat.mod_lt _ (by omega)
      simp [valueFrom?, digitOf?_digitChar hb hmod, Nat.div_add_mod']

theorem toDigits_ne_nil {base : Nat} (h1 : 1 < base) (n : Nat) : Nat.toDigits base n ≠ [] := by
  rw [Nat.toDigits_eq_if h1]
  split <;> simp

/-- The digits of a number are read back as that number. -/
theorem value?_toDigits {base : Nat} (h1 : 1 < base) (hb : base ≤ 16) (n : Nat) :
    value? base (Nat.toDigits base n) = some n := by
  have h := toDigits_ne_nil h1 n
  simp [value?, valueFrom?_toDigits h1 hb, h]

end KernelWait.Text
