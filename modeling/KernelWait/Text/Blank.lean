/-!
# Blank characters and trimming

Which characters count as white space, as the Unicode property `White_Space` lists them, and the
removal of white space from both ends of a text.

**A text without blanks is its own trimming** (`Text.trim_eq_self`).
-/

namespace KernelWait.Text

/-- The characters with the Unicode property `White_Space`. -/
def isBlank (c : Char) : Bool :=
  let n := c.toNat
  (0x9 ≤ n && n ≤ 0xD) || n == 0x20 || n == 0x85 || n == 0xA0 || n == 0x1680 ||
    (0x2000 ≤ n && n ≤ 0x200A) || n == 0x2028 || n == 0x2029 || n == 0x202F ||
    n == 0x205F || n == 0x3000

/-- A text without the blanks at its front. -/
def trimFront (cs : List Char) : List Char :=
  cs.dropWhile isBlank

/-- A text without the blanks at either end. -/
def trim (cs : List Char) : List Char :=
  (trimFront (trimFront cs).reverse).reverse

/-- A text without blanks is its own trimming. -/
theorem trim_eq_self {cs : List Char} (h : ∀ c ∈ cs, isBlank c = false) : trim cs = cs := by
  have front : ∀ ds : List Char, (∀ c ∈ ds, isBlank c = false) → trimFront ds = ds := by
    intro ds hd
    cases ds with
    | nil => rfl
    | cons d ds => simp [trimFront, hd d (by simp)]
  rw [trim, front cs h, front cs.reverse (by simpa using h), List.reverse_reverse]

end KernelWait.Text
