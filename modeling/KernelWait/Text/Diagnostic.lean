import KernelWait.Text.Numeral

/-!
# Diagnostic text

How truth values and records are shown to a reader of diagnostics.

**A record shows its name and each field once, in order** (`showRecord`).
-/

namespace KernelWait.Text

/-- A truth value in words. -/
def boolText : Bool → String
  | true => "true"
  | false => "false"

/-- A name followed by named fields in braces. -/
def showRecord (name : String) (fields : List (String × String)) : String :=
  name ++ " \x7b " ++ ", ".intercalate (fields.map fun f => f.1 ++ ": " ++ f.2) ++ " \x7d"

end KernelWait.Text
