import KernelWait.Json.Value

/-!
# Shapes of stored values

The shapes in which values are stored as JSON, and their readers: texts, numbers within a range,
records, choices without and with content. A record may be stored as an object, whose members may
come in any order and may have company, or as an array of exactly its fields. A choice with content
may be stored by its name alone, as an object with one member, or as a tag with content beside it.

**A field is there once or not at all**: a record in which a field is missing or repeated is refused
(`Json.fields?`).
-/

namespace KernelWait.Json

/-! ## Texts and numbers -/

/-- The character of a piece that is no half of a surrogate pair. -/
def char? : Piece → Option Char
  | .char c => some c
  | .half _ => none

/-- The text of pieces that hold no half of a surrogate pair. -/
def textOf? (pieces : List Piece) : Option String := (pieces.mapM char?).map String.ofList

/-- The text of a string. -/
def text? : Json → Option String
  | string pieces => textOf? pieces
  | _ => none

/-- A whole number from `low` up to but not including `high`. -/
def intBetween? (low high : Int) : Json → Option Int
  | int value => if low ≤ value ∧ value < high then some value else none
  | _ => none

/-- A natural number below a bound. -/
def natBelow? (bound : Nat) (j : Json) : Option Nat := (j.intBetween? 0 bound).map Int.toNat

/-! ## Records -/

/-- The members of an object with their names as text. -/
def named? (members : List (List Piece × Json)) : Option (List (String × Json)) :=
  members.mapM fun m => (textOf? m.1).map fun name => (name, m.2)

/-- The only value with a name. -/
def only? (name : String) (members : List (String × Json)) : Option Json :=
  match members.filter (·.1 == name) with
  | [m] => some m.2
  | _ => none

/-- The fields of a record, in the order of their names. -/
def fields? (names : List String) : Json → Option (List Json)
  | object members => (named? members).bind fun members => names.mapM (only? · members)
  | array items => if items.length = names.length then some items else none
  | _ => none

/-! ## Choices -/

/-- The name of a choice without content. -/
def choice? : Json → Option String
  | string pieces => textOf? pieces
  | object [(name, null)] => textOf? name
  | _ => none

/-- The name and the content of a choice that is stored as an object with one member. -/
def content? : Json → Option (String × Json)
  | object [(name, value)] => (textOf? name).map fun name => (name, value)
  | _ => none

/-- The name of a choice and its content, if any, stored under two names, or as an array of the two.
Under its name the name may take any form of a choice without content; in an array it is a text. -/
def tagged? (tag content : String) : Json → Option (String × Option Json)
  | object members =>
    (named? members).bind fun members =>
      (only? tag members).bind choice? |>.bind fun name =>
        match members.filter (·.1 == content) with
        | [] => some (name, none)
        | [m] => some (name, some m.2)
        | _ => none
  | array [name, value] => name.text?.map fun name => (name, some value)
  | _ => none

/-- Whether the content of a choice that has none is stored as nothing. -/
def isNothing : Option Json → Bool
  | none => true
  | some null => true
  | some _ => false

/-- A choice with its content under two names. -/
def tag (tagName contentName name : String) (content : Option Json) : Json :=
  record ((tagName, text name) :: (content.map fun c => (contentName, c)).toList)

end KernelWait.Json
