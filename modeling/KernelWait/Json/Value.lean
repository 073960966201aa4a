import KernelWait.Text.Numeral

/-!
# JSON values and their compact text

A JSON value keeps what its text says: whole numbers by value and all others by their numeral, and
strings by their pieces, since an escape may stand for half of a surrogate pair that has no other
half. The members of an object keep their order and may share a name.

**The text is compact**: no white space, and escapes only where they must be (`Json.write`).
-/

namespace KernelWait

/-- A piece of a string in JSON text. -/
inductive Piece where
  /-- a character -/
  | char (c : Char)
  /-- half of a surrogate pair -/
  | half (unit : Nat)
  deriving DecidableEq, Repr

/-- A JSON value. -/
inductive Json where
  /-- nothing -/
  | null
  /-- a truth value -/
  | bool (b : Bool)
  /-- a whole number -/
  | int (value : Int)
  /-- a number that is not written as a whole one, or as minus zero -/
  | real (numeral : List Char)
  /-- a string -/
  | string (pieces : List Piece)
  /-- a list of values -/
  | array (items : List Json)
  /-- a list of named values -/
  | object (members : List (List Piece × Json))
  deriving Repr

namespace Json

/-- The pieces of a text. -/
def pieces (s : String) : List Piece := s.toList.map .char

/-- A string of plain text. -/
def text (s : String) : Json := string (pieces s)

/-- A natural number. -/
def nat (n : Nat) : Json := int n

/-- An object with plainly named members. -/
def record (fields : List (String × Json)) : Json :=
  object (fields.map fun f => (pieces f.1, f.2))

/-! ## Text -/

/-- A character of a string. Quotes, backslashes and control characters are escaped. -/
def writeChar (c : Char) : List Char :=
  if c = '"' then ['\\', '"']
  else if c = '\\' then ['\\', '\\']
  else if c = '\n' then ['\\', 'n']
  else if c = '\r' then ['\\', 'r']
  else if c = '\t' then ['\\', 't']
  else if c = '\x08' then ['\\', 'b']
  else if c = '\x0c' then ['\\', 'f']
  else if c.toNat < 0x20 then '\\' :: 'u' :: Text.hexPadded 4 c.toNat
  else [c]

/-- A piece of a string. -/
def writePiece : Piece → List Char
  | .char c => writeChar c
  | .half unit => '\\' :: 'u' :: Text.hexPadded 4 unit

/-- A string in quotes. -/
def writeString (pieces : List Piece) : List Char :=
  '"' :: (pieces.flatMap writePiece ++ ['"'])

mutual

/-- The compact text of a value. -/
def write : Json → List Char
  | null => ['n', 'u', 'l', 'l']
  | bool true => ['t', 'r', 'u', 'e']
  | bool false => ['f', 'a', 'l', 's', 'e']
  | int value => Text.decimalInt value
  | real numeral => numeral
  | string pieces => writeString pieces
  | array items => '[' :: writeItems items
  | object members => '{' :: writeMembers members

/-- The items of an array behind its bracket, and the bracket that ends it. -/
def writeItems : List Json → List Char
  | [] => [']']
  | [item] => write item ++ [']']
  | item :: items => write item ++ ',' :: writeItems items

/-- The members of an object behind its brace, and the brace that ends it. -/
def writeMembers : List (List Piece × Json) → List Char
  | [] => ['}']
  | [(name, value)] => writeString name ++ ':' :: (write value ++ ['}'])
  | (name, value) :: members =>
    writeString name ++ ':' :: (write value ++ ',' :: writeMembers members)

end

/-- The compact text of a value, as a string. -/
def render (j : Json) : String := String.ofList j.write

end Json

end KernelWait
