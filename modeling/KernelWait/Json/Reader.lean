import KernelWait.Json.Value

/-!
# Reading JSON

A reader of strict JSON: the grammar of the standard, white space anywhere between tokens, and
nothing behind the value. Escapes that form a surrogate pair stand for one character; half a pair
is kept as such.

**The reader consumes as it goes**: every call that is nested in another works on what that one has
left, so a budget of twice the text's length is never used up.
-/

namespace KernelWait.Json

/-- Whether a character may stand between tokens. -/
def isSpace (c : Char) : Bool := c == ' ' || c == '\n' || c == '\t' || c == '\r'

/-- A text without the white space at its front. -/
def skip (cs : List Char) : List Char := cs.dropWhile isSpace

/-! ## Strings -/

/-- What a backslash and a letter stand for. -/
def escape? : Char → Option Char
  | '"' => some '"'
  | '\\' => some '\\'
  | '/' => some '/'
  | 'b' => some '\x08'
  | 'f' => some '\x0c'
  | 'n' => some '\n'
  | 'r' => some '\r'
  | 't' => some '\t'
  | _ => none

/-- Whether a code unit is half of a surrogate pair. -/
def isHalf (unit : Nat) : Bool := 0xD800 ≤ unit && unit < 0xE000

/-- The piece that a code unit stands for. -/
def unitPiece (unit : Nat) : Piece :=
  if isHalf unit then .half unit else .char (Char.ofNat unit)

/-- Reads the rest of a string up to its closing quote, piece by piece. -/
def readPieces : List Char → Option (List Piece × List Char)
  | [] => none
  | '"' :: cs => some ([], cs)
  | '\\' :: 'u' :: a :: b :: c :: d :: cs =>
    (Text.value? 16 [a, b, c, d]).bind fun unit =>
      (readPieces cs).map fun r => (unitPiece unit :: r.1, r.2)
  | '\\' :: e :: cs =>
    (escape? e).bind fun c => (readPieces cs).map fun r => (.char c :: r.1, r.2)
  | c :: cs =>
    if c.toNat < 0x20 || c == '\\' then none
    else (readPieces cs).map fun r => (.char c :: r.1, r.2)

/-- Whether two code units are the halves of a pair, in order. -/
def isPair (high low : Nat) : Bool :=
  0xD800 ≤ high && high < 0xDC00 && 0xDC00 ≤ low && low < 0xE000

/-- Joins the halves of surrogate pairs that stand next to each other. -/
def joinHalves : List Piece → List Piece
  | .half high :: .half low :: ps =>
    if isPair high low then
      .char (Char.ofNat (0x10000 + (high - 0xD800) * 0x400 + (low - 0xDC00))) :: joinHalves ps
    else .half high :: joinHalves (.half low :: ps)
  | p :: ps => p :: joinHalves ps
  | [] => []

/-- Reads the rest of a string up to its closing quote. -/
def readString (cs : List Char) : Option (List Piece × List Char) :=
  (readPieces cs).map fun r => (joinHalves r.1, r.2)

/-! ## Numbers -/

/-- Reads the digits behind a mark, at least one of them. -/
def readDigits (cs : List Char) : Option (List Char) :=
  if (cs.takeWhile Char.isDigit).isEmpty then none else some (cs.dropWhile Char.isDigit)

/-- Reads a fraction, if there is one; the answer is what follows. -/
def readFraction : List Char → Option (List Char)
  | '.' :: cs => readDigits cs
  | cs => some cs

/-- Reads an exponent, if there is one; the answer is what follows. -/
def readExponent : List Char → Option (List Char)
  | e :: cs =>
    if e == 'e' || e == 'E' then
      match cs with
      | '+' :: ds => readDigits ds
      | '-' :: ds => readDigits ds
      | ds => readDigits ds
    else some (e :: cs)
  | [] => some []

/-- Whether digits are the whole part of a number: there is one at least, and a zero stands alone. -/
def isWhole : List Char → Bool
  | [] => false
  | ['0'] => true
  | c :: _ => c != '0'

/-- Reads a number whose minus sign, if any, has been read. -/
def readUnsigned (negative : Bool) (cs : List Char) : Option (Json × List Char) :=
  let digits := cs.takeWhile Char.isDigit
  let behind := cs.dropWhile Char.isDigit
  if !isWhole digits then none
  else
    (readFraction behind).bind readExponent |>.bind fun rest =>
      (Text.value? 10 digits).map fun n =>
        let sign := if negative then ['-'] else []
        if rest.length < behind.length || (negative && n == 0) then
          (real (sign ++ cs.take (cs.length - rest.length)), rest)
        else (int (if negative then -(n : Int) else n), rest)

/-- Reads a number. -/
def readNumber : List Char → Option (Json × List Char)
  | '-' :: cs => readUnsigned true cs
  | cs => readUnsigned false cs

/-! ## Values -/

mutual

/-- Reads a value, within a budget of nested calls. -/
def readValue : Nat → List Char → Option (Json × List Char)
  | 0, _ => none
  | n + 1, cs =>
    match skip cs with
    | 'n' :: 'u' :: 'l' :: 'l' :: rest => some (null, rest)
    | 't' :: 'r' :: 'u' :: 'e' :: rest => some (bool true, rest)
    | 'f' :: 'a' :: 'l' :: 's' :: 'e' :: rest => some (bool false, rest)
    | '"' :: rest => (readString rest).map fun r => (string r.1, r.2)
    | '[' :: rest =>
      match skip rest with
      | ']' :: rest' => some (array [], rest')
      | _ => (readItems n rest).map fun r => (array r.1, r.2)
    | '{' :: rest =>
      match skip rest with
      | '}' :: rest' => some (object [], rest')
      | _ => (readMembers n rest).map fun r => (object r.1, r.2)
    | other => readNumber other

/-- Reads the items of an array up to its closing bracket, at least one of them. -/
def readItems : Nat → List Char → Option (List Json × List Char)
  | 0, _ => none
  | n + 1, cs =>
    match readValue n cs with
    | none => none
    | some (item, rest) =>
      match skip rest with
      | ',' :: rest' => (readItems n rest').map fun r => (item :: r.1, r.2)
      | ']' :: rest' => some ([item], rest')
      | _ => none

/-- Reads the members of an object up to its closing brace, at least one of them. -/
def readMembers : Nat → List Char → Option (List (List Piece × Json) × List Char)
  | 0, _ => none
  | n + 1, cs =>
    match skip cs with
    | '"' :: named =>
      match readString named with
      | none => none
      | some (name, rest) =>
        match skip rest with
        | ':' :: valued =>
          match readValue n valued with
          | none => none
          | some (value, rest') =>
            match skip rest' with
            | ',' :: rest'' => (readMembers n rest'').map fun r => ((name, value) :: r.1, r.2)
            | '}' :: rest'' => some ([(name, value)], rest'')
            | _ => none
        | _ => none
    | _ => none

end

/-- The budget for a text. -/
def budget (cs : List Char) : Nat := 2 * cs.length + 2

/-- The value that a text stands for. -/
def ofChars? (cs : List Char) : Option Json :=
  match readValue (budget cs) cs with
  | some (value, rest) => if (skip rest).isEmpty then some value else none
  | none => none

/-- The value that a text stands for. -/
def ofText? (s : String) : Option Json := ofChars? s.toList

end KernelWait.Json
