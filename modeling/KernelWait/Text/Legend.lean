import KernelWait.Text.Blank
import KernelWait.Text.Numeral

/-!
# Sets of named bits as text

A legend names single bits of a word. A set of bits is written as the names of its bits, in the
legend's order, joined by ` | `; the bits without a name follow as one hexadecimal number. The
reader takes any parts joined by bars, each a name or a hexadecimal number, with white space
around them.

**Nothing is lost by writing**: the parts of the written text name every bit of the set
(`Legend.named`, `Legend.unnamed`).
-/

namespace KernelWait.Text

/-- Names of single bits of a word, lowest bit first. -/
abbrev Legend := List (String × Nat)

namespace Legend

/-- All bits that have a name. -/
def known (legend : Legend) : Nat :=
  legend.foldr (fun entry acc => entry.2 ||| acc) 0

/-- The entries whose bit is in the set. -/
def named (legend : Legend) (bits : Nat) : Legend :=
  legend.filter fun entry => bits &&& entry.2 != 0

/-- The bits of the set that have no name. -/
def unnamed (legend : Legend) (bits : Nat) : Nat :=
  bits ^^^ (bits &&& legend.known)

/-- The bit of a name. -/
def bitOf? (legend : Legend) (name : List Char) : Option Nat :=
  (List.find? (fun entry => entry.1.toList == name) legend).map Prod.snd

end Legend

/-! ## Parts and bars -/

/-- The parts of a set of bits: the names of its bits, then one number for the others. -/
def bitParts (legend : Legend) (bits : Nat) : List (List Char) :=
  (legend.named bits).map (·.1.toList) ++
    if legend.unnamed bits == 0 then [] else [hexMarked (legend.unnamed bits)]

/-- Parts joined by a bar with a space on either side. -/
def joinBars : List (List Char) → List Char
  | [] => []
  | [part] => part
  | part :: parts => part ++ ' ' :: '|' :: ' ' :: joinBars parts

/-- The parts of a text between its bars: one more than there are bars. -/
def splitBars : List Char → List (List Char)
  | [] => [[]]
  | '|' :: cs => [] :: splitBars cs
  | c :: cs =>
    match splitBars cs with
    | [] => [[c]]
    | part :: parts => (c :: part) :: parts

/-! ## Writing and reading -/

/-- The text of a set of bits. -/
def writeBits (legend : Legend) (bits : Nat) : List Char :=
  joinBars (bitParts legend bits)

/-- The bits of one part: a hexadecimal number behind `0x`, or a name. -/
def readPart? (legend : Legend) (width : Nat) (part : List Char) : Option Nat :=
  match trim part with
  | [] => none
  | '0' :: 'x' :: digits => unsigned? 16 (Nat.pow 2 width) digits
  | name => legend.bitOf? name

/-- The union of the bits of all parts. -/
def readParts? (legend : Legend) (width : Nat) : List (List Char) → Option Nat
  | [] => some 0
  | part :: parts =>
    (readPart? legend width part).bind fun bits =>
      (readParts? legend width parts).map fun others => bits ||| others

/-- The set of bits that a text stands for; a blank text is the empty set. -/
def readBits? (legend : Legend) (width : Nat) (cs : List Char) : Option Nat :=
  if (trim cs).isEmpty then some 0 else readParts? legend width (splitBars cs)

/-- The text of a set of bits for a reader of diagnostics, which shows the empty set as a number. -/
def showBits (legend : Legend) (bits : Nat) : String :=
  String.ofList (if bits == 0 then hexMarked 0 else writeBits legend bits)

end KernelWait.Text
