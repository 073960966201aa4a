import KernelWait.Json.Reader
import KernelWait.Json.Shape

/-!
# Stored values

Values that can be stored as JSON text and read back. Each type says which JSON value stands for
each of its values and which values it takes; the text is that of the JSON value.

**The stored form is canonical**: whatever text a value is read from, it is written in one way
(`Stored.canonical?`).
-/

namespace KernelWait

/-- Types whose values can be stored. -/
class Stored (α : Type) where
  /-- the JSON value that stands for a value -/
  toJson : α → Json
  /-- the value that a JSON value stands for -/
  ofJson? : Json → Option α

namespace Stored

variable {α : Type}

/-- The stored text of a value. -/
def text [Stored α] (a : α) : String := (toJson a).render

/-- The value that a text stands for. -/
def ofText? [Stored α] (s : String) : Option α := (Json.ofText? s).bind ofJson?

/-- The text that is stored for the value that another text stands for. -/
def canonical? (α : Type) [Stored α] (s : String) : Option String :=
  (ofText? s : Option α).map text

/-! ## Plain values -/

instance : Stored String := ⟨Json.text, Json.text?⟩

instance : Stored UInt8 := ⟨fun n => .nat n.toNat, fun j => (j.natBelow? UInt8.size).map UInt8.ofNat⟩

instance : Stored UInt16 :=
  ⟨fun n => .nat n.toNat, fun j => (j.natBelow? UInt16.size).map UInt16.ofNat⟩

instance : Stored UInt32 :=
  ⟨fun n => .nat n.toNat, fun j => (j.natBelow? UInt32.size).map UInt32.ofNat⟩

instance : Stored UInt64 :=
  ⟨fun n => .nat n.toNat, fun j => (j.natBelow? UInt64.size).map UInt64.ofNat⟩

instance : Stored Int32 :=
  ⟨fun n => .int n.toInt, fun j => (j.intBetween? (-Int.pow 2 31) (Int.pow 2 31)).map Int32.ofInt⟩

instance : Stored Int64 :=
  ⟨fun n => .int n.toInt, fun j => (j.intBetween? (-Int.pow 2 63) (Int.pow 2 63)).map Int64.ofInt⟩

/-- How many of something there are: counts are stored in 64 bits. -/
instance : Stored Nat := ⟨.nat, fun j => j.natBelow? UInt64.size⟩

instance [Stored α] : Stored (List α) where
  toJson items := .array (items.map toJson)
  ofJson?
    | .array items => items.mapM ofJson?
    | _ => none

/-! ## Named values -/

/-- Values that are stored by their names. -/
abbrev byName (name : α → String) (ofName? : String → Option α) : Stored α where
  toJson a := .text (name a)
  ofJson? j := j.choice?.bind ofName?

/-! ## Choices with a tag -/

/-- A choice without content, if none is stored with it. -/
def bare? (choice : α) (content : Option Json) : Option α :=
  if Json.isNothing content then some choice else none

/-- A choice with content, if a value is stored with it. -/
def filled? {β : Type} [Stored β] (choice : β → α) (content : Option Json) : Option α :=
  (content.bind ofJson?).map choice

end Stored

end KernelWait
