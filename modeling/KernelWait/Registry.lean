import KernelWait.Object.Entity

/-!
# The object registry

Every object ever created, in order of creation, and a directory of those that are listed under
their kind and number. Objects are numbered by kind, in the order in which they are created; the
numbers are 32-bit integers and wrap around. An object that leaves the directory still exists for
whoever holds it.

**The directory names an object by one entry**: listing an object under a number takes the place
of what was listed there before (`Registry.list`).
-/

namespace KernelWait

/-- The place of an object among all that were ever created. -/
abbrev Target := Nat

/-- All objects, and the directory of those that can be looked up. -/
structure Registry where
  /-- every object ever created -/
  entities : List Entity := []
  /-- the listed objects, by kind and number -/
  directory : List ((Kind × ObjectId) × Target) := []
  deriving Repr

namespace Registry

/-- The number of the first object of a kind; the first three descriptor numbers are taken by the
standard streams. -/
def firstId : Kind → ObjectId
  | .endpoint => 3
  | .semaphore | .port | .thread => 1

/-- The number that the next object of a kind gets. -/
def nextId (r : Registry) (kind : Kind) : ObjectId :=
  firstId kind + Int32.ofNat (r.entities.countP (·.kind == kind))

/-- The listed object of a kind and number. -/
def lookup? (r : Registry) (kind : Kind) (id : ObjectId) : Option Target :=
  r.directory.lookup (kind, id)

/-- Looks an object up, and gives the refusal if none is listed. -/
def resolve (r : Registry) (kind : Kind) (id : ObjectId) : Except ObjectError Target :=
  match r.lookup? kind id with
  | some target => .ok target
  | none => .error (.notFound id)

/-- The last object ever created with a kind and number, listed or not. -/
def created? (r : Registry) (kind : Kind) (id : ObjectId) : Option Target :=
  (r.entities.zipIdx.reverse.find? fun p => p.1.kind == kind && p.1.id == id).map Prod.snd

/-- The object at a place. -/
def get? (r : Registry) (target : Target) : Option Entity := r.entities[target]?

/-- The number of listed objects. -/
def count (r : Registry) : Nat := r.directory.length

/-- The registry with one object changed. -/
def put (r : Registry) (target : Target) (e : Entity) : Registry :=
  { r with entities := r.entities.set target e }

/-- The registry without the directory entry of a kind and number. -/
def unlist (r : Registry) (kind : Kind) (id : ObjectId) : Registry :=
  { r with directory := r.directory.filter (·.1 != (kind, id)) }

/-- The registry with an object listed under its kind and number. -/
def list (r : Registry) (kind : Kind) (id : ObjectId) (target : Target) : Registry :=
  { r with directory := ((kind, id), target) :: (r.unlist kind id).directory }

/-- Creates an object and lists it; the answer is its number. -/
def create (r : Registry) (o : Object) : Registry × ObjectId :=
  let id := r.nextId o.kind
  let grown : Registry := { r with entities := r.entities ++ [{ id := id, object := o }] }
  (grown.list o.kind id r.entities.length, id)

/-! ## Reading after writing -/

theorem get?_put_self {r : Registry} {target : Target} {old : Entity}
    (h : r.get? target = some old) (e : Entity) : (r.put target e).get? target = some e := by
  have hlt : target < r.entities.length := (List.getElem?_eq_some_iff.1 h).1
  simp [get?, put, List.getElem?_set_self hlt]

theorem get?_put_ne {target other : Target} (h : other ≠ target) (r : Registry) (e : Entity) :
    (r.put target e).get? other = r.get? other := by
  simp [get?, put, List.getElem?_set_ne (Ne.symm h)]

@[simp] theorem directory_put (r : Registry) (target : Target) (e : Entity) :
    (r.put target e).directory = r.directory := rfl

end Registry

end KernelWait
