import KernelWait.Flags
import KernelWait.Watch

/-!
# Raw entries

The entries of a wait as they lie in the caller's memory, and the watches that they stand for. Each
word may hold anything, so reading an entry may fail.

**An entry of unknown kind is marked and left out; an unknown event refuses the whole call**
(`RawEntry.watch?`, `decodeEntries`). Writing results back goes by position and touches nothing but
the events (`writeBack`).
-/

namespace KernelWait

/-- One entry of a wait as it lies in the caller's memory. The events asked for go in, and the
events that fired come out. -/
structure RawEntry where
  /-- the object's number -/
  object : ObjectId
  /-- the code of its kind -/
  kindCode : UInt16
  /-- the events -/
  events : UInt16
  deriving DecidableEq, Repr

namespace RawEntry

/-- The entry that asks for some events of an object. -/
def of (kind : Kind) (object : ObjectId) (events : Events) : RawEntry :=
  ⟨object, kind.code, events.bits⟩

/-- The entry in which nothing is set. -/
def zero : RawEntry := ⟨0, 0, 0⟩

/-- The watch that an entry stands for. An unknown kind stands for none; an unknown event is
refused, whatever the kind. -/
def watch? (e : RawEntry) : Except WaitError (Option Watch) :=
  match Events.ofBits? e.events with
  | none =>
    .error (.invalidArgument ("unknown event bits 0x" ++
      String.ofList (Text.hexPadded 4 e.events.toNat)))
  | some events =>
    match Kind.ofCode e.kindCode with
    | .error _ => .ok none
    | .ok kind => .ok (some { kind := kind, id := e.object, requested := events })

/-- The entry of an object that is not there. -/
def markInvalid (e : RawEntry) : RawEntry := { e with events := Events.invalid.bits }

/-- The entry with the results of its watch. -/
def store (e : RawEntry) (w : Watch) : RawEntry :=
  if w.status = .invalidObject then e.markInvalid else { e with events := w.result.bits }

end RawEntry

/-- The flags of a word, unless a bit of it has no name. -/
def Flags.decode (bits : UInt32) : Except WaitError Flags :=
  match ofBits? bits with
  | some flags => .ok flags
  | none =>
    .error (.invalidArgument ("unknown flag bits " ++ String.ofList (Text.hexMarked bits.toNat)))

/-- The watches of entries, each unknown kind standing for none; the first refusal counts. -/
def decodeEntries : List RawEntry → Except WaitError (List (Option Watch))
  | [] => .ok []
  | entry :: entries =>
    match entry.watch? with
    | .error cause => .error cause
    | .ok watch =>
      match decodeEntries entries with
      | .error cause => .error cause
      | .ok watches => .ok (watch :: watches)

/-- Writes the results of watches back to the entries they came from. An entry that stood for no
watch is marked. -/
def writeBack : List RawEntry → List (Option Watch) → List Watch → List RawEntry
  | entry :: entries, none :: decoded, ws => entry.markInvalid :: writeBack entries decoded ws
  | entry :: entries, some _ :: decoded, w :: ws => entry.store w :: writeBack entries decoded ws
  | entry :: entries, some _ :: decoded, [] => entry.markInvalid :: writeBack entries decoded []
  | entries, _, _ => entries

end KernelWait
