import KernelWait.Session.Notifier

/-!
# The table of sessions

Every notifier ever made, by the number of its session. The table only grows: a session that ends
leaves an empty place behind, so a number is never given out twice and a queue entry that outlives
its session reaches nobody.

**Touching one session leaves all others as they were** (`SessionTable.get?_put_ne`).
-/

namespace KernelWait

/-- The number of a session. -/
abbrev SessionId := Nat

/-- All notifiers, in order of creation. -/
structure SessionTable where
  /-- one place for each session, empty once it is gone -/
  places : List (Option Notifier) := []
  deriving Repr

/-- A way from an object's queue to one ticket of a session. -/
structure Waker where
  /-- the session to wake -/
  session : SessionId
  /-- the ticket's slot -/
  slot : Nat
  deriving DecidableEq, Repr

namespace SessionTable

/-- The notifier of a session that still exists. -/
def get? (t : SessionTable) (id : SessionId) : Option Notifier := t.places[id]?.join

/-- The table with another notifier in a place that is in use. -/
def put (t : SessionTable) (id : SessionId) (n : Notifier) : SessionTable :=
  { t with places := t.places.modify id fun place => place.map fun _ => n }

/-- The table with one notifier changed. -/
def modify (t : SessionTable) (id : SessionId) (f : Notifier → Notifier) : SessionTable :=
  { t with places := t.places.modify id fun place => place.map f }

/-- The number that the next session gets. -/
def nextId (t : SessionTable) : SessionId := t.places.length

/-- The table with one session more. -/
def add (t : SessionTable) (n : Notifier) : SessionTable := { t with places := t.places ++ [some n] }

/-- The table without a session. -/
def discard (t : SessionTable) (id : SessionId) : SessionTable :=
  { t with places := t.places.set id none }

/-- Whether a session still exists. -/
def exists? (t : SessionTable) (id : SessionId) : Bool := (t.get? id).isSome

/-- Delivers events to a ticket; refused when the session is gone or over, or has no such slot. -/
def wake (t : SessionTable) (w : Waker) (events : Events) : SessionTable × Bool :=
  match t.get? w.session with
  | none => (t, false)
  | some n =>
    let (n', accepted) := n.latch w.slot events
    (t.put w.session n', accepted)

/-- Whether a ticket's session still accepts events. -/
def isLive (t : SessionTable) (w : Waker) : Bool :=
  match t.get? w.session with
  | none => false
  | some n => n.phase != .done

/-- Aborts a session; refused when it is gone, past sleeping, or aborted before. -/
def abort (t : SessionTable) (id : SessionId) : SessionTable × Bool :=
  match t.get? id with
  | none => (t, false)
  | some n =>
    let (n', accepted) := n.interrupt
    (t.put id n', accepted)

/-- Expires a session; refused when it is gone, past sleeping, or expired before. -/
def expire (t : SessionTable) (id : SessionId) : SessionTable × Bool :=
  match t.get? id with
  | none => (t, false)
  | some n =>
    let (n', accepted) := n.expire
    (t.put id n', accepted)

/-- Takes the named events out of a ticket's slot. -/
def take (t : SessionTable) (w : Waker) : SessionTable × Events :=
  match t.get? w.session with
  | none => (t, ∅)
  | some n =>
    let (n', events) := n.take w.slot
    (t.put w.session n', events)

/-! ## Reading after writing -/

theorem get?_modify_self (t : SessionTable) (id : SessionId) (f : Notifier → Notifier) :
    (t.modify id f).get? id = (t.get? id).map f := by
  simp only [get?, modify, List.getElem?_modify]
  rcases t.places[id]? with _ | _ | n <;> rfl

theorem get?_modify_ne {id other : SessionId} (h : other ≠ id) (t : SessionTable)
    (f : Notifier → Notifier) : (t.modify id f).get? other = t.get? other := by
  have h' : id ≠ other := fun e => h e.symm
  simp only [get?, modify, List.getElem?_modify, h', if_false]
  rcases t.places[other]? with _ | _ | n <;> rfl

theorem put_eq_modify (t : SessionTable) (id : SessionId) (n : Notifier) :
    t.put id n = t.modify id fun _ => n := rfl

theorem get?_put_self {t : SessionTable} {id : SessionId} {old : Notifier}
    (h : t.get? id = some old) (n : Notifier) : (t.put id n).get? id = some n := by
  simp [put_eq_modify, get?_modify_self, h]

theorem get?_put_ne {id other : SessionId} (h : other ≠ id) (t : SessionTable) (n : Notifier) :
    (t.put id n).get? other = t.get? other := by
  rw [put_eq_modify, get?_modify_ne h]

theorem get?_add_self (t : SessionTable) (n : Notifier) : (t.add n).get? t.nextId = some n := by
  simp [get?, add, nextId]

theorem get?_discard_self (t : SessionTable) (id : SessionId) : (t.discard id).get? id = none := by
  simp only [get?, discard, List.getElem?_set_self']
  rcases t.places[id]? with _ | place <;> rfl

theorem get?_discard_ne {id other : SessionId} (h : other ≠ id) (t : SessionTable) :
    (t.discard id).get? other = t.get? other := by
  simp [get?, discard, List.getElem?_set_ne (Ne.symm h)]

end SessionTable

/-- A waker for a reader of diagnostics. -/
def Waker.describe (t : SessionTable) (w : Waker) : String :=
  Text.showRecord "Waker" [("slot", Text.natText w.slot), ("live", Text.boolText (t.isLive w))]

/-- The abort handle of a session for a reader of diagnostics. -/
def SessionTable.describeHandle (t : SessionTable) (id : SessionId) : String :=
  Text.showRecord "AbortHandle" [("live", Text.boolText (t.exists? id))]

end KernelWait
