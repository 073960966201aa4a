import KernelWait.Session.Table

/-!
# Wait queues

The queue of tickets that wait for one object. A ticket joins only when the object is not ready for
it, gets a token that is new to the queue, and leaves when it fires, when it is withdrawn, or when
its session is found to be over.

**An entry fires at the first readiness that meets its interest** and is then gone
(`WaitQueue.notify`); withdrawal may reorder the entries but removes exactly one
(`WaitQueue.removeAt_perm`).
-/

namespace KernelWait

/-- The number of one entry of a queue. -/
abbrev Token := UInt64

/-- One waiting ticket. -/
structure QueueEntry where
  /-- the number of the entry -/
  token : Token
  /-- the events waited for -/
  interest : Events
  /-- the ticket to wake -/
  waker : Waker
  deriving DecidableEq, Repr

/-- The tickets that wait for an object. -/
structure WaitQueue where
  /-- the waiting tickets -/
  entries : List QueueEntry := []
  /-- the number that the next entry gets -/
  nextToken : Token := 0
  deriving DecidableEq, Repr

/-- What became of an attempt to join a queue. -/
inductive Enrollment where
  /-- the object is ready for these events, and nothing was queued -/
  | ready (events : Events)
  /-- the ticket waits under this number -/
  | enrolled (token : Token)
  deriving DecidableEq, Repr

namespace WaitQueue

/-- The number of waiting tickets. -/
def size (q : WaitQueue) : Nat := q.entries.length

/-- Joins the queue unless the object's readiness meets the interest already. -/
def enroll (readiness interest : Events) (waker : Waker) (q : WaitQueue) :
    WaitQueue × Enrollment :=
  if readiness ∩ interest = ∅ then
    ({ entries := q.entries ++ [⟨q.nextToken, interest, waker⟩]
       nextToken := q.nextToken + 1 },
      .enrolled q.nextToken)
  else (q, .ready (readiness ∩ interest))

/-- A list without the element at a position; the last element takes its place. -/
def removeAt (entries : List QueueEntry) (i : Nat) : List QueueEntry :=
  match entries.getLast? with
  | none => []
  | some last => (entries.set i last).dropLast

/-- Withdraws the entry with a number, and says whether it was there. -/
def remove (token : Token) (q : WaitQueue) : WaitQueue × Bool :=
  match q.entries.findIdx? (·.token == token) with
  | none => (q, false)
  | some i => ({ q with entries := removeAt q.entries i }, true)

/-- Wakes the entries that the events meet, front to back: the entries that stay, the sessions
after it, and how many were woken. An entry that is not met stays while its session is live. -/
def sweep (events : Events) : List QueueEntry → SessionTable → List QueueEntry × SessionTable × Nat
  | [], t => ([], t, 0)
  | entry :: entries, t =>
    if entry.interest ∩ events = ∅ then
      let (kept, t', woken) := sweep events entries t
      (if t.isLive entry.waker then entry :: kept else kept, t', woken)
    else
      let (t₁, accepted) := t.wake entry.waker (entry.interest ∩ events)
      let (kept, t', woken) := sweep events entries t₁
      (kept, t', if accepted then woken + 1 else woken)

/-- Announces the events an object is ready for: every entry that they meet is woken and leaves.
Nothing happens when there are no events. -/
def notify (events : Events) (q : WaitQueue) (t : SessionTable) : WaitQueue × SessionTable × Nat :=
  if events = ∅ then (q, t, 0)
  else
    let (kept, t', woken) := sweep events q.entries t
    ({ q with entries := kept }, t', woken)

/-- The queue for a reader of diagnostics. -/
def describe (q : WaitQueue) : String :=
  Text.showRecord "WaiterList" [("len", Text.natText q.size)]

/-- Every entry waits for something the object is not ready for. -/
def DisjointFrom (readiness : Events) (q : WaitQueue) : Prop :=
  ∀ entry ∈ q.entries, entry.interest ∩ readiness = ∅

/-! ## Removal -/

/-- An element exchanged for another: up to order, one goes and the other comes. -/
theorem cons_set_perm {α : Type} (a : α) {l : List α} {i : Nat} (h : i < l.length) :
    (l[i] :: l.set i a).Perm (a :: l) := by
  induction l generalizing i with
  | nil => simp at h
  | cons x xs ih =>
    cases i with
    | zero => exact List.Perm.swap _ _ _
    | succ i =>
      have hi : i < xs.length := by simpa using h
      exact (List.Perm.swap _ _ _).trans (((ih hi).cons x).trans (List.Perm.swap _ _ _))

/-- Up to order, removal takes away exactly the element at the position. -/
theorem removeAt_perm {entries : List QueueEntry} {i : Nat} (h : i < entries.length) :
    (entries[i] :: removeAt entries i).Perm entries := by
  rcases List.eq_nil_or_concat entries with rfl | ⟨front, last, rfl⟩
  · simp at h
  · simp only [List.concat_eq_append] at h ⊢
    simp only [removeAt, List.getLast?_append, List.getLast?_singleton, Option.some_or]
    by_cases hi : i < front.length
    · rw [List.set_append_left _ _ hi, List.dropLast_concat, List.getElem_append_left hi]
      exact (cons_set_perm last hi).trans (List.perm_append_singleton last front).symm
    · have hi' : i = front.length := by simp at h; omega
      subst hi'
      simp
      exact (List.perm_append_singleton last front).symm

end WaitQueue

end KernelWait
