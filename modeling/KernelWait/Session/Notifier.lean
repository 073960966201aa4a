import KernelWait.Events
import KernelWait.Text.Diagnostic
import KernelWait.WakeEvent

/-!
# Notifiers

The part of a wait session that other threads touch. Producers latch events into the slots of its
tickets; a signal aborts it and its own timer expires it; each of these wakes the owner while the
session has not begun to drain.

**Refused calls change nothing** (`Notifier.latch_refused`, `Notifier.interrupt_refused`), and the
counter of latched slots counts the slots that hold anything (`Notifier.Counted`).
-/

namespace KernelWait

/-- The life of a wait session. -/
inductive Phase where
  /-- looking the objects up -/
  | resolving
  /-- joining their queues -/
  | enrolling
  /-- asleep -/
  | blocked
  /-- collecting what fired -/
  | draining
  /-- over -/
  | done
  deriving DecidableEq, Repr, Inhabited

namespace Phase

/-- The name of a phase. -/
def name : Phase → String
  | resolving => "Resolving"
  | enrolling => "Enrolling"
  | blocked => "Blocked"
  | draining => "Draining"
  | done => "Done"

/-- The phase with a name. -/
def ofName? (name : String) : Option Phase :=
  [resolving, enrolling, blocked, draining, done].find? (·.name == name)

/-- Whether the owner may still go to sleep, so that it has to be woken. -/
def wakes : Phase → Bool
  | resolving | enrolling | blocked => true
  | draining | done => false

end Phase

/-- The shared side of a wait session. -/
structure Notifier where
  /-- how far the session has come -/
  phase : Phase := .resolving
  /-- what has fired for each ticket slot and was not taken yet -/
  latched : List Events
  /-- how many slots hold something -/
  latchedSlots : Nat := 0
  /-- the timer has expired -/
  timedOut : Bool := false
  /-- a signal has aborted the session -/
  interrupted : Bool := false
  /-- what the owner sleeps on -/
  event : WakeEvent := {}
  deriving DecidableEq, Repr

namespace Notifier

/-- A notifier with so many ticket slots. There is no room for `Limits.ticketSlots` of them. -/
def new? (slots : Nat) : Except WaitError Notifier :=
  if slots < Limits.ticketSlots then .ok { latched := List.replicate slots ∅ }
  else .error (.resourceExhausted (Text.natText slots ++
    " ticket slots: memory allocation failed because the computed capacity exceeded the " ++
    "collection's maximum"))

/-- The notifier with its session in another phase. -/
def advance (phase : Phase) (n : Notifier) : Notifier := { n with phase := phase }

/-- The notifier with a signal pending for its owner. -/
def signal (n : Notifier) : Notifier := { n with event := n.event.signal }

/-- Wakes the owner if it may still go to sleep. -/
def wakeOwner (n : Notifier) : Notifier := if n.phase.wakes then n.signal else n

/-- Adds events to what a slot holds. -/
def store (slot : Nat) (held events : Events) (n : Notifier) : Notifier :=
  { n with
    latched := n.latched.set slot (held ∪ events)
    latchedSlots := if held = ∅ then n.latchedSlots + 1 else n.latchedSlots }

/-- Latches fired events into a ticket slot and wakes the owner. It is refused once the session is
over, when there are no events, and when there is no such slot. -/
def latch (slot : Nat) (events : Events) (n : Notifier) : Notifier × Bool :=
  if n.phase = .done ∨ events = ∅ then (n, false)
  else
    match n.latched[slot]? with
    | none => (n, false)
    | some held => ((n.store slot held events).wakeOwner, true)

/-- Takes the named events out of a slot, and empties it. -/
def take (slot : Nat) (n : Notifier) : Notifier × Events :=
  match n.latched[slot]? with
  | none => (n, ∅)
  | some held =>
    ({ n with
        latched := n.latched.set slot ∅
        latchedSlots := if held = ∅ then n.latchedSlots else n.latchedSlots - 1 },
      held.truncate)

/-- Whether some slot holds anything. -/
def anyLatched (n : Notifier) : Bool := decide (0 < n.latchedSlots)

/-- Marks the session as aborted. Only the first mark before the session drains is accepted. -/
def interrupt (n : Notifier) : Notifier × Bool :=
  if n.phase.wakes ∧ n.interrupted = false then ({ n with interrupted := true }.signal, true)
  else (n, false)

/-- Marks the session as expired. Only the first mark before the session drains is accepted. -/
def expire (n : Notifier) : Notifier × Bool :=
  if n.phase.wakes ∧ n.timedOut = false then ({ n with timedOut := true }.signal, true)
  else (n, false)

/-- The notifier for a reader of diagnostics. -/
def describe (n : Notifier) : String :=
  Text.showRecord "SessionNotifier"
    [("state", n.phase.name), ("slots", Text.natText n.latched.length),
      ("timed_out", Text.boolText n.timedOut), ("interrupted", Text.boolText n.interrupted)]

/-- The counter of latched slots agrees with the slots. -/
def Counted (n : Notifier) : Prop :=
  n.latchedSlots = n.latched.countP (· ≠ ∅)

/-! ## Refusals -/

theorem latch_refused {slot : Nat} {events : Events} {n : Notifier}
    (h : (n.latch slot events).2 = false) : (n.latch slot events).1 = n := by
  unfold latch at h ⊢
  split
  · rfl
  · split <;> simp_all

theorem interrupt_refused {n : Notifier} (h : n.interrupt.2 = false) : n.interrupt.1 = n := by
  unfold interrupt at h ⊢
  split <;> simp_all

theorem expire_refused {n : Notifier} (h : n.expire.2 = false) : n.expire.1 = n := by
  unfold expire at h ⊢
  split <;> simp_all

end Notifier

end KernelWait
