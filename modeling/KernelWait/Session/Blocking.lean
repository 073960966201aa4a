import KernelWait.Session.Notifier

/-!
# The blocked phase

A blocked thread looks for a reason to go on, and when it finds none it parks on its event until a
signal or the deadline makes it look again. Other threads may act on the notifier between any two
steps.

**Looking comes before parking**, so a thread that has something to report never sleeps
(`Block.step_looking_of_verdict`).
-/

namespace KernelWait

/-- Why the blocked phase ended. -/
inductive Verdict where
  /-- a ticket has fired -/
  | ready
  /-- a signal has aborted the session -/
  | interrupted
  /-- the deadline passed -/
  | timedOut
  deriving DecidableEq, Repr

/-- The name of a verdict. -/
def Verdict.name : Verdict → String
  | ready => "Ready"
  | interrupted => "Interrupted"
  | timedOut => "TimedOut"

/-- The reason for a blocked thread to go on: fired tickets come before a signal, a signal before
the deadline. -/
def Notifier.verdict? (n : Notifier) : Option Verdict :=
  if n.anyLatched then some .ready
  else if n.interrupted then some .interrupted
  else if n.timedOut then some .timedOut
  else none

/-- Where a blocked thread stands. -/
inductive Block where
  /-- about to look for a reason to go on -/
  | looking
  /-- waiting for its event -/
  | parked
  /-- done waiting -/
  | finished (verdict : Verdict)
  deriving DecidableEq, Repr

namespace Block

/-- One step of a blocked thread. Expiry of the event's wait marks the session as expired. -/
def step (deadline : Deadline) (now : Moment) (n : Notifier) : Block → Notifier × Block
  | looking =>
    match n.verdict? with
    | some verdict => (n, finished verdict)
    | none => (n, parked)
  | parked =>
    match n.event.poll deadline now with
    | none => (n, parked)
    | some (event, .signaled) => ({ n with event := event }, looking)
    | some (event, .timedOut) => ({ n with event := event }.expire.1, looking)
  | finished verdict => (n, finished verdict)

/-- So many steps of a blocked thread that nobody disturbs. -/
def steps (deadline : Deadline) (now : Moment) : Nat → Notifier → Block → Notifier × Block
  | 0, n, b => (n, b)
  | k + 1, n, b =>
    let (n', b') := step deadline now n b
    steps deadline now k n' b'

/-- As many steps as an undisturbed thread can make: it uses up a stale signal, then its deadline,
and looks after each. -/
def enough : Nat := 6

/-- A thread with a reason to go on does not park. -/
theorem step_looking_of_verdict {deadline : Deadline} {now : Moment} {n : Notifier} {v : Verdict}
    (h : n.verdict? = some v) : step deadline now n looking = (n, finished v) := by
  simp [step, h]

end Block

end KernelWait
