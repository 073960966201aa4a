import KernelWait.Clock

/-!
# Wake events

The private event a blocked thread sleeps on. Its flag is **sticky**: a signal that comes before
the thread starts to wait is kept and ends the next wait at once, and waiting uses the signal up
(`WakeEvent.poll_signal`).
-/

namespace KernelWait

/-- An event with one consumer and any number of producers. -/
structure WakeEvent where
  /-- a signal is pending -/
  signaled : Bool := false
  deriving DecidableEq, Repr, Inhabited

/-- Why a wait on an event ended. -/
inductive WakeResult where
  /-- a signal was used up -/
  | signaled
  /-- the deadline passed without one -/
  | timedOut
  deriving DecidableEq, Repr

namespace WakeEvent

/-- Leaves a signal for the consumer. -/
def signal (_ : WakeEvent) : WakeEvent := ⟨true⟩

/-- How a wait on the event stands at a moment: ended by a pending signal, which is used up, or by
its deadline, or not ended yet. -/
def poll (deadline : Deadline) (now : Moment) (event : WakeEvent) :
    Option (WakeEvent × WakeResult) :=
  if event.signaled then some (⟨false⟩, .signaled)
  else if deadline.hasPassed now then some (event, .timedOut)
  else none

/-- A wait that no other thread disturbs: it ends at once or at its deadline, and without either it
never does. -/
def await (deadline : Deadline) (now : Moment) (event : WakeEvent) :
    Option (WakeEvent × WakeResult) :=
  match deadline with
  | .never => event.poll .never now
  | .due moment => event.poll deadline (max now moment)

/-- A signal ends the next wait, whatever its deadline, and is used up by it. -/
theorem poll_signal (deadline : Deadline) (now : Moment) (event : WakeEvent) :
    event.signal.poll deadline now = some (⟨false⟩, .signaled) := rfl

/-- A wait times out only when its deadline has passed. -/
theorem hasPassed_of_poll {deadline : Deadline} {now : Moment} {event after : WakeEvent}
    (h : event.poll deadline now = some (after, .timedOut)) : deadline.hasPassed now = true := by
  unfold poll at h
  split at h
  · simp at h
  · split at h
    · assumption
    · simp at h

end WakeEvent

end KernelWait
