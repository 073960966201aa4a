import KernelWait.Limits
import KernelWait.Session.Table
import KernelWait.Signal.Basic

/-!
# The signal table

For each thread the signals that are pending, the signals it blocks, and the wait that a signal
aborts; and counts over all threads. A thread takes its deliverable signals, oldest first; blocked
ones stay.

**Nothing is lost by taking**: what is taken and what stays make up what was pending, each in the
order in which it was sent (`ThreadSignals.takeDeliverable`).
-/

namespace KernelWait

/-- The signals of one thread. -/
structure ThreadSignals where
  /-- the signals sent to it and not taken, oldest first -/
  pending : List PendingSignal := []
  /-- the signals it blocks -/
  blocked : List Signal := []
  /-- the session that a signal aborts -/
  activeWait : Option SessionId := none
  deriving DecidableEq, Repr

namespace ThreadSignals

/-- Whether the thread would get a signal: it cannot be blocked, or is not. -/
def delivers (t : ThreadSignals) (signal : Signal) : Bool :=
  !signal.canCatch || !t.blocked.contains signal

/-- Whether some pending signal would be delivered. -/
def hasDeliverable (t : ThreadSignals) : Bool := t.pending.any fun p => t.delivers p.signal

/-- The thread after it has taken its deliverable signals, and those signals. -/
def takeDeliverable (t : ThreadSignals) : ThreadSignals × List PendingSignal :=
  ({ t with pending := t.pending.filter fun p => !t.delivers p.signal },
    t.pending.filter fun p => t.delivers p.signal)

/-- The thread with one signal blocked. -/
def block (t : ThreadSignals) (signal : Signal) : ThreadSignals :=
  if t.blocked.contains signal then t else { t with blocked := t.blocked ++ [signal] }

/-- The thread with one signal no longer blocked. -/
def unblock (t : ThreadSignals) (signal : Signal) : ThreadSignals :=
  { t with blocked := t.blocked.filter (· != signal) }

end ThreadSignals

/-- The signals of all threads. -/
structure SignalTable where
  /-- the threads that anything is known of -/
  threads : List (ThreadId × ThreadSignals) := []
  /-- signals sent so far -/
  sent : UInt64 := 0
  /-- signals taken so far -/
  delivered : UInt64 := 0
  /-- waits aborted so far -/
  interrupted : UInt64 := 0
  deriving DecidableEq, Repr

namespace SignalTable

/-- The signals of a thread; nothing is pending or blocked for an unknown one. -/
def get (t : SignalTable) (thread : ThreadId) : ThreadSignals :=
  (t.threads.lookup thread).getD {}

/-- The table without a thread. -/
def forget (t : SignalTable) (thread : ThreadId) : SignalTable :=
  { t with threads := t.threads.filter (·.1 != thread) }

/-- The table with other signals for a thread. -/
def put (t : SignalTable) (thread : ThreadId) (s : ThreadSignals) : SignalTable :=
  { t with threads := (thread, s) :: (t.forget thread).threads }

/-- How many signals are pending in all. -/
def pendingTotal (t : SignalTable) : Nat :=
  t.threads.foldl (fun total p => total + p.2.pending.length) 0

/-- The counts over all threads. -/
def stats (t : SignalTable) : SignalStats :=
  { sent := t.sent, delivered := t.delivered, interrupted := t.interrupted,
    pending := t.pendingTotal }

/-- Queues a signal, unless too many are pending for the thread. -/
def enqueue (t : SignalTable) (thread : ThreadId) (p : PendingSignal) :
    Except SignalError SignalTable :=
  let s := t.get thread
  if Limits.maxPendingSignals ≤ s.pending.length then .error (.queueFull thread)
  else
    .ok { t.put thread { s with pending := s.pending ++ [p] } with sent := t.sent + 1 }

/-- Blocks a signal for a thread, if it can be blocked. -/
def block (t : SignalTable) (thread : ThreadId) (signal : Signal) :
    Except SignalError SignalTable :=
  if signal.canCatch then .ok (t.put thread ((t.get thread).block signal))
  else .error (.unblockable signal)

/-- Blocks a signal no longer. -/
def unblock (t : SignalTable) (thread : ThreadId) (signal : Signal) : SignalTable :=
  t.put thread ((t.get thread).unblock signal)

/-- Takes the deliverable signals of a thread, oldest first. -/
def take (t : SignalTable) (thread : ThreadId) : SignalTable × List PendingSignal :=
  let (s, taken) := (t.get thread).takeDeliverable
  ({ t.put thread s with delivered := t.delivered + UInt64.ofNat taken.length }, taken)

/-- Throws away all pending signals of a thread, and says how many there were. -/
def clear (t : SignalTable) (thread : ThreadId) : SignalTable × Nat :=
  let s := t.get thread
  (t.put thread { s with pending := [] }, s.pending.length)

/-- Forgets all there is about a thread, and says how many signals were pending. -/
def cleanup (t : SignalTable) (thread : ThreadId) : SignalTable × Nat :=
  (t.forget thread, (t.get thread).pending.length)

/-- Makes a session the one that signals to a thread abort. -/
def register (t : SignalTable) (thread : ThreadId) (session : SessionId) : SignalTable :=
  t.put thread { t.get thread with activeWait := some session }

/-- Lets signals to a thread abort no session. -/
def unregister (t : SignalTable) (thread : ThreadId) : SignalTable :=
  t.put thread { t.get thread with activeWait := none }

/-! ## Reading after writing -/

theorem lookup_filter_ne {thread other : ThreadId} (h : other ≠ thread)
    (l : List (ThreadId × ThreadSignals)) :
    (l.filter (·.1 != thread)).lookup other = l.lookup other := by
  induction l with
  | nil => rfl
  | cons x xs ih =>
    obtain ⟨k, s⟩ := x
    by_cases hk : k = thread
    · subst hk
      have h' : (other == k) = false := by simp [h]
      simp [List.lookup_cons, h', ih]
    · by_cases ho : other = k
      · subst ho
        simp [hk]
      · have ho' : (other == k) = false := by simp [ho]
        simp [List.lookup_cons, hk, ho', ih]

@[simp] theorem get_put_self (t : SignalTable) (thread : ThreadId) (s : ThreadSignals) :
    (t.put thread s).get thread = s := by
  simp [get, put]

theorem get_put_ne {thread other : ThreadId} (h : other ≠ thread) (t : SignalTable)
    (s : ThreadSignals) : (t.put thread s).get other = t.get other := by
  have h' : (other == thread) = false := by simp [h]
  simp [get, put, forget, List.lookup_cons, h', lookup_filter_ne h]

end SignalTable

end KernelWait
