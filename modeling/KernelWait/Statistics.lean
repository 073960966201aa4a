/-!
# Statistics

Counts over the calls of a multiplexer. The counters are 64-bit words and wrap around.

**Recording one thing touches one counter** (`Statistics.get_record`).
-/

namespace KernelWait

/-- What is counted. -/
inductive Tally where
  /-- calls accepted -/
  | calls
  /-- calls that found something ready without blocking -/
  | immediate
  /-- calls that blocked -/
  | blocked
  /-- calls that reported something ready -/
  | ready
  /-- calls that timed out -/
  | timeouts
  /-- calls ended by a signal -/
  | interrupts
  /-- entries that name no live object -/
  | invalidEntries
  /-- calls in which no entry names a live object -/
  | noValidTargets
  deriving DecidableEq, Repr

/-- The counters of a multiplexer. -/
structure Statistics where
  /-- calls accepted -/
  calls : UInt64 := 0
  /-- calls that found something ready without blocking -/
  immediate : UInt64 := 0
  /-- calls that blocked -/
  blocked : UInt64 := 0
  /-- calls that reported something ready -/
  ready : UInt64 := 0
  /-- calls that timed out -/
  timeouts : UInt64 := 0
  /-- calls ended by a signal -/
  interrupts : UInt64 := 0
  /-- entries that name no live object -/
  invalidEntries : UInt64 := 0
  /-- calls in which no entry names a live object -/
  noValidTargets : UInt64 := 0
  deriving DecidableEq, Repr

namespace Statistics

/-- The counter of a tally. -/
def get (s : Statistics) : Tally → UInt64
  | .calls => s.calls
  | .immediate => s.immediate
  | .blocked => s.blocked
  | .ready => s.ready
  | .timeouts => s.timeouts
  | .interrupts => s.interrupts
  | .invalidEntries => s.invalidEntries
  | .noValidTargets => s.noValidTargets

/-- Counts one thing. -/
def record (s : Statistics) : Tally → Statistics
  | .calls => { s with calls := s.calls + 1 }
  | .immediate => { s with immediate := s.immediate + 1 }
  | .blocked => { s with blocked := s.blocked + 1 }
  | .ready => { s with ready := s.ready + 1 }
  | .timeouts => { s with timeouts := s.timeouts + 1 }
  | .interrupts => { s with interrupts := s.interrupts + 1 }
  | .invalidEntries => { s with invalidEntries := s.invalidEntries + 1 }
  | .noValidTargets => { s with noValidTargets := s.noValidTargets + 1 }

/-- Counts the same thing so many times. -/
def recordMany (tally : Tally) : Nat → Statistics → Statistics
  | 0, s => s
  | n + 1, s => recordMany tally n (s.record tally)

/-- Recording adds one to its own counter and nothing to the others. -/
theorem get_record (s : Statistics) (tally other : Tally) :
    (s.record tally).get other = s.get other + if tally = other then 1 else 0 := by
  cases tally <;> cases other <;> simp [record, get]

end Statistics

end KernelWait
