import KernelWait.Config
import KernelWait.Kernel
import KernelWait.Statistics

/-!
# Systems

The kernel together with one multiplexer: the configuration that says how many objects a call may
name, and the counters that its calls are recorded in. Several multiplexers may share a kernel.

**The number of entries is checked in one place**, for typed and raw calls alike
(`System.countRefusal?`).
-/

namespace KernelWait

/-- A kernel seen through one multiplexer, with its configuration and its counters. -/
structure System where
  /-- what all threads share -/
  kernel : Kernel
  /-- the configuration of the multiplexer -/
  config : WaitConfig
  /-- the counters of the multiplexer -/
  stats : Statistics := {}
  deriving Repr

namespace System

/-- The system with one thing more counted. -/
def record (s : System) (tally : Tally) : System := { s with stats := s.stats.record tally }

/-- Why so many watches are refused, if they are. -/
def countRefusal? (s : System) (count : Nat) : Option WaitError :=
  if count = 0 then some (.invalidArgument "no descriptors")
  else if s.config.maxObjects < count then
    some (.invalidArgument (Text.natText count ++ " descriptors exceeds limit " ++
      Text.natText s.config.maxObjects))
  else none

/-- The system when a deadline has come; without one no time passes. -/
def sleepUntil (s : System) (deadline : Deadline) : System :=
  { s with kernel := s.kernel.sleepUntil deadline }

end System

end KernelWait
