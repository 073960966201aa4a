import KernelWait.Limits
import KernelWait.Text.Numeral

/-!
# Configuration

How a blocked thread waits for its wake-up, and how many objects one call may name. A
configuration comes from a preset, from the environment, or from stored text.

**The environment only overrides**: a variable that is missing, is not text, or is not a numeral
leaves the default in place (`WaitConfig.ofEnvironment`).
-/

namespace KernelWait

/-- How a blocked thread waits for its wake-up. -/
inductive Strategy where
  /-- sleep at once -/
  | park
  /-- look again for a short while, then sleep -/
  | spinThenPark
  /-- one of the other two, as the machine suggests -/
  | auto
  deriving DecidableEq, Repr, Inhabited

namespace Strategy

/-- The name a strategy goes by in diagnostics. -/
def name : Strategy → String
  | park => "park"
  | spinThenPark => "spin-then-park"
  | auto => "auto"

/-- The strategy in force on a machine with so many cores: spinning pays off only where another
core can bring the wake-up. -/
def resolve (cores : Nat) : Strategy → Strategy
  | auto => if 1 < cores then spinThenPark else park
  | fixed => fixed

/-- A resolved strategy is never left to the machine. -/
theorem resolve_ne_auto (cores : Nat) (s : Strategy) : s.resolve cores ≠ auto := by
  cases s with
  | auto => simp only [resolve]; split <;> simp
  | _ => simp [resolve]

end Strategy

/-- How wake-ups are awaited. -/
structure SyncConfig where
  /-- how a blocked thread waits -/
  strategy : Strategy
  /-- how long it spins -/
  spin : Duration
  /-- how often it spins -/
  maxSpins : UInt32
  deriving DecidableEq, Repr

namespace SyncConfig

/-- The setting for unknown waits. -/
def standard : SyncConfig := ⟨.auto, Limits.wakeSpin, Limits.wakeMaxSpins⟩

/-- The setting for waits that are expected to be short. -/
def lowLatency : SyncConfig :=
  ⟨.spinThenPark, Limits.lowLatencySpin, Limits.lowLatencyMaxSpins⟩

/-- The setting for waits that are expected to be long. -/
def longWait : SyncConfig := ⟨.park, .zero, 0⟩

end SyncConfig

/-- The configuration of a multiplexer. -/
structure WaitConfig where
  /-- the most objects one call may name -/
  maxObjects : Nat
  /-- how wake-ups are awaited -/
  sync : SyncConfig
  deriving DecidableEq, Repr

namespace WaitConfig

/-- The configuration in force where nothing else is said. -/
def standard : WaitConfig := ⟨Limits.maxObjects, .standard⟩

/-- The configuration for short waits. -/
def lowLatency : WaitConfig := { standard with sync := .lowLatency }

/-- The configuration for long waits. -/
def longWait : WaitConfig := { standard with sync := .longWait }

/-- The numeral that an environment variable holds: the variable must be set and be proper text. -/
def setting? (bytes : Option ByteArray) : Option Nat :=
  bytes.bind String.fromUTF8? |>.bind fun text => Text.unsigned? 10 UInt64.size text.toList

/-- The configuration that the environment asks for: a positive object limit and a spin duration in
microseconds, each optional. -/
def ofEnvironment (maxObjects spinMicros : Option ByteArray) : WaitConfig :=
  let limit :=
    match setting? maxObjects with
    | some (n + 1) => n + 1
    | _ => standard.maxObjects
  let spin :=
    match setting? spinMicros with
    | some n => .ofMicros (UInt64.ofNat n)
    | none => standard.sync.spin
  { maxObjects := limit, sync := { standard.sync with spin := spin } }

end WaitConfig

end KernelWait
