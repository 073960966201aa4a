import KernelWait.Config
import KernelWait.Stored.Basic

/-!
# Stored settings

The stored forms of wake-up strategies and configurations. Durations are stored in microseconds: what is
less than one of them is lost, and so is what a word cannot hold.
-/

namespace KernelWait

namespace Strategy

/-- The name under which a strategy is stored. -/
def key : Strategy → String
  | park => "park"
  | spinThenPark => "spin_then_park"
  | auto => "auto"

/-- The strategy stored under a name. -/
def ofKey? (key : String) : Option Strategy :=
  [park, spinThenPark, auto].find? (·.key == key)

end Strategy

instance : Stored Strategy := .byName Strategy.key Strategy.ofKey?

instance : Stored Duration where
  toJson d := Stored.toJson d.micros
  ofJson? j := (Stored.ofJson? j).map Duration.ofMicros

instance : Stored SyncConfig where
  toJson c := .record
    [("strategy", Stored.toJson c.strategy), ("spin_duration", Stored.toJson c.spin),
      ("max_spins", Stored.toJson c.maxSpins)]
  ofJson? j := do
    let [strategy, spin, spins] ← j.fields? ["strategy", "spin_duration", "max_spins"] | none
    return ⟨← Stored.ofJson? strategy, ← Stored.ofJson? spin, ← Stored.ofJson? spins⟩

instance : Stored WaitConfig where
  toJson c := .record
    [("max_objects", Stored.toJson c.maxObjects), ("sync", Stored.toJson c.sync)]
  ofJson? j := do
    let [limit, sync] ← j.fields? ["max_objects", "sync"] | none
    return ⟨← Stored.ofJson? limit, ← Stored.ofJson? sync⟩

end KernelWait
