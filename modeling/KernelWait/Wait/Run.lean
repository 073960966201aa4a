import KernelWait.Wait.Step

/-!
# Running wait calls

A call that nobody disturbs, run until it sleeps or returns. A call is started, may be resumed when
it sleeps, and is finished once nobody acts any more.

**A call sleeps at one place only**, so that a bounded number of steps brings it there or to its end
(`Call.bound`).
-/

namespace KernelWait

/-- As many steps as a call can make without sleeping: three for each slot, and a few of its own. -/
def Call.bound (c : Call) : Nat := 3 * c.slots.length + 16

namespace System

/-- At most so many steps of a call that nobody disturbs, until it sleeps or returns. -/
def settle : Nat → System → Call → System × Progress
  | 0, s, c => (s, .running c)
  | n + 1, s, c =>
    if c.asleep s then (s, .running c)
    else
      match c.step s with
      | (s', .running c') => settle n s' c'
      | returned => returned

/-- Lets a sleeping call go on, until it sleeps again or returns. -/
def resume (s : System) (c : Call) : System × Progress := settle c.bound s c

/-- Makes a call until it sleeps or returns. -/
def start (s : System) (r : Request) : System × Progress :=
  match s.begin r with
  | (s', .running c) => s'.resume c
  | returned => returned

/-- Lets a call that nobody wakes sleep until its deadline and go on. -/
def expire (s : System) (c : Call) : System × Progress :=
  resume (s.sleepUntil c.session.deadline) c

/-- Lets a call that nobody disturbs any more run to its end, if it has one. -/
def finish (s : System) : Progress → System × Progress
  | .returned reply => (s, .returned reply)
  | .running c =>
    match s.resume c with
    | (s', .running c') => s'.expire c'
    | returned => returned

end System

end KernelWait
