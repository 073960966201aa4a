import KernelWait.Duration
import KernelWait.Error
import KernelWait.Flags
import KernelWait.Limits

/-!
# Clock, timeouts and deadlines

Moments are told apart to the nanosecond, up to a horizon. Time stamps are microseconds on the kernel
clock, which counts from the moment at which it is first read. A caller's timeout is read from the flags
and a signed value; armed at a moment it becomes a deadline, which is a moment or never.

**To read the clock changes nothing that it tells now** (`Clock.origin_read`). But it settles what the clock
tells later: two clocks agree as long as they were first read at the same moment (`Clock.CountsAs`,
`Timeout.arm_congr`).

**A deadline has passed just when no time remains before it** (`Deadline.hasPassed_iff`), and what
has passed stays passed (`Deadline.hasPassed_mono`).
-/

namespace KernelWait

/-- A moment, in nanoseconds from one that comes before all others. -/
abbrev Moment := Nat

/-- The kernel clock. -/
structure Clock where
  /-- the present moment -/
  now : Moment
  /-- the last moment that can be represented -/
  horizon : Moment
  /-- the moment that time stamps count from, once the clock was read -/
  boot : Option Moment := none
  /-- how long it takes to come to read the clock for the first time -/
  delay : Nat := 0
  deriving DecidableEq, Repr

namespace Clock

/-- The moment that time stamps count from. Until the clock is read that is a moment to come: a call which
is the first to read it notes its own start before. -/
def origin (clock : Clock) : Moment :=
  clock.boot.getD (min (clock.now + clock.delay) clock.horizon)

/-- The clock once it was read. -/
def read (clock : Clock) : Clock := { clock with boot := some clock.origin }

/-- The clock as it was before it was read. -/
def unread (clock : Clock) : Clock := { clock with boot := none }

/-- The moment of a time stamp: one before boot counts as boot, one beyond the horizon has none. -/
def momentAt? (clock : Clock) (stamp : Int64) : Option Moment :=
  let moment := clock.origin + stamp.toInt.toNat * 1000
  if moment ≤ clock.horizon then some moment else none

/-- The time stamp of the present moment, which stops at the greatest one. -/
def stamp (clock : Clock) : Int64 :=
  Int64.ofInt (min (((clock.now - clock.origin) / 1000 : Nat) : Int) Int64.maxValue.toInt)

/-- The clock after so many nanoseconds, or at its horizon. -/
def elapse (clock : Clock) (nanos : Nat) : Clock :=
  { clock with now := min (clock.now + nanos) clock.horizon }

/-- The clock at a later moment; an earlier one leaves it as it is. -/
def advanceTo (clock : Clock) (moment : Moment) : Clock :=
  { clock with now := max clock.now moment }

/-- Clocks that count from the same moment, if both were read. -/
def CountsAs (clock clock' : Clock) : Prop :=
  ∀ boot boot', clock.boot = some boot → clock'.boot = some boot' → boot = boot'

variable {clock clock' : Clock} {boot : Moment}

theorem origin_of_boot (h : clock.boot = some boot) : clock.origin = boot := by
  rw [origin, h, Option.getD_some]

@[simp] theorem origin_read (clock : Clock) : clock.read.origin = clock.origin := rfl

theorem CountsAs.of_eq (h : clock = clock') : clock.CountsAs clock' := fun _ _ hboot hboot' =>
  Option.some.inj (hboot.symm.trans (h ▸ hboot'))

/-- Clocks that show the same time tell the same, if they count from the same moment. -/
theorem stamp_congr (h : clock.unread = clock'.unread) (horigin : clock.origin = clock'.origin) :
    clock.stamp = clock'.stamp := by
  have hnow : clock.now = clock'.now := congrArg (fun c => c.now) h
  rw [stamp, stamp, hnow, horigin]

end Clock

/-- How long a caller is prepared to wait. -/
inductive Timeout where
  /-- for ever -/
  | infinite
  /-- so long from the start of the call -/
  | relative (span : Duration)
  /-- until a time stamp of the kernel clock -/
  | absolute (stamp : Int64)
  deriving DecidableEq, Repr

namespace Timeout

/-- Not to wait at all. -/
def poll : Timeout := relative .zero

/-- The timeout that flags and a value stand for. Both kinds at once are refused before the value
is looked at; the greatest value never expires; a negative duration is none. -/
def ofFlags (flags : Flags) (value : Int64) : Except WaitError Timeout :=
  let isRelative := flags.includes .relativeTimeout
  let isAbsolute := flags.includes .absoluteTimeout
  if isRelative && isAbsolute then
    .error (.invalidArgument "relative and absolute timeout flags are exclusive")
  else if value = Limits.infiniteTimeout then .ok infinite
  else if isRelative then .ok (relative (.ofMicros (UInt64.ofNat value.toInt.toNat)))
  else if isAbsolute then .ok (absolute value)
  else .ok infinite

end Timeout

/-- When a wait is given up. -/
inductive Deadline where
  /-- at no time -/
  | never
  /-- at this moment -/
  | due (moment : Moment)
  deriving DecidableEq, Repr, Inhabited

/-- The deadline of a timeout that starts now. A moment beyond the horizon is never reached. -/
def Timeout.arm (clock : Clock) : Timeout → Deadline
  | infinite => .never
  | relative span =>
    if clock.now + span.total ≤ clock.horizon then .due (clock.now + span.total) else .never
  | absolute stamp =>
    match clock.momentAt? stamp with
    | some moment => .due moment
    | none => .never

/-- The clock when a timeout was armed: it is read for a time stamp, and for nothing else. -/
def Timeout.consult (clock : Clock) : Timeout → Clock
  | absolute _ => clock.read
  | _ => clock

/-- Clocks that show the same time give a timeout the same deadline, if they count from the same moment
once they are read for it. -/
theorem Timeout.arm_congr {clock clock' : Clock} {timeout : Timeout} (h : clock.unread = clock'.unread)
    (hcounts : (timeout.consult clock).CountsAs (timeout.consult clock')) :
    timeout.arm clock = timeout.arm clock' := by
  have hnow : clock.now = clock'.now := congrArg (fun c => c.now) h
  have hhorizon : clock.horizon = clock'.horizon := congrArg (fun c => c.horizon) h
  cases timeout with
  | infinite => rfl
  | relative span => rw [arm, arm, hnow, hhorizon]
  | absolute stamp =>
    have horigin : clock.origin = clock'.origin := hcounts _ _ rfl rfl
    rw [arm, arm, Clock.momentAt?, Clock.momentAt?, horigin, hhorizon]

namespace Deadline

/-- Whether the deadline has passed at a moment. -/
def hasPassed (now : Moment) : Deadline → Bool
  | never => false
  | due moment => decide (moment ≤ now)

/-- The nanoseconds that remain before the deadline; there are none to count if it never comes. -/
def remaining (now : Moment) : Deadline → Option Nat
  | never => none
  | due moment => some (moment - now)

/-- A deadline has passed just when no time remains. -/
theorem hasPassed_iff (d : Deadline) (now : Moment) :
    d.hasPassed now = true ↔ d.remaining now = some 0 := by
  cases d with
  | never => simp [hasPassed, remaining]
  | due moment => simp [hasPassed, remaining, Nat.sub_eq_zero_iff_le]

/-- What has passed stays passed. -/
theorem hasPassed_mono {d : Deadline} {now later : Moment} (h : d.hasPassed now = true)
    (hle : now ≤ later) : d.hasPassed later = true := by
  cases d with
  | never => simp [hasPassed] at h
  | due moment =>
    simp only [hasPassed, decide_eq_true_eq] at h ⊢
    exact Nat.le_trans h hle

end Deadline

end KernelWait
