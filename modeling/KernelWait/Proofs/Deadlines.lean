import Mathlib
import KernelWait.Proofs.Company

/-!
# Deadlines

The flags say from where a timeout value counts, the start of the call or the moment at which the clock
was first read (`Flags.origin?`), and the deadline is that many microseconds later, if the clock reaches so
far (`Clock.deadline_of_origin`). A value below nothing counts as none, and the greatest value does not
count at all.

**The two kinds of timeout agree on one clock, right up to its end** (`Clock.reckons_deadlines`): a later
value never makes an earlier deadline, what remains leads exactly up to the deadline, and a call does not
wait just when its time is up at the start. A call that is the first to read the clock starts before that,
so no time stamp need be over for it.
-/

namespace KernelWait

/-! ## What flags and a value stand for -/

/-- From where a timeout value counts in a call that starts now, if the flags say so. -/
def Flags.origin? (flags : Flags) (clock : Clock) : Option Moment :=
  if flags.includes .relativeTimeout then some clock.now
  else if flags.includes .absoluteTimeout then some clock.origin
  else none

/-- The deadline that flags and a value stand for when a call starts. -/
def Clock.deadline (clock : Clock) (flags : Flags) (value : Int64) : Except WaitError Deadline :=
  (Timeout.ofFlags flags value).map (Timeout.arm clock)

/-- When a deadline comes. One that never does is later than all others. -/
def Deadline.time : Deadline → WithTop Moment
  | never => ⊤
  | due moment => moment

/-- The moment so long after another one as a deadline: never, if the clock does not reach so far. -/
def Clock.after (clock : Clock) (origin : Moment) (micros : Nat) : Deadline :=
  if origin + micros * 1000 ≤ clock.horizon then .due (origin + micros * 1000) else .never

namespace Timeout

/-- The timeout is over when a call starts. A time stamp below nothing counts as none. -/
def Polls (clock : Clock) : Timeout → Prop
  | infinite => False
  | relative span => span = .zero
  | absolute stamp => clock.origin + stamp.toInt.toNat * 1000 ≤ clock.now

end Timeout

/-- The time that flags and a value give a call is over when it starts. The greatest value is no time
stamp. -/
def Flags.Polls (flags : Flags) (value : Int64) (clock : Clock) : Prop :=
  (flags.includes .relativeTimeout = true ∧ value ≤ 0) ∨
    (flags.includes .absoluteTimeout = true ∧ value ≠ Limits.infiniteTimeout ∧
      clock.origin + value.toInt.toNat * 1000 ≤ clock.now)

/-- A wait does not wait: its time is over when it starts. -/
def Invocation.Polls (clock : Clock) : Invocation → Prop
  | multiplexer r => r.timeout.Polls clock
  | typed _ _ flags value => flags.Polls value clock
  | raw r => Flags.Polls ⟨r.flags⟩ r.timeout clock

variable {clock : Clock} {flags : Flags} {value : Int64}

theorem toNat_toInt_mono {value value' : Int64} (h : value ≤ value') :
    value.toInt.toNat ≤ value'.toInt.toNat :=
  Int.toNat_le_toNat (Int64.le_iff_toInt_le.1 h)

/-- A value that is not positive counts as none. -/
theorem toNat_toInt_eq_zero_iff : value.toInt.toNat = 0 ↔ value ≤ 0 := by
  rw [Int.toNat_eq_zero, Int64.le_iff_toInt_le, Int64.toInt_zero]

/-- A value is a word of microseconds, if it is not below nothing. -/
theorem total_ofMicros_value (value : Int64) :
    (Duration.ofMicros (UInt64.ofNat value.toInt.toNat)).total = value.toInt.toNat * 1000 := by
  have hlt : value.toInt.toNat < UInt64.size := by
    have hvalue := value.toInt_lt
    rw [UInt64.size]
    omega
  rw [Duration.total_ofMicros, UInt64.toNat_ofNat_of_lt' hlt]

/-- The greatest value is no less than any other. -/
theorem le_infiniteTimeout (value : Int64) : value ≤ Limits.infiniteTimeout :=
  Int64.le_iff_toInt_le.2 (Int64.toInt_le value)

namespace Deadline

theorem hasPassed_iff_time_le (d : Deadline) (now : Moment) :
    d.hasPassed now = true ↔ d.time ≤ now := by
  cases d with
  | never => exact ⟨Bool.false_ne_true.elim, fun h => absurd h (WithTop.not_top_le_coe now)⟩
  | due moment => exact decide_eq_true_iff.trans WithTop.coe_le_coe.symm

theorem eq_never_of_time {d : Deadline} (h : d.time = ⊤) : d = .never := by
  cases d with
  | never => rfl
  | due moment => cases h

end Deadline

namespace Clock

/-! ## The deadline of a value -/

theorem deadline_of_infinite (hkinds : ¬flags.Ambiguous) (clock : Clock) :
    clock.deadline flags Limits.infiniteTimeout = .ok .never := by
  rw [Flags.Ambiguous, ← Bool.and_eq_true] at hkinds
  rw [deadline, Timeout.ofFlags, if_neg hkinds, if_pos rfl]
  rfl

/-- Without a kind of timeout there is no deadline. -/
theorem deadline_of_none (hnone : flags.origin? clock = none) (value : Int64) :
    clock.deadline flags value = .ok .never := by
  rw [Flags.origin?] at hnone
  split_ifs at hnone with hrelative habsolute
  rw [Bool.not_eq_true] at hrelative habsolute
  simp only [deadline, Timeout.ofFlags, hrelative, habsolute, Bool.and_self, Bool.false_eq_true,
    if_false, ite_self]
  rfl

/-- A value that counts is counted from its origin, of either kind. -/
theorem deadline_of_origin {origin : Moment} (hkinds : ¬flags.Ambiguous)
    (hvalue : value ≠ Limits.infiniteTimeout) (horigin : flags.origin? clock = some origin) :
    clock.deadline flags value = .ok (clock.after origin value.toInt.toNat) := by
  rw [Flags.Ambiguous, ← Bool.and_eq_true] at hkinds
  rw [deadline, Timeout.ofFlags, if_neg hkinds, if_neg hvalue]
  rw [Flags.origin?] at horigin
  split_ifs at horigin with hrelative habsolute
  · obtain rfl := Option.some.inj horigin
    rw [if_pos hrelative, Except.map, Timeout.arm, total_ofMicros_value, after]
  · obtain rfl := Option.some.inj horigin
    rw [if_neg hrelative, if_pos habsolute, after, Except.map, Timeout.arm, momentAt?]
    split_ifs <;> rfl

/-- Flags that do not say two things always stand for a deadline. -/
theorem exists_deadline (hkinds : ¬flags.Ambiguous) (clock : Clock) (value : Int64) :
    ∃ d, clock.deadline flags value = .ok d := by
  obtain ⟨hboth, -⟩ | ⟨-, timeout, heq⟩ := Timeout.ofFlags_cases flags value
  · exact absurd hboth hkinds
  · exact ⟨timeout.arm clock, by rw [deadline, heq, Except.map]⟩

theorem not_ambiguous_of_deadline {d : Deadline} (h : clock.deadline flags value = .ok d) :
    ¬flags.Ambiguous := by
  obtain ⟨-, text, heq⟩ | ⟨hkinds, -⟩ := Timeout.ofFlags_cases flags value
  · rw [deadline, heq] at h
    cases h
  · exact hkinds

/-! ## The order of deadlines -/

/-- More time is a later deadline, up to the one that never comes. -/
theorem time_after_mono (clock : Clock) (origin : Moment) {micros micros' : Nat}
    (h : micros ≤ micros') :
    (clock.after origin micros).time ≤ (clock.after origin micros').time := by
  have hle : origin + micros * 1000 ≤ origin + micros' * 1000 :=
    Nat.add_le_add_left (Nat.mul_le_mul_right 1000 h) origin
  by_cases hreached : origin + micros' * 1000 ≤ clock.horizon
  · rw [after, after, if_pos hreached, if_pos (Nat.le_trans hle hreached)]
    exact WithTop.coe_le_coe.2 hle
  · have hnever : clock.after origin micros' = .never := if_neg hreached
    rw [hnever]
    exact le_top

/-- **A greater value is never an earlier deadline.** -/
theorem time_deadline_mono {value' : Int64} {d d' : Deadline} (hle : value ≤ value')
    (h : clock.deadline flags value = .ok d) (h' : clock.deadline flags value' = .ok d') :
    d.time ≤ d'.time := by
  have hkinds := not_ambiguous_of_deadline h
  by_cases hgreatest : value' = Limits.infiniteTimeout
  · rw [hgreatest, deadline_of_infinite hkinds] at h'
    obtain rfl := Except.ok.inj h'
    exact le_top
  · have hvalue : value ≠ Limits.infiniteTimeout := by
      rintro rfl
      exact hgreatest (Int64.le_antisymm (le_infiniteTimeout _) hle)
    rcases horigin : flags.origin? clock with _ | origin
    · rw [deadline_of_none horigin] at h'
      obtain rfl := Except.ok.inj h'
      exact le_top
    · rw [deadline_of_origin hkinds hvalue horigin] at h
      rw [deadline_of_origin hkinds hgreatest horigin] at h'
      obtain rfl := Except.ok.inj h
      obtain rfl := Except.ok.inj h'
      exact clock.time_after_mono origin (toNat_toInt_mono hle)

/-- A negative value counts as none. -/
theorem deadline_of_neg (hneg : value < 0) (clock : Clock) (flags : Flags) :
    clock.deadline flags value = clock.deadline flags 0 := by
  have hclamped : value.toInt.toNat = (0 : Int64).toInt.toNat := by
    rw [toNat_toInt_eq_zero_iff.2 (Int64.le_of_lt hneg)]
    rfl
  have hvalue : value ≠ Limits.infiniteTimeout := by
    rintro rfl
    exact absurd hneg (by decide)
  by_cases hkinds : flags.Ambiguous
  · rw [Flags.Ambiguous, ← Bool.and_eq_true] at hkinds
    rw [deadline, deadline, Timeout.ofFlags, Timeout.ofFlags, if_pos hkinds, if_pos hkinds]
  · rcases horigin : flags.origin? clock with _ | origin
    · rw [deadline_of_none horigin, deadline_of_none horigin]
    · rw [deadline_of_origin hkinds hvalue horigin, deadline_of_origin hkinds (by decide) horigin,
        hclamped]

/-- **A time after the start is the same deadline as the time stamp that it leads to**, whenever the call
starts that is given the time stamp. -/
theorem deadline_relative_eq_absolute {flags' : Flags} {stamp : Int64} {moment : Moment} (start : Moment)
    (hkinds : ¬flags.Ambiguous) (hrelative : flags.includes .relativeTimeout = true)
    (hkinds' : ¬flags'.Ambiguous) (habsolute : flags'.includes .absoluteTimeout = true)
    (hstamp : 0 ≤ stamp) (hvalue : 0 ≤ value)
    (hsum : stamp.toInt + value.toInt < Int64.maxValue.toInt)
    (hmoment : clock.momentAt? stamp = some moment) :
    deadline { clock.read with now := moment } flags value =
      deadline { clock.read with now := start } flags' (stamp + value) := by
  rw [Int64.le_iff_toInt_le, Int64.toInt_zero] at hstamp hvalue
  rw [momentAt?] at hmoment
  split_ifs at hmoment with hreached
  obtain rfl := Option.some.inj hmoment
  have hadd : (stamp + value).toInt = stamp.toInt + value.toInt := by
    rw [Int64.toInt_maxValue] at hsum
    rw [Int64.toInt_add]
    apply Int.bmod_eq_of_le <;> omega
  have hfinite : value ≠ Limits.infiniteTimeout := by
    rintro rfl
    exact absurd hsum (by show ¬ _ < Limits.infiniteTimeout.toInt; omega)
  have hfinite' : stamp + value ≠ Limits.infiniteTimeout := by
    intro heq
    rw [← hadd, heq] at hsum
    exact absurd hsum (lt_irrefl _)
  have hrelative' : flags'.includes .relativeTimeout = false :=
    Bool.eq_false_iff.2 fun h => hkinds' ⟨h, habsolute⟩
  have horigin : flags.origin? { clock.read with now := clock.origin + stamp.toInt.toNat * 1000 } =
      some (clock.origin + stamp.toInt.toNat * 1000) := if_pos hrelative
  have horigin' : flags'.origin? { clock.read with now := start } = some clock.origin := by
    rw [Flags.origin?, hrelative', if_neg Bool.false_ne_true, if_pos habsolute]
    rfl
  rw [deadline_of_origin hkinds hfinite horigin, deadline_of_origin hkinds' hfinite' horigin', hadd,
    Int.toNat_add hstamp hvalue, after, after, Nat.add_mul, Nat.add_assoc]

end Clock

/-! ## Calls that do not wait -/

theorem Timeout.hasPassed_arm_iff (hclock : clock.now ≤ clock.horizon) (timeout : Timeout) :
    (timeout.arm clock).hasPassed clock.now = true ↔ timeout.Polls clock := by
  cases timeout with
  | infinite => exact ⟨Bool.false_ne_true.elim, False.elim⟩
  | relative span =>
    rw [arm, Polls, Duration.eq_zero_iff]
    split_ifs with hreached
    · rw [Deadline.hasPassed, decide_eq_true_eq]
      exact ⟨fun h => Nat.le_zero.1 (Nat.le_of_add_le_add_left h), fun h => h ▸ Nat.le_refl _⟩
    · rw [Deadline.hasPassed]
      exact ⟨Bool.false_ne_true.elim, fun h => absurd (h ▸ hclock) hreached⟩
  | absolute stamp =>
    rw [arm, Polls, Clock.momentAt?]
    split_ifs with hreached
    · exact decide_eq_true_iff
    · exact ⟨Bool.false_ne_true.elim, fun h => absurd (Nat.le_trans h hclock) hreached⟩

theorem Flags.polls_iff {timeout : Timeout} (h : Timeout.ofFlags flags value = .ok timeout)
    (clock : Clock) : timeout.Polls clock ↔ flags.Polls value clock := by
  rw [Timeout.ofFlags] at h
  split_ifs at h with hboth hinfinite hrelative habsolute
  · obtain rfl := Except.ok.inj h
    refine ⟨False.elim, ?_⟩
    rintro (⟨-, hvalue⟩ | ⟨-, hfinite, -⟩)
    · rw [hinfinite] at hvalue
      exact absurd hvalue (by decide)
    · exact hfinite hinfinite
  · obtain rfl := Except.ok.inj h
    rw [hrelative, Bool.true_and] at hboth
    rw [Timeout.Polls, Duration.eq_zero_iff, total_ofMicros_value, Nat.mul_eq_zero,
      or_iff_left (by decide), toNat_toInt_eq_zero_iff]
    simp [Flags.Polls, hrelative, hboth]
  · obtain rfl := Except.ok.inj h
    simp [Timeout.Polls, Flags.Polls, hrelative, habsolute, hinfinite]
  · obtain rfl := Except.ok.inj h
    simp [Timeout.Polls, Flags.Polls, hrelative, habsolute]

/-- A call does not wait if its deadline has passed when it begins. -/
theorem System.poll_of_begin {s s₁ : System} {r : Request} {c : Call}
    (h : s.begin r = (s₁, .running c)) :
    c.poll = (r.timeout.arm s.kernel.clock).hasPassed s.kernel.clock.now := by
  obtain ⟨hvalid, hroom⟩ := valid_of_begin h
  rw [begin_of_valid hvalid hroom] at h
  obtain rfl := Progress.running.inj (Prod.mk.inj h).2
  rfl

theorem System.poll_begin_iff {s : System} (hclock : s.kernel.clock.now ≤ s.kernel.clock.horizon)
    {r : Request} {c : Call} (h : (s.begin r).2.call? = some c) :
    c.poll = true ↔ r.timeout.Polls s.kernel.clock := by
  obtain ⟨hnone, -⟩ | ⟨c', hbegin, hc⟩ := s.begin_cases r
  · cases hnone.symm.trans h
  · obtain rfl := Option.some.inj (hc.symm.trans h)
    rw [System.poll_of_begin hbegin, Timeout.hasPassed_arm_iff hclock]

theorem System.poll_enter_iff {s : System} (hclock : s.kernel.clock.now ≤ s.kernel.clock.horizon)
    {thread : ThreadId} {watches : List Watch} {c : Call}
    (h : (s.enter thread watches flags value).2.call? = some c) :
    c.poll = true ↔ flags.Polls value s.kernel.clock := by
  rw [enter, Request.ofFlags] at h
  rcases htimeout : Timeout.ofFlags flags value with cause | timeout <;> rw [htimeout] at h
  · cases h
  · rw [System.poll_begin_iff hclock h, Flags.polls_iff htimeout]

/-- **A wait does not wait just when its time is over at its start**, in whichever form it is made. -/
theorem Invocation.poll_begin_iff {s : System}
    (hclock : s.kernel.clock.now ≤ s.kernel.clock.horizon) {v : Invocation} {c : Call}
    (h : (v.begin s).2.call? = some c) : c.poll = true ↔ v.Polls s.kernel.clock := by
  cases v with
  | multiplexer r => exact System.poll_begin_iff hclock h
  | typed thread watches flags value => exact System.poll_enter_iff hclock h
  | raw r =>
    rw [Invocation.begin, Wait.call?] at h
    obtain ⟨-, heq⟩ | ⟨-, -, heq⟩ | ⟨-, -, -, heq⟩ := s.enterRaw_cases r <;> rw [heq] at h
    · cases h
    · cases h
    · rw [RawProgress.call?_of] at h
      -- the entries of unknown kind are counted before, which takes no time
      have hcounted : (r.counted s).kernel.clock.now ≤ (r.counted s).kernel.clock.horizon := hclock
      exact System.poll_enter_iff hcounted h

/-! ## One clock for both kinds of timeout -/

/-- A clock reckons deadlines right, whatever flags and value a caller gives. -/
structure Clock.ReckonsDeadlines (clock : Clock) : Prop where
  /-- flags that do not say two things stand for a deadline -/
  total : ∀ (flags : Flags) (value : Int64), ¬flags.Ambiguous →
    ∃ d, clock.deadline flags value = .ok d
  /-- a greater value is no earlier deadline -/
  monotone : ∀ (flags : Flags) (value value' : Int64) (d d' : Deadline), value ≤ value' →
    clock.deadline flags value = .ok d → clock.deadline flags value' = .ok d' → d.time ≤ d'.time
  /-- no deadline comes after never, and no other one with it -/
  greatest : ∀ d : Deadline, d.time ≤ Deadline.never.time ∧
    (d.time = Deadline.never.time → d = .never)
  /-- deadlines pass in this order -/
  ordered : ∀ (d : Deadline) (now : Moment), d.hasPassed now = true ↔ d.time ≤ now
  /-- a negative value counts as none -/
  clamped : ∀ (flags : Flags) (value : Int64), value < 0 →
    clock.deadline flags value = clock.deadline flags 0
  /-- a time that counts from the moment of a time stamp leads to the time stamp of the sum, at whatever
  moment that is looked up -/
  agrees : ∀ (flags flags' : Flags) (stamp value : Int64) (moment start : Moment),
    ¬flags.Ambiguous → flags.includes .relativeTimeout = true →
    ¬flags'.Ambiguous → flags'.includes .absoluteTimeout = true →
    0 ≤ stamp → 0 ≤ value → stamp.toInt + value.toInt < Int64.maxValue.toInt →
    clock.momentAt? stamp = some moment →
    Clock.deadline { clock.read with now := moment } flags value =
      Clock.deadline { clock.read with now := start } flags' (stamp + value)
  /-- a deadline has passed just when no time remains -/
  passes : ∀ (d : Deadline) (now : Moment), d.hasPassed now = true ↔ d.remaining now = some 0
  /-- what has passed stays passed -/
  lasts : ∀ (d : Deadline) (now later : Moment), now ≤ later → d.hasPassed now = true →
    d.hasPassed later = true
  /-- the time that remains ends at the deadline -/
  ends : ∀ moment now : Moment, (Deadline.due moment).hasPassed now = false →
    ∃ left, (Deadline.due moment).remaining now = some left ∧ now + left = moment
  /-- a wait that begins does not wait just when its time is over -/
  polls : ∀ (s : System) (v : Invocation) (c : Call), s.kernel.clock = clock →
    (v.begin s).2.call? = some c → (c.poll = true ↔ v.Polls clock)
  /-- the greatest value is no time -/
  infinite : ∀ flags : Flags, ¬flags.Ambiguous →
    clock.deadline flags Int64.maxValue = .ok .never
  /-- without a kind of timeout the value does not count -/
  unlimited : ∀ (flags : Flags) (value : Int64), flags.origin? clock = none →
    clock.deadline flags value = .ok .never
  /-- the clock does not come to a moment beyond its horizon -/
  beyond : ∀ (flags : Flags) (value : Int64) (origin : Moment), ¬flags.Ambiguous →
    flags.origin? clock = some origin → clock.horizon < origin + value.toInt.toNat * 1000 →
    clock.deadline flags value = .ok .never
  /-- any other value is a moment -/
  within : ∀ (flags : Flags) (value : Int64) (origin : Moment), ¬flags.Ambiguous →
    flags.origin? clock = some origin → value ≠ Int64.maxValue →
    origin + value.toInt.toNat * 1000 ≤ clock.horizon →
    clock.deadline flags value = .ok (.due (origin + value.toInt.toNat * 1000))
  /-- never does not pass -/
  never : ∀ now : Moment, Deadline.never.hasPassed now = false

/-- **A clock that has not run over reckons deadlines right.** -/
theorem Clock.reckons_deadlines (clock : Clock) (hclock : clock.now ≤ clock.horizon) :
    clock.ReckonsDeadlines where
  total _ value hkinds := exists_deadline hkinds clock value
  monotone _ _ _ _ _ hle h h' := time_deadline_mono hle h h'
  greatest d := ⟨le_top, d.eq_never_of_time⟩
  ordered d now := d.hasPassed_iff_time_le now
  clamped flags _ hneg := deadline_of_neg hneg clock flags
  agrees _ _ _ _ _ start hkinds hrelative hkinds' habsolute hstamp hvalue hsum hmoment :=
    deadline_relative_eq_absolute start hkinds hrelative hkinds' habsolute hstamp hvalue hsum hmoment
  passes d now := d.hasPassed_iff now
  lasts _ _ _ hle h := Deadline.hasPassed_mono h hle
  ends moment now h := by
    rw [Deadline.hasPassed, decide_eq_false_iff_not, not_le] at h
    exact ⟨moment - now, rfl, Nat.add_sub_cancel' h.le⟩
  polls s v c hsame h := by
    subst hsame
    exact Invocation.poll_begin_iff hclock h
  infinite _ hkinds := deadline_of_infinite hkinds clock
  unlimited _ value hnone := deadline_of_none hnone value
  beyond flags value origin hkinds horigin hbeyond := by
    by_cases hvalue : value = Limits.infiniteTimeout
    · rw [hvalue, deadline_of_infinite hkinds]
    · rw [deadline_of_origin hkinds hvalue horigin, after, if_neg (Nat.not_le.2 hbeyond)]
  within _ _ _ hkinds horigin hvalue hreached := by
    rw [deadline_of_origin hkinds hvalue horigin, after, if_pos hreached]
  never _ := rfl

/-- Three thousand microseconds from the four thousandth on are the time stamp 7000. One more than the
clock can count is never, and a time before the start is over. The clock counts from its first moment. A
clock that was not read yet will count from a moment after the start of the call that is the first to read
it, so for that call not even the time stamp 0 is over. -/
theorem Clock.reckons_deadlines_eight_thousand :
    let clock : Clock := { now := 5000000, horizon := 8000000, boot := some 0 }
    let fresh : Clock := { now := 5000000, horizon := 8000000, delay := 20 }
    let s (clock : Clock) : System := { kernel := { clock }, config := .standard }
    let v (stamp : Int64) : Invocation :=
      .typed 7 [{ kind := .semaphore, id := 1, requested := .read }] .absoluteTimeout stamp
    clock.ReckonsDeadlines ∧
    Clock.deadline { clock.read with now := 4000000 } .relativeTimeout 3000 =
      Clock.deadline { clock.read with now := 5000000 } .absoluteTimeout 7000 ∧
    clock.deadline .absoluteTimeout 7000 = .ok (.due 7000000) ∧
    clock.deadline .relativeTimeout 3001 = .ok .never ∧
    (∃ c, ((v 4999).begin (s clock)).2.call? = some c ∧ c.poll = true) ∧
    fresh.ReckonsDeadlines ∧
    fresh.deadline .absoluteTimeout 0 = .ok (.due 5000020) ∧
    ∃ c, ((v 0).begin (s fresh)).2.call? = some c ∧ c.poll = false := by
  intro clock fresh s v
  have hclock : clock.now ≤ clock.horizon := by decide
  have hfresh : fresh.now ≤ fresh.horizon := by decide
  have hreckons := clock.reckons_deadlines hclock
  have hreckons' := fresh.reckons_deadlines hfresh
  refine ⟨hreckons, ?_, ?_, ?_, ?_, hreckons', ?_, ?_⟩
  · exact hreckons.agrees .relativeTimeout .absoluteTimeout 4000 3000 4000000 5000000 (by decide)
      (by decide) (by decide) (by decide) (by decide) (by decide) (by decide) (by decide)
  · exact hreckons.within .absoluteTimeout 7000 0 (by decide) (by decide) (by decide) (by decide)
  · exact hreckons.beyond .relativeTimeout 3001 5000000 (by decide) (by decide) (by decide)
  · have hover : (v 4999).Polls clock := .inr ⟨by decide, by decide, by decide⟩
    exact ⟨_, rfl, (hreckons.polls (s clock) (v 4999) _ rfl rfl).2 hover⟩
  · exact hreckons'.within .absoluteTimeout 0 5000020 (by decide) (by decide) (by decide) (by decide)
  · have hahead : ¬(v 0).Polls fresh := by
      rintro (⟨hrelative, -⟩ | ⟨-, -, hover⟩)
      · exact absurd hrelative (by decide)
      · exact absurd hover (by decide)
    have hpoll := mt (hreckons'.polls (s fresh) (v 0) _ rfl rfl).1 hahead
    exact ⟨_, rfl, Bool.eq_false_iff.2 hpoll⟩

end KernelWait
