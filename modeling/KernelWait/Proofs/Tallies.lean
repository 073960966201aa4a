import KernelWait.Proofs.Company
import KernelWait.Proofs.Marks

/-!
# What waits count

A wait is counted when it is accepted, and once more when it comes to its outcome, under the one of four
tallies that its answer stands for (`Tally.ofAnswer?`). In between it may be counted as one that found
something at once or as one that blocked, and each of its entries may be counted as invalid.

**Every step of a call counts one thing at most** (`Call.get_stats_step`), and either it is of no account to
the outcome, or it finds something at once, or it blocks, or it comes to the outcome that it counts
(`Call.Steps.accounts`).
-/

namespace KernelWait

/-! ## Counters -/

namespace Statistics

theorem get_recordMany (s : Statistics) (tally other : Tally) (n : Nat) :
    (s.recordMany tally n).get other = s.get other + if tally = other then UInt64.ofNat n else 0 := by
  induction n generalizing s with
  | zero => simp [recordMany]
  | succ n ih =>
    rw [recordMany, ih, get_record]
    split
    · rw [UInt64.ofNat_add, UInt64.add_assoc, UInt64.add_comm 1]
      rfl
    · rw [UInt64.add_zero]

/-- The counters show these numbers, as far as they go. -/
def Shows (s : Statistics) (counted : Tally → Nat) : Prop :=
  ∀ tally, s.get tally = UInt64.ofNat (counted tally)

variable {s : Statistics} {counted : Tally → Nat}

theorem Shows.record (h : s.Shows counted) (tally : Tally) :
    (s.record tally).Shows fun other => counted other + if tally = other then 1 else 0 := by
  intro other
  rw [get_record, h other, UInt64.ofNat_add]
  split <;> rfl

theorem Shows.recordMany (h : s.Shows counted) (tally : Tally) (n : Nat) :
    (s.recordMany tally n).Shows fun other => counted other + if tally = other then n else 0 := by
  intro other
  rw [get_recordMany, h other, UInt64.ofNat_add]
  split <;> rfl

end Statistics

/-! ## Outcomes -/

namespace Tally

/-- The outcomes that a wait can come to. -/
def outcomes : List Tally := [ready, timeouts, interrupts, noValidTargets]

/-- The outcome that an answer counts as. -/
def ofAnswer? : Except WaitError Outcome → Option Tally
  | .ok (.ready _) => some ready
  | .ok .timedOut => some timeouts
  | .error .interrupted => some interrupts
  | .error (.noValidTargets _) => some noValidTargets
  | .error _ => none

/-- The outcome that the number returned by a raw wait counts as. -/
def ofCode? (code : Int) : Option Tally :=
  if 0 < code then some ready
  else if code = 0 then some timeouts
  else if code = -4 then some interrupts
  else if code = -9 then some noValidTargets
  else none

theorem mem_outcomes_of_ofAnswer? {answer : Except WaitError Outcome} {tally : Tally}
    (h : ofAnswer? answer = some tally) : tally ∈ outcomes := by
  rcases answer with (_ | _ | _ | _) | (_ | _) <;> cases h <;> decide

/-- The number tells the outcome, unless nothing is said to be ready. -/
theorem ofCode?_returnCode {answer : Except WaitError Outcome} (h : answer ≠ .ok (.ready 0)) :
    ofCode? (returnCode answer) = ofAnswer? answer := by
  rcases answer with cause | outcome
  · cases cause <;> rfl
  · cases outcome with
    | ready count =>
      have hpos : (0 : Int) < count := by
        rcases count with _ | count
        · exact absurd rfl h
        · exact Int.natCast_pos.2 (Nat.succ_pos count)
      exact if_pos hpos
    | timedOut => rfl

end Tally

namespace Call

variable {k k' : Kernel} {c c' : Call} {p : Progress}

/-- The outcome that a call has come to; it may still have to let go of its session. -/
def tally? (c : Call) : Option Tally :=
  match c.stage with
  | .leaving answer => Tally.ofAnswer? answer
  | _ => none

/-- The call has found something at once, and has not come to its outcome yet. -/
def hasty (c : Call) : Bool :=
  match c.stage with
  | .draining => c.immediate
  | _ => false

/-- The call has polled all its objects, and has not come to its outcome yet. -/
def late (c : Call) : Bool :=
  match c.stage with
  | .blocked _ | .draining => true
  | _ => false

/-- What the next step of a call counts. -/
def counts (k : Kernel) (c : Call) : Option Tally :=
  match c.stage, c.ahead with
  | .resolving, slot :: _ =>
    if (k.registry.lookup? slot.watch.kind slot.watch.id).isNone then some .invalidEntries else none
  | .resolving, [] => if c.slots.all (·.target.isNone) then some .noValidTargets else none
  | .polling, [] => if c.immediate then some .immediate else if c.poll then none else some .blocked
  | .draining, _ => Tally.ofAnswer? (c.outcome k)
  | _, _ => none

/-- A call that drains settles on one of three answers. -/
theorem outcome_cases (k : Kernel) (c : Call) :
    (∃ n, 0 < n ∧ c.outcome k = .ok (.ready n)) ∨ c.outcome k = .error .interrupted ∨
      c.outcome k = .ok .timedOut := by
  rw [outcome]
  split
  · next hready => exact .inl ⟨_, hready, rfl⟩
  · split
    · exact .inr (.inl rfl)
    · exact .inr (.inr rfl)

/-- **A step counts one thing at most.** -/
theorem stats_step (s : System) (c : Call) :
    (c.step s).1.stats = (c.counts s.kernel).elim s.stats s.stats.record := by
  obtain ⟨thread, interruptible, singleShot, poll, session, passed, ahead, immediate, stage⟩ := c
  cases stage with
  | resolving =>
    cases ahead with
    | nil =>
      simp only [step, resolve, counts, slots, List.append_nil]
      by_cases hall : passed.all (·.target.isNone) = true
      · simp only [if_pos hall]
        rfl
      · simp only [if_neg hall]
        cases interruptible <;> rfl
    | cons slot rest =>
      simp only [step, resolve, counts]
      have hreset : s.kernel.registry.lookup? slot.watch.reset.kind slot.watch.reset.id =
          s.kernel.registry.lookup? slot.watch.kind slot.watch.id := rfl
      rw [hreset]
      rcases s.kernel.registry.lookup? slot.watch.kind slot.watch.id with _ | target <;> rfl
  | registering => rfl
  | checking => rfl
  | polling =>
    cases ahead with
    | nil =>
      simp only [step, pollNext, conclude, counts]
      cases immediate <;> cases poll <;> rfl
    | cons slot rest =>
      simp only [step, pollNext, counts]
      rcases slot.target with _ | target
      · rfl
      · simp only
        split_ifs <;> rfl
  | enrolling =>
    cases ahead with
    | nil => rfl
    | cons slot rest =>
      simp only [step, enrollNext, counts]
      rcases slot.target with _ | target
      · rfl
      · simp only
        split
        · rfl
        · split <;> rfl
  | blocked b =>
    simp only [step, blockNext, counts]
    split <;> rfl
  | draining =>
    simp only [step, drain_eq, counts]
    obtain ⟨n, -, houtcome⟩ | houtcome | houtcome := outcome_cases s.kernel
      ⟨thread, interruptible, singleShot, poll, session, passed, ahead, immediate, .draining⟩ <;>
      rw [houtcome] <;> rfl
  | leaving answer => rfl

theorem get_stats_step (s : System) (c : Call) (tally : Tally) :
    (c.step s).1.stats.get tally =
      s.stats.get tally + if c.counts s.kernel = some tally then 1 else 0 := by
  rw [stats_step]
  rcases c.counts s.kernel with _ | counted
  · simp
  · simp only [Option.elim_some, Statistics.get_record, Option.some.injEq]

/-! ## How a call comes to its outcome -/

/-- A call in progress is candid, and once it has an answer it has come to an outcome. -/
structure Honest (c : Call) : Prop where
  /-- it tells what it has found out -/
  candid : ∃ r, c.Candid r
  /-- its answer stands for an outcome -/
  settled : ∀ answer, c.stage = .leaving answer →
    (Tally.ofAnswer? answer).isSome = true ∧ answer ≠ .ok (.ready 0)

theorem Honest.steps (h : c.Honest) (hstep : Steps k c k' (.running c')) : c'.Honest := by
  obtain ⟨r, hcandid⟩ := h.candid
  refine ⟨⟨r, hcandid.steps hstep⟩, fun answer hleaves => ?_⟩
  obtain ⟨slot, rest, hahead, hfull⟩ | ⟨-, -, rfl⟩ := hstep.leaves_cases hleaves
  · obtain ⟨answer', hwas, -⟩ | ⟨-, hsound⟩ := hcandid
    · cases hstep.returns_of_leaving hwas
    · exact absurd (hsound.tickets_lt hahead) (Nat.not_lt.2 hfull)
  · obtain rfl := Stage.leaving.inj hleaves
    obtain ⟨n, hpos, houtcome⟩ | houtcome | houtcome := outcome_cases k c <;> rw [houtcome]
    · refine ⟨rfl, fun heq => ?_⟩
      cases heq
      exact Nat.lt_irrefl 0 hpos
    · exact ⟨rfl, fun heq => by cases heq⟩
    · exact ⟨rfl, fun heq => by cases heq⟩

end Call

namespace Progress

/-- The outcome that a call has come to, returned or not. -/
def tally? : Progress → Option Tally
  | running c => c.tally?
  | returned reply => Tally.ofAnswer? reply.answer

/-- The call is in progress, has found something at once, and has not come to its outcome yet. -/
def hasty (p : Progress) : Bool := p.call?.any Call.hasty

/-- The call is in progress, has polled all its objects, and has not come to its outcome yet. -/
def late (p : Progress) : Bool := p.call?.any Call.late

end Progress

namespace Call

variable {k k' : Kernel} {c c' : Call} {p : Progress}

/-- What a step means for the accounts, with what it counts. -/
inductive Accounts (counted : Option Tally) (c : Call) (p : Progress) : Prop where
  /-- nothing, but that an entry may be invalid -/
  | idle (hcounted : counted = none ∨ counted = some .invalidEntries) (htally : p.tally? = c.tally?)
      (hover : p.call? = none → c.tally?.isSome = true) (hlate : c.late = true → p.late = true)
      (hhasty : c.hasty = true → p.hasty = true)
  /-- the call has found something at once -/
  | found (hcounted : counted = some .immediate) (hbefore : c.tally? = none ∧ c.late = false)
      (hafter : p.call?.isSome = true ∧ p.tally? = none ∧ p.late = true ∧ p.hasty = true)
  /-- the call goes to sleep -/
  | slept (hcounted : counted = some .blocked) (hbefore : c.tally? = none ∧ c.late = false)
      (hafter : p.call?.isSome = true ∧ p.tally? = none ∧ p.late = true)
  /-- the call comes to its outcome -/
  | settled (tally : Tally) (hcounted : counted = some tally) (hbefore : c.tally? = none)
      (hafter : p.tally? = some tally) (hmem : tally ∈ Tally.outcomes)
      (hlate : c.late = true → tally ≠ .noValidTargets) (hhasty : c.hasty = true → tally = .ready)

/-- A call that is not late is not hasty. -/
theorem hasty_of_not_late (h : c.late = false) : c.hasty = false := by
  rw [late] at h
  rw [hasty]
  split
  · rename_i hstage
    rw [hstage] at h
    cases h
  · rfl

/-- An outcome stands. -/
theorem Accounts.stands {counted : Option Tally} (h : Accounts counted c p) {tally : Tally}
    (htally : c.tally? = some tally) : p.tally? = some tally := by
  cases h with
  | idle _ hsame => exact hsame.trans htally
  | found _ hbefore | slept _ hbefore => cases hbefore.1.symm.trans htally
  | settled _ _ hbefore => cases hbefore.symm.trans htally

/-- A step of a call that still polls is of no account, unless it is the last one. -/
theorem Accounts.early {counted : Option Tally} (hcounted : counted = none ∨ counted = some .invalidEntries)
    (hlate : c.late = false) (hbefore : c.tally? = none) (hafter : c'.tally? = none) :
    Accounts counted c (.running c') := by
  refine .idle hcounted (hafter.trans hbefore.symm) (fun hover => by cases hover) (fun h => ?_) fun h => ?_
  · cases hlate.symm.trans h
  · cases (hasty_of_not_late hlate).symm.trans h

/-- **A step is of no account, or it finds something at once, or it blocks, or it comes to the outcome
that it counts.** -/
theorem Steps.accounts (h : Steps k c k' p) (hhonest : c.Honest) : c.Accounts (c.counts k) p := by
  cases h with
  | found hstage hahead hlookup =>
    refine .early (.inl ?_) ?_ ?_ ?_ <;> simp [counts, late, tally?, pass, hstage, hahead, hlookup]
  | missing hstage hahead hlookup =>
    refine .early (.inr ?_) ?_ ?_ ?_ <;> simp [counts, late, tally?, pass, hstage, hahead, hlookup]
  | hopeless hstage hahead hnone =>
    have hall : c.slots.all (·.target.isNone) = true := by
      rw [slots, hahead, List.append_nil, List.all_eq_true]
      exact fun slot hslot => Option.isNone_iff_eq_none.2 (hnone slot hslot)
    refine .settled .noValidTargets ?_ ?_ rfl (by decide) ?_ ?_
    · simp [counts, hstage, hahead, hall]
    · simp [tally?, hstage]
    · simp [late, hstage]
    · simp [hasty, hstage]
  | resolved hstage hahead hsome | resolvedQuietly hstage hahead hsome =>
    have hall : c.slots.all (·.target.isNone) = false := by
      rw [slots, hahead, List.append_nil, List.all_eq_false]
      obtain ⟨slot, hslot, htarget⟩ := hsome
      refine ⟨slot, hslot, fun hnone => ?_⟩
      exact Option.ne_none_iff_isSome.2 htarget (Option.isNone_iff_eq_none.1 hnone)
    refine .early (.inl ?_) ?_ ?_ ?_ <;> simp [counts, late, tally?, rewind, hstage, hahead, hall]
  | registered hstage | aborted hstage | checked hstage | turned hstage | ignored hstage
  | vanished hstage | overtaken hstage | joined hstage =>
    refine .early (.inl ?_) ?_ ?_ ?_ <;> simp [counts, late, tally?, pass, passReady, hstage]
  | skipped hstage hahead | stopped hstage hahead | polled hstage hahead | approached hstage hahead =>
    refine .early (.inl ?_) ?_ ?_ ?_ <;> simp [counts, late, tally?, pass, passReady, hstage, hahead]
  | concluded hstage hahead hawake =>
    rcases himmediate : c.immediate with _ | _
    · have hpoll : c.poll = true := hawake.resolve_left (by rw [himmediate]; exact Bool.false_ne_true)
      refine .early (.inl ?_) ?_ ?_ ?_ <;>
        simp [counts, late, tally?, hstage, hahead, himmediate, hpoll]
    · refine .found ?_ ⟨?_, ?_⟩ ⟨rfl, rfl, rfl, ?_⟩
      · simp [counts, hstage, hahead, himmediate]
      · simp [tally?, hstage]
      · simp [late, hstage]
      · rfl
  | retired hstage hahead hunready hwaits =>
    refine .slept ?_ ⟨?_, ?_⟩ ⟨rfl, rfl, rfl⟩
    · simp [counts, hstage, hahead, hunready, hwaits]
    · simp [tally?, hstage]
    · simp [late, hstage]
  | full hstage hahead hfull =>
    obtain ⟨r, ⟨answer, hwas, -⟩ | ⟨-, hsound⟩⟩ := hhonest.candid
    · cases hstage.symm.trans hwas
    · exact absurd (hsound.tickets_lt hahead) (Nat.not_lt.2 hfull)
  | dozed hstage | roused hstage =>
    refine .idle (.inl ?_) ?_ (fun hover => by cases hover) (fun _ => rfl) ?_ <;>
      simp [counts, Progress.tally?, tally?, hasty, hstage]
  | drained hstage =>
    obtain ⟨r, ⟨answer, hwas, -⟩ | ⟨-, hsound⟩⟩ := hhonest.candid
    · cases hstage.symm.trans hwas
    have hready : c.hasty = true → ∃ n, c.outcome k = .ok (.ready n) := by
      intro hhasty
      rw [hasty, hstage] at hhasty
      exact ⟨_, if_pos (countP_kept_pos_of_ready (hsound.immediate hhasty).2)⟩
    have hcounts : c.counts k = Tally.ofAnswer? (c.outcome k) := by rw [counts, hstage]
    have hbefore : c.tally? = none := by rw [tally?, hstage]
    rw [hcounts]
    obtain ⟨n, -, houtcome⟩ | houtcome | houtcome := outcome_cases k c <;> rw [houtcome] at hready ⊢
    · exact .settled _ rfl hbefore rfl (by decide) (fun _ => Tally.noConfusion) fun _ => rfl
    · exact .settled _ rfl hbefore rfl (by decide) (fun _ => Tally.noConfusion) fun hhasty => by
        obtain ⟨n, hn⟩ := hready hhasty
        cases hn
    · exact .settled _ rfl hbefore rfl (by decide) (fun _ => Tally.noConfusion) fun hhasty => by
        obtain ⟨n, hn⟩ := hready hhasty
        cases hn
  | left hstage =>
    refine .idle (.inl ?_) ?_ (fun _ => ?_) ?_ ?_
    · simp [counts, hstage]
    · simp [Progress.tally?, tally?, hstage]
    · simpa [tally?, hstage] using (hhonest.settled _ hstage).1
    · simp [late, hstage]
    · simp [hasty, hstage]

/-- A call returns with an answer that stands for an outcome. -/
theorem Honest.returned (h : c.Honest) {reply : Reply} (hstep : Steps k c k' (.returned reply)) :
    (Tally.ofAnswer? reply.answer).isSome = true ∧ reply.answer ≠ .ok (.ready 0) := by
  obtain ⟨-, -, -, rfl⟩ | ⟨answer, hstage, rfl⟩ := hstep.returned_cases
  · exact ⟨rfl, fun heq => by cases heq⟩
  · exact h.settled answer hstage

end Call

end KernelWait
