import KernelWait.Proofs.Reached
import KernelWait.Wait.Step

/-!
# What one step of a call does

A step of a call in progress depends on its stage, on the slot ahead, and on a few flags. Each way in
which it can turn out is one constructor of a relation between kernels, calls and progress
(`Call.Steps`), with everything that was found out on the way; the counters of the multiplexer are left
out, as nothing depends on them.

**Every step is one of these** (`Call.steps_step`), so what a call keeps is proved by going over them.
-/

namespace KernelWait

/-! ## Joining a queue -/

/-- An object that is ready takes no ticket, and the kernel stays as it is. -/
theorem Kernel.enroll_of_ready {k : Kernel} {target : Target} {e : Entity}
    (he : k.registry.get? target = some e) {interest : Events}
    (hready : e.readiness ∩ interest ≠ ∅) (waker : Waker) :
    k.enroll target interest waker = (k, some (.ready (e.readiness ∩ interest))) := by
  have hsame : k.registry.put target e = k.registry := by
    obtain ⟨hlt, heq⟩ := List.getElem?_eq_some_iff.1 he
    simp only [Registry.put, ← heq, List.set_getElem_self]
  simp only [Kernel.enroll, he, Entity.enroll, WaitQueue.enroll, if_neg hready, hsame]

theorem Kernel.enroll_of_disjoint {k : Kernel} {target : Target} {e : Entity}
    (he : k.registry.get? target = some e) {interest : Events}
    (hready : e.readiness ∩ interest = ∅) (waker : Waker) :
    k.enroll target interest waker =
      (Operation.effect k (.enroll target interest waker),
        some (.enrolled e.queue.nextToken)) := by
  simp only [Operation.effect, Operation.run, Kernel.enroll, he, Entity.enroll, WaitQueue.enroll,
    if_pos hready]

theorem Kernel.readiness_eq {k : Kernel} {target : Target} {e : Entity}
    (he : k.registry.get? target = some e) : k.readiness target = e.readiness := by
  rw [Kernel.readiness, he]

namespace Session

/-- The session with one ticket more. -/
def join (s : Session) (index : Nat) (target : Target) (token : Token) (interest : Events) :
    Session :=
  { s with tickets := s.tickets ++ [⟨index, interest, some (target, token)⟩] }

/-- The operation by which the session's next ticket joins a queue. -/
def joining (s : Session) (target : Target) (interest : Events) : Operation :=
  .enroll target interest ⟨s.id, s.tickets.length⟩

/-- The four ways in which an attempt to join a queue turns out. -/
theorem enroll_cases (k : Kernel) (s : Session) (index : Nat) (target : Target)
    (interest : Events) :
    (s.capacity ≤ s.tickets.length ∧ ∃ cause, s.enroll k index target interest = .error cause) ∨
    (k.registry.get? target = none ∧ s.enroll k index target interest = .ok (k, s, none)) ∨
    (∃ e, k.registry.get? target = some e ∧ e.readiness ∩ interest ≠ ∅ ∧
      s.enroll k index target interest =
        .ok (k, s, some (.ready (e.readiness ∩ interest)))) ∨
    ∃ e, k.registry.get? target = some e ∧ e.readiness ∩ interest = ∅ ∧
      s.tickets.length < s.capacity ∧
      s.enroll k index target interest =
        .ok ((s.joining target interest).effect k,
          s.join index target e.queue.nextToken interest,
          some (.enrolled e.queue.nextToken)) := by
  rw [enroll]
  by_cases hfull : s.capacity ≤ s.tickets.length
  · rw [if_pos hfull]
    exact .inl ⟨hfull, _, rfl⟩
  · rw [if_neg hfull]
    refine .inr ?_
    rcases he : k.registry.get? target with _ | e
    · refine .inl ⟨rfl, ?_⟩
      simp only [Kernel.enroll, he]
    · refine .inr ?_
      by_cases hready : e.readiness ∩ interest = ∅
      · refine .inr ⟨e, rfl, hready, Nat.lt_of_not_le hfull, ?_⟩
        rw [Kernel.enroll_of_disjoint he hready]
        rfl
      · refine .inl ⟨e, rfl, hready, ?_⟩
        rw [Kernel.enroll_of_ready he hready]

end Session

/-! ## Draining -/

namespace Call

/-- The slots of a call with what its tickets have fired with. -/
def collected (k : Kernel) (c : Call) : List Slot := fire c.slots (c.session.drain k).2.2

/-- The watches that a call writes back when it drains. -/
def kept (k : Kernel) (c : Call) : List Watch :=
  if c.singleShot then Watch.keepFirst ((c.collected k).map Slot.watch)
  else (c.collected k).map Slot.watch

/-- The answer that a call settles on when it drains. -/
def outcome (k : Kernel) (c : Call) : Except WaitError Outcome :=
  if 0 < (c.kept k).countP Watch.isReady then .ok (.ready ((c.kept k).countP Watch.isReady))
  else if (c.session.notifier? k).any (·.interrupted) then .error .interrupted
  else .ok .timedOut

/-- The call once it has drained its session and settled on an answer. -/
def settledOn (k : Kernel) (c : Call) (answer : Except WaitError Outcome) : Call :=
  { c with
    session := (c.session.drain k).2.1
    passed := (c.collected k).zipWith (fun slot w => { slot with watch := w }) (c.kept k)
    ahead := []
    stage := .leaving answer }

/-! ## The ways of a step -/

/-- What a step can make of a kernel and a call. -/
inductive Steps (k : Kernel) (c : Call) : Kernel → Progress → Prop where
  /-- the next name stands for an object -/
  | found {slot : Slot} {rest : List Slot} {target : Target} (hstage : c.stage = .resolving)
      (hahead : c.ahead = slot :: rest)
      (hlookup : k.registry.lookup? slot.watch.kind slot.watch.id = some target) :
    Steps k c k (.running (c.pass ⟨{ slot.watch.reset with status := .ok }, some target⟩))
  /-- the next name stands for none -/
  | missing {slot : Slot} {rest : List Slot} (hstage : c.stage = .resolving)
      (hahead : c.ahead = slot :: rest)
      (hlookup : k.registry.lookup? slot.watch.kind slot.watch.id = none) :
    Steps k c k (.running (c.pass ⟨{ slot.watch.reset with status := .invalidObject }, none⟩))
  /-- no name stands for an object -/
  | hopeless (hstage : c.stage = .resolving) (hahead : c.ahead = [])
      (hnone : ∀ slot ∈ c.passed, slot.target = none) :
    Steps k c (c.session.close k)
      (.returned ⟨.error (.noValidTargets c.slots.length), c.watches⟩)
  /-- all names are looked up, and signals may abort the call -/
  | resolved (hstage : c.stage = .resolving) (hahead : c.ahead = [])
      (hsome : ∃ slot ∈ c.passed, slot.target.isSome = true) (hsignals : c.interruptible = true) :
    Steps k c k (.running (c.rewind .registering))
  /-- all names are looked up, and signals may not abort the call -/
  | resolvedQuietly (hstage : c.stage = .resolving) (hahead : c.ahead = [])
      (hsome : ∃ slot ∈ c.passed, slot.target.isSome = true) (hsignals : c.interruptible = false) :
    Steps k c (c.session.advance k .enrolling) (.running (c.rewind .polling))
  /-- signals may reach the session from now on -/
  | registered (hstage : c.stage = .registering) :
    Steps k c { k with signals := k.signals.register c.thread c.session.id }
      (.running { c with stage := .checking })
  /-- a signal was pending -/
  | aborted (hstage : c.stage = .checking) (hpending : k.hasPending c.thread = true) :
    Steps k c (c.session.advance { k with sessions := (k.sessions.abort c.session.id).1 } .enrolling)
      (.running { c with stage := .polling })
  /-- no signal was pending -/
  | checked (hstage : c.stage = .checking) (hquiet : k.hasPending c.thread = false) :
    Steps k c (c.session.advance k .enrolling) (.running { c with stage := .polling })
  /-- all objects are polled, and the call has no reason to sleep -/
  | concluded (hstage : c.stage = .polling) (hahead : c.ahead = [])
      (hawake : c.immediate = true ∨ c.poll = true) :
    Steps k c k (.running { c with stage := .draining })
  /-- all objects are polled, and the call goes to sleep -/
  | retired (hstage : c.stage = .polling) (hahead : c.ahead = []) (hunready : c.immediate = false)
      (hwaits : c.poll = false) :
    Steps k c (c.session.advance k .blocked) (.running { c with stage := .blocked .looking })
  /-- the slot has no object, or its object is not ready and nobody waits for it -/
  | skipped {slot : Slot} {rest : List Slot} (hstage : c.stage = .polling)
      (hahead : c.ahead = slot :: rest)
      (hwhy : slot.target = none ∨ c.immediate = true ∨ c.poll = true)
      (hunready : ∀ target, slot.target = some target →
        k.readiness target ∩ slot.watch.reportable = ∅) :
    Steps k c k (.running (c.pass slot))
  /-- something is ready, and that is enough -/
  | stopped {slot : Slot} {rest : List Slot} (hstage : c.stage = .polling)
      (hahead : c.ahead = slot :: rest) (himmediate : c.immediate = true)
      (hsingle : c.singleShot = true) :
    Steps k c k (.running { c with passed := c.slots, ahead := [] })
  /-- the object is ready -/
  | polled {slot : Slot} {rest : List Slot} {target : Target} (hstage : c.stage = .polling)
      (hahead : c.ahead = slot :: rest) (htarget : slot.target = some target)
      (hready : k.readiness target ∩ slot.watch.reportable ≠ ∅) :
    Steps k c k (.running (c.passReady slot (k.readiness target ∩ slot.watch.reportable)))
  /-- the object is not ready, and a ticket shall wait for it -/
  | approached {slot : Slot} {rest : List Slot} {target : Target} (hstage : c.stage = .polling)
      (hahead : c.ahead = slot :: rest) (htarget : slot.target = some target)
      (himmediate : c.immediate = false) (hwaits : c.poll = false) :
    Steps k c k (.running { c with stage := .enrolling })
  /-- all slots are passed already -/
  | turned (hstage : c.stage = .enrolling) (hahead : c.ahead = []) :
    Steps k c k (.running { c with stage := .polling })
  /-- the slot has no object -/
  | ignored {slot : Slot} {rest : List Slot} (hstage : c.stage = .enrolling)
      (hahead : c.ahead = slot :: rest) (htarget : slot.target = none) :
    Steps k c k (.running ({ c with stage := .polling }.pass slot))
  /-- there is no ticket left -/
  | full {slot : Slot} {rest : List Slot} (hstage : c.stage = .enrolling)
      (hahead : c.ahead = slot :: rest) (hfull : c.session.capacity ≤ c.session.tickets.length)
      (cause : WaitError) :
    Steps k c k (.running { c with stage := .leaving (.error cause) })
  /-- there is no such object after all -/
  | vanished {slot : Slot} {rest : List Slot} {target : Target} (hstage : c.stage = .enrolling)
      (hahead : c.ahead = slot :: rest) (htarget : slot.target = some target)
      (hget : k.registry.get? target = none) :
    Steps k c k (.running ({ c with stage := .polling }.pass slot))
  /-- the object has become ready after all -/
  | overtaken {slot : Slot} {rest : List Slot} {target : Target} {e : Entity}
      (hstage : c.stage = .enrolling) (hahead : c.ahead = slot :: rest)
      (htarget : slot.target = some target) (hget : k.registry.get? target = some e)
      (hready : e.readiness ∩ slot.watch.reportable ≠ ∅) :
    Steps k c k
      (.running ({ c with stage := .polling }.passReady slot
        (e.readiness ∩ slot.watch.reportable)))
  /-- a ticket joins the object's queue -/
  | joined {slot : Slot} {rest : List Slot} {target : Target} {e : Entity}
      (hstage : c.stage = .enrolling) (hahead : c.ahead = slot :: rest)
      (htarget : slot.target = some target) (hget : k.registry.get? target = some e)
      (hunready : e.readiness ∩ slot.watch.reportable = ∅)
      (hroom : c.session.tickets.length < c.session.capacity) :
    Steps k c ((c.session.joining target slot.watch.reportable).effect k)
      (.running ({ c with
          stage := .polling
          session := c.session.join c.passed.length target e.queue.nextToken
            slot.watch.reportable }.pass slot))
  /-- the blocked phase goes on -/
  | dozed {b : Block} (hstage : c.stage = .blocked b) (hb : ∀ v, b ≠ .finished v) :
    Steps k c (c.session.blockSteps 1 k b).1
      (.running { c with stage := .blocked (c.session.blockSteps 1 k b).2 })
  /-- the blocked phase is over -/
  | roused {v : Verdict} (hstage : c.stage = .blocked (.finished v)) :
    Steps k c k (.running { c with stage := .draining })
  /-- the session is drained -/
  | drained (hstage : c.stage = .draining) :
    Steps k c (c.session.drain k).1 (.running (c.settledOn k (c.outcome k)))
  /-- the call returns -/
  | left {answer : Except WaitError Outcome} (hstage : c.stage = .leaving answer) :
    Steps k c
      (c.session.close (if c.interruptible then
        { k with signals := k.signals.unregister c.thread } else k))
      (.returned ⟨answer, c.watches⟩)

theorem steps_resolve {s : System} {c : Call} (hstage : c.stage = .resolving) :
    Steps s.kernel c (c.resolve s).1.kernel (c.resolve s).2 := by
  obtain ⟨thread, interruptible, singleShot, poll, session, passed, ahead, immediate, stage⟩ := c
  cases ahead with
  | nil =>
    simp only [resolve, slots, List.append_nil]
    by_cases hall : passed.all (·.target.isNone) = true
    · rw [if_pos hall]
      have hnone : ∀ slot ∈ passed, slot.target = none := fun slot hslot =>
        Option.isNone_iff_eq_none.1 (List.all_eq_true.1 hall slot hslot)
      have h := Steps.hopeless (k := s.kernel) hstage rfl hnone
      rwa [slots, List.append_nil] at h
    · rw [if_neg hall]
      have hsome : ∃ slot ∈ passed, slot.target.isSome = true := by
        rw [Bool.not_eq_true, List.all_eq_false] at hall
        obtain ⟨slot, hslot, hnot⟩ := hall
        refine ⟨slot, hslot, ?_⟩
        rwa [Bool.not_eq_true, Option.isNone_eq_false_iff] at hnot
      by_cases hsignals : interruptible = true
      · rw [if_pos hsignals]
        exact .resolved hstage rfl hsome hsignals
      · rw [if_neg hsignals]
        exact .resolvedQuietly hstage rfl hsome (Bool.eq_false_iff.2 hsignals)
  | cons slot rest =>
    rcases hlookup : s.kernel.registry.lookup? slot.watch.kind slot.watch.id with _ | target
    · have h := Steps.missing (k := s.kernel) hstage rfl hlookup
      simp only [resolve, Watch.reset, hlookup]
      exact h
    · have h := Steps.found (k := s.kernel) hstage rfl hlookup
      simp only [resolve, Watch.reset, hlookup]
      exact h

theorem steps_check {s : System} {c : Call} (hstage : c.stage = .checking) :
    Steps s.kernel c (c.check s).1.kernel (c.check s).2 := by
  rw [check]
  by_cases hpending : s.kernel.hasPending c.thread = true
  · rw [if_pos hpending]
    exact .aborted hstage hpending
  · rw [if_neg hpending]
    exact .checked hstage (Bool.eq_false_iff.2 hpending)

theorem steps_conclude {s : System} {c : Call} (hstage : c.stage = .polling)
    (hahead : c.ahead = []) : Steps s.kernel c (c.conclude s).1.kernel (c.conclude s).2 := by
  rw [conclude]
  by_cases himmediate : c.immediate = true
  · rw [if_pos himmediate]
    exact .concluded hstage hahead (.inl himmediate)
  · rw [if_neg himmediate]
    by_cases hpoll : c.poll = true
    · rw [if_pos hpoll]
      exact .concluded hstage hahead (.inr hpoll)
    · rw [if_neg hpoll]
      exact .retired hstage hahead (Bool.eq_false_iff.2 himmediate) (Bool.eq_false_iff.2 hpoll)

theorem steps_pollNext {s : System} {c : Call} (hstage : c.stage = .polling) :
    Steps s.kernel c (c.pollNext s).1.kernel (c.pollNext s).2 := by
  obtain ⟨thread, interruptible, singleShot, poll, session, passed, ahead, immediate, stage⟩ := c
  cases ahead with
  | nil => exact steps_conclude hstage rfl
  | cons slot rest =>
    rcases htarget : slot.target with _ | target
    · simp only [pollNext, htarget]
      refine .skipped hstage rfl (.inl htarget) fun target hsome => ?_
      cases htarget.symm.trans hsome
    · simp only [pollNext, htarget]
      by_cases hstop : (immediate && singleShot) = true
      · rw [if_pos hstop]
        rw [Bool.and_eq_true] at hstop
        exact .stopped hstage rfl hstop.1 hstop.2
      · rw [if_neg hstop]
        by_cases hready : s.kernel.readiness target ∩ slot.watch.reportable ≠ ∅
        · rw [if_pos hready]
          exact .polled hstage rfl htarget hready
        · rw [if_neg hready]
          by_cases hpass : (immediate || poll) = true
          · rw [if_pos hpass]
            rw [Bool.or_eq_true] at hpass
            refine .skipped hstage rfl (.inr hpass) fun other hsome => ?_
            obtain rfl := Option.some.inj (htarget.symm.trans hsome)
            exact Decidable.not_not.1 hready
          · rw [if_neg hpass]
            rw [Bool.not_eq_true, Bool.or_eq_false_iff] at hpass
            exact .approached hstage rfl htarget hpass.1 hpass.2

theorem steps_enrollNext {s : System} {c : Call} (hstage : c.stage = .enrolling) :
    Steps s.kernel c (c.enrollNext s).1.kernel (c.enrollNext s).2 := by
  obtain ⟨thread, interruptible, singleShot, poll, session, passed, ahead, immediate, stage⟩ := c
  cases ahead with
  | nil => exact .turned hstage rfl
  | cons slot rest =>
    rcases htarget : slot.target with _ | target
    · simp only [enrollNext, htarget]
      exact .ignored hstage rfl htarget
    · simp only [enrollNext, htarget]
      obtain ⟨hfull, cause, heq⟩ | ⟨hget, heq⟩ | ⟨e, hget, hready, heq⟩ |
          ⟨e, hget, hready, hroom, heq⟩ :=
        session.enroll_cases s.kernel passed.length target slot.watch.reportable
      · rw [heq]
        exact .full hstage rfl hfull cause
      · rw [heq]
        exact .vanished hstage rfl htarget hget
      · rw [heq]
        exact .overtaken hstage rfl htarget hget hready
      · rw [heq]
        exact .joined hstage rfl htarget hget hready hroom

/-- What a call that drains settles on, and what is counted. -/
theorem drain_eq (s : System) (c : Call) :
    c.drain s =
      ({ s with kernel := (c.session.drain s.kernel).1 }.record
        (match c.outcome s.kernel with
          | .ok (.ready _) => .ready
          | .ok .timedOut => .timeouts
          | .error _ => .interrupts),
        .running (c.settledOn s.kernel (c.outcome s.kernel))) := by
  have hdrain : c.drain s =
      (if 0 < (c.kept s.kernel).countP Watch.isReady then
        ({ s with kernel := (c.session.drain s.kernel).1 }.record .ready,
          .running (c.settledOn s.kernel (.ok (.ready ((c.kept s.kernel).countP Watch.isReady)))))
      else if (c.session.notifier? s.kernel).any (·.interrupted) then
        ({ s with kernel := (c.session.drain s.kernel).1 }.record .interrupts,
          .running (c.settledOn s.kernel (.error .interrupted)))
      else
        ({ s with kernel := (c.session.drain s.kernel).1 }.record .timeouts,
          .running (c.settledOn s.kernel (.ok .timedOut)))) := rfl
  rw [hdrain, outcome]
  split
  · rfl
  · split <;> rfl

theorem steps_drain {s : System} {c : Call} (hstage : c.stage = .draining) :
    Steps s.kernel c (c.drain s).1.kernel (c.drain s).2 := by
  rw [drain_eq]
  exact .drained hstage

/-- **Every step of a call is one of these.** -/
theorem steps_step (s : System) (c : Call) : Steps s.kernel c (c.step s).1.kernel (c.step s).2 := by
  rw [step]
  rcases hstage : c.stage with _ | _ | _ | _ | _ | b | _ | answer
  · exact steps_resolve hstage
  · exact .registered hstage
  · exact steps_check hstage
  · exact steps_pollNext hstage
  · exact steps_enrollNext hstage
  · rcases b with _ | _ | v
    · exact .dozed hstage fun v => Block.noConfusion
    · exact .dozed hstage fun v => Block.noConfusion
    · exact .roused hstage
  · exact steps_drain hstage
  · exact .left hstage

end Call

end KernelWait
