import KernelWait.Proofs.Alarms
import KernelWait.Proofs.Footing

/-!
# Calls that signals may abort

A call that signals may abort registers for them, then looks whether any is pending, and drains its
session in the end. A signal alarms it that is pending when the call looks or later, and one that comes
after the call has registered (`Call.alarmed`).

**A call is aborted from its first alarm on, and for nothing else** (`Call.Heeds`), and if nothing is
ready when it drains it says so (`Call.Informed`). A signal that is pending when the call registers, and is
pending no more when the call looks, alarms nobody.
-/

namespace KernelWait

namespace Stage

/-- A call at this stage has registered for signals, if they may abort it, and has not drained its
session. -/
def listens : Stage → Bool
  | resolving | registering | leaving _ => false
  | _ => true

/-- A call at this stage has also looked for signals that were pending. -/
def attends : Stage → Bool
  | resolving | registering | checking | leaving _ => false
  | _ => true

theorem listens_of_attends {stage : Stage} (h : stage.attends = true) : stage.listens = true := by
  cases stage <;> first | rfl | cases h

theorem attends_or_checking {stage : Stage} (h : stage.listens = true) :
    stage.attends = true ∨ stage = .checking := by
  cases stage with
  | resolving | registering | leaving => cases h
  | checking => exact .inr rfl
  | _ => exact .inl rfl

end Stage

/-- The operation leaves it to the thread's own waits which of them signals abort. -/
def Operation.retains (thread : ThreadId) : Operation → Bool
  | register other _ | unregister other | cleanup other => other != thread
  | _ => true

theorem Operation.activeAfter_of_retains {op : Operation} {thread : ThreadId}
    (h : op.retains thread = true) (before : Option SessionId) :
    op.activeAfter thread before = before := by
  cases op with
  | register other session | unregister other | cleanup other =>
    exact if_neg (Ne.symm (bne_iff_ne.1 h))
  | _ => rfl

namespace Call

/-- A signal to the thread is pending, and the call has looked for signals before. -/
def hears (k : Kernel) (c : Call) : Bool := c.stage.attends && k.hasPending c.thread

/-- A signal alarms the call at a turn: the call looks and one is pending, or one is pending after the call
has looked, or one comes after the call has registered. -/
def alarmed (k : Kernel) (c : Call) : Turn Operation → Bool
  | .own => c.stage.listens && k.hasPending c.thread
  | .other op => c.hears k || c.stage.listens && op.rouses c.thread k

variable {k k' : Kernel} {c c' : Call} {n n' : Notifier} {noted : Bool}

theorem listens_of_hears (h : c.hears k = true) : c.stage.listens = true := by
  rw [hears, Bool.and_eq_true] at h
  exact Stage.listens_of_attends h.1

theorem hears_of_not_listens (h : c.stage.listens = false) : c.hears k = false :=
  Bool.eq_false_iff.2 fun hhears => Bool.false_ne_true (h.symm.trans (listens_of_hears hhears))

/-- What the notifier of a call says of signals before the call drains. `noted` says whether any has
alarmed the call so far. -/
structure Heeds (k : Kernel) (c : Call) (n : Notifier) (noted : Bool) : Prop where
  /-- the session may still be aborted -/
  wakes : n.phase.wakes = true
  /-- signals to the thread abort the session once the call has registered for them -/
  active : (k.signals.get c.thread).activeWait = some c.session.id ↔
    c.interruptible = true ∧ c.stage.listens = true
  /-- nothing has alarmed the call before it registered -/
  since : noted = true → c.stage.listens = true
  /-- only a call that signals may abort looks for them -/
  checks : c.stage = .checking → c.interruptible = true
  /-- the session is aborted if a signal has alarmed the call, or does now -/
  aborted : n.interrupted = true ↔ c.interruptible = true ∧ (noted = true ∨ c.hears k = true)

/-- Other threads abort a session by what alarms its call. -/
theorem Heeds.effect (h : c.Heeds k n noted) (hn : c.session.notifier? k = some n) {op : Operation}
    (hn' : c.session.notifier? (op.effect k) = some n') (hretains : op.retains c.thread = true)
    (honly : ∀ thread, (k.signals.get thread).activeWait = some c.session.id → thread = c.thread) :
    c.Heeds (op.effect k) n' (noted || c.alarmed k (.other op)) := by
  have hphase : n'.phase = n.phase := by
    obtain ⟨n₁, hn₁, hreach⟩ := (op.effects_effect k).get?_session hn
    obtain rfl := Option.some.inj (hn₁.symm.trans hn')
    exact hreach.phase_eq
  have hcomes : c.hears (op.effect k) = true →
      c.hears k = true ∨ c.stage.listens = true ∧ op.rouses c.thread k = true := by
    simp only [hears, Bool.and_eq_true]
    rintro ⟨hattends, hpending⟩
    exact (Operation.hasPending_of_effect hpending).imp (⟨hattends, ·⟩)
      (⟨Stage.listens_of_attends hattends, ·⟩)
  refine ⟨by rw [hphase]; exact h.wakes, ?_, ?_, h.checks, ?_⟩
  · rw [op.activeWait_effect, Operation.activeAfter_of_retains hretains]
    exact h.active
  · simp only [alarmed, Bool.or_eq_true, Bool.and_eq_true]
    rintro (hnoted | hhears | ⟨hlistened, -⟩)
    · exact h.since hnoted
    · exact listens_of_hears hhears
    · exact hlistened
  · rw [Operation.interrupted_effect_iff hn hn' h.wakes honly, h.aborted, h.active]
    simp only [alarmed, Bool.or_eq_true, Bool.and_eq_true]
    constructor
    · rintro (⟨hsignals, hnoted | hhears⟩ | ⟨⟨hsignals, hlistened⟩, hrouses⟩)
      · exact ⟨hsignals, .inl (.inl hnoted)⟩
      · exact ⟨hsignals, .inl (.inr (.inl hhears))⟩
      · exact ⟨hsignals, .inl (.inr (.inr ⟨hlistened, hrouses⟩))⟩
    · rintro ⟨hsignals, (hnoted | hhears | ⟨hlistened, hrouses⟩) | hhears⟩
      · exact .inl ⟨hsignals, .inl hnoted⟩
      · exact .inl ⟨hsignals, .inr hhears⟩
      · exact .inr ⟨⟨hsignals, hlistened⟩, hrouses⟩
      · exact (hcomes hhears).imp (fun hbefore => ⟨hsignals, .inr hbefore⟩)
          fun hcame => ⟨⟨hsignals, hcame.1⟩, hcame.2⟩

/-! ## Steps of the call -/

/-- How far a step takes a call that does not come to leave. -/
theorem Steps.stage_cases (h : Steps k c k' (.running c'))
    (hstays : ∀ answer, c'.stage ≠ .leaving answer) :
    (c.stage = .resolving ∧ (c'.stage.listens = false ∨
      c.interruptible = false ∧ c'.stage.attends = true)) ∨
    (c.stage = .registering ∧ c'.stage = .checking) ∨
    (c.stage.listens = true ∧ c'.stage.attends = true) := by
  cases h with
  | found hstage | missing hstage =>
    refine .inl ⟨hstage, .inl ?_⟩
    simp only [pass, hstage]
    rfl
  | resolved hstage => exact .inl ⟨hstage, .inl rfl⟩
  | resolvedQuietly hstage _ _ hsignals => exact .inl ⟨hstage, .inr ⟨hsignals, rfl⟩⟩
  | registered hstage => exact .inr (.inl ⟨hstage, rfl⟩)
  | skipped hstage | stopped hstage | polled hstage =>
    refine .inr (.inr ⟨by rw [hstage]; rfl, ?_⟩)
    simp only [passReady, pass, hstage]
    rfl
  | full | drained => exact absurd rfl (hstays _)
  | aborted hstage | checked hstage | concluded hstage | retired hstage | approached hstage
  | turned hstage | ignored hstage | vanished hstage | overtaken hstage | joined hstage | dozed hstage
  | roused hstage => exact .inr (.inr ⟨by rw [hstage]; rfl, rfl⟩)

/-- A call that listens has looked for signals after its next step. -/
theorem Steps.attends_of_listens (h : Steps k c k' (.running c'))
    (hstays : ∀ answer, c'.stage ≠ .leaving answer) (hlistens : c.stage.listens = true) :
    c'.stage.attends = true := by
  obtain ⟨hstage, -⟩ | ⟨hstage, -⟩ | ⟨-, hattends⟩ := h.stage_cases hstays
  · rw [hstage] at hlistens
    cases hlistens
  · rw [hstage] at hlistens
    cases hlistens
  · exact hattends

/-- A call that signals may abort does not come further without it. -/
theorem Steps.listens_of_attends (h : Steps k c k' (.running c'))
    (hstays : ∀ answer, c'.stage ≠ .leaving answer) (hsignals : c.interruptible = true)
    (hattends : c'.stage.attends = true) : c.stage.listens = true := by
  obtain ⟨-, hdeaf | ⟨hquiet, -⟩⟩ | ⟨-, hstage'⟩ | ⟨hlistens, -⟩ := h.stage_cases hstays
  · exact absurd (hdeaf.symm.trans (Stage.listens_of_attends hattends)) Bool.false_ne_true
  · exact absurd (hquiet.symm.trans hsignals) Bool.false_ne_true
  · rw [hstage'] at hattends
    cases hattends
  · exact hlistens

/-- A call aborts its own session when it finds a signal pending. -/
theorem Steps.interrupted_iff (h : Steps k c k' (.running c'))
    (hstays : ∀ answer, c'.stage ≠ .leaving answer) (hn : c.session.notifier? k = some n)
    (hwakes : n.phase.wakes = true) :
    ∃ n', c'.session.notifier? k' = some n' ∧ n'.phase.wakes = true ∧
      (n'.interrupted = true ↔
        n.interrupted = true ∨ c.stage = .checking ∧ k.hasPending c.thread = true) := by
  have hsame : c.stage ≠ .checking → (n.interrupted = true ↔
      n.interrupted = true ∨ c.stage = .checking ∧ k.hasPending c.thread = true) := fun hne =>
    (or_iff_left fun hchecks => hne hchecks.1).symm
  cases h with
  | found hstage | missing hstage | resolved hstage | registered hstage | concluded hstage
  | skipped hstage | stopped hstage | polled hstage | approached hstage | turned hstage | ignored hstage
  | vanished hstage | overtaken hstage | roused hstage =>
    exact ⟨n, hn, hwakes, hsame (by rw [hstage]; exact Stage.noConfusion)⟩
  | resolvedQuietly hstage | retired hstage =>
    exact ⟨_, Session.get?_advance hn _, rfl, hsame (by rw [hstage]; exact Stage.noConfusion)⟩
  | checked _ hquiet =>
    refine ⟨_, Session.get?_advance hn .enrolling, rfl, (or_iff_left fun hchecks => ?_).symm⟩
    exact Bool.false_ne_true (hquiet.symm.trans hchecks.2)
  | aborted hstage hpending =>
    exact ⟨_, Session.get?_advance (Session.get?_abort hn) .enrolling, rfl,
      iff_of_true (Notifier.interrupted_of_interrupt hwakes) (.inr ⟨hstage, hpending⟩)⟩
  | joined hstage =>
    refine ⟨n, ?_, hwakes, hsame (by rw [hstage]; exact Stage.noConfusion)⟩
    rw [Session.notifier?, Session.joining, Kernel.sessions_enroll]
    exact hn
  | @dozed b hstage =>
    rw [Session.blockSteps_one hn]
    have hsame := hsame (by rw [hstage]; exact Stage.noConfusion)
    refine ⟨_, SessionTable.get?_put_self hn _, ?_⟩
    obtain ⟨event, heq⟩ | ⟨-, heq⟩ := Block.step_cases c.session.deadline k.clock.now n b
    · rw [heq]
      exact ⟨hwakes, hsame⟩
    · rw [heq]
      obtain hexpire | hexpire := n.expire_cases <;> rw [hexpire] <;> exact ⟨hwakes, hsame⟩
  | full | drained => exact absurd rfl (hstays _)

/-- A step of the call tells its thread's signals about its session when it registers. -/
theorem Heeds.active_steps (h : c.Heeds k n noted) (hstep : Steps k c k' (.running c'))
    (hstays : ∀ answer, c'.stage ≠ .leaving answer)
    (hregisters : c.stage = .registering → c.interruptible = true) :
    (k'.signals.get c.thread).activeWait = some c.session.id ↔
      c.interruptible = true ∧ c'.stage.listens = true := by
  have hkept : c.stage ≠ .registering → k'.signals = k.signals := fun hne => by
    obtain hsame | ⟨hstage, -⟩ | ⟨⟨answer, hstage⟩, -⟩ := hstep.signals_cases
    · exact hsame
    · exact absurd hstage hne
    · cases hstep.returns_of_leaving hstage
  obtain ⟨hstage, hcases⟩ | ⟨hstage, hstage'⟩ | ⟨hlistens, hattends⟩ := hstep.stage_cases hstays
  · -- it has not registered, and does not listen yet or never will
    rw [hkept (by rw [hstage]; exact Stage.noConfusion), h.active, hstage]
    refine iff_of_false (fun hlistens => Bool.false_ne_true hlistens.2) ?_
    rintro ⟨hsignals, hlistens⟩
    obtain hdeaf | ⟨hquiet, -⟩ := hcases
    · exact Bool.false_ne_true (hdeaf.symm.trans hlistens)
    · exact Bool.false_ne_true (hquiet.symm.trans hsignals)
  · cases hstep with
    | registered =>
      rw [SignalTable.register, SignalTable.get_put_self]
      exact iff_of_true rfl ⟨hregisters hstage, rfl⟩
    | _ => cases hstage.symm.trans ‹c.stage = _›
  · have hne : c.stage ≠ .registering := fun hstage => by
      rw [hstage] at hlistens
      cases hlistens
    rw [hkept hne, h.active]
    exact and_congr_right' (iff_of_true hlistens (Stage.listens_of_attends hattends))

/-- **A call heeds signals until it drains.** -/
theorem Heeds.steps (h : c.Heeds k n noted) (hn : c.session.notifier? k = some n)
    (hstep : Steps k c k' (.running c')) (hstays : ∀ answer, c'.stage ≠ .leaving answer)
    (hregisters : c.stage = .registering → c.interruptible = true) :
    ∃ n', c'.session.notifier? k' = some n' ∧ c'.Heeds k' n' (noted || c.alarmed k .own) := by
  obtain ⟨n', hn', hwakes, haborted⟩ := hstep.interrupted_iff hstays hn h.wakes
  obtain ⟨hthread, hinterruptible⟩ := hstep.thread_eq
  have hid := hstep.id_eq
  have hpending : k'.hasPending c.thread = k.hasPending c.thread :=
    hstep.sameWorld.hasPending_eq c.thread
  have hactive := h.active_steps hstep hstays hregisters
  refine ⟨n', hn', hwakes, by rw [hthread, hid, hinterruptible]; exact hactive, fun hnoted => ?_,
    fun hchecks => ?_, ?_⟩
  · simp only [alarmed, Bool.or_eq_true, Bool.and_eq_true] at hnoted
    exact Stage.listens_of_attends
      (hstep.attends_of_listens hstays (hnoted.elim h.since And.left))
  · rw [hinterruptible]
    obtain ⟨-, hdeaf | ⟨-, hattends⟩⟩ | ⟨hstage, -⟩ | ⟨-, hattends⟩ := hstep.stage_cases hstays
    · rw [hchecks] at hdeaf
      cases hdeaf
    · rw [hchecks] at hattends
      cases hattends
    · exact hregisters hstage
    · rw [hchecks] at hattends
      cases hattends
  · rw [haborted, h.aborted, hinterruptible]
    simp only [hears, alarmed, hthread, hpending, Bool.or_eq_true, Bool.and_eq_true]
    constructor
    · rintro (⟨hsignals, hnoted | ⟨hattends, hheard⟩⟩ | ⟨hchecks, hfound⟩)
      · exact ⟨hsignals, .inl (.inl hnoted)⟩
      · exact ⟨hsignals, .inl (.inr ⟨Stage.listens_of_attends hattends, hheard⟩)⟩
      · exact ⟨h.checks hchecks, .inl (.inr ⟨by rw [hchecks]; rfl, hfound⟩)⟩
    · rintro ⟨hsignals, hcause⟩
      obtain hnoted | ⟨hlistens, hheard⟩ := hcause.elim id fun hattends =>
        .inr ⟨hstep.listens_of_attends hstays hsignals hattends.1, hattends.2⟩
      · exact .inl ⟨hsignals, .inl hnoted⟩
      · exact (Stage.attends_or_checking hlistens).imp
          (fun hattends => ⟨hsignals, .inr ⟨hattends, hheard⟩⟩) fun hchecks => ⟨hchecks, hheard⟩

/-- A call that drains settles on what has alarmed it, unless something is ready. -/
theorem Heeds.drained (h : c.Heeds k n noted) (hn : c.session.notifier? k = some n)
    (hstage : c.stage = .draining) (hnone : ∀ m, c.outcome k ≠ .ok (.ready m)) :
    c.outcome k = .error .interrupted ↔
      c.interruptible = true ∧ (noted || c.alarmed k .own) = true := by
  have hlooks : c.alarmed k .own = c.hears k := by rw [alarmed, hears, hstage]; rfl
  rw [hlooks, Bool.or_eq_true, ← h.aborted]
  rw [outcome] at hnone ⊢
  split at hnone
  · exact absurd rfl (hnone _)
  · next hempty =>
    rw [if_neg hempty, hn, Option.any_some]
    split
    · next hinterrupted => exact iff_of_true rfl hinterrupted
    · next hnot => exact iff_of_false (fun heq => by cases heq) hnot

/-! ## Calls in progress -/

/-- What a call in progress knows of the signals that have alarmed it so far: it heeds them, and once it
leaves its answer tells of them if nothing is ready. -/
def Informed (k : Kernel) (c : Call) (noted : Bool) : Prop :=
  (∃ answer, c.stage = .leaving answer ∧ ((∀ m, answer ≠ .ok (.ready m)) →
    (answer = .error .interrupted ↔ c.interruptible = true ∧ noted = true))) ∨
  ((∀ answer, c.stage ≠ .leaving answer) ∧
    ∃ n, c.session.notifier? k = some n ∧ c.Heeds k n noted)

/-- Other threads inform a call by what alarms it. -/
theorem Informed.effect (h : c.Informed k noted) {op : Operation} (hretains : op.retains c.thread = true)
    (honly : ∀ thread, (k.signals.get thread).activeWait = some c.session.id → thread = c.thread) :
    c.Informed (op.effect k) (noted || c.alarmed k (.other op)) := by
  obtain ⟨answer, hstage, hanswer⟩ | ⟨hstays, n, hn, hheeds⟩ := h
  · have hdeaf : c.stage.listens = false := by rw [hstage]; rfl
    rw [alarmed, hears_of_not_listens hdeaf, hdeaf, Bool.false_and, Bool.or_false, Bool.or_false]
    exact .inl ⟨answer, hstage, hanswer⟩
  · obtain ⟨n', hn', -⟩ := (op.effects_effect k).get?_session hn
    exact .inr ⟨hstays, n', hn', hheeds.effect hn hn' hretains honly⟩

/-- What makes no difference to the session, nor to the signals of the thread, informs a call of what is
pending. -/
theorem Informed.spared (h : c.Informed k noted)
    (hnotifier : k'.sessions.get? c.session.id = k.sessions.get? c.session.id)
    (hpending : k'.hasPending c.thread = k.hasPending c.thread)
    (hactive : (k'.signals.get c.thread).activeWait = some c.session.id ↔
      (k.signals.get c.thread).activeWait = some c.session.id) :
    c.Informed k' (noted || c.hears k) := by
  obtain ⟨answer, hstage, hanswer⟩ | ⟨hstays, n, hn, hheeds⟩ := h
  · rw [hears_of_not_listens (by rw [hstage]; rfl), Bool.or_false]
    exact .inl ⟨answer, hstage, hanswer⟩
  · refine .inr ⟨hstays, n, hnotifier.trans hn, hheeds.wakes, hactive.trans hheeds.active, fun hnoted => ?_,
      hheeds.checks, ?_⟩
    · rw [Bool.or_eq_true] at hnoted
      exact hnoted.elim hheeds.since listens_of_hears
    · have hhears : c.hears k' = c.hears k := by rw [hears, hears, hpending]
      rw [hheeds.aborted, hhears, Bool.or_eq_true, or_assoc, or_self]

/-- **A call stays informed by its own steps.** -/
theorem Informed.steps (h : c.Informed k noted) {r : Request} (horderly : c.Orderly r k)
    (hstep : Steps k c k' (.running c'))
    (hregisters : c.stage = .registering → c.interruptible = true) :
    c'.Informed k' (noted || c.alarmed k .own) := by
  obtain ⟨answer, hstage, -⟩ | ⟨-, n, hn, hheeds⟩ := h
  · cases hstep.returns_of_leaving hstage
  · by_cases hleaves : ∃ answer, c'.stage = .leaving answer
    · obtain ⟨answer, hanswer⟩ := hleaves
      obtain ⟨slot, rest, hahead, hfull⟩ | ⟨hstage, -, rfl⟩ := hstep.leaves_cases hanswer
      · obtain ⟨answer', hwas, -⟩ | ⟨-, hsound, -⟩ := horderly
        · cases hstep.returns_of_leaving hwas
        · exact absurd (hsound.tickets_lt hahead) (Nat.not_lt.2 hfull)
      · exact .inl ⟨_, rfl, hheeds.drained hn hstage⟩
    · rw [not_exists] at hleaves
      exact .inr ⟨hleaves, hheeds.steps hn hstep hleaves hregisters⟩

/-- **A call that returns with nothing ready was interrupted just if signals may abort it and one has
alarmed it.** -/
theorem Informed.returned (h : c.Informed k noted) {reply : Reply}
    (hstep : Steps k c k' (.returned reply)) (hnone : ∀ m, reply.answer ≠ .ok (.ready m)) :
    reply.answer = .error .interrupted ↔
      c.interruptible = true ∧ (noted || c.alarmed k .own) = true := by
  obtain ⟨hresolving, -, -, rfl⟩ | ⟨answer, hleaving, rfl⟩ := hstep.returned_cases
  · have hdeaf : c.stage.listens = false := by rw [hresolving]; rfl
    obtain ⟨answer, hstage, -⟩ | ⟨-, n, -, hheeds⟩ := h
    · cases hresolving.symm.trans hstage
    · rw [alarmed, hdeaf, Bool.false_and, Bool.or_false]
      exact iff_of_false (fun heq => by cases heq) fun hnoted =>
        Bool.false_ne_true (hdeaf.symm.trans (hheeds.since hnoted.2))
  · have hdeaf : c.stage.listens = false := by rw [hleaving]; rfl
    obtain ⟨answer', hstage, hanswer⟩ | ⟨hstays, -⟩ := h
    · obtain rfl := Stage.leaving.inj (hleaving.symm.trans hstage)
      rw [alarmed, hdeaf, Bool.false_and, Bool.or_false]
      exact hanswer hnone
    · exact absurd hleaving (hstays answer)

/-- A call begins without having been alarmed. -/
theorem Informed.begin {handed : List (Target × Token)} {s s₁ : System} {r : Request}
    (hreached : s.kernel.Reached handed) (h : s.begin r = (s₁, .running c)) :
    c.interruptible = (r.signalled && r.flags.includes .interruptible) ∧
      c.Informed s₁.kernel false := by
  obtain ⟨hvalid, hroom⟩ := System.valid_of_begin h
  rw [System.begin_of_valid hvalid hroom] at h
  obtain ⟨rfl, hc⟩ := Prod.mk.inj h
  obtain rfl := Progress.running.inj hc
  refine ⟨rfl, .inr ⟨fun _ => Stage.noConfusion, _, SessionTable.get?_add_self _ _, rfl, ?_,
    Bool.noConfusion, fun hstage => Stage.noConfusion hstage, ?_⟩⟩
  · exact iff_of_false (fun hactive => Nat.lt_irrefl _ (hreached.opened_of_active hactive))
      fun hlistens => Bool.false_ne_true hlistens.2
  · refine iff_of_false Bool.false_ne_true ?_
    rintro ⟨-, hnoted | hhears⟩
    · cases hnoted
    · cases hhears

end Call

end KernelWait
