import KernelWait.Proofs.Interruption

/-!
# Waits that share a thread

The signals of a thread abort one wait, the thread's active one: it is the wait that has registered last, as
long as no wait of the thread has let go of signals since. A wait that ends lets go of them whoever had
registered before it. So of two waits of one thread that overlap, one may be lost to signals while it still
sleeps, and it stays lost when the other one has ended (`Company.not_aborted_once_displaced`).

**A signal that comes to the thread of a sleeping wait aborts it just when nothing has displaced it**, and
then it ends soon, and says that it was interrupted unless something is ready
(`Company.aborted_unless_displaced`). Waits of other threads displace nobody, nor does anything that is done
to objects.
-/

namespace KernelWait

theorem Notifier.signaled_latch_of_signaled (n : Notifier) (h : n.event.signaled = true) (slot : Nat)
    (events : Events) : (n.latch slot events).1.event.signaled = true := by
  obtain ⟨-, heq⟩ | ⟨held, -, -, -, heq⟩ := n.latch_cases slot events
  · rw [heq]
    exact h
  · rw [heq, wakeOwner]
    split
    · rfl
    · exact h

theorem Stage.registered_of_listens {stage : Stage} (h : stage.listens = true) :
    stage ≠ .resolving ∧ stage ≠ .registering := by
  constructor <;> rintro rfl <;> cases h

/-- Whoever does not leave a thread to its own waits leaves none of them active. -/
theorem Operation.activeAfter_ne_of_not_retains {op : Operation} {thread : ThreadId}
    (h : op.retains thread = false) {id : SessionId} (hbelow : op.Below id) (before : Option SessionId) :
    op.activeAfter thread before ≠ some id := by
  intro hactive
  obtain ⟨-, hunregisters, hcleans, hregisters⟩ := (activeAfter_eq_some_iff hbelow thread before).1 hactive
  cases op with
  | register other session =>
    obtain rfl : other = thread := by simpa [retains] using h
    exact hregisters session rfl
  | unregister other =>
    obtain rfl : other = thread := by simpa [retains] using h
    exact hunregisters rfl
  | cleanup other =>
    obtain rfl : other = thread := by simpa [retains] using h
    exact hcleans rfl
  | _ => cases h

/-! ## Steps that displace a wait -/

namespace Call

variable {k k' : Kernel} {c c' : Call} {p : Progress} {n n' : Notifier} {displaced : Bool}

/-- The next step of a call decides which wait the signals of its thread abort. -/
def decides (c : Call) : Bool :=
  match c.stage with
  | .registering => true
  | .leaving _ => c.interruptible
  | _ => false

/-- A step that does not decide whose wait is active leaves it as it is. -/
theorem Steps.signals_of_not_decides (h : Steps k c k' p) (hquiet : c.decides = false) :
    k'.signals = k.signals := by
  obtain hsame | ⟨hstage, -⟩ | ⟨⟨answer, hstage⟩, hsignals, -⟩ := h.signals_cases
  · exact hsame
  · rw [decides, hstage] at hquiet
    cases hquiet
  · rw [decides, hstage] at hquiet
    exact absurd (hquiet.symm.trans hsignals) Bool.false_ne_true

/-- A step that decides whose wait is active displaces any other wait of the thread. -/
theorem Steps.active_of_decides (h : Steps k c k' p) (hdecides : c.decides = true) {id : SessionId}
    (hne : id ≠ c.session.id) : (k'.signals.get c.thread).activeWait ≠ some id := by
  cases h with
  | registered =>
    rw [SignalTable.register, SignalTable.get_put_self]
    exact fun heq => hne (Option.some.inj heq).symm
  | @left answer hstage =>
    rw [decides, hstage] at hdecides
    have hclosed : (c.session.close { k with signals := k.signals.unregister c.thread }).signals =
        k.signals.unregister c.thread := Kernel.signals_leaveAll _ c.session.tickets
    rw [if_pos hdecides, hclosed, SignalTable.unregister, SignalTable.get_put_self]
    exact fun heq => by cases heq
  | _ hstage =>
    rw [decides, hstage] at hdecides
    cases hdecides

/-- **A step of another call leaves a wait active unless it displaces it.** -/
theorem Steps.active_iff {d : Call} (h : Steps k d k' p) {id : SessionId} (hne : id ≠ d.session.id)
    (thread : ThreadId) :
    (k'.signals.get thread).activeWait = some id ↔
      (k.signals.get thread).activeWait = some id ∧ (d.decides && d.thread == thread) = false := by
  rcases hdecides : d.decides with _ | _
  · rw [h.signals_of_not_decides hdecides, Bool.false_and]
    exact (and_iff_left rfl).symm
  · rw [Bool.true_and]
    by_cases hthread : d.thread = thread
    · subst hthread
      rw [beq_self_eq_true]
      exact iff_of_false (h.active_of_decides hdecides hne) fun hactive => by cases hactive.2
    · have hothers : k'.signals.get thread = k.signals.get thread := by
        obtain hsame | ⟨-, hregistered⟩ | ⟨-, -, hunregistered⟩ := h.signals_cases
        · rw [hsame]
        · rw [hregistered, SignalTable.register, SignalTable.get_put_ne (Ne.symm hthread)]
        · rw [hunregistered, SignalTable.unregister, SignalTable.get_put_ne (Ne.symm hthread)]
      rw [hothers, beq_false_of_ne hthread]
      exact (and_iff_left rfl).symm

/-! ## Sleepers -/

/-- An owner that has been aborted does not sleep over it. -/
def Wary (c : Call) (n : Notifier) : Prop :=
  c.stage = .blocked .parked → n.interrupted = true → n.event.signaled = true

/-- Other threads keep an owner wary. -/
theorem Wary.reach {id : SessionId} (h : c.Wary n) (hreach : Operation.Reach k k' id n n') : c.Wary n' := by
  intro hparked hinterrupted
  cases hreach with
  | nothing => exact h hparked hinterrupted
  | aborted =>
    rw [Notifier.interrupt] at hinterrupted ⊢
    split
    · rfl
    · next hrefused =>
      rw [if_neg hrefused] at hinterrupted
      exact h hparked hinterrupted
  | told target e e' he he' =>
    rw [n.interrupted_latchAll] at hinterrupted
    exact Notifier.latchAll_induction (motive := fun m => m.event.signaled = true) (h hparked hinterrupted)
      fun m entry _ _ hm => m.signaled_latch_of_signaled hm _ _

/-- A step of the blocked phase keeps the owner wary: it parks only when it has found nothing. -/
theorem Wary.doze {b : Block} (h : c.Wary n) (hstage : c.stage = .blocked b) (deadline : Deadline)
    (now : Moment) :
    { c with stage := .blocked (Block.step deadline now n b).2 }.Wary (Block.step deadline now n b).1 := by
  intro hparked hinterrupted
  have hparked := Stage.blocked.inj hparked
  cases b with
  | looking =>
    simp only [Block.step] at hparked hinterrupted ⊢
    rcases hverdict : n.verdict? with _ | v <;> rw [hverdict] at hparked hinterrupted
    · rw [Notifier.verdict?, if_pos hinterrupted] at hverdict
      split at hverdict <;> cases hverdict
    · cases hparked
  | parked =>
    simp only [Block.step] at hparked hinterrupted ⊢
    rcases hpoll : n.event.poll deadline now with _ | ⟨event, _ | _⟩ <;> rw [hpoll] at hparked hinterrupted
    · exact h hstage hinterrupted
    · cases hparked
    · cases hparked
  | finished v => cases hparked

/-- A call keeps wary by its own steps. -/
theorem Wary.steps (h : c.Wary n) (hstep : Steps k c k' (.running c')) (hn : c.session.notifier? k = some n)
    (hn' : c'.session.notifier? k' = some n') : c'.Wary n' := by
  cases hstep with
  | @dozed b hstage =>
    rw [Session.blockSteps_one hn] at hn' ⊢
    obtain rfl := Option.some.inj ((SessionTable.get?_put_self hn _).symm.trans hn')
    exact h.doze hstage _ _
  | found hstage | missing hstage | skipped hstage | stopped hstage | polled hstage =>
    exact fun hparked => by cases hstage.symm.trans hparked
  | _ => exact fun hparked => by cases hparked

/-! ## Calls that others may displace -/

/-- What signals can do to a call in progress. `displaced` says whether another wait, or anybody else, has
displaced it since it registered. -/
structure Poised (k : Kernel) (c : Call) (displaced : Bool) : Prop where
  /-- its session is the active one while it listens, unless something has displaced it -/
  active : c.interruptible = true → c.stage.listens = true →
    ((k.signals.get c.thread).activeWait = some c.session.id ↔ displaced = false)
  /-- nothing displaces it before it has registered -/
  since : displaced = true → c.stage ≠ .resolving ∧ c.stage ≠ .registering
  /-- it does not sleep once it was aborted -/
  wary : ∀ n, c.session.notifier? k = some n → c.Wary n

/-- Other threads displace a call if they do not leave its thread alone. -/
theorem Poised.effect (h : c.Poised k displaced) {op : Operation} (hbelow : op.Below c.session.id)
    (hthere : (∀ answer, c.stage ≠ .leaving answer) → ∃ n, c.session.notifier? k = some n) :
    c.Poised (op.effect k) (displaced || c.stage.listens && !op.retains c.thread) := by
  refine ⟨fun hsignals hlistens => ?_, fun hdisplaced => ?_, fun n' hn' hparked => ?_⟩
  · rw [op.activeWait_effect, hlistens, Bool.true_and]
    rcases hretains : op.retains c.thread with _ | _
    · exact iff_of_false (Operation.activeAfter_ne_of_not_retains hretains hbelow _) (by simp)
    · rw [Operation.activeAfter_of_retains hretains]
      simpa using h.active hsignals hlistens
  · rw [Bool.or_eq_true, Bool.and_eq_true] at hdisplaced
    exact hdisplaced.elim h.since fun hnow => Stage.registered_of_listens hnow.1
  · obtain ⟨n, hn⟩ := hthere fun answer hleaving => by cases hparked.symm.trans hleaving
    obtain ⟨n₁, hn₁, hreach⟩ := (op.effects_effect k).get?_session hn
    obtain rfl := Option.some.inj (hn₁.symm.trans hn')
    exact (h.wary n hn).reach hreach hparked

/-- A step of another call displaces a call if it decides which wait of their thread is active. -/
theorem Poised.spared (h : c.Poised k displaced) {d : Call} (hstep : Steps k d k' p)
    (hne : c.session.id ≠ d.session.id) :
    c.Poised k' (displaced || c.stage.listens && (d.decides && d.thread == c.thread)) := by
  refine ⟨fun hsignals hlistens => ?_, fun hdisplaced => ?_, fun n hn => h.wary n ?_⟩
  · rw [hstep.active_iff hne, h.active hsignals hlistens, hlistens, Bool.true_and, Bool.or_eq_false_iff]
  · rw [Bool.or_eq_true, Bool.and_eq_true] at hdisplaced
    exact hdisplaced.elim h.since fun hnow => Stage.registered_of_listens hnow.1
  · rwa [Session.notifier?, ← hstep.get?_ne hne]

/-- What makes no difference to the session of a call, nor to its thread, does not displace it. -/
theorem Poised.congr (h : c.Poised k displaced) (hsignals : k'.signals = k.signals)
    (hnotifier : k'.sessions.get? c.session.id = k.sessions.get? c.session.id) :
    c.Poised k' displaced := by
  refine ⟨?_, h.since, fun n hn => h.wary n ?_⟩
  · rw [hsignals]
    exact h.active
  · rwa [Session.notifier?, ← hnotifier]

/-- A call does not displace itself. -/
theorem Poised.steps (h : c.Poised k displaced) (hstep : Steps k c k' (.running c'))
    (hthere : ∃ n, c.session.notifier? k = some n) : c'.Poised k' displaced := by
  obtain ⟨hthread, hinterruptible⟩ := hstep.thread_eq
  obtain ⟨n, hn⟩ := hthere
  refine ⟨fun hsignals hlistens => ?_, fun hdisplaced => ?_, fun n' hn' => (h.wary n hn).steps hstep hn hn'⟩
  · rw [hinterruptible] at hsignals
    have hstays : ∀ answer, c'.stage ≠ .leaving answer := fun answer hleaving => by
      rw [hleaving] at hlistens
      cases hlistens
    rw [hthread, hstep.id_eq]
    obtain ⟨-, hdeaf | ⟨hquiet, -⟩⟩ | ⟨hstage, -⟩ | ⟨hlistened, -⟩ := hstep.stage_cases hstays
    · exact absurd (hdeaf.symm.trans hlistens) Bool.false_ne_true
    · exact absurd (hquiet.symm.trans hsignals) Bool.false_ne_true
    · -- the call registers, and was not displaced before
      cases hstep with
      | registered =>
        rw [SignalTable.register, SignalTable.get_put_self]
        refine iff_of_true rfl (Bool.eq_false_iff.2 fun hdisplaced => ?_)
        exact (h.since hdisplaced).2 hstage
      | _ => cases hstage.symm.trans ‹c.stage = _›
    · have hquiet : c.decides = false := by
        rw [decides]
        split
        · next hstage => rw [hstage] at hlistened; cases hlistened
        · next hstage => rw [hstage] at hlistened; cases hlistened
        · rfl
      rw [hstep.signals_of_not_decides hquiet]
      exact h.active hsignals hlistened
  · obtain ⟨hresolved, hregistered⟩ := h.since hdisplaced
    refine ⟨hstep.stage_ne_resolving hresolved, fun hstage => ?_⟩
    cases hstep with
    | resolved hresolving => exact hresolved hresolving
    | skipped hwas | stopped hwas | polled hwas => cases hwas.symm.trans hstage
    | found hwas | missing hwas => exact hresolved hwas
    | _ => cases hstage

/-- A call begins before anything could displace it. -/
theorem Poised.begun (hstage : c.stage = .resolving) : c.Poised k false := by
  refine ⟨fun _ hlistens => ?_, fun hdisplaced => absurd hdisplaced Bool.false_ne_true,
    fun n _ hparked => ?_⟩
  · rw [hstage] at hlistens
    cases hlistens
  · cases hstage.symm.trans hparked

/-! ## Calls that were aborted -/

/-- A call was aborted: it will say so unless something is ready, and does not sleep before. -/
def Doomed (k : Kernel) (c : Call) : Prop :=
  (∃ answer, c.stage = .leaving answer ∧
    ((∀ m, answer ≠ .ok (.ready m)) → answer = .error .interrupted)) ∨
  (c.stage.listens = true ∧ ∃ n, c.session.notifier? k = some n ∧ n.phase.wakes = true ∧
    n.interrupted = true ∧ c.Wary n)

/-- Other threads do not save a call that was aborted. -/
theorem Doomed.effect (h : c.Doomed k) (op : Operation) : c.Doomed (op.effect k) := by
  obtain hleaving | ⟨hlistens, n, hn, hwakes, hinterrupted, hwary⟩ := h
  · exact .inl hleaving
  · obtain ⟨n', hn', hreach⟩ := (op.effects_effect k).get?_session hn
    refine .inr ⟨hlistens, n', hn', by rwa [hreach.phase_eq], ?_, hwary.reach hreach⟩
    exact Verdict.Holds.reach (v := .interrupted) hinterrupted hreach

theorem Doomed.congr (h : c.Doomed k)
    (hnotifier : k'.sessions.get? c.session.id = k.sessions.get? c.session.id) : c.Doomed k' := by
  obtain hleaving | ⟨hlistens, n, hn, hrest⟩ := h
  · exact .inl hleaving
  · exact .inr ⟨hlistens, n, hnotifier.trans hn, hrest⟩

/-- Nor does the call itself, and every step brings it closer to its end. -/
theorem Doomed.steps (h : c.Doomed k) {r : Request} (horderly : c.Orderly r k)
    (hstep : Steps k c k' (.running c')) : c'.Doomed k' ∧ c'.remaining < c.remaining := by
  obtain ⟨answer, hstage, -⟩ | ⟨hlistens, n, hn, hwakes, hinterrupted, hwary⟩ := h
  · cases hstep.returns_of_leaving hstage
  have hverdict : ∃ v, n.verdict? = some v := by
    rw [Notifier.verdict?, if_pos hinterrupted]
    split
    · exact ⟨_, rfl⟩
    · exact ⟨_, rfl⟩
  obtain ⟨v, hverdict⟩ := hverdict
  refine ⟨?_, hstep.remaining_lt hn hverdict fun hparked => hwary hparked hinterrupted⟩
  by_cases hleaves : ∃ answer, c'.stage = .leaving answer
  · obtain ⟨answer, hanswer⟩ := hleaves
    obtain ⟨slot, rest, hahead, hfull⟩ | ⟨-, -, rfl⟩ := hstep.leaves_cases hanswer
    · obtain ⟨answer', hwas, -⟩ | ⟨-, hsound, -⟩ := horderly
      · cases hstep.returns_of_leaving hwas
      · exact absurd (hsound.tickets_lt hahead) (Nat.not_lt.2 hfull)
    · refine .inl ⟨_, rfl, fun hnone => ?_⟩
      rw [outcome] at hnone ⊢
      split at hnone
      · exact absurd rfl (hnone _)
      · next hempty => rw [if_neg hempty, hn, Option.any_some, if_pos hinterrupted]
  · rw [not_exists] at hleaves
    obtain ⟨n', hn', hwakes', hinterrupted'⟩ := hstep.interrupted_iff hleaves hn hwakes
    exact .inr ⟨Stage.listens_of_attends (hstep.attends_of_listens hleaves hlistens), n', hn', hwakes',
      hinterrupted'.2 (.inl hinterrupted), hwary.steps hstep hn hn'⟩

/-- A call that was aborted says so when it returns, unless something is ready. -/
theorem Doomed.returned (h : c.Doomed k) {reply : Reply} (hstep : Steps k c k' (.returned reply))
    (hnone : ∀ m, reply.answer ≠ .ok (.ready m)) : reply.answer = .error .interrupted := by
  obtain ⟨hresolving, -, -, rfl⟩ | ⟨answer, hleaving, rfl⟩ := hstep.returned_cases
  · obtain ⟨answer, hstage, -⟩ | ⟨hlistens, -⟩ := h
    · cases hresolving.symm.trans hstage
    · exact absurd hresolving (Stage.registered_of_listens hlistens).1
  · obtain ⟨answer', hstage, hanswer⟩ | ⟨hlistens, -⟩ := h
    · obtain rfl := Stage.leaving.inj (hleaving.symm.trans hstage)
      exact hanswer hnone
    · rw [hleaving] at hlistens
      cases hlistens

end Call

/-- The move is a step of the wait of a name. -/
def Move.steps (name : Nat) : Move → Bool
  | step other => other == name
  | _ => false

namespace Company

variable {base : SessionId} {handed : List (Target × Token)} {co : Company} {name : Nat}
  {v : Invocation} {displaced : Bool}

/-! ## A wait among waits of its thread -/

/-- A wait that signals may abort is displaced at a move: another wait of its thread registers or lets go of
signals, or somebody does not leave the thread to its waits. -/
def displaces (name : Nat) (co : Company) (m : Move) : Bool :=
  (co.call? name).any fun c => c.stage.listens &&
    match m with
    | .operate op => !op.retains c.thread
    | .start _ _ => false
    | .step other => other != name && (co.call? other).any fun d => d.decides && d.thread == c.thread

/-- A wait was made, and while it is in progress it is known what signals can do to it. -/
structure Watched (name : Nat) (displaced : Bool) (co : Company) : Prop where
  /-- the wait was made -/
  made : ∃ w, co.wait? name = some w
  /-- in progress it is known what signals can do to it -/
  poised : ∀ c, co.call? name = some c → c.Poised co.system.kernel displaced

theorem Watched.start (hnew : co.wait? name = none) (v : Invocation) :
    Watched name false (co.turn (.start name v)) := by
  rw [turn_start_of_none hnew]
  refine ⟨⟨_, wait?_put_self _ _ _⟩, fun c hc => ?_⟩
  rw [call?_put_self] at hc
  obtain ⟨hnone, -⟩ | ⟨s₀, r, c', -, -, hbegin, hcall, -⟩ := v.call_cases co.system
  · cases hnone.symm.trans hc
  · obtain rfl := Option.some.inj (hcall.symm.trans hc)
    exact .begun (System.sound_begin hbegin).1

/-- A wait in progress is there in its kernel. -/
theorem Sound.there (h : co.Sound base handed) {c : Call} (hc : co.call? name = some c) :
    (∀ answer, c.stage ≠ .leaving answer) → ∃ n, c.session.notifier? co.system.kernel = some n := by
  intro hstays
  obtain ⟨n, hn, -⟩ := (h.rooted name c hc).alert hstays
  exact ⟨n, hn⟩

/-- What nobody else's wait has to do with displaces no wait. -/
theorem displaces_start (name other : Nat) (co : Company) (u : Invocation) :
    displaces name co (.start other u) = false := by
  rw [displaces]
  rcases co.call? name with _ | c
  · rfl
  · rw [Option.any_some, Bool.and_false]

theorem Watched.turn_start (h : Watched name displaced co) (hsound : co.Sound base handed) (other : Nat)
    (u : Invocation) : Watched name displaced (co.turn (.start other u)) := by
  rcases hwait : co.wait? other with _ | w
  · have hne : name ≠ other := by
      rintro rfl
      obtain ⟨w, hw⟩ := h.made
      cases hwait.symm.trans hw
    rw [turn_start_of_none hwait]
    refine ⟨by rw [wait?_put_ne hne]; exact h.made, fun c hc => ?_⟩
    rw [call?_put_ne hne] at hc
    rw [Company.put]
    obtain hconsults | ⟨n, k, hconsults, hkernel⟩ := u.kernel_begin_cases co.system
    · exact (h.poised c hc).congr hconsults.signals_eq
        (congrArg (SessionTable.get? · c.session.id) hconsults.sessions_eq)
    · rw [hkernel]
      refine (h.poised c hc).congr hconsults.signals_eq ?_
      rw [hconsults.sessions_eq]
      exact SessionTable.get?_add_of_lt (hsound.rooted name c hc).opened n
  · rwa [turn_start_of_some hwait]

theorem Watched.turn_operate (h : Watched name displaced co) (hsound : co.Sound base handed)
    {op : Operation} (hbelow : op.Below base) :
    Watched name (displaced || displaces name co (.operate op)) (co.turn (.operate op)) := by
  refine ⟨h.made, fun c (hc : co.call? name = some c) => ?_⟩
  rw [displaces, hc, Option.any_some]
  exact (h.poised c hc).effect (hbelow.mono (hsound.rooted name c hc).since) (hsound.there hc)

theorem Watched.turn_step (h : Watched name displaced co) (hsound : co.Sound base handed) (other : Nat) :
    Watched name (displaced || displaces name co (.step other)) (co.turn (.step other)) := by
  rcases hwait : co.wait? other with _ | w
  · have hnone : co.call? other = none := by rw [call?, hwait, Option.bind_none]
    rw [turn_step_of_none hwait]
    refine ⟨h.made, fun c hc => ?_⟩
    simpa [displaces, hc, hnone] using h.poised c hc
  rw [turn_step_of_some hwait]
  have hother : co.call? other = w.call? := by rw [call?, hwait, Option.bind_some]
  by_cases hname : name = other
  · -- the wait's own step
    subst hname
    have hquiet : displaces name co (.step name) = false := by
      rw [displaces]
      rcases co.call? name with _ | c <;> simp
    rw [hquiet, Bool.or_false]
    refine ⟨⟨_, wait?_put_self _ _ _⟩, fun c' hc' => ?_⟩
    rw [call?_put_self] at hc'
    rcases hcall : w.call? with _ | c
    · rw [Wait.step_of_over hcall, hcall] at hc'
      cases hc'
    · have hc : co.call? name = some c := hother.trans hcall
      have hsteps := Call.steps_step co.system c
      rw [Wait.step_of_call hcall] at hc' ⊢
      rw [Wait.call?_after hcall] at hc'
      rcases hp : (c.step co.system).2 with c'' | reply <;> rw [hp] at hc' hsteps
      · obtain rfl := Option.some.inj hc'
        refine (h.poised c hc).steps hsteps (hsound.there hc fun answer hleaving => ?_)
        cases hsteps.returns_of_leaving hleaving
      · cases hc'
  · refine ⟨by rw [wait?_put_ne hname]; exact h.made, fun c hc => ?_⟩
    rw [call?_put_ne hname] at hc
    have hne : (other != name) = true := bne_iff_ne.2 (Ne.symm hname)
    simp only [displaces, hc, Option.any_some, hne, Bool.true_and, hother]
    rcases hcall : w.call? with _ | d
    · rw [Wait.step_of_over hcall, Option.any_none, Bool.and_false, Bool.or_false]
      exact h.poised c hc
    · rw [Wait.step_of_call hcall, Option.any_some]
      exact (h.poised c hc).spared (Call.steps_step co.system d)
        (hsound.apart name other hname c d hc (hother.trans hcall))

/-- **Whatever happens, it is known what signals can do to a wait.** -/
theorem Watched.turn (h : Watched name displaced co) (hsound : co.Sound base handed) {m : Move}
    (hbelow : m.Below base) : Watched name (displaced || displaces name co m) (co.turn m) := by
  cases m with
  | operate op => exact h.turn_operate hsound hbelow
  | start other u =>
    rw [displaces_start, Bool.or_false]
    exact h.turn_start hsound other u
  | step other => exact h.turn_step hsound other

theorem Watched.play (h : Watched name displaced co) (hsound : co.Sound base handed) {script : List Move}
    (hbelow : ∀ m ∈ script, m.Below base) (hroom : handed.length + script.length < UInt64.size) :
    Watched name (displaced || sometime (displaces name) co script) (co.play script) := by
  induction script generalizing co displaced handed with
  | nil => rwa [sometime, Bool.or_false]
  | cons m script ih =>
    rw [List.length_cons] at hroom
    have hfirst := hbelow m List.mem_cons_self
    obtain ⟨more, hmore, hsound'⟩ := hsound.turn (by omega) hfirst
    rw [sometime, ← Bool.or_assoc]
    refine ih (h.turn hsound hfirst) hsound' (fun m' hm' => hbelow m' (List.mem_cons_of_mem _ hm')) ?_
    rw [List.length_append]
    omega

/-! ## A wait that was aborted -/

/-- A wait was aborted, and tells its caller unless something is ready. -/
structure Doomed (name : Nat) (co : Company) : Prop where
  /-- the wait was made -/
  made : ∃ w, co.wait? name = some w
  /-- in progress it was aborted -/
  doomed : ∀ c, co.call? name = some c → c.Doomed co.system.kernel
  /-- its caller is told -/
  told : ∀ response, co.response? name = some response → response.Quiet → response.Aborted

/-- As many steps as a wait that was aborted can still make. -/
def remaining (name : Nat) (co : Company) : Nat := (co.call? name).elim 0 Call.remaining

/-- What another wait does makes no difference to the notifier of a wait. -/
theorem Sound.get?_turn_of_not (h : co.Sound base handed) {m : Move} (hm : m.concerns name = false)
    {c : Call} (hc : co.call? name = some c) :
    (co.turn m).system.kernel.sessions.get? c.session.id =
      co.system.kernel.sessions.get? c.session.id :=
  Company.get?_turn_of_not hm (h.rooted name c hc).opened fun other hne d hd =>
    h.apart name other (Ne.symm hne) c d hc hd

/-- A wait that was aborted makes a step of its own. -/
theorem Doomed.turn_step (h : Doomed name co) (hsound : co.Sound base handed) :
    Doomed name (co.turn (.step name)) ∧
      remaining name (co.turn (.step name)) ≤ remaining name co - 1 := by
  obtain ⟨w, hw⟩ := h.made
  have hcall? : co.call? name = w.call? := by rw [call?, hw, Option.bind_some]
  rw [turn_step_of_some hw]
  rcases hcall : w.call? with _ | c
  · rw [Wait.step_of_over hcall]
    refine ⟨⟨⟨w, wait?_put_self _ _ _⟩, fun c hc => ?_, fun response hresponse => h.told response ?_⟩, ?_⟩
    · rw [call?_put_self, hcall] at hc
      cases hc
    · rw [response?, wait?_put_self, Option.bind_some] at hresponse
      rw [response?, hw, Option.bind_some, hresponse]
    · rw [remaining, call?_put_self, hcall]
      exact Nat.zero_le _
  have hc : co.call? name = some c := hcall?.trans hcall
  obtain ⟨r, horderly⟩ := (hsound.rooted name c hc).orderly
  have hsteps := Call.steps_step co.system c
  have hdoomed := h.doomed c hc
  rw [Wait.step_of_call hcall, remaining, call?_put_self, Wait.call?_after hcall, remaining, hc]
  rcases hp : (c.step co.system).2 with c' | reply <;> rw [hp] at hsteps
  · obtain ⟨hdoomed', hless⟩ := hdoomed.steps horderly hsteps
    have hcall' := Wait.call?_after hcall (.running c')
    refine ⟨⟨⟨_, wait?_put_self _ _ _⟩, fun d hd => ?_, fun response hresponse => ?_⟩,
      Nat.le_pred_of_lt hless⟩
    · rw [call?_put_self, hcall'] at hd
      obtain rfl := Option.some.inj hd
      exact hdoomed'
    · rw [response?, wait?_put_self, Option.bind_some, Wait.response?_of_call hcall'] at hresponse
      cases hresponse
  · refine ⟨⟨⟨_, wait?_put_self _ _ _⟩, fun d hd => ?_, fun response hresponse hquiet => ?_⟩, Nat.zero_le _⟩
    · rw [call?_put_self, Wait.call?_after hcall] at hd
      cases hd
    · rw [response?, wait?_put_self, Option.bind_some] at hresponse
      obtain ⟨-, -, -, hreply, -⟩ := horderly.returned hsteps
      obtain ⟨haborted, hnone⟩ := Wait.says_of_returned hcall hreply hresponse
      exact haborted.2 (hdoomed.returned hsteps (hnone hquiet))

/-- **A wait that was aborted stays so, and every step of its own brings it closer to its end.** -/
theorem Doomed.turn (h : Doomed name co) (hsound : co.Sound base handed) (m : Move) :
    Doomed name (co.turn m) ∧ remaining name (co.turn m) ≤ remaining name co - (m.steps name).toNat := by
  by_cases hm : m.concerns name = false
  · have hwait := wait?_turn_of_not hm co
    have hcall : (co.turn m).call? name = co.call? name := by rw [call?, hwait, call?]
    refine ⟨⟨by rw [hwait]; exact h.made, fun c hc => ?_, fun response hresponse => h.told response ?_⟩, ?_⟩
    · rw [hcall] at hc
      exact (h.doomed c hc).congr (hsound.get?_turn_of_not hm hc)
    · rwa [response?, hwait, ← response?] at hresponse
    · have hother : m.steps name = false := by
        cases m with
        | step other => exact hm
        | _ => rfl
      rw [hother, remaining, hcall, remaining]
      exact Nat.le_refl _
  rw [Bool.not_eq_false] at hm
  cases m with
  | operate op =>
    exact ⟨⟨h.made, fun c (hc : co.call? name = some c) => (h.doomed c hc).effect op, h.told⟩,
      Nat.le_refl _⟩
  | start other u =>
    obtain rfl := eq_of_beq hm
    obtain ⟨w, hw⟩ := h.made
    rw [turn_start_of_some hw]
    exact ⟨h, Nat.le_refl _⟩
  | step other =>
    obtain rfl := eq_of_beq hm
    have hown : (Move.step other).steps other = true := beq_self_eq_true other
    rw [hown]
    exact h.turn_step hsound

theorem Doomed.play (h : Doomed name co) (hsound : co.Sound base handed) {script : List Move}
    (hbelow : ∀ m ∈ script, m.Below base) (hroom : handed.length + script.length < UInt64.size) :
    Doomed name (co.play script) ∧
      remaining name (co.play script) ≤ remaining name co - script.countP (Move.steps name) := by
  induction script generalizing co handed with
  | nil => exact ⟨h, Nat.le_refl _⟩
  | cons m script ih =>
    rw [List.length_cons] at hroom
    obtain ⟨more, hmore, hsound'⟩ := hsound.turn (by omega) (hbelow m List.mem_cons_self)
    obtain ⟨hfirst, hless⟩ := h.turn hsound m
    obtain ⟨hlast, hless'⟩ := ih hfirst hsound' (fun m' hm' => hbelow m' (List.mem_cons_of_mem _ hm'))
      (by rw [List.length_append]; omega)
    refine ⟨hlast, Nat.le_trans hless' ?_⟩
    rw [List.countP_cons]
    cases hm : m.steps name <;> rw [hm] at hless <;> simp at hless ⊢ <;> omega

/-- A wait that has no step left has told its caller. -/
theorem Doomed.over (h : Doomed name co) (hnone : remaining name co = 0) :
    ∃ response, co.response? name = some response := by
  obtain ⟨w, hw⟩ := h.made
  rcases hcall : w.call? with _ | c
  · rw [response?, hw, Option.bind_some]
    rcases w with (c | reply) | (c | reply)
    · cases hcall
    · exact ⟨_, rfl⟩
    · cases hcall
    · exact ⟨_, rfl⟩
  · rw [remaining, call?, hw, Option.bind_some, hcall] at hnone
    exact absurd hnone (Nat.ne_of_gt c.remaining_pos)

/-! ## Abortion -/

/-- A wait in progress is marked as aborted. -/
def flagged (name : Nat) (co : Company) : Bool :=
  (co.call? name).any fun c => (c.session.notifier? co.system.kernel).any (·.interrupted)

/-- A wait is made in a system, among other waits and operations. Its thread may make other waits that
signals may abort. -/
structure SharedRun (handed : List (Target × Token)) (s : System) (name : Nat) (v : Invocation)
    (before after : List Move) : Prop where
  /-- the kernel is one that a freshly started kernel can become -/
  reached : s.kernel.Reached handed
  /-- other threads name older sessions only -/
  below : ∀ m ∈ before ++ .start name v :: after, m.Below s.kernel.sessions.nextId
  /-- there are numbers enough for tickets -/
  room : handed.length + (before ++ .start name v :: after).length < UInt64.size
  /-- the name is a new one -/
  new : (play { system := s } before).wait? name = none

variable {s : System} {before meanwhile later : List Move} {op : Operation} {c : Call} {b : Block}

/-- At any time after it was made a wait stands on its footing, and is watched. -/
theorem SharedRun.watched (h : SharedRun handed s name v before (meanwhile ++ later)) :
    ∃ more, (handed ++ more).length + later.length < UInt64.size ∧
      (play { system := s } (before ++ .start name v :: meanwhile)).Sound s.kernel.sessions.nextId
        (handed ++ more) ∧
      Watched name (sometime (displaces name) (play { system := s } (before ++ [.start name v])) meanwhile)
        (play { system := s } (before ++ .start name v :: meanwhile)) := by
  have hroom := h.room
  rw [List.length_append, List.length_cons, List.length_append] at hroom
  have hbelow : ∀ m ∈ before ++ .start name v :: meanwhile, m.Below s.kernel.sessions.nextId := by
    intro m hm
    refine h.below m ?_
    rw [← List.cons_append, ← List.append_assoc]
    exact List.mem_append_left _ hm
  obtain ⟨more, hmore, hsound⟩ := (Sound.start h.reached).play hbelow
    (by rw [List.length_append, List.length_cons]; omega)
  rw [List.length_append, List.length_cons] at hmore
  refine ⟨more, by rw [List.length_append]; omega, hsound, ?_⟩
  have hsplit : before ++ .start name v :: meanwhile = (before ++ [.start name v]) ++ meanwhile :=
    (List.append_assoc before [Move.start name v] meanwhile).symm
  obtain ⟨first, hfirst, hbegun⟩ := (Sound.start h.reached).play
    (fun m hm => hbelow m (hsplit ▸ List.mem_append_left meanwhile hm))
    (by rw [List.length_append, List.length_singleton]; omega)
  rw [List.length_append, List.length_singleton] at hfirst
  have hstart : Watched name false (play { system := s } (before ++ [.start name v])) := by
    rw [play_concat]
    exact .start h.new v
  have hplay := hstart.play hbegun
    (fun m hm => hbelow m (List.mem_append_right _ (List.mem_cons_of_mem _ hm)))
    (by rw [List.length_append]; omega)
  rwa [Bool.false_or, ← play_append, ← hsplit] at hplay

/-- **A signal that comes to the thread of a sleeping wait aborts it just when nothing has displaced it**
since it registered. A wait that was aborted ends after five steps of its own at most, and says that it was
interrupted unless something is ready. -/
theorem aborted_unless_displaced
    (h : SharedRun handed s name v before (meanwhile ++ .operate op :: later))
    (hcall : (play { system := s } (before ++ .start name v :: meanwhile)).call? name = some c)
    (hsignals : c.interruptible = true) (hsleeps : c.stage = .blocked b)
    (hrouses : op.rouses c.thread
      (play { system := s } (before ++ .start name v :: meanwhile)).system.kernel = true) :
    let co := play { system := s } (before ++ .start name v :: meanwhile)
    flagged name (co.turn (.operate op)) =
        (flagged name co ||
          !sometime (displaces name) (play { system := s } (before ++ [.start name v])) meanwhile) ∧
      (flagged name (co.turn (.operate op)) = true →
        (∀ response, ((co.turn (.operate op)).play later).response? name = some response →
          response.Quiet → response.Aborted) ∧
        (5 ≤ later.countP (Move.steps name) →
          ∃ response, ((co.turn (.operate op)).play later).response? name = some response)) := by
  intro co
  obtain ⟨more, hroom, hsound, hwatched⟩ := h.watched
  have hbelow : op.Below s.kernel.sessions.nextId :=
    h.below (.operate op) (List.mem_append_right _ (List.mem_cons_of_mem _
      (List.mem_append_right _ List.mem_cons_self)))
  have hrooted := hsound.rooted name c hcall
  have hpoised := hwatched.poised c hcall
  obtain ⟨n, hn, halert⟩ := hrooted.alert fun answer hleaving => by cases hsleeps.symm.trans hleaving
  have hwakes := (halert b hsleeps).1
  have hlistens : c.stage.listens = true := by
    rw [hsleeps]
    rfl
  obtain ⟨n', hn', hreach⟩ := (op.effects_effect co.system.kernel).get?_session hn
  have hafter : (co.turn (.operate op)).call? name = some c := hcall
  have hflagged : flagged name co = n.interrupted := by
    rw [flagged, hcall, Option.any_some, hn, Option.any_some]
  have hflagged' : flagged name (co.turn (.operate op)) = n'.interrupted := by
    rw [flagged, hafter, Option.any_some, show c.session.notifier? (co.turn (.operate op)).system.kernel =
      some n' from hn', Option.any_some]
  refine ⟨?_, fun haborted => ?_⟩
  · rw [hflagged, hflagged', Bool.eq_iff_iff, Bool.or_eq_true, Bool.not_eq_true',
      ← hpoised.active hsignals hlistens,
      Operation.interrupted_effect_iff hn hn' hwakes fun thread hactive =>
        (hrooted.active thread hactive).1]
    exact or_congr_right (and_iff_left hrouses)
  · rw [hflagged'] at haborted
    obtain ⟨new, hnew, hsound'⟩ := hsound.turn (m := .operate op) (by omega) hbelow
    have hdoomed : Doomed name (co.turn (.operate op)) := by
      refine ⟨hwatched.made, fun d hd => ?_, fun response hresponse => ?_⟩
      · obtain rfl := Option.some.inj (hafter.symm.trans hd)
        exact .inr ⟨hlistens, n', hn', by rwa [hreach.phase_eq], haborted,
          (hpoised.wary n hn).reach hreach⟩
      · cases (call?_of_response? hresponse).symm.trans hafter
    have hlater : ∀ m ∈ later, m.Below s.kernel.sessions.nextId := fun m hm =>
      h.below m (List.mem_append_right _ (List.mem_cons_of_mem _
        (List.mem_append_right _ (List.mem_cons_of_mem _ hm))))
    rw [List.length_cons] at hroom
    obtain ⟨hlast, hless⟩ := hdoomed.play hsound' hlater (by rw [List.length_append]; omega)
    refine ⟨hlast.told, fun hturns => hlast.over ?_⟩
    have hfew : remaining name (co.turn (.operate op)) ≤ 5 := by
      rw [remaining, hafter, Option.elim_some, Call.remaining, hsleeps]
      rcases b with _ | _ | v <;> simp
    omega

/-- A wait of another thread comes and goes while a wait sleeps, which is then interrupted by a signal. -/
theorem aborted_unless_displaced_strangers :
    let s : System := { kernel := { clock := { now := 0, horizon := 1000 } }, config := .standard }
    let v (thread : ThreadId) (timeout : Timeout) : Invocation := .multiplexer
      { thread
        watches := [{ kind := .semaphore, id := 1, requested := .read }]
        flags := .interruptible
        timeout }
    let brief : Timeout := .relative ⟨0, 100⟩
    let before : List Move := [.operate (.create (.semaphore 0))]
    let meanwhile : List Move :=
      List.replicate 9 (.step 1) ++ .start 2 (v 8 .poll) :: List.replicate 9 (.step 2)
    let later : List Move := List.replicate 5 (.step 1)
    let op : Operation := .send 3 7 .usr1
    let co := play { system := s } (before ++ .start 1 (v 7 brief) :: meanwhile)
    SharedRun [] s 1 (v 7 brief) before (meanwhile ++ .operate op :: later) ∧
    (co.call? 1).map Call.stage = some (.blocked .parked) ∧ (co.response? 2).isSome = true ∧
    flagged 1 (co.turn (.operate op)) = true ∧
    ∃ response, ((co.turn (.operate op)).play later).response? 1 = some response ∧ response.Aborted := by
  intro s v brief before meanwhile later op co
  have hbelow : ∀ m ∈ before ++ Move.start 1 (v 7 brief) ::
      (meanwhile ++ .operate op :: later), m.Below s.kernel.sessions.nextId := by
    intro m hm
    simp [before, meanwhile, later] at hm
    rcases hm with rfl | rfl | rfl | rfl | rfl | rfl | rfl
    all_goals trivial
  have hrun : SharedRun [] s 1 (v 7 brief) before (meanwhile ++ .operate op :: later) :=
    ⟨.boot { now := 0, horizon := 1000 }, hbelow, by decide, rfl⟩
  have hstage : ((play { system := s } (before ++ .start 1 (v 7 brief) :: meanwhile)).call? 1).map
      Call.stage = some (.blocked .parked) := by cbv
  have hthread : ((play { system := s } (before ++ .start 1 (v 7 brief) :: meanwhile)).call?
      1).map Call.thread = some 7 := by cbv
  have hsignals : ((play { system := s } (before ++ .start 1 (v 7 brief) :: meanwhile)).call?
      1).map Call.interruptible = some true := by cbv
  have hcomes : Operation.rouses 7
      (play { system := s } (before ++ .start 1 (v 7 brief) :: meanwhile)).system.kernel
      op = true := by cbv
  have hended : ((play { system := s } (before ++ .start 1 (v 7 brief) :: meanwhile)).response?
      2).isSome = true := by cbv
  have hundisplaced : sometime (displaces 1)
      (play { system := s } (before ++ [.start 1 (v 7 brief)])) meanwhile = false := by cbv
  have hresponse : (((play { system := s } (before ++ .start 1 (v 7 brief) :: meanwhile)).turn
      (.operate op)).play later).response? 1 = some (.typed ⟨.error .interrupted,
        [{ kind := .semaphore, id := 1, requested := .read, status := .ok }]⟩) := by cbv
  refine ⟨hrun, hstage, hended, ?_⟩
  obtain ⟨c, hc, hsleeps⟩ := Option.map_eq_some_iff.1 hstage
  rw [hc, Option.map_some, Option.some_inj] at hthread hsignals
  obtain ⟨hflagged, hends⟩ := aborted_unless_displaced hrun hc hsignals hsleeps
    (by rw [hthread]; exact hcomes)
  rw [hundisplaced, Bool.not_false, Bool.or_true] at hflagged
  refine ⟨hflagged, _, hresponse, (hends hflagged).1 _ hresponse fun w hw => ?_⟩
  obtain rfl := List.mem_singleton.1 hw
  rfl

/-- **A wait is not aborted once another wait of its thread has come and gone**: it sleeps on, although a
signal comes to its thread, until its time is up. -/
theorem not_aborted_once_displaced :
    let s : System :=
      { kernel := Operation.effect { clock := { now := 0, horizon := 1000 } } (.create (.semaphore 0))
        config := .standard }
    let v (timeout : Timeout) : Invocation := .multiplexer
      { thread := 7
        watches := [{ kind := .semaphore, id := 1, requested := .read }]
        flags := .interruptible
        timeout }
    let brief : Timeout := .relative ⟨0, 100⟩
    let meanwhile : List Move :=
      List.replicate 9 (.step 1) ++ .start 2 (v .poll) :: List.replicate 9 (.step 2)
    let later : List Move := .operate (.elapse 200) :: List.replicate 6 (.step 1)
    let response : Response := .typed ⟨.ok .timedOut,
      [{ kind := .semaphore, id := 1, requested := .read, status := .ok }]⟩
    SharedRun [] s 1 (v brief) [] (meanwhile ++ .operate (.send 3 7 .usr1) :: later) ∧
    ((play { system := s } (.start 1 (v brief) :: meanwhile)).response? 2).isSome = true ∧
    ((play { system := s } (.start 1 (v brief) :: meanwhile)).call? 1).map
      (fun c => (c.thread, c.interruptible, c.stage)) = some (7, true, .blocked .parked) ∧
    Operation.rouses 7 (play { system := s } (.start 1 (v brief) :: meanwhile)).system.kernel
      (.send 3 7 .usr1) = true ∧
    flagged 1 ((play { system := s } (.start 1 (v brief) :: meanwhile)).turn
      (.operate (.send 3 7 .usr1))) = false ∧
    (((play { system := s } (.start 1 (v brief) :: meanwhile)).turn
      (.operate (.send 3 7 .usr1))).play later).response? 1 = some response ∧
    response.Quiet ∧ ¬response.Aborted := by
  intro s v brief meanwhile later response
  have hbelow : ∀ m ∈ [] ++ Move.start 1 (v brief) ::
      (meanwhile ++ .operate (.send 3 7 .usr1) :: later), m.Below s.kernel.sessions.nextId := by
    intro m hm
    simp [meanwhile, later] at hm
    rcases hm with rfl | rfl | rfl | rfl | rfl | rfl | rfl
    all_goals trivial
  have hreached : s.kernel.Reached [] :=
    .operated (.boot { now := 0, horizon := 1000 }) (.create (.semaphore 0)) trivial
  refine ⟨⟨hreached, hbelow, by decide, rfl⟩,
    by cbv, by cbv, by cbv, by cbv, by cbv, fun w hw => ?_, fun haborted => by cases haborted⟩
  obtain rfl := List.mem_singleton.1 hw
  rfl

end Company

end KernelWait
