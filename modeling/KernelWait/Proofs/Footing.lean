import KernelWait.Proofs.Company

/-!
# The footing of waits in company

Every wait in progress stands on ground of its own: its session is its own, its tickets stand for entries
of that session and of no other, and no signal aborts it but one to its thread (`Call.Rooted`). What other
waits do leaves that as it is (`Call.Spared`).

**All waits of a company keep their footing, whatever happens** (`Company.Sound.turn`), and the steps of one
make no difference to another, unless signals to one thread were to abort both
(`Company.Sound.reflects_turn`).
-/

namespace KernelWait

/-! ## Old and new tickets -/

/-- An entry with a number that was handed out before was in the queue before. -/
theorem Kernel.Numbered.queued_of_handed {handed : List (Target × Token)} {k : Kernel}
    (h : k.Numbered handed) {op : Operation} {target : Target} {entry : QueueEntry}
    (hqueued : (op.effect k).Queued target entry) (hhanded : (target, entry.token) ∈ handed) :
    k.Queued target entry := by
  obtain ⟨e', he', hentry⟩ := hqueued
  obtain ⟨-, hnew⟩ | ⟨e, he, hchange⟩ := (op.effects_effect k).get?_cases he'
  · rw [hnew] at hentry
    exact absurd hentry List.not_mem_nil
  · obtain hnone | ⟨other, e₀, interest, waker, rfl, he₀, hready, -⟩ := op.handsOut_cases k
    · exact ⟨e, he, (hchange.older he hnone (h.fresh target e he)).2.2 entry hentry⟩
    · obtain hold | ⟨rfl, rfl⟩ := (queued_enroll_iff he₀ hready).1 ⟨e', he', hentry⟩
      · exact hold
      · -- the number of the new entry was not handed out yet
        obtain ⟨e₁, he₁, hlt⟩ := h.older _ _ hhanded
        obtain rfl := Option.some.inj (he₁.symm.trans he₀)
        exact absurd hlt (Nat.lt_irrefl _)

/-- An operation that names older sessions only names none from later on. -/
theorem Operation.Below.mono {bound bound' : SessionId} (h : bound ≤ bound') {op : Operation}
    (hbelow : op.Below bound) : op.Below bound' := by
  cases op with
  | enroll target interest waker => exact Nat.lt_of_lt_of_le hbelow h
  | register thread session => exact Nat.lt_of_lt_of_le hbelow h
  | _ => trivial

theorem SessionTable.get?_add_of_lt {t : SessionTable} {id : SessionId} (h : id < t.nextId)
    (n : Notifier) : (t.add n).get? id = t.get? id := by
  rw [get?, get?, add, List.getElem?_append_left h]

namespace Call

/-! ## Footing -/

/-- How a call in progress stands in a kernel that has handed out these tickets. Sessions before a number
were there before any call. -/
structure Rooted (base : SessionId) (handed : List (Target × Token)) (k : Kernel) (c : Call) : Prop where
  /-- its session is not one of those before -/
  since : base ≤ c.session.id
  /-- its session was opened -/
  opened : c.session.id < k.sessions.nextId
  /-- it is in order -/
  orderly : ∃ r, c.Orderly r k
  /-- until it leaves it does not sleep over anything -/
  alert : (∀ answer, c.stage ≠ .leaving answer) → ∃ n, c.session.notifier? k = some n ∧ c.Alert n
  /-- its tickets were handed out -/
  places : ∀ ticket ∈ c.session.tickets, ∀ place, ticket.place = some place → place ∈ handed
  /-- they stand for entries of its own -/
  owns : ∀ ticket ∈ c.session.tickets, ∀ target token, ticket.place = some (target, token) →
    ∀ entry, k.Queued target entry → entry.token = token → entry.waker.session = c.session.id
  /-- once it leaves no entry of its session is left -/
  gone : ∀ answer, c.stage = .leaving answer → ∀ target entry, k.Queued target entry →
    entry.waker.session ≠ c.session.id
  /-- only signals to its thread abort it, and only if it lets them -/
  active : ∀ thread, (k.signals.get thread).activeWait = some c.session.id →
    thread = c.thread ∧ c.interruptible = true
  /-- it registers for signals only if they may abort it -/
  registers : c.stage = .registering → c.interruptible = true

/-- A kernel changes without a difference to the footing of a call: tickets may join queues, but new ones
and not its own. -/
structure Spared (handed : List (Target × Token)) (k : Kernel) (c : Call) (k' : Kernel) : Prop where
  /-- no session is forgotten -/
  nextId : k.sessions.nextId ≤ k'.sessions.nextId
  /-- its notifier is the same -/
  notifier : k'.sessions.get? c.session.id = k.sessions.get? c.session.id
  /-- no more entries are its own -/
  queued : ∀ target entry, k'.Queued target entry → k.Queued target entry ∨
    (target, entry.token) ∉ handed ∧ entry.waker.session ≠ c.session.id
  /-- no more signals abort it -/
  active : ∀ thread, (k'.signals.get thread).activeWait = some c.session.id →
    (k.signals.get thread).activeWait = some c.session.id

variable {base : SessionId} {handed more : List (Target × Token)} {k k' : Kernel} {c c' : Call}

theorem Rooted.spared (h : c.Rooted base handed k) (hspared : c.Spared handed k k') :
    c.Rooted base (handed ++ more) k' := by
  refine ⟨h.since, Nat.lt_of_lt_of_le h.opened hspared.nextId, ?_, fun hstays => ?_,
    fun ticket hticket place hplace => List.mem_append_left _ (h.places ticket hticket place hplace),
    fun ticket hticket target token hplace entry hqueued htoken => ?_,
    fun answer hleaving target entry hqueued => ?_, fun thread hactive =>
      h.active thread (hspared.active thread hactive), h.registers⟩
  · obtain ⟨r, horderly⟩ := h.orderly
    refine ⟨r, horderly.of_queued hspared.notifier fun target entry hqueued hid => ?_⟩
    obtain hold | ⟨-, hother⟩ := hspared.queued target entry hqueued
    · exact hold
    · exact absurd hid hother
  · obtain ⟨n, hn, halert⟩ := h.alert hstays
    exact ⟨n, hspared.notifier.trans hn, halert⟩
  · obtain hold | ⟨hnew, -⟩ := hspared.queued target entry hqueued
    · exact h.owns ticket hticket target token hplace entry hold htoken
    · rw [htoken] at hnew
      exact absurd (h.places ticket hticket _ hplace) hnew
  · obtain hold | ⟨-, hother⟩ := hspared.queued target entry hqueued
    · exact h.gone answer hleaving target entry hold
    · exact hother

/-- Other threads leave a call its footing. -/
theorem Rooted.effect (h : c.Rooted base handed k) (hnumbered : k.Numbered handed) {op : Operation}
    (hbelow : op.Below base) : c.Rooted base (handed ++ more) (op.effect k) := by
  have hbelow := hbelow.mono h.since
  have hqueued : ∀ target entry, (op.effect k).Queued target entry →
      entry.waker.session = c.session.id → k.Queued target entry := by
    intro target entry hqueued hid
    obtain hold | rfl := (op.effects_effect k).queued hqueued
    · exact hold
    · exact absurd hid (Nat.ne_of_lt hbelow)
  refine ⟨h.since, by rw [op.nextId_effect]; exact h.opened, ?_, fun hstays => ?_,
    fun ticket hticket place hplace => List.mem_append_left _ (h.places ticket hticket place hplace),
    fun ticket hticket target token hplace entry hentry htoken => ?_,
    fun answer hleaving target entry hentry hid => ?_, fun thread hactive => ?_, h.registers⟩
  · obtain ⟨r, horderly⟩ := h.orderly
    exact ⟨r, horderly.effect hbelow⟩
  · obtain ⟨n, hn, halert⟩ := h.alert hstays
    obtain ⟨n', hn', hreach⟩ := (op.effects_effect k).get?_session hn
    exact ⟨n', hn', halert.reach hreach⟩
  · have hhanded := h.places ticket hticket _ hplace
    rw [← htoken] at hhanded
    exact h.owns ticket hticket target token hplace entry (hnumbered.queued_of_handed hentry hhanded)
      htoken
  · exact h.gone answer hleaving target entry (hqueued target entry hentry hid) hid
  · rw [op.activeWait_effect, Operation.activeAfter_eq_some_iff hbelow] at hactive
    exact h.active thread hactive.1

/-- A call that goes on to register may be aborted by signals. -/
theorem Steps.interruptible_of_registering (h : Steps k c k' (.running c'))
    (hstage : c'.stage = .registering) : c'.interruptible = true := by
  cases h with
  | resolved _ _ _ hsignals => exact hsignals
  | found hwas | missing hwas | skipped hwas | stopped hwas | polled hwas =>
    cases hwas.symm.trans hstage
  | _ => cases hstage

/-- A step of the call itself changes neither its thread nor whether signals abort it. -/
theorem Steps.thread_eq (h : Steps k c k' (.running c')) :
    c'.thread = c.thread ∧ c'.interruptible = c.interruptible := by
  cases h <;> exact ⟨rfl, rfl⟩

/-- A call keeps its footing itself. -/
theorem Rooted.steps (h : c.Rooted base handed k) (hnumbered : k.Numbered handed)
    (hstep : Steps k c k' (.running c'))
    (hplaces : ∀ ticket ∈ c'.session.tickets, ∀ place, ticket.place = some place →
      place ∈ handed ++ more) : c'.Rooted base (handed ++ more) k' := by
  have hid := hstep.id_eq
  obtain ⟨hthread, hinterruptible⟩ := hstep.thread_eq
  refine ⟨hid ▸ h.since, by rw [hid, hstep.nextId_eq]; exact h.opened, ?_, fun hstays => ?_, hplaces,
    ?_, fun answer hleaving target entry hqueued => ?_, fun thread hactive => ?_,
    hstep.interruptible_of_registering⟩
  · obtain ⟨r, horderly⟩ := h.orderly
    exact ⟨r, horderly.steps hstep⟩
  · have hstayed : ∀ answer, c.stage ≠ .leaving answer := fun answer heq => by
      cases hstep.returns_of_leaving heq
    obtain ⟨n, hn, halert⟩ := h.alert hstayed
    obtain ⟨n', hn', -, -, halert'⟩ := hstep.get?_notifier hstays hn
    exact ⟨n', hn', halert' halert⟩
  · rw [hid]
    obtain ⟨hregistry, c₁, heq, hsession⟩ | ⟨target, e, interest, index, c₁, he, hready, -, rfl, heq,
      hsession⟩ | ⟨-, hwithdrawn⟩ := hstep.registry_cases
    · obtain rfl := Progress.running.inj heq
      rw [hsession]
      exact fun ticket hticket target token hplace entry hqueued =>
        h.owns ticket hticket target token hplace entry (hqueued.of_registry hregistry)
    · obtain rfl := Progress.running.inj heq
      rw [hsession]
      intro ticket hticket other token hplace entry hqueued htoken
      obtain hold | ⟨rfl, rfl⟩ := (Kernel.queued_enroll_iff he hready).1 hqueued
      · rcases List.mem_append.1 hticket with hwas | hnew
        · exact h.owns ticket hwas other token hplace entry hold htoken
        · -- an entry that was there before has not the new number
          obtain rfl := List.mem_singleton.1 hnew
          obtain ⟨rfl, rfl⟩ := Prod.mk.inj (Option.some.inj hplace)
          obtain ⟨e₁, he₁, hlt⟩ := hnumbered.older _ _ (hnumbered.issued _ _ hold)
          obtain rfl := Option.some.inj (he₁.symm.trans he)
          rw [htoken] at hlt
          exact absurd hlt (Nat.lt_irrefl _)
      · rfl
    · rw [hwithdrawn c' rfl]
      intro ticket hticket target token hplace
      obtain ⟨old, -, rfl⟩ := List.mem_map.1 hticket
      cases hplace
  · rw [hid]
    obtain ⟨slot, rest, hahead, hfull⟩ | ⟨hstage, rfl, -⟩ := hstep.leaves_cases hleaving
    · obtain ⟨r, ⟨answer', hwas, -⟩ | ⟨-, hsound, -⟩⟩ := h.orderly
      · cases hstep.returns_of_leaving hwas
      · exact absurd (hsound.tickets_lt hahead) (Nat.not_lt.2 hfull)
    · obtain ⟨r, ⟨answer', hwas, -⟩ | ⟨-, -, n, hattended⟩⟩ := h.orderly
      · cases hstage.symm.trans hwas
      · exact hnumbered.gone hattended.covers (hqueued.of_registry (c.session.registry_drain k))
  · rw [hid] at hactive
    rw [hthread, hinterruptible]
    obtain hsame | ⟨hstage, hregistered⟩ | ⟨-, -, hunregistered⟩ := hstep.signals_cases
    · rw [hsame] at hactive
      exact h.active thread hactive
    · rw [hregistered, SignalTable.register] at hactive
      by_cases hto : thread = c.thread
      · exact ⟨hto, h.registers hstage⟩
      · rw [SignalTable.get_put_ne hto] at hactive
        exact h.active thread hactive
    · rw [hunregistered, SignalTable.unregister] at hactive
      by_cases hto : thread = c.thread
      · subst hto
        rw [SignalTable.get_put_self] at hactive
        cases hactive
      · rw [SignalTable.get_put_ne hto] at hactive
        exact h.active thread hactive

/-- A step of one call spares another. -/
theorem Steps.spared {d : Call} {p : Progress} (h : Steps k d k' p) (hnumbered : k.Numbered handed)
    (hne : c.session.id ≠ d.session.id) : c.Spared handed k k' := by
  refine ⟨Nat.le_of_eq h.nextId_eq.symm, h.get?_ne hne, fun target entry hqueued => ?_,
    fun thread hactive => ?_⟩
  · obtain ⟨hregistry, -⟩ | ⟨other, e, interest, index, d', he, hready, -, rfl, -, -⟩ |
      ⟨hregistry, -⟩ := h.registry_cases
    · exact .inl (hqueued.of_registry hregistry)
    · obtain hold | ⟨rfl, rfl⟩ := (Kernel.queued_enroll_iff he hready).1 hqueued
      · exact .inl hold
      · refine .inr ⟨fun hhanded => ?_, hne.symm⟩
        obtain ⟨e₁, he₁, hlt⟩ := hnumbered.older _ _ hhanded
        obtain rfl := Option.some.inj (he₁.symm.trans he)
        exact Nat.lt_irrefl _ hlt
    · exact .inl (hqueued.of_registry hregistry).of_leaveAll
  · obtain hsame | ⟨-, hregistered⟩ | ⟨-, -, hunregistered⟩ := h.signals_cases
    · rwa [hsame] at hactive
    · rw [hregistered, SignalTable.register] at hactive
      by_cases hto : thread = d.thread
      · subst hto
        rw [SignalTable.get_put_self] at hactive
        exact absurd (Option.some.inj hactive).symm hne
      · rwa [SignalTable.get_put_ne hto] at hactive
    · rw [hunregistered, SignalTable.unregister] at hactive
      by_cases hto : thread = d.thread
      · subst hto
        rw [SignalTable.get_put_self] at hactive
        cases hactive
      · rwa [SignalTable.get_put_ne hto] at hactive

/-- A kernel that stays the same spares every call. -/
theorem Spared.refl (handed : List (Target × Token)) (k : Kernel) (c : Call) : c.Spared handed k k :=
  ⟨Nat.le_refl _, rfl, fun _ _ hqueued => .inl hqueued, fun _ => id⟩

/-- Nor does it matter to a call that the clock is read before. -/
theorem Spared.consults (h : k.Consults k') (hspared : c.Spared handed k' k'') :
    c.Spared handed k k'' := by
  cases h with
  | kept => exact hspared
  | read => exact ⟨hspared.1, hspared.2, hspared.3, hspared.4⟩

/-- A new session spares every call in progress. -/
theorem Spared.add (hopened : c.session.id < k.sessions.nextId) (n : Notifier) :
    c.Spared handed k { k with sessions := k.sessions.add n } :=
  ⟨by rw [SessionTable.nextId_add]; exact Nat.le_succ _,
    SessionTable.get?_add_of_lt hopened n, fun _ _ hqueued => .inl hqueued, fun _ => id⟩

/-- A call begins on new ground. -/
theorem Rooted.begin {s s₁ : System} {r : Request} (hreached : s.kernel.Reached handed)
    (hbase : base ≤ s.kernel.sessions.nextId) (h : s.begin r = (s₁, .running c)) :
    c.Rooted base handed s₁.kernel ∧ c.session.id = s.kernel.sessions.nextId ∧
      ∃ n k, s.kernel.Consults k ∧ s₁.kernel = { k with sessions := k.sessions.add n } := by
  obtain ⟨hvalid, hroom⟩ := System.valid_of_begin h
  obtain ⟨horderly, hid, -⟩ := System.orderly_begin hreached hvalid hroom h
  rw [System.begin_of_valid hvalid hroom] at h
  obtain ⟨rfl, hc⟩ := Prod.mk.inj h
  obtain rfl := Progress.running.inj hc
  refine ⟨⟨hbase, by rw [SessionTable.nextId_add]; exact Nat.lt_succ_self _, ⟨r, horderly⟩,
    fun _ => ⟨_, SessionTable.get?_add_self _ _, fun b hb => Stage.noConfusion hb⟩,
    fun ticket hticket => absurd hticket List.not_mem_nil,
    fun ticket hticket => absurd hticket List.not_mem_nil,
    fun answer hleaving => Stage.noConfusion hleaving,
    fun thread hactive => absurd (hreached.opened_of_active hactive) (Nat.lt_irrefl _),
    fun hstage => Stage.noConfusion hstage⟩, hid, _, _, s.kernel.consults_arm r.timeout, rfl⟩

end Call

/-- A wait that begins does nothing to the kernel, or opens a session and stands on new ground. It may
have read the clock. -/
theorem Invocation.rooted_begin {base : SessionId} {handed : List (Target × Token)} {s : System}
    (hreached : s.kernel.Reached handed)
    (hbase : base ≤ s.kernel.sessions.nextId) (v : Invocation) :
    ((v.begin s).2.call? = none ∧ s.kernel.Consults (v.begin s).1.kernel) ∨
    ∃ c n k, (v.begin s).2.call? = some c ∧ c.session.id = s.kernel.sessions.nextId ∧
      s.kernel.Consults k ∧ (v.begin s).1.kernel = { k with sessions := k.sessions.add n } ∧
      c.Rooted base handed (v.begin s).1.kernel := by
  obtain ⟨hnone, hkernel, -⟩ | ⟨s₀, r, c, hkernel, -, hbegin, hc, -⟩ := v.call_cases s
  · exact .inl ⟨hnone, hkernel⟩
  · rw [← hkernel] at hreached hbase ⊢
    obtain ⟨hrooted, hid, n, k, hconsults, hopened⟩ := Call.Rooted.begin hreached hbase hbegin
    exact .inr ⟨c, n, k, hc, hid, hconsults, hopened, hrooted⟩

/-- A wait that begins opens a session, or does nothing to the kernel. It may have read the clock. -/
theorem Invocation.kernel_begin_cases (v : Invocation) (s : System) :
    s.kernel.Consults (v.begin s).1.kernel ∨
    ∃ n k, s.kernel.Consults k ∧
      (v.begin s).1.kernel = { k with sessions := k.sessions.add n } := by
  obtain ⟨-, hkernel, -⟩ | ⟨s₀, r, c, hkernel, -, hbegin, -⟩ := v.call_cases s
  · exact .inl hkernel
  · obtain ⟨hvalid, hroom⟩ := System.valid_of_begin hbegin
    rw [System.begin_of_valid hvalid hroom, hkernel] at hbegin
    rw [← (Prod.mk.inj hbegin).1]
    exact .inr ⟨_, _, s.kernel.consults_arm r.timeout, rfl⟩

/-! ## The world -/

/-- To begin a wait makes no difference to the world. -/
theorem Invocation.sameWorld_begin (v : Invocation) (s : System) :
    s.kernel.SameWorld (v.begin s).1.kernel ∧ (v.begin s).1.config = s.config := by
  refine ⟨?_, ?_⟩
  · obtain hconsults | ⟨n, k, hconsults, hkernel⟩ := v.kernel_begin_cases s
    · exact hconsults.sameWorld
    · rw [hkernel]
      exact hconsults.sameWorld.trans ⟨rfl, .refl _, rfl⟩
  · obtain ⟨-, -, hconfig⟩ | ⟨s₀, r, c, -, hconfig, hbegin, -⟩ := v.call_cases s
    · exact hconfig
    · obtain ⟨hvalid, hroom⟩ := System.valid_of_begin hbegin
      rw [System.begin_of_valid hvalid hroom] at hbegin
      rw [← (Prod.mk.inj hbegin).1]
      exact hconfig

/-- Nor does a step of a wait. -/
theorem Wait.sameWorld_step (w : Wait) (s : System) :
    s.kernel.SameWorld (w.step s).1.kernel ∧ (w.step s).1.config = s.config := by
  rcases hcall : w.call? with _ | c
  · rw [step_of_over hcall]
    exact ⟨.refl _, rfl⟩
  · rw [step_of_call hcall]
    exact ⟨(Call.steps_step s c).sameWorld.symm, Call.config_step s c⟩

/-- A wait reads the clock when it begins, or not at all. -/
theorem Invocation.boot_begin_cases (v : Invocation) (s : System) :
    (v.begin s).1.kernel.clock.boot = s.kernel.clock.boot ∨
      (v.begin s).1.kernel.clock.boot = some s.kernel.clock.origin := by
  obtain hconsults | ⟨n, k, hconsults, hkernel⟩ := v.kernel_begin_cases s
  · exact hconsults.boot_cases
  · rw [hkernel]
    exact hconsults.boot_cases

theorem Wait.clock_step (w : Wait) (s : System) : (w.step s).1.kernel.clock = s.kernel.clock := by
  rcases hcall : w.call? with _ | c
  · rw [step_of_over hcall]
  · rw [step_of_call hcall]
    exact (Call.steps_step s c).aside.clock

namespace Company

/-- What one wait does makes no difference to the world. -/
theorem sameWorld_turn (co : Company) {name : Nat} {m : Move} (hm : m.concerns name = false) :
    co.system.kernel.SameWorld (co.turn m).system.kernel ∧
      (co.turn m).system.config = co.system.config := by
  cases m with
  | operate op => cases hm
  | start other v =>
    rcases hwait : co.wait? other with _ | w
    · rw [turn_start_of_none hwait]
      exact v.sameWorld_begin co.system
    · rw [turn_start_of_some hwait]
      exact ⟨.refl _, rfl⟩
  | step other =>
    rcases hwait : co.wait? other with _ | w
    · rw [turn_step_of_none hwait]
      exact ⟨.refl _, rfl⟩
    · rw [turn_step_of_some hwait]
      exact w.sameWorld_step co.system

/-- A turn leaves open what the clock counts from, or settles it. -/
theorem boot_turn_cases (co : Company) (m : Move) :
    (co.turn m).system.kernel.clock.boot = co.system.kernel.clock.boot ∨
      (co.turn m).system.kernel.clock.boot = some co.system.kernel.clock.origin := by
  cases m with
  | operate op => exact op.boot_effect co.system.kernel
  | start name v =>
    rcases hwait : co.wait? name with _ | w
    · rw [turn_start_of_none hwait]
      exact v.boot_begin_cases co.system
    · rw [turn_start_of_some hwait]
      exact .inl rfl
  | step name =>
    rcases hwait : co.wait? name with _ | w
    · rw [turn_step_of_none hwait]
      exact .inl rfl
    · rw [turn_step_of_some hwait]
      exact .inl (congrArg (fun clock => clock.boot) (w.clock_step co.system))

theorem boot_turn_of_some {co : Company} {boot : Moment}
    (h : co.system.kernel.clock.boot = some boot) (m : Move) :
    (co.turn m).system.kernel.clock.boot = some boot := by
  obtain hkept | hsettled := co.boot_turn_cases m
  · rw [hkept, h]
  · rw [hsettled, Clock.origin_of_boot h]

/-- **A clock that was read goes on to count from the same moment.** -/
theorem boot_play_of_some {co : Company} {boot : Moment}
    (h : co.system.kernel.clock.boot = some boot) (script : List Move) :
    (co.play script).system.kernel.clock.boot = some boot := by
  induction script generalizing co with
  | nil => exact h
  | cons m script ih => exact ih (boot_turn_of_some h m)

/-! ## All of them -/

/-- Every wait in progress has its footing, and no two have the same session. -/
structure Sound (base : SessionId) (handed : List (Target × Token)) (co : Company) : Prop where
  /-- the kernel is one that a freshly started kernel can become -/
  reached : co.system.kernel.Reached handed
  /-- the sessions before were opened -/
  opened : base ≤ co.system.kernel.sessions.nextId
  /-- every wait in progress has its footing -/
  rooted : ∀ name c, co.call? name = some c → c.Rooted base handed co.system.kernel
  /-- no two waits share a session -/
  apart : ∀ name other, name ≠ other → ∀ c d, co.call? name = some c → co.call? other = some d →
    c.session.id ≠ d.session.id

variable {base : SessionId} {handed more : List (Target × Token)} {co : Company} {name : Nat}

theorem call?_put_self (co : Company) (name : Nat) (p : System × Wait) :
    (co.put name p).call? name = p.2.call? := by
  rw [call?, wait?_put_self, Option.bind_some]

theorem call?_put_ne {other : Nat} (h : other ≠ name) (co : Company) (p : System × Wait) :
    (co.put name p).call? other = co.call? other := by
  rw [call?, call?, wait?_put_ne h]

/-- A call after one wait has come further is a call of that wait, or was there before. -/
theorem call?_put_cases {other : Nat} {p : System × Wait} {c : Call}
    (h : (co.put name p).call? other = some c) :
    (other = name ∧ p.2.call? = some c) ∨ (other ≠ name ∧ co.call? other = some c) := by
  by_cases hother : other = name
  · subst hother
    rw [call?_put_self] at h
    exact .inl ⟨rfl, h⟩
  · rw [call?_put_ne hother] at h
    exact .inr ⟨hother, h⟩

/-- No two waits share a session, if that which has come further shares none. -/
theorem apart_put {p : System × Wait}
    (happart : ∀ name other, name ≠ other → ∀ c d, co.call? name = some c →
      co.call? other = some d → c.session.id ≠ d.session.id)
    (hown : ∀ c, p.2.call? = some c → ∀ other, other ≠ name → ∀ d, co.call? other = some d →
      c.session.id ≠ d.session.id) {first second : Nat} (hne : first ≠ second) {c d : Call}
    (hc : (co.put name p).call? first = some c) (hd : (co.put name p).call? second = some d) :
    c.session.id ≠ d.session.id := by
  obtain ⟨rfl, hc'⟩ | ⟨hfirst, hc'⟩ := call?_put_cases hc <;>
    obtain ⟨rfl, hd'⟩ | ⟨hsecond, hd'⟩ := call?_put_cases hd
  · exact absurd rfl hne
  · exact hown c hc' second hsecond d hd'
  · exact (hown d hd' first hfirst c hc').symm
  · exact happart first second hne c d hc' hd'

/-- What another wait does makes no difference to the notifier of a wait, if they share no session. -/
theorem get?_turn_of_not {m : Move} (hm : m.concerns name = false) {c : Call}
    (hopened : c.session.id < co.system.kernel.sessions.nextId)
    (happart : ∀ other, other ≠ name → ∀ d, co.call? other = some d → c.session.id ≠ d.session.id) :
    (co.turn m).system.kernel.sessions.get? c.session.id =
      co.system.kernel.sessions.get? c.session.id := by
  cases m with
  | operate op => cases hm
  | start other v =>
    rcases hwait : co.wait? other with _ | w
    · rw [turn_start_of_none hwait, Company.put]
      obtain hconsults | ⟨n, k, hconsults, hkernel⟩ := v.kernel_begin_cases co.system
      · rw [hconsults.sessions_eq]
      · rw [hkernel, hconsults.sessions_eq]
        exact SessionTable.get?_add_of_lt hopened n
    · rw [turn_start_of_some hwait]
  | step other =>
    rcases hwait : co.wait? other with _ | w
    · rw [turn_step_of_none hwait]
    · rw [turn_step_of_some hwait, Company.put]
      rcases hcall : w.call? with _ | d
      · rw [Wait.step_of_over hcall]
      · have hd : co.call? other = some d := by rw [call?, hwait, Option.bind_some, hcall]
        rw [Wait.step_of_call hcall]
        exact (Call.steps_step co.system d).get?_ne (happart other (ne_of_beq_false hm) d hd)

/-- Before any wait is made. -/
theorem Sound.start {s : System} (h : s.kernel.Reached handed) :
    Sound s.kernel.sessions.nextId handed { system := s } :=
  ⟨h, Nat.le_refl _, fun _ _ hc => (by cases hc), fun _ _ _ _ _ hc => (by cases hc)⟩

/-- One wait comes further: it keeps its footing, and spares all others. -/
theorem Sound.put (h : co.Sound base handed) {p : System × Wait}
    (hreached : p.1.kernel.Reached (handed ++ more))
    (hopened : co.system.kernel.sessions.nextId ≤ p.1.kernel.sessions.nextId)
    (hothers : ∀ other, other ≠ name → ∀ d, co.call? other = some d →
      d.Spared handed co.system.kernel p.1.kernel)
    (hown : ∀ c, p.2.call? = some c → c.Rooted base (handed ++ more) p.1.kernel ∧
      ∀ other, other ≠ name → ∀ d, co.call? other = some d → c.session.id ≠ d.session.id) :
    (co.put name p).Sound base (handed ++ more) := by
  refine ⟨hreached, Nat.le_trans h.opened hopened, fun other c hc => ?_,
    fun first second hne c d hc hd =>
      apart_put h.apart (fun c hc => (hown c hc).2) hne hc hd⟩
  obtain ⟨-, hc⟩ | ⟨hother, hc⟩ := call?_put_cases hc
  · exact (hown c hc).1
  · exact (h.rooted other c hc).spared (hothers other hother c hc)

/-- **Whatever happens, every wait keeps its footing**, if the other threads name older sessions only
and there are numbers enough for tickets. -/
theorem Sound.turn (h : co.Sound base handed) (hroom : handed.length < UInt64.size) {m : Move}
    (hbelow : m.Below base) :
    ∃ more, more.length ≤ 1 ∧ (co.turn m).Sound base (handed ++ more) := by
  have hnumbered := h.reached.numbered hroom
  cases m with
  | operate op =>
    have hbelow : op.Below base := hbelow
    refine ⟨_, op.length_handsOut_le co.system.kernel, h.reached.operated op (hbelow.mono h.opened),
      ?_, fun name c hc => (h.rooted name c hc).effect hnumbered hbelow, h.apart⟩
    exact (op.nextId_effect _).symm ▸ h.opened
  | start name v =>
    refine ⟨[], Nat.zero_le _, ?_⟩
    rcases hwait : co.wait? name with _ | w
    · rw [turn_start_of_none hwait]
      obtain ⟨hnone, hconsults⟩ | ⟨c, n, k, hc, hid, hconsults, hkernel, hrooted⟩ :=
        v.rooted_begin h.reached h.opened
      · refine h.put ?_ ?_ (fun other _ d _ => .consults hconsults (.refl handed _ d)) fun c hc => ?_
        · rw [List.append_nil]
          exact hconsults.reached h.reached
        · rw [hconsults.sessions_eq]
        · cases hnone.symm.trans hc
      · refine h.put ?_ ?_ (fun other _ d hd => ?_) fun c' hc' => ?_
        · rw [hkernel, List.append_nil]
          exact (hconsults.reached h.reached).opened n
        · rw [hkernel, SessionTable.nextId_add, hconsults.sessions_eq]
          exact Nat.le_succ _
        · rw [hkernel]
          refine .consults hconsults (.add ?_ n)
          rw [hconsults.sessions_eq]
          exact (h.rooted other d hd).opened
        · obtain rfl := Option.some.inj (hc.symm.trans hc')
          rw [List.append_nil]
          refine ⟨hrooted, fun other _ d hd => ?_⟩
          rw [hid]
          exact Nat.ne_of_gt (h.rooted other d hd).opened
    · rwa [turn_start_of_some hwait, List.append_nil]
  | step name =>
    rcases hwait : co.wait? name with _ | w
    · exact ⟨[], Nat.zero_le _, by rwa [turn_step_of_none hwait, List.append_nil]⟩
    · rw [turn_step_of_some hwait]
      rcases hcall : w.call? with _ | c
      · rw [Wait.step_of_over hcall]
        refine ⟨[], Nat.zero_le _, h.put ?_ (Nat.le_refl _) (fun other _ d _ => .refl handed _ d)
          fun c hc => ?_⟩
        · rw [List.append_nil]
          exact h.reached
        · cases hcall.symm.trans hc
      · have hc : co.call? name = some c := by rw [call?, hwait, Option.bind_some, hcall]
        have hrooted := h.rooted name c hc
        have hsteps := Call.steps_step co.system c
        obtain ⟨more, hreached, hone, hplaces⟩ :=
          hsteps.reached h.reached hrooted.opened hrooted.places
        rw [Wait.step_of_call hcall]
        refine ⟨more, hone, h.put hreached (Nat.le_of_eq hsteps.nextId_eq.symm)
          (fun other hother d hd => ?_) fun c' hc' => ?_⟩
        · exact hsteps.spared hnumbered (h.apart other name hother d c hd hc)
        · rw [Wait.call?_after hcall] at hc'
          have hrunning : (c.step co.system).2 = .running c' := by
            rcases hp : (c.step co.system).2 with c'' | reply <;> rw [hp] at hc'
            · obtain rfl := Option.some.inj hc'
              rfl
            · cases hc'
          rw [hrunning] at hsteps
          refine ⟨hrooted.steps hnumbered hsteps (hplaces c' hrunning), fun other hother d hd => ?_⟩
          rw [hsteps.id_eq]
          exact h.apart name other (Ne.symm hother) c d hc hd

theorem Sound.play (h : co.Sound base handed) {script : List Move}
    (hbelow : ∀ m ∈ script, m.Below base)
    (hroom : handed.length + script.length < UInt64.size) :
    ∃ more, more.length ≤ script.length ∧ (co.play script).Sound base (handed ++ more) := by
  induction script using List.reverseRecOn with
  | nil => exact ⟨[], Nat.le_refl _, by rwa [List.append_nil]⟩
  | append_singleton script m ih =>
    rw [List.length_append, List.length_singleton] at hroom
    obtain ⟨more, hmore, hsound⟩ :=
      ih (fun m' hm' => hbelow m' (List.mem_append_left _ hm')) (by omega)
    obtain ⟨new, hnew, hturn⟩ := hsound.turn (by rw [List.length_append]; omega)
      (hbelow m (List.mem_append_right _ List.mem_cons_self))
    refine ⟨more ++ new, ?_, ?_⟩
    · rw [List.length_append, List.length_append, List.length_singleton]
      exact Nat.add_le_add hmore hnew
    · rwa [play_concat, ← List.append_assoc]

/-- **What another wait does makes no difference to a wait**, if signals to one thread may not abort
both. -/
theorem Sound.reflects_turn_of (h : co.Sound base handed) (hroom : handed.length < UInt64.size)
    {m : Move} (hm : m.concerns name = false) {c : Call} (hc : co.call? name = some c)
    (hthreads : ∀ other d, name ≠ other → co.call? other = some d → c.interruptible = true →
      d.interruptible = true → c.thread ≠ d.thread) :
    co.system.kernel.Reflects c.session.id c.session.id (co.turn m).system.kernel := by
  have hsame := Kernel.Reflects.refl c.session.id co.system.kernel
  cases m with
  | operate op => cases hm
  | start other v =>
    rcases hwait : co.wait? other with _ | w
    · rw [turn_start_of_none hwait, Company.put]
      obtain hconsults | ⟨n, k, hconsults, hkernel⟩ := v.kernel_begin_cases co.system
      · exact hconsults.reflects c.session.id
      · rw [hkernel]
        have hopened : c.session.id < k.sessions.nextId := by
          rw [hconsults.sessions_eq]
          exact (h.rooted name c hc).opened
        exact (hconsults.reflects c.session.id).trans
          ((Kernel.Reflects.refl _ k).sessions (SessionTable.get?_add_of_lt hopened n).symm)
    · rwa [turn_start_of_some hwait]
  | step other =>
    rcases hwait : co.wait? other with _ | w
    · rwa [turn_step_of_none hwait]
    · rw [turn_step_of_some hwait, Company.put]
      rcases hcall : w.call? with _ | d
      · rwa [Wait.step_of_over hcall]
      · have hne : name ≠ other := Ne.symm (ne_of_beq_false hm)
        have hd : co.call? other = some d := by rw [call?, hwait, Option.bind_some, hcall]
        have hids := h.apart name other hne c d hc hd
        have hrooted := h.rooted other d hd
        rw [Wait.step_of_call hcall]
        refine (Call.steps_step co.system d).spares (h.reached.numbered hroom) hids
          (fun ticket hticket target token hplace entry hqueued htoken => ?_) (fun hsignals hactive => ?_)
          hrooted.registers
        · rw [hrooted.owns ticket hticket target token hplace entry hqueued htoken]
          exact hids.symm
        · obtain ⟨hthread, hsignals'⟩ := (h.rooted name c hc).active d.thread hactive
          exact hthreads other d hne hd hsignals' hsignals hthread.symm

/-- That is so while no thread makes two waits that signals may abort. -/
theorem Sound.reflects_turn (h : co.Sound base handed) (hroom : handed.length < UInt64.size)
    {m : Move} (hdistinct : co.distinct m = true) (hm : m.concerns name = false) {c : Call}
    (hc : co.call? name = some c) :
    co.system.kernel.Reflects c.session.id c.session.id (co.turn m).system.kernel :=
  h.reflects_turn_of hroom hm hc fun _ _ hne hd hsignals hsignals' =>
    thread_ne_of_distinct hdistinct hne hc hd hsignals hsignals'

end Company

end KernelWait
