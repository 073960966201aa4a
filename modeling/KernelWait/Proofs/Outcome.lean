import KernelWait.Proofs.Slots

/-!
# The outcome of a wait

The answer of a call is computed from its watches and from the flags of its session once it drains, and
not from what made it stop waiting. That both agree rests on what a session latches: only events that
its tickets wait for, which all have names, so that nothing is lost between the slot and the watch
(`Call.Sound.exists_ready_of_held`).

**What a call answers is what its watches say** (`System.outcome_sound`): no watch is left undecided,
each reports only what it may, the answer counts those that report anything, a time-out needs a deadline
that comes, and a call whose blocked phase has ended with something ready reports something.
-/

namespace KernelWait

namespace Call

variable {r : Request} {k k' : Kernel} {c c' : Call} {n : Notifier}

/-! ## Draining a sound call -/

theorem Sound.distinct (h : c.Sound r) : (c.session.tickets.map Ticket.index).Nodup :=
  List.nodup_range.sublist h.indices

theorem getElem?_slots_of_passed {i : Nat} {slot : Slot} (h : c.passed[i]? = some slot) :
    c.slots[i]? = some slot :=
  (List.getElem?_append_left (List.getElem?_eq_some_iff.1 h).1).trans h

/-- What is gathered for a slot is what it may report, and nothing without an object. -/
theorem Sound.gathered (h : c.Sound r) {i : Nat} {slot : Slot} (hslot : c.slots[i]? = some slot) :
    Session.gathered i (Session.harvest n 0 c.session.tickets) ⊆ slot.watch.reportable ∧
      (slot.target = none → Session.gathered i (Session.harvest n 0 c.session.tickets) = ∅) := by
  by_cases hcarried : ∃ ticket ∈ c.session.tickets, ticket.index = i
  · obtain ⟨ticket, hticket, rfl⟩ := hcarried
    obtain ⟨j, hj⟩ := List.getElem?_of_mem hticket
    obtain ⟨slot', hslot', hsome, hinterest⟩ := h.matched ticket hticket
    obtain rfl := Option.some.inj ((getElem?_slots_of_passed hslot').symm.trans hslot)
    rw [Session.gathered_harvest h.distinct hj, hinterest]
    refine ⟨Events.inter_subset_right _ _, fun hnone => ?_⟩
    rw [hnone] at hsome
    cases hsome
  · have hnone : Session.gathered i (Session.harvest n 0 c.session.tickets) = ∅ :=
      Session.gathered_harvest_of_not_mem fun ticket hticket heq =>
        hcarried ⟨ticket, hticket, heq⟩
    rw [hnone]
    exact ⟨Events.empty_subset _, fun _ => rfl⟩

/-- A call with a collected watch that is ready answers that something is. -/
theorem countP_kept_pos {i : Nat} {slot : Slot} (hslot : (c.collected k)[i]? = some slot)
    (hready : slot.watch.isReady = true) : 0 < (c.kept k).countP Watch.isReady := by
  have hcollected : ∃ w ∈ (c.collected k).map Slot.watch, w.isReady = true :=
    ⟨slot.watch, List.mem_map_of_mem (List.mem_of_getElem? hslot), hready⟩
  rw [List.countP_pos_iff]
  rw [kept]
  split
  · exact Watch.exists_ready_keepFirst hcollected
  · exact hcollected

/-- What was ready at once is still there when the call drains. -/
theorem countP_kept_pos_of_ready (h : ∃ slot ∈ c.slots, slot.watch.isReady = true) :
    0 < (c.kept k).countP Watch.isReady := by
  obtain ⟨slot, hmem, hready⟩ := h
  obtain ⟨i, hslot⟩ := List.getElem?_of_mem hmem
  have hcollected := getElem?_collected k c i
  rw [hslot, Option.map_some] at hcollected
  refine countP_kept_pos hcollected (bne_iff_ne.2 fun hempty => ?_)
  exact bne_iff_ne.1 hready (Events.union_eq_empty_iff.1 hempty).1

/-- What a slot of the session holds is reported by the watch of its ticket. -/
theorem Sound.exists_ready_of_held (h : c.Sound r) (hattended : c.Attended k n) {j : Nat}
    (hheld : n.held j ≠ ∅) : 0 < (c.kept k).countP Watch.isReady := by
  obtain ⟨ticket, hticket, hwaited, hknown⟩ := hattended.serves.awaited j hheld
  obtain ⟨slot, hslot, -, -⟩ := h.matched ticket (List.mem_of_getElem? hticket)
  have hcollected := getElem?_collected k c ticket.index
  rw [getElem?_slots_of_passed hslot, Option.map_some, Session.drain_fired hattended.notifier,
    Session.gathered_harvest h.distinct hticket, Nat.zero_add, Events.truncate,
    Events.subset_iff.1 hknown, Events.subset_iff.1 hwaited] at hcollected
  refine countP_kept_pos hcollected (bne_iff_ne.2 fun hempty => ?_)
  exact hheld (Events.union_eq_empty_iff.1 hempty).2

theorem Sound.exists_ready_of_anyLatched (h : c.Sound r) (hattended : c.Attended k n)
    (hlatched : n.anyLatched = true) : 0 < (c.kept k).countP Watch.isReady := by
  obtain ⟨j, hheld⟩ := hattended.serves.counted.anyLatched_iff.1 hlatched
  exact h.exists_ready_of_held hattended hheld

/-- What a call has settled on, and the watches that it writes back. -/
structure Answered (r : Request) (c : Call) (answer : Except WaitError Outcome) : Prop where
  /-- the watches are those of the request -/
  same : c.watches.map Watch.reset = r.watches.map Watch.reset
  /-- every watch is settled -/
  settled : ∀ slot ∈ c.slots, slot.Settled
  /-- some name stands for an object -/
  live : ∃ slot ∈ c.slots, slot.target.isSome = true
  /-- the answer counts the watches that are ready, if there are any -/
  ready_iff : ∀ m, answer = .ok (.ready m) ↔ 1 ≤ m ∧ c.watches.countP Watch.isReady = m
  /-- the call had something to wait for -/
  hopeful : ∀ m, answer ≠ .error (.noValidTargets m)
  /-- only a deadline that comes can pass -/
  expired : answer = .ok .timedOut → c.session.deadline ≠ .never

/-- **A sound call that drains settles on what its watches say.** -/
theorem Sound.answered (h : c.Sound r) (hattended : c.Attended k n)
    (hstage : c.stage = .draining) :
    (c.settledOn k (c.outcome k)).Answered r (c.outcome k) := by
  have hblank := (Steps.drained (k := k) hstage).map_blank (by rw [hstage]; exact Stage.noConfusion)
  have hne : c.stage ≠ .resolving := by
    rw [hstage]
    exact Stage.noConfusion
  have hsettled := h.settled
  rw [looked_of_ne hne] at hsettled
  refine ⟨(watches_reset_of_blank hblank).trans h.same, fun slot' hslot' => ?_,
    exists_target_of_blank hblank (h.live hne), fun m => ?_, fun m => ?_, fun hanswer => ?_⟩
  · -- a slot was settled before, and its ticket waited for no more than it may report
    obtain ⟨i, hi⟩ := List.getElem?_of_mem hslot'
    obtain ⟨slot, hslot, hcases⟩ := settledOn_cases hi
    obtain ⟨hwithin, habsent⟩ := h.gathered (n := n) hslot
    rw [← Session.drain_fired hattended.notifier] at hwithin habsent
    have hfired := (hsettled slot (List.mem_of_getElem? hslot)).fire hwithin habsent
    obtain rfl | rfl := hcases
    · exact hfired
    · exact hfired.clear
  · rw [watches_settledOn, outcome]
    split
    · next hready =>
      constructor
      · intro heq
        obtain rfl := Outcome.ready.inj (Except.ok.inj heq)
        exact ⟨hready, rfl⟩
      · rintro ⟨-, rfl⟩
        rfl
    · next hnone =>
      constructor
      · intro heq
        split at heq <;> cases heq
      · rintro ⟨hpos, rfl⟩
        exact absurd hpos hnone
  · rw [outcome]
    split
    · rintro ⟨⟩
    · split <;> rintro ⟨⟩
  · rw [outcome] at hanswer
    split at hanswer
    · cases hanswer
    · next hnone =>
      split at hanswer
      · cases hanswer
      · next hsilent =>
        -- nothing was ready and nobody interfered, so whatever made the call drain was its deadline
        have hmotivated := hattended.motivated
        rw [Motivated, hstage] at hmotivated
        obtain himmediate | hpoll | ⟨v, hv⟩ := hmotivated
        · exact absurd (countP_kept_pos_of_ready (h.immediate himmediate).2) hnone
        · exact h.patient hpoll
        · cases v with
          | ready => exact absurd (h.exists_ready_of_anyLatched hattended hv) hnone
          | interrupted =>
            rw [hattended.notifier] at hsilent
            exact absurd hv hsilent
          | timedOut => exact hattended.expired hv

/-! ## A call among other threads -/

/-- A call in progress is sound and attended to until it leaves, and then it has its answer. -/
def Orderly (r : Request) (k : Kernel) (c : Call) : Prop :=
  (∃ answer, c.stage = .leaving answer ∧ c.Answered r answer) ∨
  ((∀ answer, c.stage ≠ .leaving answer) ∧ c.Sound r ∧ ∃ n, c.Attended k n)

/-- No other thread brings a call out of order. -/
theorem Orderly.effect (h : c.Orderly r k) {op : Operation} (hbelow : op.Below c.session.id) :
    c.Orderly r (op.effect k) := by
  obtain hleaving | ⟨hstays, hsound, n, hattended⟩ := h
  · exact .inl hleaving
  · obtain ⟨n', hattended', -⟩ := hattended.effect hbelow
    exact .inr ⟨hstays, hsound, n', hattended'⟩

/-- A call stays in order when nothing is done to its notifier and no more entries are its own. -/
theorem Orderly.of_queued (h : c.Orderly r k)
    (hnotifier : k'.sessions.get? c.session.id = k.sessions.get? c.session.id)
    (hqueued : ∀ target entry, k'.Queued target entry → entry.waker.session = c.session.id →
      k.Queued target entry) : c.Orderly r k' := by
  obtain hleaving | ⟨hstays, hsound, n, hattended⟩ := h
  · exact .inl hleaving
  · exact .inr ⟨hstays, hsound, n, hnotifier.trans hattended.notifier, hattended.serves,
      hattended.room, fun target entry hentry hid =>
        hattended.covers target entry (hqueued target entry hentry hid) hid,
      hattended.expired, hattended.motivated⟩

/-- There is a slot for each watch of the request, if the watches ask for the same. -/
theorem length_slots_of_same (h : c.watches.map Watch.reset = r.watches.map Watch.reset) :
    c.slots.length = r.watches.length := by
  have hslots := congrArg List.length h
  rwa [List.length_map, List.length_map, watches, List.length_map] at hslots

theorem Sound.length_slots (h : c.Sound r) : c.slots.length = r.watches.length :=
  length_slots_of_same h.same

theorem Orderly.length_slots (h : c.Orderly r k) : c.slots.length = r.watches.length := by
  obtain ⟨answer, -, hanswered⟩ | ⟨-, hsound, -⟩ := h
  · exact length_slots_of_same hanswered.same
  · exact hsound.length_slots

/-- There is a ticket for each slot that was passed. -/
theorem Sound.tickets_le (h : c.Sound r) : c.session.tickets.length ≤ c.passed.length := by
  have hpassed := h.indices.length_le
  rwa [List.length_map, List.length_range] at hpassed

theorem Sound.tickets_lt (h : c.Sound r) {slot : Slot} {rest : List Slot}
    (hahead : c.ahead = slot :: rest) : c.session.tickets.length < c.session.capacity := by
  have hpassed := h.tickets_le
  have hslots := h.length_slots
  rw [slots_of_ahead hahead, List.length_append, List.length_cons] at hslots
  rw [h.capacity]
  omega

theorem Orderly.steps (h : c.Orderly r k) (hstep : Steps k c k' (.running c')) :
    c'.Orderly r k' := by
  obtain ⟨answer, hstage, -⟩ | ⟨hstays, hsound, n, hattended⟩ := h
  · cases hstep.returns_of_leaving hstage
  · by_cases hleaves : ∃ answer, c'.stage = .leaving answer
    · obtain ⟨answer, hanswer⟩ := hleaves
      obtain ⟨slot, rest, hahead, hfull⟩ | ⟨hstage, -, rfl⟩ := hstep.leaves_cases hanswer
      · exact absurd (hsound.tickets_lt hahead) (Nat.not_lt.2 hfull)
      · exact .inl ⟨_, rfl, hsound.answered hattended hstage⟩
    · have hstays' : ∀ answer, c'.stage ≠ .leaving answer := fun answer heq =>
        hleaves ⟨answer, heq⟩
      exact .inr ⟨hstays', hsound.steps hstep hstays', hattended.steps hstep hstays'⟩

end Call

namespace System

variable {handed : List (Target × Token)} {s s₁ : System} {r : Request} {c₁ : Call}
  {schedule earlier later : List (Turn Operation)}

/-- A call that begins has looked nothing up and waits for nothing. -/
theorem sound_begin (h : s.begin r = (s₁, .running c₁)) : c₁.stage = .resolving ∧ c₁.Sound r := by
  rw [System.begin] at h
  split at h
  · cases h
  · simp only at h
    split at h
    · cases h
    · next kernel session hnew =>
      obtain rfl := Progress.running.inj (Prod.mk.inj h).2
      simp only [Session.new] at hnew
      split at hnew
      · cases hnew
      · obtain ⟨-, rfl⟩ := Prod.mk.inj (Except.ok.inj hnew)
        refine ⟨rfl, ?_, rfl, fun hpoll => ?_, fun slot hslot => absurd hslot List.not_mem_nil,
          fun hne => absurd rfl hne, List.nil_sublist _,
          fun ticket hticket => absurd hticket List.not_mem_nil, fun _ => rfl, Bool.noConfusion,
          fun _ slot hslot => absurd hslot List.not_mem_nil⟩
        · simp only [Call.watches, Call.slots, List.nil_append, List.map_map]
          rfl
        · rintro hnever
          simp only at hpoll hnever
          rw [hnever] at hpoll
          cases hpoll

/-- A call begins in order if nothing waits on behalf of its session, which is new. -/
theorem orderly_begin_of_opened
    (hopened : ∀ target entry, s.kernel.Queued target entry →
      entry.waker.session < s.kernel.sessions.nextId) (hvalid : s.refusal? r = none)
    (hroom : r.watches.length < Limits.ticketSlots) (h : s.begin r = (s₁, .running c₁)) :
    c₁.Orderly r s₁.kernel ∧ c₁.session.id = s.kernel.sessions.nextId ∧
      c₁.session.deadline = r.timeout.arm s.kernel.clock := by
  have hsound := (sound_begin h).2
  rw [begin_of_valid hvalid hroom] at h
  obtain ⟨rfl, hc⟩ := Prod.mk.inj h
  obtain rfl := Progress.running.inj hc
  have hempty : ∀ slot, ({ latched := List.replicate r.watches.length ∅ } : Notifier).held slot = ∅ := by
    intro slot
    rw [Notifier.held, List.getElem?_replicate]
    split <;> rfl
  refine ⟨.inr ⟨fun _ => Stage.noConfusion, hsound, _, SessionTable.get?_add_self _ _, ?_,
    List.length_replicate, ?_, ?_, trivial⟩, rfl, rfl⟩
  · refine ⟨Phase.noConfusion, ?_, fun slot hne => absurd (hempty slot) hne⟩
    exact (List.countP_eq_zero.2 fun events hmem => by
      rw [List.eq_of_mem_replicate hmem]
      decide).symm
  · intro target entry hqueued hid
    exact absurd hid (Nat.ne_of_lt (hopened target entry hqueued))
  · rintro ⟨⟩

/-- In a reached kernel a call begins in order. -/
theorem orderly_begin (hreached : s.kernel.Reached handed) (hvalid : s.refusal? r = none)
    (hroom : r.watches.length < Limits.ticketSlots) (h : s.begin r = (s₁, .running c₁)) :
    c₁.Orderly r s₁.kernel ∧ c₁.session.id = s.kernel.sessions.nextId ∧
      c₁.session.deadline = r.timeout.arm s.kernel.clock :=
  orderly_begin_of_opened (fun _ _ => hreached.opened_of_queued) hvalid hroom h

/-- At every moment of a run the call is in order. -/
theorem orderly_of_moment (hreached : s.kernel.Reached handed) (hvalid : s.refusal? r = none)
    (hroom : r.watches.length < Limits.ticketSlots)
    (hothers : ∀ op, .other op ∈ schedule → op.Below s.kernel.sessions.nextId)
    (hsplit : schedule = earlier ++ later) (h : Moment (s.begin r) earlier s₁ c₁) :
    c₁.Orderly r s₁.kernel ∧ c₁.session.id = s.kernel.sessions.nextId ∧
      c₁.session.deadline = r.timeout.arm s.kernel.clock := by
  refine moment_induction
    (motive := fun _ s₁ c₁ => c₁.Orderly r s₁.kernel ∧
      c₁.session.id = s.kernel.sessions.nextId ∧
      c₁.session.deadline = r.timeout.arm s.kernel.clock)
    (fun s₁ c₁ hbegin => orderly_begin hreached hvalid hroom hbegin) ?_ ?_ hsplit h
  · rintro earlier op later s₁ c₁ rfl - ⟨horderly, hid, hdeadline⟩
    refine ⟨horderly.effect ?_, hid, hdeadline⟩
    rw [hid]
    exact hothers op (List.mem_append_right _ List.mem_cons_self)
  · rintro earlier later s₁ c₁ s₂ c₂ - - ⟨horderly, hid, hdeadline⟩ hstep
    have hsteps := Call.steps_step s₁ c₁
    rw [hstep] at hsteps
    exact ⟨horderly.steps hsteps, hsteps.id_eq.trans hid, hsteps.deadline_eq.trans hdeadline⟩

/-! ## Names -/

/-- In a run, the call looks the name at an index up in this kernel. -/
def LooksUp (p : System × Progress) (schedule : List (Turn Operation)) (index : Nat) (k : Kernel) :
    Prop :=
  ∃ earlier later s c, schedule = earlier ++ .own :: later ∧ Moment p earlier s c ∧
    c.stage = .resolving ∧ c.passed.length = index ∧ c.ahead ≠ [] ∧ s.kernel = k

theorem LooksUp.append {p : System × Progress} {index : Nat} {k : Kernel}
    (h : LooksUp p earlier index k) (more : List (Turn Operation)) :
    LooksUp p (earlier ++ more) index k := by
  obtain ⟨before, after, s, c, rfl, hrest⟩ := h
  exact ⟨before, after ++ more, s, c, List.append_assoc _ _ _, hrest⟩

/-- The object of every slot is what its name stood for when it was looked up. -/
theorem looksUp_of_moment (hvalid : s.refusal? r = none)
    (hroom : r.watches.length < Limits.ticketSlots) (h : Moment (s.begin r) schedule s₁ c₁) {i : Nat}
    {slot : Slot} (hslot : c₁.looked[i]? = some slot) :
    ∃ k, LooksUp (s.begin r) schedule i k ∧
      slot.target = k.registry.lookup? slot.watch.kind slot.watch.id := by
  refine moment_induction
    (motive := fun earlier _ c => ∀ i slot, c.looked[i]? = some slot →
      ∃ k, LooksUp (s.begin r) earlier i k ∧
        slot.target = k.registry.lookup? slot.watch.kind slot.watch.id)
    (fun s₀ c hbegin i slot hslot => ?_) ?_ ?_ (List.append_nil _).symm h i slot hslot
  · rw [begin_of_valid hvalid hroom] at hbegin
    obtain rfl := Progress.running.inj (Prod.mk.inj hbegin).2
    cases hslot
  · intro earlier op later s c _ _ hnamed i slot hslot
    obtain ⟨k, hlooks, htarget⟩ := hnamed i slot hslot
    exact ⟨k, hlooks.append _, htarget⟩
  · intro earlier later s c s' c' _ hmoment hnamed hstep i slot hslot
    have hsteps := Call.steps_step s c
    rw [hstep] at hsteps
    by_cases hstage : c.stage = .resolving
    · obtain hsame | ⟨new, hahead, hnew, htarget⟩ := hsteps.looked_cases hstage
      · rw [hsame] at hslot
        obtain ⟨k, hlooks, htarget⟩ := hnamed i slot hslot
        exact ⟨k, hlooks.append _, htarget⟩
      · rw [hnew, List.getElem?_append] at hslot
        split at hslot
        · obtain ⟨k, hlooks, htarget⟩ := hnamed i slot hslot
          exact ⟨k, hlooks.append _, htarget⟩
        · next hge =>
          -- this is the name that is looked up right now
          obtain rfl := List.mem_singleton.1 (List.mem_of_getElem? hslot)
          have hlt := (List.getElem?_eq_some_iff.1 hslot).1
          rw [List.length_singleton] at hlt
          have hindex : c.passed.length = i := by
            rw [← Call.looked_of_resolving hstage]
            omega
          exact ⟨s.kernel, ⟨earlier, [], s, c, rfl, hmoment, hstage, hindex, hahead, rfl⟩, htarget⟩
    · -- later steps change neither what a slot is called nor which object it has
      have hblank := hsteps.map_blank hstage
      rw [← Call.looked_of_ne hstage, ← Call.looked_of_ne (hsteps.stage_ne_resolving hstage)]
        at hblank
      have hblanks := congrArg (fun l => l[i]?) hblank
      simp only [List.getElem?_map, hslot, Option.map_some] at hblanks
      obtain ⟨old, hold, heq⟩ := Option.map_eq_some_iff.1 hblanks.symm
      obtain ⟨k, hlooks, htarget⟩ := hnamed i old hold
      have hsame : slot.target = old.target := congrArg (fun s => s.target) heq.symm
      have hkind : slot.watch.kind = old.watch.kind := congrArg (fun s => s.watch.kind) heq.symm
      have hid : slot.watch.id = old.watch.id := congrArg (fun s => s.watch.id) heq.symm
      refine ⟨k, hlooks.append _, ?_⟩
      rw [hsame, hkind, hid, htarget]

end System

/-! ## The end of a call -/

namespace Call

variable {r : Request} {k k' : Kernel} {c c' : Call}

/-- A call that has stopped waiting because something was ready, or has said so. -/
def Assured (k : Kernel) (c : Call) : Prop :=
  c.stage = .blocked (.finished .ready) ∨
  (c.stage = .draining ∧ ∃ n, c.session.notifier? k = some n ∧ n.anyLatched = true) ∨
  ∃ m, 1 ≤ m ∧ c.stage = .leaving (.ok (.ready m))

/-- What was ready for a call is not taken away from it. -/
theorem Assured.effect (h : c.Assured k) (op : Operation) : c.Assured (op.effect k) := by
  obtain hfinished | ⟨hstage, n, hn, hlatched⟩ | hleaving := h
  · exact .inl hfinished
  · obtain ⟨n', hn', hreach⟩ := (op.effects_effect k).get?_session hn
    exact .inr (.inl ⟨hstage, n', hn', Verdict.Holds.reach (v := .ready) hlatched hreach⟩)
  · exact .inr (.inr hleaving)

theorem Assured.steps (h : c.Assured k) (horderly : c.Orderly r k)
    (hstep : Steps k c k' (.running c')) : c'.Assured k' := by
  obtain hfinished | ⟨hstage, n, hn, hlatched⟩ | ⟨m, -, hleaving⟩ := h
  · obtain ⟨answer, hleaving, -⟩ | ⟨-, -, n, hattended⟩ := horderly
    · cases hfinished.symm.trans hleaving
    · have hmotivated := hattended.motivated
      rw [Motivated, hfinished] at hmotivated
      cases hstep with
      | roused => exact .inr (.inl ⟨rfl, n, hattended.notifier, hmotivated⟩)
      | dozed hstage hb =>
        exact absurd (Stage.blocked.inj (hstage.symm.trans hfinished)) (hb .ready)
      | _ hother => cases hfinished.symm.trans hother
  · obtain ⟨answer, hleaving, -⟩ | ⟨-, hsound, n', hattended⟩ := horderly
    · cases hstage.symm.trans hleaving
    · obtain rfl := Option.some.inj (hn.symm.trans hattended.notifier)
      have hready := hsound.exists_ready_of_anyLatched hattended hlatched
      cases hstep with
      | drained =>
        refine .inr (.inr ⟨(c.kept k).countP Watch.isReady, hready, ?_⟩)
        rw [settledOn, outcome, if_pos hready]
      | _ hother => cases hstage.symm.trans hother
  · cases hstep.returns_of_leaving hleaving

/-- What a call that returns tells its caller. -/
theorem Assured.returned {reply : Reply} (h : c.Assured k)
    (hstep : Steps k c k' (.returned reply)) : ∃ m, 1 ≤ m ∧ reply.answer = .ok (.ready m) := by
  obtain ⟨hresolving, -, -, -⟩ | ⟨answer, hleaving, rfl⟩ := hstep.returned_cases
  · obtain hfinished | ⟨hstage, -⟩ | ⟨m, -, hstage⟩ := h
    · cases hfinished.symm.trans hresolving
    · cases hstage.symm.trans hresolving
    · cases hstage.symm.trans hresolving
  · obtain hfinished | ⟨hstage, -⟩ | ⟨m, hpos, hstage⟩ := h
    · cases hfinished.symm.trans hleaving
    · cases hstage.symm.trans hleaving
    · exact ⟨m, hpos, (Stage.leaving.inj (hstage.symm.trans hleaving)).symm⟩

end Call

/-- What holds of the watches and the answer of a call that was not refused. -/
structure Reply.Sound (r : Request) (reply : Reply) : Prop where
  /-- the watches are those of the request -/
  same : reply.watches.map Watch.reset = r.watches.map Watch.reset
  /-- no watch is left undecided -/
  decided : ∀ w ∈ reply.watches, w.status ≠ .pending
  /-- a name that stands for no object reports nothing -/
  absent : ∀ w ∈ reply.watches, w.status = .invalidObject → w.result = ∅
  /-- nothing is reported but what may be -/
  within : ∀ w ∈ reply.watches, w.result ⊆ w.reportable
  /-- the answer counts the watches that report something, if there are any -/
  ready_iff : ∀ m, reply.answer = .ok (.ready m) ↔
    1 ≤ m ∧ reply.watches.countP Watch.isReady = m
  /-- a call that was aborted or timed out reports nothing -/
  silent : reply.answer = .error .interrupted ∨ reply.answer = .ok .timedOut →
    ∀ w ∈ reply.watches, w.result = ∅
  /-- there was nothing to wait for just when no name stands for an object -/
  hopeless_iff : ∀ m, reply.answer = .error (.noValidTargets m) ↔
    m = reply.watches.length ∧ ∀ w ∈ reply.watches, w.status = .invalidObject

namespace Reply.Sound

variable {r : Request} {c : Call}

/-- A reply is sound if its watches are settled and its answer counts what they report. -/
theorem of_settled {answer : Except WaitError Outcome}
    (hsame : c.watches.map Watch.reset = r.watches.map Watch.reset)
    (hsettled : ∀ slot ∈ c.slots, slot.Settled)
    (hready : ∀ m, answer = .ok (.ready m) ↔ 1 ≤ m ∧ c.watches.countP Watch.isReady = m)
    (hhopeless : ∀ m, answer = .error (.noValidTargets m) ↔
      m = c.watches.length ∧ ∀ slot ∈ c.slots, slot.target = none) :
    Reply.Sound r ⟨answer, c.watches⟩ := by
  refine ⟨hsame, ?_, ?_, ?_, hready, ?_, ?_⟩
  · rintro w hw
    obtain ⟨slot, hslot, rfl⟩ := List.mem_map.1 hw
    exact (hsettled slot hslot).decided
  · rintro w hw hinvalid
    obtain ⟨slot, hslot, rfl⟩ := List.mem_map.1 hw
    have h := hsettled slot hslot
    exact h.absent (h.invalid_iff.1 hinvalid)
  · rintro w hw
    obtain ⟨slot, hslot, rfl⟩ := List.mem_map.1 hw
    exact (hsettled slot hslot).within
  · rintro hanswer w hw
    -- if a watch reported something, the answer would count it
    refine Decidable.byContradiction fun hne => ?_
    have hpos : 0 < c.watches.countP Watch.isReady :=
      List.countP_pos_iff.2 ⟨w, hw, bne_iff_ne.2 hne⟩
    have hcounts := (hready _).2 ⟨hpos, rfl⟩
    obtain hinterrupted | htimedOut := hanswer
    · cases hcounts.symm.trans hinterrupted
    · cases hcounts.symm.trans htimedOut
  · intro m
    rw [hhopeless m]
    refine and_congr_right fun _ => ?_
    constructor
    · rintro hnone w hw
      obtain ⟨slot, hslot, rfl⟩ := List.mem_map.1 hw
      exact (hsettled slot hslot).invalid_iff.2 (hnone slot hslot)
    · rintro hinvalid slot hslot
      exact (hsettled slot hslot).invalid_iff.1 (hinvalid _ (List.mem_map_of_mem hslot))

theorem of_answered {answer : Except WaitError Outcome} (h : c.Answered r answer) :
    Reply.Sound r ⟨answer, c.watches⟩ := by
  refine .of_settled h.same h.settled h.ready_iff fun m => ⟨fun heq => absurd heq (h.hopeful m), ?_⟩
  rintro ⟨-, hnone⟩
  obtain ⟨slot, hslot, hsome⟩ := h.live
  rw [hnone slot hslot] at hsome
  cases hsome

theorem of_hopeless (h : c.Sound r) (hstage : c.stage = .resolving) (hahead : c.ahead = [])
    (hnone : ∀ slot ∈ c.passed, slot.target = none) :
    Reply.Sound r ⟨.error (.noValidTargets c.slots.length), c.watches⟩ := by
  have hslots : c.slots = c.passed := by rw [Call.slots, hahead, List.append_nil]
  have hsettled := h.settled
  rw [Call.looked_of_resolving hstage] at hsettled
  refine .of_settled h.same (hslots ▸ hsettled) (fun m => ⟨?_, ?_⟩) fun m => ?_
  · rintro ⟨⟩
  · rintro ⟨hpos, rfl⟩
    obtain ⟨w, hw, hready⟩ := List.countP_pos_iff.1 hpos
    obtain ⟨slot, hslot, rfl⟩ := List.mem_map.1 hw
    rw [hslots] at hslot
    exact absurd ((hsettled slot hslot).absent (hnone slot hslot)) (bne_iff_ne.1 hready)
  · rw [Call.watches, List.length_map, hslots]
    constructor
    · intro heq
      exact ⟨(WaitError.noValidTargets.inj (Except.error.inj heq)).symm, hnone⟩
    · rintro ⟨rfl, -⟩
      rfl

end Reply.Sound

/-- An orderly call returns a sound reply, over watches that are all looked up. -/
theorem Call.Orderly.returned {r : Request} {k k' : Kernel} {c : Call} {reply : Reply}
    (h : c.Orderly r k) (hstep : Steps k c k' (.returned reply)) :
    reply.watches = c.watches ∧ c.looked = c.slots ∧ (∀ slot ∈ c.slots, slot.Settled) ∧
      reply.Sound r ∧ (reply.answer = .ok .timedOut → c.session.deadline ≠ .never) := by
  obtain ⟨hstage, hahead, hnone, rfl⟩ | ⟨answer, hstage, rfl⟩ := hstep.returned_cases
  · obtain ⟨answer, hleaving, -⟩ | ⟨-, hsound, -⟩ := h
    · cases hstage.symm.trans hleaving
    · have hslots : c.looked = c.slots := by
        rw [looked_of_resolving hstage, slots, hahead, List.append_nil]
      refine ⟨rfl, hslots, hslots ▸ hsound.settled, .of_hopeless hsound hstage hahead hnone, ?_⟩
      rintro ⟨⟩
  · obtain ⟨answer', hleaving, hanswered⟩ | ⟨hstays, -⟩ := h
    · obtain rfl := Stage.leaving.inj (hstage.symm.trans hleaving)
      have hslots : c.looked = c.slots :=
        looked_of_ne (by rw [hstage]; exact Stage.noConfusion)
      exact ⟨rfl, hslots, hanswered.settled, .of_answered hanswered, hanswered.expired⟩
    · exact absurd hstage (hstays answer)

namespace System

variable {handed : List (Target × Token)} {s : System} {r : Request}
  {schedule : List (Turn Operation)}

/-- A blocked phase that has ended with something ready leads to an answer that says so. -/
theorem ready_of_finished {s₁ s₂ : System} {c₁ : Call} {reply : Reply}
    (horderly : c₁.Orderly r s₁.kernel)
    (hothers : ∀ op, .other op ∈ schedule → op.Below c₁.session.id)
    (hstage : c₁.stage = .blocked (.finished .ready))
    (h : play (s₁, .running c₁) schedule = (s₂, .returned reply)) :
    ∃ m, 1 ≤ m ∧ reply.answer = .ok (.ready m) := by
  obtain hreturned | ⟨earlier, later, s, c, s', hsplit, hmoment, hstep⟩ := last_moment h
  · cases hreturned
  · have hassured : c.Orderly r s.kernel ∧ c.session.id = c₁.session.id ∧ c.Assured s.kernel := by
      refine moment_induction
        (motive := fun _ s c => c.Orderly r s.kernel ∧ c.session.id = c₁.session.id ∧
          c.Assured s.kernel) ?_ ?_ ?_ hsplit hmoment
      · intro s c heq
        obtain ⟨rfl, hc⟩ := Prod.mk.inj heq
        obtain rfl := Progress.running.inj hc
        exact ⟨horderly, rfl, .inl hstage⟩
      · rintro earlier op later s c rfl - ⟨ho, hid, ha⟩
        refine ⟨ho.effect ?_, hid, ha.effect op⟩
        rw [hid]
        exact hothers op (List.mem_append_right _ List.mem_cons_self)
      · rintro earlier later s c s' c' - - ⟨ho, hid, ha⟩ hstep
        have hsteps := Call.steps_step s c
        rw [hstep] at hsteps
        exact ⟨ho.steps hsteps, hsteps.id_eq.trans hid, ha.steps ho hsteps⟩
    have hsteps := Call.steps_step s c
    rw [hstep] at hsteps
    exact hassured.2.2.returned hsteps

/-- A call that is over was in order when it made its last step. -/
theorem orderly_of_returned (hreached : s.kernel.Reached handed) (hvalid : s.refusal? r = none)
    (hroom : r.watches.length < Limits.ticketSlots)
    (hothers : ∀ op, .other op ∈ schedule → op.Below s.kernel.sessions.nextId) {s' : System}
    {reply : Reply} (h : play (s.begin r) schedule = (s', .returned reply)) :
    ∃ earlier later s₁ c₁ k', schedule = earlier ++ .own :: later ∧
      Moment (s.begin r) earlier s₁ c₁ ∧ c₁.Orderly r s₁.kernel ∧
      c₁.session.deadline = r.timeout.arm s.kernel.clock ∧
      Call.Steps s₁.kernel c₁ k' (.returned reply) := by
  obtain hreturned | ⟨earlier, later, s₁, c₁, s₂, hsplit, hmoment, hstep⟩ := last_moment h
  · rw [begin_of_valid hvalid hroom] at hreturned
    cases hreturned
  have hsteps := Call.steps_step s₁ c₁
  rw [hstep] at hsteps
  obtain ⟨horderly, -, hdeadline⟩ :=
    orderly_of_moment hreached hvalid hroom hothers hsplit hmoment
  exact ⟨earlier, later, s₁, c₁, _, hsplit, hmoment, horderly, hdeadline, hsteps⟩

/-- What is sound about the outcome of a run in which a call has returned. -/
structure SoundOutcome (s : System) (r : Request) (schedule : List (Turn Operation))
    (reply : Reply) : Prop where
  /-- the watches and the answer are sound, and agree -/
  sound : reply.Sound r
  /-- a watch is marked just when its name stood for no object when it was looked up -/
  named : ∀ i w, reply.watches[i]? = some w → ∃ k, LooksUp (s.begin r) schedule i k ∧
    (w.status = .invalidObject ↔ k.registry.lookup? w.kind w.id = none)
  /-- only a call with a deadline times out -/
  expired : reply.answer = .ok .timedOut → r.timeout.arm s.kernel.clock ≠ .never
  /-- a blocked phase that ends with something ready leads to an answer that counts it -/
  finished : ∀ earlier later s₁ c₁, schedule = earlier ++ later →
    Moment (s.begin r) earlier s₁ c₁ → c₁.stage = .blocked (.finished .ready) →
    ∃ m, 1 ≤ m ∧ reply.answer = .ok (.ready m)

/-- **The outcome of a wait is sound**, whatever other threads do between any two steps of the
call. -/
theorem outcome_sound (hreached : s.kernel.Reached handed) (hvalid : s.refusal? r = none)
    (hroom : r.watches.length < Limits.ticketSlots)
    (hothers : ∀ op, .other op ∈ schedule → op.Below s.kernel.sessions.nextId) {s' : System}
    {reply : Reply} (h : play (s.begin r) schedule = (s', .returned reply)) :
    SoundOutcome s r schedule reply := by
  obtain ⟨earlier, later, s₁, c₁, k', hsplit, hmoment, horderly, hdeadline, hsteps⟩ :=
    orderly_of_returned hreached hvalid hroom hothers h
  obtain ⟨hwatches, hlooked, hsettled, hsound, hexpired⟩ := horderly.returned hsteps
  refine ⟨hsound, fun i w hw => ?_, fun hanswer => hdeadline ▸ hexpired hanswer, ?_⟩
  · rw [hwatches, Call.watches, List.getElem?_map, Option.map_eq_some_iff] at hw
    obtain ⟨slot, hslot, rfl⟩ := hw
    rw [← hlooked] at hslot
    obtain ⟨k, hlooks, htarget⟩ := looksUp_of_moment hvalid hroom hmoment hslot
    rw [hlooked] at hslot
    refine ⟨k, hsplit ▸ hlooks.append _, ?_⟩
    rw [(hsettled slot (List.mem_of_getElem? hslot)).invalid_iff, htarget]
  · intro before after s₀ c₀ hcut hmoment₀ hfinished
    obtain ⟨horderly₀, hid₀, -⟩ :=
      orderly_of_moment hreached hvalid hroom hothers hcut hmoment₀
    rw [hcut, play_append, hmoment₀] at h
    refine ready_of_finished horderly₀ (fun op hop => ?_) hfinished h
    rw [hid₀]
    exact hothers op (hcut ▸ List.mem_append_right _ hop)

/-- A semaphore that is released while an interruptible call waits for it and for a port that does not
exist: the call reports the one and marks the other, and what its watches held before is gone. -/
theorem outcome_sound_release :
    let s : System :=
      { kernel := Operation.effect { clock := { now := 0, horizon := 1000 } } (.create (.semaphore 0))
        config := .standard }
    let r : Request :=
      { thread := 7
        watches := [{ kind := .semaphore, id := 1, requested := .read, result := .write },
          { kind := .port, id := 9, requested := .read, result := .read, status := .ok }]
        flags := .interruptible
        timeout := .relative ⟨0, 100⟩ }
    let schedule : List (Turn Operation) :=
      List.replicate 10 .own ++ [.other (.act 0 (.semaphore (.release 1))),
        .other (.act 0 (.semaphore (.acquire 1))), .other (.send 3 7 .usr1)] ++
      List.replicate 5 .own
    let reply : Reply :=
      { answer := .ok (.ready 1)
        watches := [
          { kind := .semaphore, id := 1, requested := .read, result := .read, status := .ok },
          { kind := .port, id := 9, requested := .read, status := .invalidObject }] }
    (play (s.begin r) schedule).2 = .returned reply ∧ SoundOutcome s r schedule reply := by
  intro s r schedule reply
  have hreached : s.kernel.Reached [] :=
    .operated (.boot { now := 0, horizon := 1000 }) (.create (.semaphore 0)) trivial
  have hothers : ∀ op, .other op ∈ schedule → op.Below s.kernel.sessions.nextId := by
    intro op hop
    simp [schedule] at hop
    rcases hop with rfl | rfl | rfl <;> trivial
  have hplay : (play (s.begin r) schedule).2 = .returned reply := by cbv
  have hreturned : play (s.begin r) schedule = ((play (s.begin r) schedule).1, .returned reply) := by
    rw [← hplay]
  exact ⟨hplay, outcome_sound hreached (by cbv) (by decide) hothers hreturned⟩

end System

end KernelWait
