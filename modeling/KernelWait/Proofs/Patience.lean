import KernelWait.Proofs.Outcome
import KernelWait.Proofs.Promptness

/-!
# Calls that find nothing ready

A call that is no poll and finds nothing ready at any of its objects lets a ticket join the queue of each
of them, and then sleeps. Until it leaves it is patient: it has passed over nothing but slots without an
object, and slots that it has a ticket for (`Call.Patient`).

**Every object that a patient call has resolved gets a ticket** (`System.joins_of_moment`), from the
moment on at which the call turns to it.
-/

namespace KernelWait

namespace Call

/-- What the call is about to find ready, of what the slot that it turns to may report. -/
def finds (k : Kernel) (c : Call) : Events :=
  match c.stage, c.ahead with
  | .polling, slot :: _ | .enrolling, slot :: _ =>
    match slot.target with
    | some target => k.readiness target ∩ slot.watch.reportable
    | none => ∅
  | _, _ => ∅

/-- The object that a ticket of the slot at an index is about to wait for. -/
def joins? (index : Nat) (c : Call) : Option Target :=
  match c.stage, c.ahead with
  | .enrolling, slot :: _ => if c.passed.length = index then slot.target else none
  | _, _ => none

variable {r : Request} {k k' : Kernel} {c c' : Call} {n : Notifier} {slot : Slot}
  {rest : List Slot} {target : Target}

theorem finds_of_polling (hstage : c.stage = .polling) (hahead : c.ahead = slot :: rest)
    (htarget : slot.target = some target) :
    c.finds k = k.readiness target ∩ slot.watch.reportable := by
  simp only [finds, hstage, hahead, htarget]

theorem finds_of_enrolling (hstage : c.stage = .enrolling) (hahead : c.ahead = slot :: rest)
    (htarget : slot.target = some target) :
    c.finds k = k.readiness target ∩ slot.watch.reportable := by
  simp only [finds, hstage, hahead, htarget]

theorem joins?_eq_some {index : Nat} : c.joins? index = some target ↔
    c.stage = .enrolling ∧ ∃ slot rest, c.ahead = slot :: rest ∧ c.passed.length = index ∧
      slot.target = some target := by
  rw [joins?]
  split
  · next hstage hahead =>
    constructor
    · intro h
      split at h
      · next hindex => exact ⟨hstage, _, _, hahead, hindex, h⟩
      · cases h
    · rintro ⟨-, slot', rest', hahead', hindex, htarget⟩
      obtain ⟨rfl, rfl⟩ := List.cons.inj (hahead.symm.trans hahead')
      rw [if_pos hindex, htarget]
  · next hother =>
    constructor
    · intro h
      cases h
    · rintro ⟨hstage, slot, rest, hahead, -⟩
      exact (hother slot rest hstage hahead).elim

/-- Once the names are looked up, all slots are to be looked at again. -/
theorem Steps.passed_of_resolved (h : Steps k c k' (.running c')) (hstage : c.stage = .resolving)
    (hnext : c'.stage ≠ .resolving) : c'.passed = [] := by
  cases h with
  | found | missing => exact absurd hstage hnext
  | resolved | resolvedQuietly => rfl
  | _ hother => exact absurd (hstage.symm.trans hother) Stage.noConfusion

/-! ## Patience -/

/-- A call that has found nothing ready, and whose objects all exist. It sleeps only when it has no slot
left to look at, and is woken as soon as it has something to report. -/
structure Patient (k : Kernel) (c : Call) : Prop where
  /-- it is no poll -/
  waits : c.poll = false
  /-- nothing was ready at once -/
  unready : c.immediate = false
  /-- every name that was looked up stands for an object or for none -/
  known : ∀ slot ∈ c.looked, ∀ target, slot.target = some target →
    ∃ e, k.registry.get? target = some e
  /-- it sleeps when it has seen all slots -/
  spent : (∃ b, c.stage = .blocked b) ∨ c.stage = .draining → c.ahead = []
  /-- it does not sleep when there is something to report -/
  alert : ∀ n, c.session.notifier? k = some n → c.Alert n

/-- What a patient call does at a step when it has looked up its names and finds nothing ready: it goes
over slots without an object, or lets one ticket join a queue. -/
theorem Patient.step_cases (h : c.Patient k) (hstep : Steps k c k' (.running c'))
    (hstage : c.stage ≠ .resolving) (hstays : ∀ answer, c'.stage ≠ .leaving answer)
    (hfinds : c.finds k = ∅) :
    c'.immediate = false ∧
    ((∃ l, (∀ slot ∈ l, slot.target = none) ∧ c'.passed = c.passed ++ l ∧ c.ahead = l ++ c'.ahead ∧
      c'.session = c.session ∧ k'.registry = k.registry) ∨
    ∃ slot rest target e, c.joins? c.passed.length = some target ∧ c.ahead = slot :: rest ∧
      slot.target = some target ∧ k.registry.get? target = some e ∧
      e.readiness ∩ slot.watch.reportable = ∅ ∧
      k' = (c.session.joining target slot.watch.reportable).effect k ∧
      c'.passed = c.passed ++ [slot] ∧ c'.ahead = rest ∧
      c'.session = c.session.join c.passed.length target e.queue.nextToken
        slot.watch.reportable) := by
  have hawake : ¬(c.immediate = true ∨ c.poll = true) := by
    rw [h.unready, h.waits]
    decide
  cases hstep with
  | found hresolving | missing hresolving | resolved hresolving | resolvedQuietly hresolving =>
    exact absurd hresolving hstage
  | registered | aborted | checked | retired | approached | turned | roused =>
    exact ⟨h.unready, .inl ⟨[], List.forall_mem_nil _, (List.append_nil _).symm, rfl, rfl, rfl⟩⟩
  | dozed =>
    exact ⟨h.unready, .inl ⟨[], List.forall_mem_nil _, (List.append_nil _).symm, rfl, rfl,
      Session.registry_blockSteps _ _ _ _⟩⟩
  | concluded _ _ hwhy => exact absurd hwhy hawake
  | stopped _ _ himmediate => exact absurd (.inl himmediate) hawake
  | @skipped slot rest _ hahead hwhy =>
    have hnone : slot.target = none := hwhy.resolve_right hawake
    refine ⟨h.unready, .inl ⟨[slot], ?_, rfl, ?_, rfl, rfl⟩⟩
    · simpa using hnone
    · simp only [pass, hahead, List.tail_cons, List.singleton_append]
  | @ignored slot rest _ hahead hnone =>
    refine ⟨h.unready, .inl ⟨[slot], ?_, rfl, ?_, rfl, rfl⟩⟩
    · simpa using hnone
    · simp only [pass, hahead, List.tail_cons, List.singleton_append]
  | polled hpolling hahead htarget hready =>
    rw [finds_of_polling hpolling hahead htarget] at hfinds
    exact absurd hfinds hready
  | overtaken henrolling hahead htarget hget hready =>
    rw [finds_of_enrolling henrolling hahead htarget, Kernel.readiness_eq hget] at hfinds
    exact absurd hfinds hready
  | @vanished slot rest target _ hahead htarget hget =>
    -- objects that were found never vanish
    have hmem : slot ∈ c.looked := by
      rw [looked_of_ne hstage, slots_of_ahead hahead]
      exact List.mem_append_right _ List.mem_cons_self
    obtain ⟨e, he⟩ := h.known slot hmem target htarget
    cases hget.symm.trans he
  | @joined slot rest target e henrolling hahead htarget hget hunready =>
    refine ⟨h.unready, .inr ⟨slot, rest, target, e, ?_, hahead, htarget, hget, hunready, rfl, rfl,
      ?_, rfl⟩⟩
    · rw [joins?_eq_some]
      exact ⟨henrolling, slot, rest, hahead, rfl, htarget⟩
    · simp only [pass, hahead, List.tail_cons]
  | full => exact absurd rfl (hstays _)
  | drained => exact absurd rfl (hstays _)

/-- A patient call that turns to an object's queue and finds nothing ready lets a ticket join it. -/
theorem Patient.joins (h : c.Patient k) {p : Progress} (hstep : Steps k c k' p)
    (hstage : c.stage = .enrolling) (hahead : c.ahead = slot :: rest)
    (htarget : slot.target = some target) (hfinds : c.finds k = ∅)
    (hroom : c.session.tickets.length < c.session.capacity) :
    ∃ c' e, p = .running c' ∧ (∀ answer, c'.stage ≠ .leaving answer) ∧
      k.registry.get? target = some e ∧ e.readiness ∩ slot.watch.reportable = ∅ ∧
      k' = (c.session.joining target slot.watch.reportable).effect k ∧
      c'.session = c.session.join c.passed.length target e.queue.nextToken
        slot.watch.reportable := by
  rw [finds_of_enrolling hstage hahead htarget] at hfinds
  cases hstep with
  | turned _ hnil => cases hahead.symm.trans hnil
  | ignored _ hahead' hnone =>
    obtain ⟨rfl, rfl⟩ := List.cons.inj (hahead.symm.trans hahead')
    cases htarget.symm.trans hnone
  | full _ _ hfull => exact absurd hroom (Nat.not_lt.2 hfull)
  | vanished _ hahead' htarget' hget =>
    obtain ⟨rfl, rfl⟩ := List.cons.inj (hahead.symm.trans hahead')
    obtain rfl := Option.some.inj (htarget.symm.trans htarget')
    have hmem : slot ∈ c.looked := by
      rw [looked_of_ne (by rw [hstage]; exact Stage.noConfusion), slots_of_ahead hahead]
      exact List.mem_append_right _ List.mem_cons_self
    obtain ⟨e, he⟩ := h.known slot hmem target htarget
    cases hget.symm.trans he
  | overtaken _ hahead' htarget' hget hready =>
    obtain ⟨rfl, rfl⟩ := List.cons.inj (hahead.symm.trans hahead')
    obtain rfl := Option.some.inj (htarget.symm.trans htarget')
    rw [Kernel.readiness_eq hget] at hfinds
    exact absurd hfinds hready
  | joined _ hahead' htarget' hget hunready =>
    obtain ⟨rfl, rfl⟩ := List.cons.inj (hahead.symm.trans hahead')
    obtain rfl := Option.some.inj (htarget.symm.trans htarget')
    exact ⟨_, _, rfl, fun _ => Stage.noConfusion, hget, hunready, rfl, rfl⟩
  | _ hother => cases hstage.symm.trans hother

/-- A call sleeps, or stops sleeping, with all slots seen. -/
theorem Patient.spent_steps (h : c.Patient k) (hstep : Steps k c k' (.running c'))
    (hsleeps : (∃ b, c'.stage = .blocked b) ∨ c'.stage = .draining) : c'.ahead = [] := by
  cases hstep with
  | concluded _ hahead | retired _ hahead => exact hahead
  | dozed hstage => exact h.spent (.inl ⟨_, hstage⟩)
  | roused hstage => exact h.spent (.inl ⟨_, hstage⟩)
  | found hstage | missing hstage | skipped hstage | stopped hstage | polled hstage =>
    obtain ⟨b, hb⟩ | hdraining := hsleeps
    · cases hstage.symm.trans hb
    · cases hstage.symm.trans hdraining
  | _ =>
    obtain ⟨b, hb⟩ | hdraining := hsleeps
    · cases hb
    · cases hdraining

/-- Other threads leave a call patient. -/
theorem Patient.effect (h : c.Patient k) (hn : c.session.notifier? k = some n) (op : Operation) :
    c.Patient (op.effect k) where
  waits := h.waits
  unready := h.unready
  known slot hslot target htarget := by
    obtain ⟨e, he⟩ := h.known slot hslot target htarget
    obtain ⟨e', he', -⟩ := (op.effects_effect k).get?_of_get? he
    exact ⟨e', he'⟩
  spent := h.spent
  alert n' hn' := by
    obtain ⟨n'', hn'', hreach⟩ := (op.effects_effect k).get?_session hn
    obtain rfl := Option.some.inj (hn''.symm.trans hn')
    exact (h.alert n hn).reach hreach

/-- A call that finds nothing ready stays patient, with the objects that it had and those that it looks
up. -/
theorem Patient.steps (h : c.Patient k) (hn : c.session.notifier? k = some n)
    (hclosed : k.registry.Closed) (hstep : Steps k c k' (.running c'))
    (hstays : ∀ answer, c'.stage ≠ .leaving answer) (hfinds : c.finds k = ∅) :
    c'.Patient k' ∧ k'.registry.Closed := by
  have halert : ∀ n', c'.session.notifier? k' = some n' → c'.Alert n' := by
    intro n' hn'
    obtain ⟨n'', hn'', -, -, halert⟩ := hstep.get?_notifier hstays hn
    obtain rfl := Option.some.inj (hn''.symm.trans hn')
    exact halert (h.alert n hn)
  have hwaits : c'.poll = false := hstep.poll_eq.trans h.waits
  have hspent := h.spent_steps hstep
  by_cases hstage : c.stage = .resolving
  · -- what is looked up now is there, and what was found before still is
    have hsame : k'.registry = k.registry ∧ c'.immediate = c.immediate := by
      cases hstep with
      | found | missing | resolved | resolvedQuietly => exact ⟨rfl, rfl⟩
      | _ hother => exact absurd (hstage.symm.trans hother) Stage.noConfusion
    refine ⟨⟨hwaits, hsame.2.trans h.unready, fun slot hslot target htarget => ?_, hspent, halert⟩,
      hsame.1 ▸ hclosed⟩
    rw [hsame.1]
    obtain hlooked | ⟨new, -, hlooked, hnew⟩ := hstep.looked_cases hstage
    · exact h.known slot (hlooked ▸ hslot) target htarget
    · rw [hlooked] at hslot
      rcases List.mem_append.1 hslot with hold | hlast
      · exact h.known slot hold target htarget
      · obtain rfl := List.mem_singleton.1 hlast
        exact hclosed.get?_of_lookup (hnew.symm.trans htarget)
  · have hnext := hstep.stage_ne_resolving hstage
    have hknown := h.known
    rw [looked_of_ne hstage] at hknown
    obtain ⟨hunready, ⟨l, -, hpassed, hahead, -, hregistry⟩ |
      ⟨slot, rest, target, e, -, hahead, -, -, -, rfl, hpassed, hrest, -⟩⟩ :=
      h.step_cases hstep hstage hstays hfinds
    · have hslots : c'.slots = c.slots := by
        rw [slots, slots, hpassed, hahead, List.append_assoc]
      refine ⟨⟨hwaits, hunready, ?_, hspent, halert⟩, hregistry ▸ hclosed⟩
      rw [looked_of_ne hnext, hslots, hregistry]
      exact hknown
    · have hslots : c'.slots = c.slots := by
        rw [slots_of_ahead hahead, slots, hpassed, hrest, List.append_assoc]
        rfl
      refine ⟨⟨hwaits, hunready, ?_, hspent, halert⟩, hclosed.effect _⟩
      rw [looked_of_ne hnext, hslots]
      intro slot' hslot' target' htarget'
      obtain ⟨e', he'⟩ := hknown slot' hslot' target' htarget'
      obtain ⟨e'', he'', -⟩ := (Operation.effects_effect _ k).get?_of_get? he'
      exact ⟨e'', he''⟩

end Call

/-! ## Runs in which nothing is found ready -/

namespace System

/-- The call finds nothing ready at its next step. -/
def findsNothing : System × Progress → Turn Operation → Bool
  | (s, .running c), .own => decide (c.finds s.kernel = ∅)
  | _, _ => true

/-- In a run, a ticket of the slot at an index starts to wait for an object, and these turns follow. -/
def Joins (p : System × Progress) (schedule : List (Turn Operation)) (index : Nat) (target : Target)
    (later : List (Turn Operation)) : Prop :=
  ∃ earlier s c, schedule = earlier ++ .own :: later ∧ Moment p earlier s c ∧
    c.joins? index = some target

theorem Joins.append {p : System × Progress} {earlier later : List (Turn Operation)} {index : Nat}
    {target : Target} (h : Joins p earlier index target later) (more : List (Turn Operation)) :
    Joins p (earlier ++ more) index target (later ++ more) := by
  obtain ⟨before, s, c, rfl, hrest⟩ := h
  exact ⟨before, s, c, List.append_assoc _ _ _, hrest⟩

section Runs

variable {handed : List (Target × Token)} {s s₁ : System} {r : Request} {c₁ : Call}
  {schedule earlier later : List (Turn Operation)}
  (hreached : s.kernel.Reached handed) (hvalid : s.refusal? r = none)
  (hroom : r.watches.length < Limits.ticketSlots)
  (hothers : ∀ op, .other op ∈ schedule → op.Below s.kernel.sessions.nextId)
  (hwaits : (r.timeout.arm s.kernel.clock).hasPassed s.kernel.clock.now = false)
  (hunready : throughout findsNothing (s.begin r) schedule = true)

include hreached hvalid hroom hothers hwaits hunready

/-- At every moment of such a run the call is patient, or it has seen all slots and leaves. -/
theorem patient_of_moment (hsplit : schedule = earlier ++ later)
    (h : Moment (s.begin r) earlier s₁ c₁) :
    (∃ answer, c₁.stage = .leaving answer ∧ c₁.ahead = []) ∨
      ((∀ answer, c₁.stage ≠ .leaving answer) ∧ c₁.Patient s₁.kernel ∧
        s₁.kernel.registry.Closed) := by
  refine moment_induction
    (motive := fun _ s₁ c₁ => (∃ answer, c₁.stage = .leaving answer ∧ c₁.ahead = []) ∨
      ((∀ answer, c₁.stage ≠ .leaving answer) ∧ c₁.Patient s₁.kernel ∧
        s₁.kernel.registry.Closed)) ?_ ?_ ?_ hsplit h
  · intro s₀ c₀ hbegin
    rw [begin_of_valid hvalid hroom] at hbegin
    obtain ⟨rfl, hc⟩ := Prod.mk.inj hbegin
    obtain rfl := Progress.running.inj hc
    refine .inr ⟨fun _ => Stage.noConfusion, ⟨hwaits, rfl, ?_, ?_, ?_⟩, hreached.closed⟩
    · intro slot hslot
      exact absurd hslot List.not_mem_nil
    · rintro (⟨b, hb⟩ | hdraining)
      · cases hb
      · cases hdraining
    · intro n _ b hb
      cases hb
  · rintro before op after s₀ c₀ hcut hmoment (hleaving | ⟨hstays, hpatient, hclosed⟩)
    · exact .inl hleaving
    · obtain ⟨horderly, -⟩ := orderly_of_moment hreached hvalid hroom hothers hcut hmoment
      obtain ⟨answer, hstage, -⟩ | ⟨-, -, n, hattended⟩ := horderly
      · exact absurd hstage (hstays answer)
      · exact .inr ⟨hstays, hpatient.effect hattended.notifier op, hclosed.effect op⟩
  · rintro before after s₀ c₀ s₂ c₂ hcut hmoment hbefore hstep
    have hsteps := Call.steps_step s₀ c₀
    rw [hstep] at hsteps
    obtain ⟨answer, hstage, -⟩ | ⟨hstays, hpatient, hclosed⟩ := hbefore
    · cases hsteps.returns_of_leaving hstage
    · obtain ⟨horderly, -⟩ := orderly_of_moment hreached hvalid hroom hothers hcut hmoment
      obtain ⟨answer, hstage, -⟩ | ⟨-, hsound, n, hattended⟩ := horderly
      · exact absurd hstage (hstays answer)
      · by_cases hleaves : ∃ answer, c₂.stage = .leaving answer
        · -- it leaves since it has drained, for there is a ticket left for every slot ahead
          obtain ⟨answer, hanswer⟩ := hleaves
          obtain ⟨slot, rest, hahead, hfull⟩ | ⟨-, -, rfl⟩ := hsteps.leaves_cases hanswer
          · exact absurd (hsound.tickets_lt hahead) (Nat.not_lt.2 hfull)
          · exact .inl ⟨_, rfl, rfl⟩
        · have hstays' : ∀ answer, c₂.stage ≠ .leaving answer :=
            fun answer heq => hleaves ⟨answer, heq⟩
          have hfinds := holds_of_throughout (hcut ▸ hunready)
          rw [hmoment] at hfinds
          obtain ⟨hpatient', hclosed'⟩ := hpatient.steps hattended.notifier hclosed hsteps hstays'
            (of_decide_eq_true hfinds)
          exact .inr ⟨hstays', hpatient', hclosed'⟩

/-- **Every object that the call has turned to has got a ticket.** -/
theorem joins_of_moment (hsplit : schedule = earlier ++ later)
    (h : Moment (s.begin r) earlier s₁ c₁) (hstage : c₁.stage ≠ .resolving) {index : Nat}
    {slot : Slot} {target : Target} (hslot : c₁.passed[index]? = some slot)
    (htarget : slot.target = some target) :
    ∃ mid, Joins (s.begin r) earlier index target mid := by
  refine moment_induction
    (motive := fun earlier _ c => c.stage ≠ .resolving → ∀ index slot target,
      c.passed[index]? = some slot → slot.target = some target →
        ∃ mid, Joins (s.begin r) earlier index target mid) ?_ ?_ ?_ hsplit h hstage index slot target
    hslot htarget
  · intro s₀ c₀ hbegin hstage
    rw [begin_of_valid hvalid hroom] at hbegin
    obtain rfl := Progress.running.inj (Prod.mk.inj hbegin).2
    exact absurd rfl hstage
  · intro before op after s₀ c₀ _ _ hjoined hstage index slot target hslot htarget
    obtain ⟨mid, hmid⟩ := hjoined hstage index slot target hslot htarget
    exact ⟨_, hmid.append _⟩
  · intro before after s₀ c₀ s₂ c₂ hcut hmoment hjoined hstep hstage index slot target hslot htarget
    have hsteps := Call.steps_step s₀ c₀
    rw [hstep] at hsteps
    have hbefore := patient_of_moment hreached hvalid hroom hothers hwaits hunready hcut hmoment
    obtain ⟨answer, hleaving, -⟩ | ⟨-, hpatient, -⟩ := hbefore
    · cases hsteps.returns_of_leaving hleaving
    have hold : ∀ slot, c₀.stage ≠ .resolving → c₀.passed[index]? = some slot →
        slot.target = some target →
        ∃ mid, Joins (s.begin r) (before ++ [.own]) index target mid := by
      intro slot hstage₀ hslot htarget
      obtain ⟨mid, hmid⟩ := hjoined hstage₀ index slot target hslot htarget
      exact ⟨_, hmid.append _⟩
    by_cases hstage₀ : c₀.stage = .resolving
    · -- it starts over once all names are looked up
      rw [hsteps.passed_of_resolved hstage₀ hstage] at hslot
      cases hslot
    by_cases hleaves : ∃ answer, c₂.stage = .leaving answer
    · obtain ⟨answer, hanswer⟩ := hleaves
      obtain ⟨slot', rest, hahead, hfull⟩ | ⟨hdraining, -, rfl⟩ := hsteps.leaves_cases hanswer
      · obtain ⟨horderly, -⟩ := orderly_of_moment hreached hvalid hroom hothers hcut hmoment
        obtain ⟨answer', hleaving, -⟩ | ⟨-, hsound, -⟩ := horderly
        · cases hsteps.returns_of_leaving hleaving
        · exact absurd (hsound.tickets_lt hahead) (Nat.not_lt.2 hfull)
      · -- no slot was ahead when it drained
        have hslots : c₀.slots = c₀.passed := by
          rw [Call.slots, hpatient.spent (.inr hdraining), List.append_nil]
        obtain ⟨old, hwas, rfl | rfl⟩ := Call.settledOn_cases (Call.getElem?_slots_of_passed hslot) <;>
          exact hold old hstage₀ (hslots ▸ hwas) htarget
    · have hfinds := holds_of_throughout (hcut ▸ hunready)
      rw [hmoment] at hfinds
      obtain ⟨-, ⟨l, hnone, hpassed, -⟩ | ⟨slot', rest, target', e, hjoins, -, htarget', -, -, -, hpassed,
        -⟩⟩ := hpatient.step_cases hsteps hstage₀ (fun answer heq => hleaves ⟨answer, heq⟩)
          (of_decide_eq_true hfinds)
      · rw [hpassed, List.getElem?_append] at hslot
        split at hslot
        · exact hold slot hstage₀ hslot htarget
        · rw [hnone slot (List.mem_of_getElem? hslot)] at htarget
          cases htarget
      · rw [hpassed, List.getElem?_append] at hslot
        split at hslot
        · exact hold slot hstage₀ hslot htarget
        · next hge =>
          -- this is the slot whose ticket joins right now
          obtain rfl := List.mem_singleton.1 (List.mem_of_getElem? hslot)
          have hlt := (List.getElem?_eq_some_iff.1 hslot).1
          rw [List.length_singleton] at hlt
          have hindex : c₀.passed.length = index := by omega
          obtain rfl := Option.some.inj (htarget'.symm.trans htarget)
          rw [hindex] at hjoins
          exact ⟨[], before, s₀, c₀, rfl, hmoment, hjoins⟩

end Runs

end System

end KernelWait
