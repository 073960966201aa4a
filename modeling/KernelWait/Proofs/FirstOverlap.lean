import KernelWait.Proofs.Aftermath
import KernelWait.Proofs.Patience

/-!
# Waits that report the first overlap

A call that found nothing ready has a ticket for each of its objects. From then on other threads do
whatever they like, to these objects and to others, and the row of what an object is ready for after each
of their operations (`System.aftermathOf`) says all that the call can report.

**Every watch reports the first overlap of what it may report with that row**, and the call answers that
something is ready if there is any (`System.reports_first_overlaps`), no matter whether the object has
ceased to be ready, a signal has come in or the deadline has passed in the meantime.
-/

namespace KernelWait

/-- The call has neither drained its session nor returned. -/
def Progress.collects : Progress → Bool
  | .running c =>
    match c.stage with
    | .leaving _ => false
    | _ => true
  | .returned _ => false

theorem Progress.collects_of_ne {c : Call} (h : ∀ answer, c.stage ≠ .leaving answer) :
    (Progress.running c).collects = true := by
  rcases hstage : c.stage with _ | _ | _ | _ | _ | _ | _ | answer
  case leaving => exact absurd hstage (h answer)
  all_goals simp only [collects, hstage]

theorem Progress.not_collects_of_leaving {c : Call} {answer : Except WaitError Outcome}
    (h : c.stage = .leaving answer) : (Progress.running c).collects = false := by
  simp only [collects, h]

/-! ## What happens while a call waits -/

namespace System

/-- What an object is ready for right after each operation of another thread, until the call has
drained its session. -/
def aftermath (target : Target) : System × Progress → List (Turn Operation) → List Events
  | _, [] => []
  | p, .own :: turns => aftermath target (turn p .own) turns
  | p, .other op :: turns =>
    let after := turn p (.other op)
    if p.2.collects then after.1.kernel.readiness target :: aftermath target after turns
    else aftermath target after turns

/-- The object that a ticket of the watch at an index starts to wait for at a turn. -/
def joins? (index : Nat) : System × Progress → Turn Operation → Option Target
  | (_, .running c), .own => c.joins? index
  | _, _ => none

/-- What the object of the watch at an index is ready for right after each operation of another thread,
from when a ticket waits for it until the call has drained its session. -/
def aftermathOf (index : Nat) : System × Progress → List (Turn Operation) → List Events
  | _, [] => []
  | p, t :: turns =>
    match joins? index p t with
    | some target => aftermath target (turn p t) turns
    | none => aftermathOf index (turn p t) turns

variable {p : System × Progress} {target : Target}

theorem aftermath_append (target : Target) (p : System × Progress)
    (earlier later : List (Turn Operation)) :
    aftermath target p (earlier ++ later) =
      aftermath target p earlier ++ aftermath target (play p earlier) later := by
  induction earlier generalizing p with
  | nil => rfl
  | cons t earlier ih =>
    cases t with
    | own => exact ih _
    | other op =>
      simp only [List.cons_append, aftermath, ih]
      split <;> rfl

/-- A step of the call itself adds nothing to what happens. -/
theorem aftermath_concat_own (target : Target) (p : System × Progress)
    (earlier : List (Turn Operation)) :
    aftermath target p (earlier ++ [.own]) = aftermath target p earlier := by
  rw [aftermath_append, aftermath, aftermath, List.append_nil]

theorem aftermath_concat_other (target : Target) (p : System × Progress)
    (earlier : List (Turn Operation)) (op : Operation) :
    aftermath target p (earlier ++ [.other op]) = aftermath target p earlier ++
      if (play p earlier).2.collects then
        [(turn (play p earlier) (.other op)).1.kernel.readiness target] else [] := by
  rw [aftermath_append]
  simp only [aftermath]

/-- In a run, a ticket of the watch at an index starts to wait for an object, and the row for the watch
is that of the object from then on. -/
def Enlists (p : System × Progress) (schedule : List (Turn Operation)) (index : Nat)
    (target : Target) : Prop :=
  ∃ earlier later s c, schedule = earlier ++ .own :: later ∧ Moment p earlier s c ∧
    c.joins? index = some target ∧
    aftermathOf index p schedule = aftermath target (c.step s) later

/-- The row for a watch is empty if it never gets a ticket, and begins when it gets its first. -/
theorem aftermathOf_cases (index : Nat) (p : System × Progress)
    (schedule : List (Turn Operation)) :
    (aftermathOf index p schedule = [] ∧ ∀ target later, ¬Joins p schedule index target later) ∨
    ∃ target, Enlists p schedule index target := by
  induction schedule generalizing p with
  | nil =>
    refine .inl ⟨rfl, fun target later h => ?_⟩
    obtain ⟨earlier, s, c, hsplit, -⟩ := h
    exact absurd hsplit.symm (by simp)
  | cons t turns ih =>
    rcases hjoins : joins? index p t with _ | target
    · -- the ticket joins later in the schedule, or never
      simp only [Enlists, aftermathOf, hjoins]
      obtain ⟨hempty, hnone⟩ | ⟨target, earlier, later, s, c, rfl, hrest⟩ := ih (turn p t)
      · refine .inl ⟨hempty, fun target later h => ?_⟩
        obtain ⟨earlier, s, c, hsplit, hmoment, hc⟩ := h
        cases earlier with
        | nil =>
          obtain ⟨rfl, -⟩ := List.cons.inj hsplit
          obtain rfl : p = (s, .running c) := hmoment
          cases hjoins.symm.trans hc
        | cons first earlier =>
          obtain ⟨rfl, hturns⟩ := List.cons.inj hsplit
          exact hnone target later ⟨earlier, s, c, hturns, hmoment, hc⟩
      · exact .inr ⟨target, t :: earlier, later, s, c, rfl, hrest⟩
    · simp only [Enlists, aftermathOf, hjoins]
      obtain ⟨s, c | reply⟩ := p
      · cases t with
        | other op => cases hjoins
        | own => exact .inr ⟨target, [], turns, s, c, rfl, rfl, hjoins, rfl⟩
      · cases hjoins

/-- No other thread withdraws a ticket of the call. -/
def leavesTickets : System × Progress → Turn Operation → Bool
  | (_, .running c), .other (.disenroll target token) =>
    c.session.tickets.all fun ticket => ticket.place != some (target, token)
  | _, _ => true

/-- Whatever another thread does then, it does not withdraw this ticket. -/
theorem ne_disenroll_of_leavesTickets {s : System} {c : Call} {op : Operation}
    (h : leavesTickets (s, .running c) (.other op) = true) {ticket : Ticket}
    (hticket : ticket ∈ c.session.tickets) {token : Token}
    (hplace : ticket.place = some (target, token)) : op ≠ .disenroll target token := by
  rintro rfl
  have hne := List.all_eq_true.1 h ticket hticket
  rw [hplace, bne_self_eq_false] at hne
  cases hne

end System

/-! ## Own tickets -/

namespace Kernel

/-- A ticket that joins a queue changes nothing about what objects are ready for. -/
theorem readiness_enroll (k : Kernel) (target other : Target) (interest : Events) (waker : Waker) :
    (Operation.effect k (.enroll target interest waker)).readiness other = k.readiness other := by
  rcases he : k.registry.get? target with _ | e
  · simp only [Operation.effect, Operation.run, enroll, he]
  · by_cases hto : other = target
    · subst hto
      rw [readiness, registry_enroll he, Registry.get?_put_self he, readiness_eq he]
      rfl
    · rw [readiness, registry_enroll he, Registry.get?_put_ne hto, readiness]

/-- Another ticket of the session joins a queue: nothing changes for this one. -/
theorem Tracks.join {k : Kernel} {n : Notifier} {s : Session} {j : Nat} {target other : Target}
    {token : Token} {interest interest' fired : Events}
    (h : k.Tracks n ⟨s.id, j⟩ target token interest fired) (hj : j < s.tickets.length) {e : Entity}
    (he : k.registry.get? other = some e) (hready : e.readiness ∩ interest' = ∅) :
    ((s.joining other interest').effect k).Tracks n ⟨s.id, j⟩ target token interest fired where
  held := h.held
  waits hnone := by
    obtain ⟨hqueued, hunready⟩ := h.waits hnone
    refine ⟨(queued_enroll_iff he hready).2 (.inl hqueued), ?_⟩
    rwa [Session.joining, readiness_enroll]
  gone hfired target' entry hqueued hwaker := by
    obtain hold | ⟨-, rfl⟩ := (queued_enroll_iff he hready).1 hqueued
    · exact h.gone hfired target' entry hold hwaker
    · exact Nat.ne_of_gt hj (congrArg (fun w => w.slot) hwaker)

/-- A ticket that joins a queue waits. -/
theorem Tracks.start {k : Kernel} {n : Notifier} {s : Session} {target : Target} {interest : Events}
    (hserves : n.Serves s.tickets) {e : Entity} (he : k.registry.get? target = some e)
    (hready : e.readiness ∩ interest = ∅) :
    ((s.joining target interest).effect k).Tracks n ⟨s.id, s.tickets.length⟩ target
      e.queue.nextToken interest ∅ where
  held := by
    refine Decidable.byContradiction fun hne => ?_
    obtain ⟨ticket, hticket, -⟩ := hserves.awaited _ hne
    exact absurd (List.getElem?_eq_some_iff.1 hticket).1 (Nat.lt_irrefl _)
  waits _ := by
    constructor
    · exact (queued_enroll_iff he hready).2 (.inr ⟨rfl, rfl⟩)
    · rw [Session.joining, readiness_enroll, readiness_eq he, hready]
  gone hne := absurd rfl hne

end Kernel

/-! ## Following a ticket to the end of its call -/

/-- What the watches that a call writes back say of a ticket that has fired with some events. -/
def Reports (singleShot : Bool) (index : Nat) (fired : Events) (ws : List Watch) : Prop :=
  (singleShot = false → ∃ w, ws[index]? = some w ∧ w.result = fired) ∧
  (fired ≠ ∅ → 0 < ws.countP Watch.isReady)

/-- A call has a ticket that has fired with some events, or has reported that. -/
def Progress.Follows (singleShot : Bool) (index : Nat) (target : Target) (interest fired : Events)
    (k : Kernel) : Progress → Prop
  | .running c =>
    (∃ answer, c.stage = .leaving answer ∧ Reports singleShot index fired c.watches) ∨
    ((∀ answer, c.stage ≠ .leaving answer) ∧ ∃ j n token, c.session.notifier? k = some n ∧
      c.session.tickets[j]? = some ⟨index, interest, some (target, token)⟩ ∧
      k.Tracks n ⟨c.session.id, j⟩ target token interest fired)
  | .returned reply => Reports singleShot index fired reply.watches

namespace Call

variable {r : Request} {k k' : Kernel} {c c' : Call} {n : Notifier}

/-- What a ticket has fired with is gathered for its slot. -/
theorem Sound.gathered_eq (h : c.Sound r) (hattended : c.Attended k n) {j : Nat} {ticket : Ticket}
    (hticket : c.session.tickets[j]? = some ticket) :
    Session.gathered ticket.index (c.session.drain k).2.2 = n.held j := by
  rw [Session.drain_fired hattended.notifier, Session.gathered_harvest h.distinct hticket,
    Nat.zero_add]
  by_cases hempty : n.held j = ∅
  · rw [hempty, Events.truncate, Events.empty_inter, Events.empty_inter]
  · obtain ⟨ticket', hticket', hwaited, hknown⟩ := hattended.serves.awaited j hempty
    obtain rfl := Option.some.inj (hticket.symm.trans hticket')
    rw [Events.truncate, Events.subset_iff.1 hknown, Events.subset_iff.1 hwaited]

/-- **A call that drains reports what its tickets have fired with.** -/
theorem Sound.reports (h : c.Sound r) (hattended : c.Attended k n) (hstage : c.stage ≠ .resolving)
    (hunready : c.immediate = false) {j : Nat} {ticket : Ticket}
    (hticket : c.session.tickets[j]? = some ticket) :
    Reports c.singleShot ticket.index (n.held j) (c.settledOn k (c.outcome k)).watches := by
  rw [watches_settledOn]
  refine ⟨fun hall => ?_, h.exists_ready_of_held hattended⟩
  obtain ⟨slot, hslot, -⟩ := h.matched ticket (List.mem_of_getElem? hticket)
  have hslot := getElem?_slots_of_passed hslot
  have hresult : slot.watch.result = ∅ := by
    refine h.unready hunready slot ?_
    rw [looked_of_ne hstage]
    exact List.mem_of_getElem? hslot
  have hcollected := getElem?_collected k c ticket.index
  rw [hslot, Option.map_some, h.gathered_eq hattended hticket] at hcollected
  refine ⟨slot.watch.fire (n.held j), ?_, ?_⟩
  · rw [kept, if_neg (by rw [hall]; decide), List.getElem?_map, hcollected]
    rfl
  · rw [Watch.fire, hresult, Events.empty_union]

end Call

namespace Progress

variable {r : Request} {k k' : Kernel} {c c' : Call} {index : Nat} {target : Target}
  {interest fired : Events}

/-- An operation of another thread makes the ticket of a call that collects fire, if its object is ready
now. -/
theorem Follows.effect {singleShot : Bool}
    (h : (running c).Follows singleShot index target interest fired k) (horderly : c.Orderly r k)
    {op : Operation} (hbelow : op.Below c.session.id)
    (hkeeps : ∀ ticket ∈ c.session.tickets, ∀ token, ticket.place = some (target, token) →
      op ≠ .disenroll target token) :
    (running c).Follows singleShot index target interest
      (if (running c).collects = true ∧ fired = ∅ then (op.effect k).readiness target ∩ interest
        else fired) (op.effect k) := by
  obtain ⟨answer, hstage, hreports⟩ | ⟨hstays, j, n, token, hn, hticket, htracks⟩ := h
  · refine .inl ⟨answer, hstage, ?_⟩
    rwa [not_collects_of_leaving hstage, if_neg fun hand => Bool.noConfusion hand.1]
  · obtain ⟨answer, hstage, -⟩ | ⟨-, hsound, n₁, hattended⟩ := horderly
    · exact absurd hstage (hstays answer)
    obtain rfl := Option.some.inj (hn.symm.trans hattended.notifier)
    obtain ⟨n', hattended', -⟩ := hattended.effect hbelow
    have hroom : j < n.latched.length := by
      have htickets := (List.getElem?_eq_some_iff.1 hticket).1
      have hpassed := hsound.tickets_le
      have hslots := hsound.length_slots
      rw [Call.slots, List.length_append] at hslots
      rw [hattended.room, hsound.capacity]
      omega
    refine .inr ⟨hstays, j, n', token, hattended'.notifier, hticket, ?_⟩
    -- the slot belongs to this ticket alone, so no other entry can latch into it
    have hown : ∀ other entry, k.Queued other entry → entry.waker = ⟨c.session.id, j⟩ →
        other = target ∧ entry.interest = interest := by
      intro other entry hqueued hwaker
      obtain ⟨ticket, hknows, hplace, hinterest⟩ :=
        hattended.covers other entry hqueued (by rw [hwaker])
      rw [hwaker] at hknows
      obtain rfl := Option.some.inj (hticket.symm.trans hknows)
      exact ⟨(Prod.mk.inj (Option.some.inj hplace)).1.symm, hinterest.symm⟩
    have heffect := htracks.effect hn hroom hattended.serves.running hown hbelow.foreign
      (hkeeps _ (List.mem_of_getElem? hticket) token rfl) hattended'.notifier
    rw [collects_of_ne hstays]
    simpa only [true_and] using heffect

/-- A step of a call that finds nothing ready leaves its tickets as they are, or reports them. -/
theorem Follows.steps {p : Progress}
    (h : (running c).Follows c.singleShot index target interest fired k) (horderly : c.Orderly r k)
    (hpatient : (∃ answer, c.stage = .leaving answer ∧ c.ahead = []) ∨
      ((∀ answer, c.stage ≠ .leaving answer) ∧ c.Patient k ∧ k.registry.Closed))
    (hfinds : c.finds k = ∅) (hstep : Call.Steps k c k' p) :
    p.Follows c.singleShot index target interest fired k' := by
  obtain ⟨answer, hstage, hreports⟩ | ⟨hstays, j, n, token, hn, hticket, htracks⟩ := h
  · obtain rfl := hstep.returns_of_leaving hstage
    exact hreports
  · obtain ⟨answer, hstage, -⟩ | ⟨-, hpatient, -⟩ := hpatient
    · exact absurd hstage (hstays answer)
    obtain ⟨answer, hstage, -⟩ | ⟨-, hsound, n₁, hattended⟩ := horderly
    · exact absurd hstage (hstays answer)
    obtain rfl := Option.some.inj (hn.symm.trans hattended.notifier)
    -- a call that has a ticket has looked up all its names
    have hstage : c.stage ≠ .resolving := by
      intro hresolving
      rw [hsound.unticketed hresolving] at hticket
      cases hticket
    cases p with
    | returned reply =>
      obtain ⟨hresolving, -⟩ | ⟨answer, hleaving, -⟩ := hstep.returned_cases
      · exact absurd hresolving hstage
      · exact absurd hleaving (hstays answer)
    | running c' =>
      by_cases hleaves : ∃ answer, c'.stage = .leaving answer
      · obtain ⟨answer, hanswer⟩ := hleaves
        obtain ⟨slot, rest, hahead, hfull⟩ | ⟨-, -, rfl⟩ := hstep.leaves_cases hanswer
        · exact absurd (hsound.tickets_lt hahead) (Nat.not_lt.2 hfull)
        · refine .inl ⟨_, rfl, ?_⟩
          have hreports := hsound.reports hattended hstage hpatient.unready hticket
          rwa [htracks.held] at hreports
      · have hstays' : ∀ answer, c'.stage ≠ .leaving answer := fun answer heq =>
          hleaves ⟨answer, heq⟩
        obtain ⟨n', hn', hlatched, -, -⟩ := hstep.get?_notifier hstays' hn
        have hheld : n'.held j = n.held j := by rw [Notifier.held, hlatched, Notifier.held]
        refine .inr ⟨hstays', j, n', token, hn', ?_⟩
        obtain ⟨-, ⟨l, -, -, -, hsession, hregistry⟩ |
          ⟨slot, rest, target', e, -, -, -, he, hready, rfl, -, -, hsession⟩⟩ :=
          hpatient.step_cases hstep hstage hstays' hfinds
        · rw [hsession]
          exact ⟨hticket, htracks.congr hregistry hheld⟩
        · have hj := (List.getElem?_eq_some_iff.1 hticket).1
          rw [hsession]
          exact ⟨(List.getElem?_append_left hj).trans hticket,
            (htracks.join hj he hready).congr rfl hheld⟩

end Progress

namespace System

section Runs

variable {handed : List (Target × Token)} {s s₁ : System} {r : Request} {c₁ : Call}
  {schedule earlier later : List (Turn Operation)} {index : Nat} {target : Target}

/-- A call reports all that is ready, or the first only, as its flags say. -/
theorem singleShot_of_moment (hvalid : s.refusal? r = none)
    (hroom : r.watches.length < Limits.ticketSlots) (h : Moment (s.begin r) earlier s₁ c₁) :
    c₁.singleShot = r.flags.includes .singleShot := by
  refine moment_induction
    (motive := fun _ _ c => c.singleShot = r.flags.includes .singleShot) ?_ ?_ ?_
    (List.append_nil _).symm h
  · intro s₀ c₀ hbegin
    rw [begin_of_valid hvalid hroom] at hbegin
    obtain rfl := Progress.running.inj (Prod.mk.inj hbegin).2
    rfl
  · intro _ _ _ _ _ _ _ hsame
    exact hsame
  · intro _ _ s₀ c₀ s₂ c₂ _ _ hsame hstep
    have hsteps := Call.steps_step s₀ c₀
    rw [hstep] at hsteps
    exact hsteps.singleShot_eq.trans hsame

variable (hreached : s.kernel.Reached handed) (hvalid : s.refusal? r = none)
  (hroom : r.watches.length < Limits.ticketSlots)
  (hothers : ∀ op, .other op ∈ schedule → op.Below s.kernel.sessions.nextId)
  (hwaits : (r.timeout.arm s.kernel.clock).hasPassed s.kernel.clock.now = false)
  (hunready : throughout findsNothing (s.begin r) schedule = true)
  (hleft : throughout leavesTickets (s.begin r) schedule = true)

include hreached hvalid hroom hothers hwaits hunready

/-- A ticket that is to wait for an object waits for what its watch may report, and has not fired. -/
theorem follows_start (hsplit : schedule = earlier ++ .own :: later)
    (h : Moment (s.begin r) earlier s₁ c₁) (hjoins : c₁.joins? index = some target) :
    ∃ w, r.watches[index]? = some w ∧
      (c₁.step s₁).2.Follows c₁.singleShot index target w.reportable ∅ (c₁.step s₁).1.kernel := by
  obtain ⟨hstage, slot, rest, hahead, rfl, htarget⟩ := Call.joins?_eq_some.1 hjoins
  obtain ⟨horderly, -⟩ := orderly_of_moment hreached hvalid hroom hothers hsplit h
  obtain ⟨answer, hleaving, -⟩ | ⟨hstays, hsound, n, hattended⟩ := horderly
  · cases hstage.symm.trans hleaving
  have hpatient := patient_of_moment hreached hvalid hroom hothers hwaits hunready hsplit h
  obtain ⟨answer, hleaving, -⟩ | ⟨-, hpatient, -⟩ := hpatient
  · cases hstage.symm.trans hleaving
  have hfinds := holds_of_throughout (hsplit ▸ hunready)
  rw [h] at hfinds
  obtain ⟨c', e, hp, hstays', he, hready, hk, hsession⟩ :=
    hpatient.joins (Call.steps_step s₁ c₁) hstage hahead htarget (of_decide_eq_true hfinds)
      (hsound.tickets_lt hahead)
  -- the watch of the slot is that of the request, as far as it says what may be reported
  have hsame := congrArg (fun l => l[c₁.passed.length]?) hsound.same
  simp only [Call.watches, Call.slots_of_ahead hahead, List.getElem?_map,
    List.getElem?_append_right (Nat.le_refl _), Nat.sub_self, List.getElem?_cons_zero,
    Option.map_some] at hsame
  obtain ⟨w, hw, hreset⟩ := Option.map_eq_some_iff.1 hsame.symm
  refine ⟨w, hw, ?_⟩
  rw [hp, hk, Watch.reportable_congr hreset]
  refine .inr ⟨hstays', c₁.session.tickets.length, n, e.queue.nextToken, ?_, ?_, ?_⟩
  · rw [hsession, Session.notifier?, Session.joining, Kernel.sessions_enroll]
    exact hattended.notifier
  · rw [hsession]
    exact List.getElem?_concat_length
  · rw [hsession]
    exact .start hattended.serves he hready

/-- A watch of a call that has returned had a ticket for the object that its name stood for, or its name
stood for none. -/
theorem enlists_of_returned {s' : System} {reply : Reply}
    (h : play (s.begin r) schedule = (s', .returned reply)) {w : Watch}
    (hw : reply.watches[index]? = some w) :
    (∃ target k, Enlists (s.begin r) schedule index target ∧
      LooksUp (s.begin r) schedule index k ∧ k.registry.lookup? w.kind w.id = some target) ∨
    (w.status = .invalidObject ∧ aftermathOf index (s.begin r) schedule = []) := by
  obtain ⟨earlier, later, s₁, c₁, k', hsplit, hmoment, horderly, -, hsteps⟩ :=
    orderly_of_returned hreached hvalid hroom hothers h
  obtain ⟨hwatches, -, hsettled, hsound, -⟩ := horderly.returned hsteps
  obtain ⟨hempty, hnone⟩ | ⟨target, henlists⟩ := aftermathOf_cases index (s.begin r) schedule
  · refine .inr ⟨?_, hempty⟩
    rw [hwatches, Call.watches, List.getElem?_map, Option.map_eq_some_iff] at hw
    obtain ⟨slot, hslot, rfl⟩ := hw
    rw [(hsettled slot (List.mem_of_getElem? hslot)).invalid_iff]
    -- a slot with an object would have got a ticket before the call came to its end
    rcases htarget : slot.target with _ | target
    · rfl
    · obtain ⟨-, hahead, hall, -⟩ | ⟨answer, hleaving, -⟩ := hsteps.returned_cases
      · rw [Call.slots, hahead, List.append_nil] at hslot
        cases htarget.symm.trans (hall slot (List.mem_of_getElem? hslot))
      · have hpatient :=
          patient_of_moment hreached hvalid hroom hothers hwaits hunready hsplit hmoment
        have hahead : c₁.ahead = [] := by
          obtain ⟨-, -, hahead⟩ | ⟨hstays, -⟩ := hpatient
          · exact hahead
          · exact absurd hleaving (hstays answer)
        rw [Call.slots, hahead, List.append_nil] at hslot
        obtain ⟨mid, hjoins⟩ := joins_of_moment hreached hvalid hroom hothers hwaits hunready hsplit
          hmoment (by rw [hleaving]; exact Stage.noConfusion) hslot htarget
        exact absurd (hsplit ▸ hjoins.append _) (hnone target _)
  · refine .inl ⟨target, ?_⟩
    obtain ⟨before, after, s₀, c₀, hcut, hmoment₀, hjoins, -⟩ := id henlists
    obtain ⟨hstage, slot, rest, hahead, rfl, htarget⟩ := Call.joins?_eq_some.1 hjoins
    have hne : c₀.stage ≠ .resolving := by
      rw [hstage]
      exact Stage.noConfusion
    have hslot : c₀.slots[c₀.passed.length]? = some slot := by
      rw [Call.slots_of_ahead hahead, List.getElem?_append_right (Nat.le_refl _), Nat.sub_self]
      rfl
    obtain ⟨k, hlooks, hlookup⟩ := looksUp_of_moment hvalid hroom hmoment₀
      (by rw [Call.looked_of_ne hne]; exact hslot)
    refine ⟨k, henlists, hcut ▸ hlooks.append _, ?_⟩
    -- the slot and the watch of the reply name the same object
    obtain ⟨horderly₀, -⟩ := orderly_of_moment hreached hvalid hroom hothers hcut hmoment₀
    obtain ⟨answer, hleaving, -⟩ | ⟨-, hsound₀, -⟩ := horderly₀
    · cases hstage.symm.trans hleaving
    have hsame := congrArg (fun l => l[c₀.passed.length]?) (hsound.same.trans hsound₀.same.symm)
    simp only [Call.watches, List.getElem?_map, hw, hslot, Option.map_some] at hsame
    have hreset := Option.some.inj hsame
    have hkind : w.kind = slot.watch.kind := congrArg (fun w => w.kind) hreset
    have hid : w.id = slot.watch.id := congrArg (fun w => w.id) hreset
    rw [hkind, hid, ← hlookup, htarget]

/-- A call that has a ticket which has fired, or has come to leave, returns when it gets its turns. -/
theorem returns_of_follows (hsplit : schedule = earlier ++ later)
    (h : Moment (s.begin r) earlier s₁ c₁) {interest fired : Events}
    (hfollows : (Progress.running c₁).Follows (r.flags.includes .singleShot) index target interest
      fired s₁.kernel) (hfired : fired ≠ ∅)
    (hturns : 3 * r.watches.length + 16 ≤ later.count .own) :
    ∃ s' reply, play (s.begin r) schedule = (s', .returned reply) := by
  obtain ⟨horderly, -⟩ := orderly_of_moment hreached hvalid hroom hothers hsplit h
  have hpatient := patient_of_moment hreached hvalid hroom hothers hwaits hunready hsplit h
  have hbounded : c₁.remaining ≤ later.count .own := by
    obtain ⟨answer, hleaving, -⟩ | ⟨-, hsound, -⟩ := horderly
    · simp only [Call.remaining, hleaving]
      omega
    · refine Nat.le_trans c₁.remaining_le ?_
      rwa [Call.bound, hsound.length_slots]
  have hstirred : c₁.Stirred s₁.kernel := by
    obtain ⟨answer, hleaving, -⟩ | ⟨hstays, j, n, token, hn, -, htracks⟩ := hfollows
    · exact .inl ⟨answer, hleaving⟩
    · obtain ⟨answer, hleaving, -⟩ | ⟨-, -, n₁, hattended⟩ := horderly
      · exact absurd hleaving (hstays answer)
      obtain ⟨answer, hleaving, -⟩ | ⟨-, hpatient, -⟩ := hpatient
      · exact absurd hleaving (hstays answer)
      obtain rfl := Option.some.inj (hn.symm.trans hattended.notifier)
      refine .inr ⟨n, hn, hattended.serves.counted.anyLatched_iff.2 ⟨j, ?_⟩, hpatient.alert n hn⟩
      rwa [htracks.held]
  rw [hsplit, play_append, h]
  exact returns_of_stirred hstirred hbounded

include hleft

/-- **A ticket fires with the first overlap of what it waits for with what happens to its object.** -/
theorem follows_play (hsplit : schedule = earlier ++ .own :: later)
    (h : Moment (s.begin r) earlier s₁ c₁) (hjoins : c₁.joins? index = some target) :
    ∃ w, r.watches[index]? = some w ∧ ∀ mid rest, later = mid ++ rest →
      (play (c₁.step s₁) mid).2.Follows (r.flags.includes .singleShot) index target w.reportable
        (w.reportable.firstOverlap (aftermath target (c₁.step s₁) mid))
        (play (c₁.step s₁) mid).1.kernel := by
  obtain ⟨w, hw, hstart⟩ := follows_start hreached hvalid hroom hothers hwaits hunready hsplit h
    hjoins
  rw [singleShot_of_moment hvalid hroom h] at hstart
  refine ⟨w, hw, fun mid rest hlater => ?_⟩
  induction mid using List.reverseRecOn generalizing rest with
  | nil => exact hstart
  | append_singleton mid t ih =>
    have hbefore := ih (t :: rest) (by rw [hlater, List.append_assoc]; rfl)
    have hcut : schedule = (earlier ++ .own :: mid) ++ t :: rest := by
      rw [hsplit, hlater, List.append_assoc, List.append_assoc]
      rfl
    have hreach : play (s.begin r) (earlier ++ .own :: mid) = play (c₁.step s₁) mid := by
      rw [play_append, h]
      rfl
    rw [play_concat]
    rcases hp : play (c₁.step s₁) mid with ⟨s₂, c₂ | reply⟩ <;> rw [hp] at hbefore
    · have hmoment : Moment (s.begin r) (earlier ++ .own :: mid) s₂ c₂ := hreach.trans hp
      obtain ⟨horderly, hid, -⟩ :=
        orderly_of_moment hreached hvalid hroom hothers hcut hmoment
      cases t with
      | other op =>
        have hbelow : op.Below c₂.session.id := by
          rw [hid]
          refine hothers op ?_
          rw [hcut]
          exact List.mem_append_right _ List.mem_cons_self
        have hkeeps := holds_of_throughout (hcut ▸ hleft)
        rw [hmoment] at hkeeps
        have hnext := hbefore.effect horderly hbelow fun ticket hticket token hplace =>
          ne_disenroll_of_leavesTickets hkeeps hticket hplace
        rw [aftermath_concat_other, hp]
        -- an operation counts as long as the call has not drained
        by_cases hcollects : (Progress.running c₂).collects = true
        · rw [if_pos hcollects, Events.firstOverlap_concat]
          simp only [hcollects, true_and] at hnext
          exact hnext
        · rw [if_neg hcollects, List.append_nil]
          rw [if_neg fun hand => hcollects hand.1] at hnext
          exact hnext
      | own =>
        have hpatient :=
          patient_of_moment hreached hvalid hroom hothers hwaits hunready hcut hmoment
        have hfinds := holds_of_throughout (hcut ▸ hunready)
        rw [hmoment] at hfinds
        rw [aftermath_concat_own]
        rw [← singleShot_of_moment hvalid hroom hmoment] at hbefore ⊢
        exact hbefore.steps horderly hpatient (of_decide_eq_true hfinds) (Call.steps_step s₂ c₂)
    · cases t with
      | other op =>
        rw [aftermath_concat_other, hp, if_neg Bool.noConfusion, List.append_nil]
        exact hbefore
      | own =>
        rw [aftermath_concat_own]
        exact hbefore

/-- The row of a watch says what the call knows of its ticket. -/
theorem follows_of_enlists (hsplit : schedule = earlier ++ later)
    (h : Enlists (s.begin r) earlier index target) :
    ∃ w, r.watches[index]? = some w ∧
      (play (s.begin r) earlier).2.Follows (r.flags.includes .singleShot) index target w.reportable
        (w.reportable.firstOverlap (aftermathOf index (s.begin r) earlier))
        (play (s.begin r) earlier).1.kernel := by
  obtain ⟨before, mid, s₂, c₂, hcut, hmoment, hjoins, hrow⟩ := h
  have hschedule : schedule = before ++ .own :: (mid ++ later) := by
    rw [hsplit, hcut, List.append_assoc]
    rfl
  have hplay : play (s.begin r) earlier = play (c₂.step s₂) mid := by
    rw [hcut, play_append, hmoment]
    rfl
  obtain ⟨w, hw, hfollows⟩ :=
    follows_play hreached hvalid hroom hothers hwaits hunready hleft hschedule hmoment hjoins
  rw [hrow, hplay]
  exact ⟨w, hw, hfollows mid later rfl⟩

end Runs

/-! ## Waits that report the first overlap -/

/-- What a call that found nothing ready replies about what has happened while it waited. -/
structure OverlapReply (s : System) (r : Request) (schedule : List (Turn Operation))
    (reply : Reply) : Prop where
  /-- a watch had a ticket for the object that its name stood for, or its name stood for none -/
  enlisted : ∀ (i : Nat) (w : Watch), reply.watches[i]? = some w →
    (∃ target k, Enlists (s.begin r) schedule i target ∧ LooksUp (s.begin r) schedule i k ∧
      k.registry.lookup? w.kind w.id = some target) ∨
    (w.status = .invalidObject ∧ aftermathOf i (s.begin r) schedule = [])
  /-- unless only the first watch is asked for, every watch reports its first overlap -/
  reported : r.flags.includes .singleShot = false → ∀ (i : Nat) (w : Watch),
    reply.watches[i]? = some w →
      w.result = w.reportable.firstOverlap (aftermathOf i (s.begin r) schedule)
  /-- if anything has overlapped, the answer says how many watches report something -/
  answered : ∀ (i : Nat) (w : Watch), reply.watches[i]? = some w →
    w.reportable.firstOverlap (aftermathOf i (s.begin r) schedule) ≠ ∅ →
      reply.answer = .ok (.ready (reply.watches.countP Watch.isReady))

/-- What a call that finds nothing ready makes of what happens while it waits. -/
structure ReportsFirstOverlaps (s : System) (r : Request) (schedule : List (Turn Operation)) :
    Prop where
  /-- if it returns, it replies with the first overlaps -/
  replies : ∀ (s' : System) (reply : Reply),
    play (s.begin r) schedule = (s', .returned reply) → OverlapReply s r schedule reply
  /-- if anything has overlapped, it returns as soon as it has had its turns -/
  returns : ∀ (earlier later : List (Turn Operation)) (i : Nat) (w : Watch),
    schedule = earlier ++ later → r.watches[i]? = some w →
    w.reportable.firstOverlap (aftermathOf i (s.begin r) earlier) ≠ ∅ →
    3 * r.watches.length + 16 ≤ later.count .own →
    ∃ s' reply, play (s.begin r) schedule = (s', .returned reply)

/-- **A blocked wait reports exactly the first overlap** of each watch, whatever other threads do from
the enrolment to the drain, as long as nothing was ready at the enrolment and nobody else withdraws the
tickets of the call. -/
theorem reports_first_overlaps {handed : List (Target × Token)} {s : System} {r : Request}
    {schedule : List (Turn Operation)} (hreached : s.kernel.Reached handed)
    (hvalid : s.refusal? r = none) (hroom : r.watches.length < Limits.ticketSlots)
    (hothers : ∀ op, .other op ∈ schedule → op.Below s.kernel.sessions.nextId)
    (hwaits : (r.timeout.arm s.kernel.clock).hasPassed s.kernel.clock.now = false)
    (hunready : throughout findsNothing (s.begin r) schedule = true)
    (hleft : throughout leavesTickets (s.begin r) schedule = true) :
    ReportsFirstOverlaps s r schedule := by
  constructor
  · intro s' reply hplay
    obtain ⟨_, _, _, _, _, _, _, horderly, _, hsteps⟩ :=
      orderly_of_returned hreached hvalid hroom hothers hplay
    obtain ⟨-, -, -, hsound, -⟩ := horderly.returned hsteps
    have henlisted := fun {i : Nat} {w : Watch} (hw : reply.watches[i]? = some w) =>
      enlists_of_returned hreached hvalid hroom hothers hwaits hunready hplay hw
    -- what the watches say of a ticket
    have hreports : ∀ {i w target}, reply.watches[i]? = some w →
        Enlists (s.begin r) schedule i target →
        Reports (r.flags.includes .singleShot) i
          (w.reportable.firstOverlap (aftermathOf i (s.begin r) schedule)) reply.watches := by
      intro i w target hw henlists
      obtain ⟨w', hw', hfollows⟩ := follows_of_enlists hreached hvalid hroom hothers hwaits hunready
        hleft (List.append_nil _).symm henlists
      have hsame := congrArg (fun l => l[i]?) hsound.same
      simp only [List.getElem?_map, hw, hw', Option.map_some] at hsame
      rw [hplay] at hfollows
      rwa [Watch.reportable_congr (Option.some.inj hsame)]
    refine ⟨fun i w hw => henlisted hw, fun hall i w hw => ?_, fun i w hw hfired => ?_⟩
    · obtain ⟨target, k, henlists, -⟩ | ⟨hinvalid, hempty⟩ := henlisted hw
      · obtain ⟨w', hw', hresult⟩ := (hreports hw henlists).1 hall
        obtain rfl := Option.some.inj (hw.symm.trans hw')
        exact hresult
      · rw [hempty, Events.firstOverlap_nil]
        exact hsound.absent w (List.mem_of_getElem? hw) hinvalid
    · obtain ⟨target, k, henlists, -⟩ | ⟨-, hempty⟩ := henlisted hw
      · exact (hsound.ready_iff _).2 ⟨(hreports hw henlists).2 hfired, rfl⟩
      · rw [hempty, Events.firstOverlap_nil] at hfired
        exact absurd rfl hfired
  · intro earlier later i w hsplit hw hfired hturns
    obtain ⟨hempty, -⟩ | ⟨target, henlists⟩ := aftermathOf_cases i (s.begin r) earlier
    · rw [hempty, Events.firstOverlap_nil] at hfired
      exact absurd rfl hfired
    · obtain ⟨w', hw', hfollows⟩ := follows_of_enlists hreached hvalid hroom hothers hwaits hunready
        hleft hsplit henlists
      obtain rfl := Option.some.inj (hw.symm.trans hw')
      rcases hmoment : play (s.begin r) earlier with ⟨s₁, c₁ | reply⟩
      · rw [hmoment] at hfollows
        exact returns_of_follows hreached hvalid hroom hothers hwaits hunready hsplit hmoment
          hfollows hfired hturns
      · obtain ⟨s', hs'⟩ := returned_of_returned hmoment later
        exact ⟨s', reply, hsplit ▸ hs'⟩

/-- A call waits for a semaphore and twice for an endpoint. The semaphore is released and acquired again,
the endpoint is written to, read from and closed, and a signal comes in: the semaphore and the first watch
of the endpoint report what they were ready for first, and the second watch of the endpoint, which asks
for nothing, reports that it was closed. -/
theorem reports_first_overlaps_transient :
    let s : System :=
      { kernel := Operation.runAll { clock := { now := 0, horizon := 1000 } }
          [.create (.semaphore 0), .create (.endpoint 16)]
        config := .standard }
    let r : Request :=
      { thread := 7
        watches := [{ kind := .semaphore, id := 1, requested := .read },
          { kind := .endpoint, id := 3, requested := .read },
          { kind := .endpoint, id := 3, requested := ∅ }]
        flags := .interruptible
        timeout := .infinite }
    let schedule : List (Turn Operation) :=
      List.replicate 14 .own ++ [.other (.act 0 (.semaphore (.release 1))),
        .other (.act 0 (.semaphore (.acquire 1))), .other (.act 1 (.endpoint (.write [5]))),
        .other (.act 1 (.endpoint (.read 1))), .other (.send 3 7 .usr1),
        .other (.closeEndpoint 3)] ++ List.replicate 25 .own
    let reply : Reply :=
      { answer := .ok (.ready 3)
        watches := [{ kind := .semaphore, id := 1, requested := .read, result := .read, status := .ok },
          { kind := .endpoint, id := 3, requested := .read, result := .read, status := .ok },
          { kind := .endpoint, id := 3, requested := ∅, result := .invalid, status := .ok }] }
    (play (s.begin r) schedule).2 = .returned reply ∧
      aftermathOf 0 (s.begin r) schedule = [.read, ∅, ∅, ∅, ∅, ∅] ∧
      ReportsFirstOverlaps s r schedule := by
  intro s r schedule reply
  have hreached : s.kernel.Reached [] :=
    .operated (.operated (.boot { now := 0, horizon := 1000 }) (.create (.semaphore 0)) trivial)
      (.create (.endpoint 16)) trivial
  have hothers : ∀ op, .other op ∈ schedule → op.Below s.kernel.sessions.nextId := by
    intro op hop
    simp [schedule] at hop
    rcases hop with rfl | rfl | rfl | rfl | rfl | rfl <;> trivial
  have hplay : (play (s.begin r) schedule).2 = .returned reply := by cbv
  have hrow : aftermathOf 0 (s.begin r) schedule = [.read, ∅, ∅, ∅, ∅, ∅] := by cbv
  have hunready : throughout findsNothing (s.begin r) schedule = true := by cbv
  have hleft : throughout leavesTickets (s.begin r) schedule = true := by cbv
  exact ⟨hplay, hrow, reports_first_overlaps hreached (by cbv) (by decide) hothers (by cbv)
    hunready hleft⟩

end System

end KernelWait
