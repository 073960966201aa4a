import KernelWait.Proofs.Seats
import KernelWait.Proofs.Undisturbed

/-!
# Slots in line

Whoever tells an entry latches events for a slot, and the call that drains its session collects what was
latched for the descriptor of the ticket in that slot. Slots are handed out while entries leave the queues.

**Entries, slots and tickets stay in line, whatever happens** (`Company.keeps_slots_aligned`): a session has
a ticket for every entry and never one too many, no two entries share a slot, and what an entry is woken
with comes to the descriptor that it waits for.
-/

namespace KernelWait

/-! ## Wakeups and their descriptors -/

/-- What is latched for a ticket that waits for it is gathered for the ticket's index, and for no other. -/
theorem Session.gathered_harvest_latch {n : Notifier} {slot : Nat} {events : Events}
    {tickets : List Ticket} {ticket : Ticket} (hdistinct : (tickets.map Ticket.index).Nodup)
    (hticket : tickets[slot]? = some ticket) (hroom : slot < n.latched.length)
    (hphase : n.phase ≠ .done) (hwaited : events ⊆ ticket.interest) (i : Nat) :
    gathered i (harvest (n.latch slot events).1 0 tickets) =
      gathered i (harvest n 0 tickets) ∪ if i = ticket.index then events.truncate else ∅ := by
  by_cases hi : i = ticket.index
  · have hnamed : events.truncate ⊆ ticket.interest :=
      Events.subset_trans (Events.inter_subset_left _ _) hwaited
    rw [if_pos hi, hi, gathered_harvest hdistinct hticket, gathered_harvest hdistinct hticket,
      Nat.zero_add, Notifier.held_latch_self hroom hphase, Events.truncate,
      Events.union_inter_distrib, Events.union_inter_distrib]
    exact congrArg _ (Events.subset_iff.1 hnamed)
  · rw [if_neg hi, Events.union_empty]
    by_cases hcarried : ∃ other ∈ tickets, other.index = i
    · obtain ⟨other, hother, rfl⟩ := hcarried
      obtain ⟨j, hj⟩ := List.getElem?_of_mem hother
      have hne : j ≠ slot := by
        rintro rfl
        exact hi (congrArg Ticket.index (Option.some.inj (hj.symm.trans hticket)))
      rw [gathered_harvest hdistinct hj, gathered_harvest hdistinct hj, Nat.zero_add,
        Notifier.held_latch_ne hne]
    · have hnone : ∀ other ∈ tickets, other.index ≠ i := fun other hother heq =>
        hcarried ⟨other, hother, heq⟩
      rw [gathered_harvest_of_not_mem hnone, gathered_harvest_of_not_mem hnone]

namespace Call

variable {base : SessionId} {k : Kernel} {c : Call} {r : Request} {entry : QueueEntry} {ticket : Ticket}

/-- An entry reaches a descriptor: in whatever state its session is before the end, a wakeup of the entry
is accepted, and what the call would collect is the same but for that descriptor, which gets the events in
addition. -/
def Reaches (k : Kernel) (c : Call) (entry : QueueEntry) (index : Nat) : Prop :=
  ∀ (t : SessionTable) (n : Notifier) (events : Events), t.get? c.session.id = some n →
    n.phase ≠ .done → n.latched.length = c.session.capacity → entry.interest ∩ events ≠ ∅ →
    (t.wake entry.waker (entry.interest ∩ events)).2 = true ∧
    ∀ i, (c.collected { k with sessions := (t.wake entry.waker (entry.interest ∩ events)).1 })[i]? =
      ((c.collected { k with sessions := t })[i]?).map fun slot =>
        if i = index then
          { slot with watch := slot.watch.fire (entry.interest ∩ events).truncate }
        else slot

/-- An entry reaches the descriptor of its ticket. -/
theorem Sound.reaches (h : c.Sound r) (hfits : c.session.tickets.length ≤ c.session.capacity)
    (hticket : c.session.tickets[entry.waker.slot]? = some ticket)
    (hinterest : ticket.interest = entry.interest) (hid : entry.waker.session = c.session.id)
    (k : Kernel) : c.Reaches k entry ticket.index := by
  intro t n events hn hphase hroom hmet
  have hslot : entry.waker.slot < n.latched.length := by
    rw [hroom]
    exact Nat.lt_of_lt_of_le (List.getElem?_eq_some_iff.1 hticket).1 hfits
  have hwaited : entry.interest ∩ events ⊆ ticket.interest := by
    rw [hinterest]
    exact Events.inter_subset_left _ _
  have hbefore : c.session.notifier? { k with sessions := t } = some n := hn
  have hafter : c.session.notifier?
      { k with sessions := (t.wake entry.waker (entry.interest ∩ events)).1 } =
        some (n.latch entry.waker.slot (entry.interest ∩ events)).1 := by
    rw [Session.notifier?, ← hid, SessionTable.get?_wake_self, hid, hn]
    rfl
  refine ⟨?_, fun i => ?_⟩
  · rw [SessionTable.wake, hid, hn]
    exact (n.latch_accepted_iff _ _).2 ⟨hphase, hmet, hslot⟩
  · rw [getElem?_collected, getElem?_collected, Session.drain_fired hafter,
      Session.drain_fired hbefore,
      Session.gathered_harvest_latch h.distinct hticket hslot hphase hwaited, Option.map_map]
    refine congrArg (fun f => (c.slots[i]?).map f) ?_
    funext slot
    by_cases hi : i = ticket.index
    · simp only [Function.comp_apply, if_pos hi, Watch.fire, Events.union_assoc]
    · simp only [Function.comp_apply, if_neg hi, Events.union_empty]

/-- What is latched for a slot is collected for the descriptor of its ticket. -/
theorem Sound.collected_of_held (h : c.Sound r) {n : Notifier} (hattended : c.Attended k n) {j : Nat}
    (hheld : n.held j ≠ ∅) : ∃ ticket slot, c.session.tickets[j]? = some ticket ∧
      c.slots[ticket.index]? = some slot ∧ (c.collected k)[ticket.index]? =
        some { slot with watch := slot.watch.fire (n.held j) } := by
  obtain ⟨ticket, hticket, hwaited, hnamed⟩ := hattended.serves.awaited j hheld
  obtain ⟨slot, hslot, -, -⟩ := h.matched ticket (List.mem_of_getElem? hticket)
  have hslot := getElem?_slots_of_passed hslot
  refine ⟨ticket, slot, hticket, hslot, ?_⟩
  -- all of it has names and was waited for, so nothing is lost on the way
  rw [getElem?_collected, hslot, Option.map_some, Session.drain_fired hattended.notifier,
    Session.gathered_harvest h.distinct hticket, Nat.zero_add, Events.truncate,
    Events.subset_iff.1 hnamed, Events.subset_iff.1 hwaited]

/-- The slots of a call, its tickets and the entries of its session are in line. -/
structure Aligned (k : Kernel) (c : Call) : Prop where
  /-- there is room for a ticket for each descriptor -/
  capacity : c.session.capacity = c.slots.length
  /-- there are no more tickets than that -/
  fits : c.session.tickets.length ≤ c.session.capacity
  /-- until the call leaves, its notifier has as many slots -/
  slots : (∀ answer, c.stage ≠ .leaving answer) → ∃ n, c.session.notifier? k = some n ∧
    n.phase ≠ .done ∧ n.latched.length = c.session.capacity
  /-- no descriptor ahead is turned down for having one ticket too many -/
  room : (∀ answer, c.stage ≠ .leaving answer) → c.ahead ≠ [] → ∀ index target interest cause,
    c.session.enroll k index target interest ≠ .error cause
  /-- nor does the call leave for that reason -/
  unexhausted : ∀ text, c.stage ≠ .leaving (.error (.resourceExhausted text))
  /-- every entry of the session has a ticket in its slot, with the same interest, of a descriptor that was
  resolved to the object -/
  backed : ∀ target entry, k.Queued target entry → entry.waker.session = c.session.id →
    ∃ ticket, c.Backs target entry ticket
  /-- until the call leaves, the ticket has the entry's token, and the entry reaches its descriptor -/
  placed : (∀ answer, c.stage ≠ .leaving answer) → ∀ target entry ticket, k.Queued target entry →
    entry.waker.session = c.session.id → c.Backs target entry ticket →
    ticket.place = some (target, entry.token) ∧ c.Reaches k entry ticket.index
  /-- until the call leaves, all that is latched for a slot would be collected for the descriptor of its
  ticket -/
  credited : (∀ answer, c.stage ≠ .leaving answer) → ∀ n j, c.session.notifier? k = some n →
    n.held j ≠ ∅ → ∃ ticket slot, c.session.tickets[j]? = some ticket ∧
      c.slots[ticket.index]? = some slot ∧ (c.collected k)[ticket.index]? =
        some { slot with watch := slot.watch.fire (n.held j) }
  /-- no two entries of one queue share a slot -/
  unshared : k.Unshared c.session.id
  /-- nor do two entries of different queues -/
  separate : ∀ target other entry entry', k.Queued target entry → k.Queued other entry' →
    entry.waker.session = c.session.id → entry'.waker = entry.waker → target = other

/-- The tickets of one slot belong to one object. -/
theorem Backs.target_eq {target other : Target} {entry' : QueueEntry} {ticket' : Ticket}
    (h : c.Backs target entry ticket) (h' : c.Backs other entry' ticket')
    (hslot : entry'.waker.slot = entry.waker.slot) : target = other := by
  have hticket := h'.slot
  rw [hslot, h.slot] at hticket
  obtain rfl := Option.some.inj hticket
  obtain ⟨slot, hslot, htarget, -⟩ := h.descriptor
  obtain ⟨slot', hslot', htarget', -⟩ := h'.descriptor
  obtain rfl := Option.some.inj (hslot.symm.trans hslot')
  exact Option.some.inj (htarget.symm.trans htarget')

/-- **A call that keeps its seat has its slots in line.** -/
theorem Seated.aligned (h : c.Seated base k) : c.Aligned k where
  capacity := by
    obtain ⟨r, hr, hcapacity⟩ := h.orderly
    rw [hcapacity, hr.length_slots]
  fits := h.fits
  slots hstays := by
    obtain ⟨r, -, n, hattended⟩ := h.sound hstays
    exact ⟨n, hattended.notifier, hattended.serves.running, hattended.room⟩
  room hstays hahead index target interest cause henroll := by
    have hroom := h.tickets_lt hstays hahead
    obtain ⟨hfull, -⟩ | ⟨-, heq⟩ | ⟨_, -, -, heq⟩ | ⟨_, -, -, -, heq⟩ :=
      c.session.enroll_cases k index target interest
    · exact absurd hroom (Nat.not_lt.2 hfull)
    · cases heq.symm.trans henroll
    · cases heq.symm.trans henroll
    · cases heq.symm.trans henroll
  unexhausted := h.unexhausted
  backed := h.backed
  placed hstays target entry ticket hqueued hid hbacks := by
    obtain ⟨r, hsound, n, hattended⟩ := h.sound hstays
    obtain ⟨ticket', hticket', hplace, -⟩ := hattended.covers target entry hqueued hid
    obtain rfl := Option.some.inj (hbacks.slot.symm.trans hticket')
    exact ⟨hplace, hsound.reaches h.fits hbacks.slot hbacks.interest hid k⟩
  credited hstays n j hn hheld := by
    obtain ⟨r, hsound, n', hattended⟩ := h.sound hstays
    obtain rfl := Option.some.inj (hattended.notifier.symm.trans hn)
    exact hsound.collected_of_held hattended hheld
  unshared := h.unshared
  separate target other entry entry' hqueued hqueued' hid hwaker := by
    obtain ⟨ticket, hbacks⟩ := h.backed target entry hqueued hid
    obtain ⟨ticket', hbacks'⟩ := h.backed other entry' hqueued' (by rw [hwaker, hid])
    exact hbacks.target_eq hbacks' (by rw [hwaker])

end Call

/-! ## Wakeups that are accepted -/

/-- Other threads take nothing out of the slots of a session. -/
theorem Operation.Reach.held_subset {k k' : Kernel} {id : SessionId} {n n' : Notifier}
    (h : Reach k k' id n n') (slot : Nat) : n.held slot ⊆ n'.held slot := by
  cases h with
  | nothing => exact Events.subset_refl _
  | aborted =>
    rw [Notifier.held, Notifier.held, n.latched_interrupt]
    exact Events.subset_refl _
  | told target e e' he he' => exact n.held_subset_latchAll _ _ _ slot

namespace Call

variable {k k' : Kernel} {c₀ c c' : Call} {n₀ : Notifier}

/-- A call has all that it had at another moment, when its notifier was that one: its tickets are the
same and more, and nothing that was latched for them is lost. -/
structure Retains (c₀ : Call) (n₀ : Notifier) (k : Kernel) (c : Call) : Prop where
  /-- its tickets are there, in their slots -/
  tickets : c₀.session.tickets <+: c.session.tickets
  /-- so is what was latched -/
  held : ∃ n, c.session.notifier? k = some n ∧ ∀ slot, n₀.held slot ⊆ n.held slot

theorem Retains.refl (hn : c.session.notifier? k = some n₀) : c.Retains n₀ k c :=
  ⟨List.prefix_refl _, n₀, hn, fun _ => Events.subset_refl _⟩

theorem Retains.effect (h : c₀.Retains n₀ k c) (op : Operation) :
    c₀.Retains n₀ (op.effect k) c := by
  obtain ⟨n, hn, hheld⟩ := h.held
  obtain ⟨n', hn', hreach⟩ := (op.effects_effect k).get?_session hn
  exact ⟨h.tickets, n', hn', fun slot => Events.subset_trans (hheld slot) (hreach.held_subset slot)⟩

theorem Retains.of_get? (h : c₀.Retains n₀ k c)
    (hsame : k'.sessions.get? c.session.id = k.sessions.get? c.session.id) :
    c₀.Retains n₀ k' c := by
  obtain ⟨n, hn, hheld⟩ := h.held
  exact ⟨h.tickets, n, hsame.trans hn, hheld⟩

/-- The call itself takes nothing until it drains. -/
theorem Retains.steps (h : c₀.Retains n₀ k c) (hstep : Steps k c k' (.running c'))
    (hstays : ∀ answer, c'.stage ≠ .leaving answer) : c₀.Retains n₀ k' c' := by
  obtain ⟨n, hn, hheld⟩ := h.held
  obtain ⟨n', hn', hlatched, -, -⟩ := hstep.get?_notifier hstays hn
  refine ⟨?_, n', hn', fun slot => ?_⟩
  · obtain ⟨-, hsession⟩ | ⟨_, _, _, _, -, -, -, -, -, -, hsession⟩ | ⟨⟨answer, hleaving⟩, -⟩ :=
      hstep.ticket_cases
    · rw [hsession]
      exact h.tickets
    · rw [hsession]
      exact h.tickets.trans (List.prefix_append _ _)
    · exact absurd hleaving (hstays answer)
  · have hsame : n'.held slot = n.held slot := by rw [Notifier.held, Notifier.held, hlatched]
    rw [hsame]
    exact hheld slot

end Call

/-! ## All calls -/

/-- A wait that begins opens a session and takes a seat, or does nothing to the kernel. It may have read
the clock. -/
theorem Invocation.seated_begin {base : SessionId} {s : System} (hattributed : s.kernel.Attributed)
    (hbase : base ≤ s.kernel.sessions.nextId) (v : Invocation) :
    ((v.begin s).2.call? = none ∧ s.kernel.Consults (v.begin s).1.kernel) ∨
    ∃ c n k, (v.begin s).2.call? = some c ∧ c.session.id = s.kernel.sessions.nextId ∧
      s.kernel.Consults k ∧ (v.begin s).1.kernel = { k with sessions := k.sessions.add n } ∧
      c.Seated base (v.begin s).1.kernel := by
  obtain ⟨hnone, hkernel, -⟩ | ⟨s₀, r, c, hkernel, -, hbegin, hc, -⟩ := v.call_cases s
  · exact .inl ⟨hnone, hkernel⟩
  · rw [← hkernel] at hattributed hbase ⊢
    obtain ⟨hseated, hid, n, k, hconsults, hopened⟩ := Call.Seated.begin hattributed hbase hbegin
    exact .inr ⟨c, n, k, hc, hid, hconsults, hopened, hseated⟩

namespace Company

/-- Every wait in progress has its seat, and no two have the same session. -/
structure Seated (base : SessionId) (co : Company) : Prop where
  /-- whoever waits belongs to a session that was opened -/
  attributed : co.system.kernel.Attributed
  /-- the sessions before were opened -/
  opened : base ≤ co.system.kernel.sessions.nextId
  /-- every wait in progress has its seat -/
  calls : ∀ name c, co.call? name = some c → c.Seated base co.system.kernel
  /-- no two waits share a session -/
  apart : ∀ name other, name ≠ other → ∀ c d, co.call? name = some c → co.call? other = some d →
    c.session.id ≠ d.session.id

variable {base : SessionId} {co : Company} {name : Nat}

/-- Before any wait is made. -/
theorem Seated.start {handed : List (Target × Token)} {s : System} (h : s.kernel.Reached handed) :
    Seated s.kernel.sessions.nextId { system := s } :=
  ⟨fun _ _ => h.opened_of_queued, Nat.le_refl _, fun _ _ hc => (by cases hc),
    fun _ _ _ _ _ hc => (by cases hc)⟩

/-- One wait comes further: it keeps its seat, and so do all others. -/
theorem Seated.put (h : co.Seated base) {p : System × Wait} (hattributed : p.1.kernel.Attributed)
    (hopened : co.system.kernel.sessions.nextId ≤ p.1.kernel.sessions.nextId)
    (hothers : ∀ other, other ≠ name → ∀ d, co.call? other = some d → d.Seated base p.1.kernel)
    (hown : ∀ c, p.2.call? = some c → c.Seated base p.1.kernel ∧
      ∀ other, other ≠ name → ∀ d, co.call? other = some d → c.session.id ≠ d.session.id) :
    (co.put name p).Seated base := by
  refine ⟨hattributed, Nat.le_trans h.opened hopened, fun other c hc => ?_,
    fun first second hne c d hc hd =>
      apart_put h.apart (fun c hc => (hown c hc).2) hne hc hd⟩
  obtain ⟨-, hc⟩ | ⟨hother, hc⟩ := call?_put_cases hc
  · exact (hown c hc).1
  · exact hothers other hother c hc

/-- A wait is made, and all others keep their seats. -/
theorem Seated.begin (h : co.Seated base) (v : Invocation) :
    (co.put name (v.begin co.system)).Seated base := by
  obtain ⟨hnone, hconsults⟩ | ⟨c, n, k, hc, hid, hconsults, hkernel, hseated⟩ :=
    v.seated_begin h.attributed h.opened
  · refine h.put (h.attributed.consults hconsults) ?_
      (fun other _ d hd => (h.calls other d hd).consults hconsults) fun c hc => ?_
    · rw [hconsults.sessions_eq]
    · cases hnone.symm.trans hc
  · refine h.put ?_ ?_ (fun other _ d hd => ?_) fun c' hc' => ?_
    · rw [hkernel]
      exact (h.attributed.consults hconsults).add n
    · rw [hkernel, SessionTable.nextId_add, hconsults.sessions_eq]
      exact Nat.le_succ _
    · rw [hkernel]
      exact ((h.calls other d hd).consults hconsults).add n
    · obtain rfl := Option.some.inj (hc.symm.trans hc')
      refine ⟨hseated, fun other _ d hd => ?_⟩
      rw [hid]
      exact Nat.ne_of_gt (h.calls other d hd).opened

/-- A wait makes a step, and all others keep their seats. -/
theorem Seated.step (h : co.Seated base) {w : Wait} (hwait : co.wait? name = some w) :
    (co.put name (w.step co.system)).Seated base := by
  rcases hcall : w.call? with _ | c
  · rw [Wait.step_of_over hcall]
    exact h.put h.attributed (Nat.le_refl _) (fun other _ d hd => h.calls other d hd)
      fun c hc => by cases hcall.symm.trans hc
  · have hc : co.call? name = some c := by rw [call?, hwait, Option.bind_some, hcall]
    have hseated := h.calls name c hc
    have hsteps := Call.steps_step co.system c
    rw [Wait.step_of_call hcall]
    refine h.put (hsteps.attributed h.attributed hseated.opened)
      (Nat.le_of_eq hsteps.nextId_eq.symm)
      (fun other hother d hd =>
        (h.calls other d hd).beside hsteps (h.apart other name hother d c hd hc))
      fun c' hc' => ?_
    rw [Wait.call?_after hcall] at hc'
    rcases hp : (c.step co.system).2 with c₁ | reply <;> rw [hp] at hc' hsteps
    · obtain rfl := Option.some.inj hc'
      refine ⟨hseated.steps hsteps, fun other hother d hd => ?_⟩
      rw [hsteps.id_eq]
      exact (h.apart other name hother d c hd hc).symm
    · cases hc'

/-- **Whatever happens, every wait keeps its seat**, if the other threads name older sessions only. -/
theorem Seated.turn (h : co.Seated base) {m : Move} (hbelow : m.Below base) :
    (co.turn m).Seated base := by
  cases m with
  | operate op =>
    have hbelow : op.Below base := hbelow
    exact ⟨h.attributed.effect (hbelow.mono h.opened), (op.nextId_effect _).symm ▸ h.opened,
      fun name c hc => (h.calls name c hc).effect hbelow, h.apart⟩
  | start name v =>
    rcases hwait : co.wait? name with _ | w
    · rw [turn_start_of_none hwait]
      exact h.begin v
    · rwa [turn_start_of_some hwait]
  | step name =>
    rcases hwait : co.wait? name with _ | w
    · rwa [turn_step_of_none hwait]
    · rw [turn_step_of_some hwait]
      exact h.step hwait

theorem Seated.play (h : co.Seated base) {script : List Move} (hbelow : ∀ m ∈ script, m.Below base) :
    (co.play script).Seated base := by
  induction script using List.reverseRecOn with
  | nil => exact h
  | append_singleton script m ih =>
    rw [play_concat]
    exact (ih fun m' hm' => hbelow m' (List.mem_append_left _ hm')).turn
      (hbelow m (List.mem_append_right _ List.mem_cons_self))

/-- The wait of a name was made, and its call has all that it had before, until it leaves. -/
structure Retains (name : Nat) (c₀ : Call) (n₀ : Notifier) (co : Company) : Prop where
  /-- the wait was made -/
  made : ∃ w, co.wait? name = some w
  /-- its call has what it had -/
  call : ∀ c, co.call? name = some c → (∀ answer, c.stage ≠ .leaving answer) →
    c₀.Retains n₀ co.system.kernel c

variable {c₀ : Call} {n₀ : Notifier}

/-- A step of the wait itself takes nothing away. -/
theorem Retains.step (h : co.Retains name c₀ n₀) : (co.turn (.step name)).Retains name c₀ n₀ := by
  obtain ⟨w, hw⟩ := h.made
  rw [turn_step_of_some hw]
  refine ⟨⟨_, wait?_put_self _ _ _⟩, fun c hc hstays => ?_⟩
  rw [call?_put_self] at hc
  rcases hcall : w.call? with _ | d
  · rw [Wait.step_of_over hcall, hcall] at hc
    cases hc
  · have hd : co.call? name = some d := by rw [call?, hw, Option.bind_some, hcall]
    have hsteps := Call.steps_step co.system d
    rw [Wait.step_of_call hcall, Wait.call?_after hcall] at hc
    rw [Wait.step_of_call hcall]
    rcases hp : (d.step co.system).2 with c₁ | reply <;> rw [hp] at hc hsteps
    · obtain rfl := Option.some.inj hc
      exact (h.call d hd hsteps.stays).steps hsteps hstays
    · cases hc

/-- Whatever happens, a call that has not come to leave has what it had. -/
theorem Retains.turn (h : co.Retains name c₀ n₀) (hseated : co.Seated base) (m : Move) :
    (co.turn m).Retains name c₀ n₀ := by
  by_cases hm : m.concerns name = true
  · cases m with
    | operate op => exact ⟨h.made, fun c hc hstays => (h.call c hc hstays).effect op⟩
    | start other v =>
      obtain rfl := eq_of_beq hm
      obtain ⟨w, hw⟩ := h.made
      rwa [turn_start_of_some hw]
    | step other =>
      obtain rfl := eq_of_beq hm
      exact h.step
  · rw [Bool.not_eq_true] at hm
    have hwait := wait?_turn_of_not hm co
    refine ⟨by rw [hwait]; exact h.made, fun c hc hstays => ?_⟩
    rw [call?, hwait, ← call?] at hc
    refine (h.call c hc hstays).of_get? (get?_turn_of_not hm (hseated.calls name c hc).opened ?_)
    exact fun other hother d hd => hseated.apart name other (Ne.symm hother) c d hc hd

theorem Retains.play (h : co.Retains name c₀ n₀) (hseated : co.Seated base) {script : List Move}
    (hbelow : ∀ m ∈ script, m.Below base) : (co.play script).Retains name c₀ n₀ := by
  induction script using List.reverseRecOn with
  | nil => exact h
  | append_singleton script m ih =>
    have hbefore : ∀ m ∈ script, m.Below base := fun m' hm' =>
      hbelow m' (List.mem_append_left _ hm')
    rw [play_concat]
    exact (ih hbefore).turn (hseated.play hbefore) m

/-- What is kept in line while a script is played in a system, seen from the call of one wait. -/
structure InLine (handed : List (Target × Token)) (s : System) (script : List Move) (name : Nat)
    (c : Call) : Prop where
  /-- its slots, its tickets and its entries are in line -/
  aligned : c.Aligned (play { system := s } script).system.kernel
  /-- until it leaves, nothing that was latched for its slots at any moment before is lost -/
  retained : (∀ answer, c.stage ≠ .leaving answer) → ∀ earlier later c₀ n₀,
    script = earlier ++ later → (play { system := s } earlier).call? name = some c₀ →
    c₀.session.notifier? (play { system := s } earlier).system.kernel = some n₀ →
    c₀.Retains n₀ (play { system := s } script).system.kernel c
  /-- once it leaves no entry of its session is left, if there were numbers enough for tickets -/
  gone : handed.length + script.length < UInt64.size → ∀ answer, c.stage = .leaving answer →
    ∀ target entry, (play { system := s } script).system.kernel.Queued target entry →
      entry.waker.session ≠ c.session.id

/-- **Slots, tickets and entries stay in line in every wait**, whatever happens to the objects and whatever
other waits there are. -/
theorem keeps_slots_aligned {handed : List (Target × Token)} {s : System}
    (hreached : s.kernel.Reached handed) {script : List Move}
    (hbelow : ∀ m ∈ script, m.Below s.kernel.sessions.nextId) {name : Nat} {c : Call}
    (hc : (play { system := s } script).call? name = some c) : InLine handed s script name c := by
  have hstart := Seated.start hreached
  refine ⟨((hstart.play hbelow).calls name c hc).aligned,
    fun hstays earlier later c₀ n₀ hsplit hc₀ hn₀ => ?_, fun hroom => ?_⟩
  · subst hsplit
    have hseated := hstart.play fun m hm => hbelow m (List.mem_append_left _ hm)
    obtain ⟨w, hw, -⟩ := Option.bind_eq_some_iff.1 hc₀
    have hretains : (play { system := s } earlier).Retains name c₀ n₀ := by
      refine ⟨⟨w, hw⟩, fun c₁ hc₁ _ => ?_⟩
      obtain rfl := Option.some.inj (hc₀.symm.trans hc₁)
      exact .refl hn₀
    rw [play_append] at hc ⊢
    exact (hretains.play hseated fun m hm => hbelow m (List.mem_append_right _ hm)).call c hc hstays
  · obtain ⟨more, -, hsound⟩ := (Sound.start hreached).play hbelow hroom
    exact (hsound.rooted name c hc).gone

/-- A wait for a semaphore that is named twice, for one that is missing, and for an endpoint. The semaphore
is released and acquired again between the two times that its queue is joined, so the first entry has
fired and left when the second one gets the next slot. -/
theorem keeps_slots_aligned_named_twice :
    let s : System :=
      { kernel := Operation.runAll { clock := { now := 0, horizon := 1000 } }
          [.create (.semaphore 0), .create (.endpoint 16)]
        config := .standard }
    let v : Invocation := .multiplexer
      { thread := 7
        watches := [{ kind := .semaphore, id := 1, requested := .read },
          { kind := .semaphore, id := 9, requested := .read },
          { kind := .semaphore, id := 1, requested := .read },
          { kind := .endpoint, id := 3, requested := .read }]
        flags := ∅
        timeout := .infinite }
    let script : List Move :=
      .start 1 v :: List.replicate 7 (.step 1) ++
        [.operate (.act 0 (.semaphore (.release 1))), .operate (.act 0 (.semaphore (.acquire 1)))] ++
        List.replicate 5 (.step 1)
    let co := play { system := s } script
    (∃ c, co.call? 1 = some c ∧ InLine [] s script 1 c) ∧
    (co.call? 1).map (fun c => c.session.tickets.map fun t => (t.index, t.place)) =
      some [(0, some (0, 0)), (2, some (0, 1)), (3, some (1, 0))] ∧
    (co.system.kernel.registry.entities.map fun e => e.queue.entries.map QueueEntry.waker) =
      [[⟨0, 1⟩], [⟨0, 2⟩]] := by
  intro s v script co
  have hreached : s.kernel.Reached [] :=
    .operated (.operated (.boot { now := 0, horizon := 1000 }) (.create (.semaphore 0)) trivial)
      (.create (.endpoint 16)) trivial
  have hbelow : ∀ m ∈ script, m.Below s.kernel.sessions.nextId := by
    intro m hm
    simp [script] at hm
    rcases hm with rfl | rfl | rfl | rfl | rfl <;> trivial
  obtain ⟨c, hc⟩ : ∃ c, co.call? 1 = some c := Option.isSome_iff_exists.1 (by cbv)
  exact ⟨⟨c, hc, keeps_slots_aligned hreached hbelow hc⟩, by cbv, by cbv⟩

end Company

end KernelWait
