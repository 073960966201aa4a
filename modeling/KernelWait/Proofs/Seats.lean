import KernelWait.Proofs.Footing

/-!
# Seats

A ticket gets the next slot of its session when its entry joins a queue. Names that stand for nothing and
objects that are ready at once take no slot, an object that is named twice takes two, and meanwhile entries
leave the queues whenever somebody is told.

**A call keeps its seat** (`Call.Seated`), whoever moves: another thread (`Call.Seated.effect`), another
call (`Call.Seated.beside`) or the call itself (`Call.Seated.steps`). Every entry of a seated call has a
ticket in its slot, no two of them share one, and there is room for all.
-/

namespace KernelWait

/-! ## Slots in queues -/

namespace WaitQueue

/-- No two entries of a queue wait for the same slot of a session. -/
def Unshared (id : SessionId) (q : WaitQueue) : Prop := ((q.waiting id).map Prod.fst).Nodup

variable {id : SessionId} {q q' : WaitQueue}

/-- A session without an entry shares nothing. -/
theorem unshared_of_none (h : ∀ entry ∈ q.entries, entry.waker.session ≠ id) : q.Unshared id := by
  have hnone : q.entries.filter (·.waker.session == id) = [] :=
    List.filter_eq_nil_iff.2 fun entry hentry => by
      rw [beq_iff_eq]
      exact h entry hentry
  rw [Unshared, waiting, hnone]
  exact List.nodup_nil

theorem Unshared.notify (h : q.Unshared id) (events : Events) (t : SessionTable) :
    (q.notify events t).1.Unshared id := by
  by_cases hne : events = ∅
  · rwa [hne, notify_empty]
  · rw [Unshared, waiting_notify id hne]
    exact h.sublist (List.filter_sublist.map _)

theorem Unshared.remove (h : q.Unshared id) (token : Token) : (q.remove token).1.Unshared id := by
  rcases hfind : q.entries.findIdx? (·.token == token) with _ | i
  · rwa [WaitQueue.remove, hfind]
  · obtain ⟨hi, -, -⟩ := List.findIdx?_eq_some_iff_getElem.1 hfind
    rw [WaitQueue.remove, hfind]
    -- up to order, one entry was there in front of those that are left
    have hperm := (((removeAt_perm hi).filter (·.waker.session == id)).map
      fun entry => (entry.waker.slot, entry.interest)).map Prod.fst
    exact (hperm.nodup_iff.2 h).sublist ((((List.sublist_cons_self _ _).filter _).map _).map _)

/-- An entry for a new slot shares it with none. -/
theorem Unshared.append (h : q.Unshared id) {entry : QueueEntry}
    (hq : q'.entries = q.entries ++ [entry]) (hid : entry.waker.session = id)
    (hnew : ∀ other ∈ q.entries, other.waker.session = id →
      other.waker.slot ≠ entry.waker.slot) : q'.Unshared id := by
  rw [Unshared, waiting_append_self hq hid, List.map_append, List.nodup_append]
  refine ⟨h, List.nodup_singleton _, fun slot hslot taken htaken => ?_⟩
  rw [waiting, List.map_map] at hslot
  obtain ⟨other, hother, rfl⟩ := List.mem_map.1 hslot
  rw [List.mem_filter, beq_iff_eq] at hother
  obtain rfl := List.mem_singleton.1 htaken
  exact hnew other hother.1 hother.2

end WaitQueue

/-- Other threads let no entry share a slot of a session. -/
theorem Operation.Change.unshared {sessions : SessionTable} {target : Target} {e e' : Entity}
    {op : Operation} {id : SessionId} (h : Change sessions target e op e') (hforeign : op.Foreign id)
    (hunshared : e.queue.Unshared id) : e'.queue.Unshared id := by
  cases h with
  | kept => exact hunshared
  | acted a =>
    obtain ⟨hqueue, -, -⟩ | ⟨hqueue, -⟩ := e.act_cases a sessions <;> rw [hqueue]
    · exact hunshared
    · exact hunshared.notify _ _
  | enrolled interest waker =>
    by_cases hready : e.readiness ∩ interest = ∅
    · have hqueue := congrArg WaitQueue.entries (Entity.queue_enroll_of_disjoint hready waker)
      rwa [WaitQueue.Unshared, WaitQueue.waiting_append_of_ne hqueue hforeign]
    · rwa [Entity.enroll_of_ready hready]
  | withdrawn token => exact hunshared.remove token

namespace Kernel

/-- No two entries of one queue wait for the same slot of a session. -/
def Unshared (id : SessionId) (k : Kernel) : Prop :=
  ∀ target e, k.registry.get? target = some e → e.queue.Unshared id

/-- Whoever waits belongs to a session that was opened. -/
def Attributed (k : Kernel) : Prop :=
  ∀ target entry, k.Queued target entry → entry.waker.session < k.sessions.nextId

variable {id : SessionId} {k k' : Kernel}

theorem Unshared.of_registry (h : k.Unshared id) (hregistry : k'.registry = k.registry) :
    k'.Unshared id := fun target e he => h target e (hregistry ▸ he)

theorem Unshared.effect (h : k.Unshared id) {op : Operation} (hforeign : op.Foreign id) :
    (op.effect k).Unshared id := by
  intro target e' he'
  obtain ⟨-, hnew⟩ | ⟨e, he, hchange⟩ := (op.effects_effect k).get?_cases he'
  · rw [hnew]
    exact List.nodup_nil
  · exact hchange.unshared hforeign (h target e he)

theorem Unshared.leaveAll (h : k.Unshared id) (tickets : List Ticket) :
    (k.leaveAll tickets).Unshared id := by
  induction tickets generalizing k with
  | nil => exact h
  | cons ticket tickets ih =>
    rw [leaveAll_cons]
    refine ih ?_
    rcases hplace : ticket.place with _ | ⟨target, token⟩
    · rwa [Ticket.leave_of_none hplace]
    · rw [Ticket.leave_of_some hplace]
      exact h.effect trivial

/-- An entry that joins a queue for a slot that nobody waits for shares it with none. -/
theorem Unshared.enroll (h : k.Unshared id) {target : Target} {e : Entity} {interest : Events}
    (he : k.registry.get? target = some e) (hready : e.readiness ∩ interest = ∅) {slot : Nat}
    (hnew : ∀ other entry, k.Queued other entry → entry.waker.session = id →
      entry.waker.slot ≠ slot) :
    (Operation.effect k (.enroll target interest ⟨id, slot⟩)).Unshared id := by
  intro other e' he'
  obtain ⟨rfl, rfl⟩ | hold := get?_enroll_cases he he'
  · refine (h other e he).append
      (congrArg WaitQueue.entries (Entity.queue_enroll_of_disjoint hready _)) rfl ?_
    exact fun entry hentry hid => hnew other entry ⟨e, he, hentry⟩ hid
  · exact h other e' hold

theorem Attributed.effect (h : k.Attributed) {op : Operation} (hbelow : op.Below k.sessions.nextId) :
    (op.effect k).Attributed := by
  intro target entry hqueued
  rw [op.nextId_effect]
  obtain hold | rfl := (op.effects_effect k).queued hqueued
  · exact h target entry hold
  · exact hbelow

theorem Attributed.consults (h : k.Attributed) (hconsults : k.Consults k') : k'.Attributed := by
  cases hconsults with
  | kept => exact h
  | read => exact h

theorem Attributed.add (h : k.Attributed) (n : Notifier) :
    Attributed { k with sessions := k.sessions.add n } := by
  intro target entry hqueued
  rw [SessionTable.nextId_add]
  exact Nat.lt_succ_of_lt (h target entry hqueued)

end Kernel

namespace Call

variable {base : SessionId} {k k' : Kernel} {c c' d : Call} {r : Request} {target : Target}
  {entry : QueueEntry} {ticket : Ticket} {p : Progress}

/-- The entries of a call are its own, and there are more of them only if it lets a ticket join. -/
theorem Steps.attributed (h : Steps k c k' p) (hattributed : k.Attributed)
    (hopened : c.session.id < k.sessions.nextId) : k'.Attributed := by
  intro target entry hqueued
  rw [h.nextId_eq]
  obtain ⟨hregistry, -⟩ | ⟨other, e, interest, index, c', he, hready, -, rfl, -, -⟩ |
    ⟨hregistry, -⟩ := h.registry_cases
  · exact hattributed target entry (hqueued.of_registry hregistry)
  · obtain hold | ⟨rfl, rfl⟩ := (Kernel.queued_enroll_iff he hready).1 hqueued
    · exact hattributed target entry hold
    · exact hopened
  · exact hattributed target entry (hqueued.of_registry hregistry).of_leaveAll

/-! ## Tickets and their descriptors -/

/-- A step of a call leaves its tickets and the queues alone, or lets a ticket of the next descriptor join
the queue of its object, or withdraws them all and comes to leave. -/
theorem Steps.ticket_cases (h : Steps k c k' (.running c')) :
    (k'.registry = k.registry ∧ c'.session = c.session) ∨
    (∃ slot rest target e, c.ahead = slot :: rest ∧ slot.target = some target ∧
      k.registry.get? target = some e ∧ e.readiness ∩ slot.watch.reportable = ∅ ∧
      k' = (c.session.joining target slot.watch.reportable).effect k ∧ c'.slots = c.slots ∧
      c'.session =
        c.session.join c.passed.length target e.queue.nextToken slot.watch.reportable) ∨
    ((∃ answer, c'.stage = .leaving answer) ∧
      k'.registry = (k.leaveAll c.session.tickets).registry ∧
      c'.session = { c.session with tickets := c.session.tickets.map Ticket.withdrawn }) := by
  cases h with
  | found | missing | resolved | resolvedQuietly | registered | aborted | checked | concluded
  | retired | skipped | stopped | polled | approached | turned | ignored | full | vanished
  | overtaken | roused => exact .inl ⟨rfl, rfl⟩
  | dozed => exact .inl ⟨c.session.registry_blockSteps 1 k _, rfl⟩
  | joined _ hahead htarget hget hunready =>
    refine .inr (.inl ⟨_, _, _, _, hahead, htarget, hget, hunready, rfl, ?_, rfl⟩)
    rw [slots_of_ahead hahead, slots, pass, hahead, List.append_assoc]
    rfl
  | drained => exact .inr (.inr ⟨⟨_, rfl⟩, c.session.registry_drain k, rfl⟩)

/-- What a slot is resolved to and what it may report is the same before and after it is written. -/
theorem getElem?_of_blank (h : c'.slots.map Slot.blank = c.slots.map Slot.blank) {i : Nat} {slot : Slot}
    (hslot : c.slots[i]? = some slot) :
    ∃ slot', c'.slots[i]? = some slot' ∧ slot'.target = slot.target ∧
      slot'.watch.reportable = slot.watch.reportable := by
  have hblank : (c'.slots.map Slot.blank)[i]? = some slot.blank := by
    rw [h, List.getElem?_map, hslot]
    rfl
  rw [List.getElem?_map] at hblank
  obtain ⟨slot', hslot', heq⟩ := Option.map_eq_some_iff.1 hblank
  exact ⟨slot', hslot', congrArg (fun s => s.target) heq,
    Watch.reportable_congr (congrArg (fun s => s.watch) heq)⟩

/-- The ticket of an entry that waits for an object: it has the slot of the entry and waits for the same,
on behalf of a descriptor that was resolved to the object and may report just that. -/
structure Backs (c : Call) (target : Target) (entry : QueueEntry) (ticket : Ticket) : Prop where
  /-- it has the entry's slot -/
  slot : c.session.tickets[entry.waker.slot]? = some ticket
  /-- it waits for the same -/
  interest : ticket.interest = entry.interest
  /-- its descriptor asks for that, at that object -/
  descriptor : ∃ slot, c.slots[ticket.index]? = some slot ∧ slot.target = some target ∧
    slot.watch.reportable = entry.interest

/-- Once the names are looked up an entry keeps its ticket, until that is withdrawn, and its
descriptor. -/
theorem Backs.steps (h : c.Backs target entry ticket) (hstep : Steps k c k' (.running c'))
    (hstage : c.stage ≠ .resolving) : ∃ ticket', c'.Backs target entry ticket' := by
  obtain ⟨slot, hslot, htarget, hreportable⟩ := h.descriptor
  obtain ⟨slot', hslot', htarget', hreportable'⟩ := getElem?_of_blank (hstep.map_blank hstage) hslot
  have hdescriptor : ∃ slot, c'.slots[ticket.index]? = some slot ∧ slot.target = some target ∧
      slot.watch.reportable = entry.interest :=
    ⟨slot', hslot', htarget'.trans htarget, hreportable'.trans hreportable⟩
  obtain ⟨-, hsession⟩ | ⟨_, _, _, _, -, -, -, -, -, -, hsession⟩ | ⟨-, -, hsession⟩ :=
    hstep.ticket_cases
  · exact ⟨ticket, by rw [hsession]; exact h.slot, h.interest, hdescriptor⟩
  · refine ⟨ticket, ?_, h.interest, hdescriptor⟩
    rw [hsession]
    exact (List.getElem?_append_left (List.getElem?_eq_some_iff.1 h.slot).1).trans h.slot
  · refine ⟨ticket.withdrawn, ?_, h.interest, hdescriptor⟩
    rw [hsession]
    simp only [List.getElem?_map, h.slot, Option.map_some]

/-! ## Seats -/

/-- How a call in progress is seated in a kernel. Sessions before a number were there before any call. -/
structure Seated (base : SessionId) (k : Kernel) (c : Call) : Prop where
  /-- its session is not one of those before -/
  since : base ≤ c.session.id
  /-- its session was opened -/
  opened : c.session.id < k.sessions.nextId
  /-- it is in order, and there is room for a ticket for each descriptor -/
  orderly : ∃ r, c.Orderly r k ∧ c.session.capacity = r.watches.length
  /-- it has no more tickets than there is room for -/
  fits : c.session.tickets.length ≤ c.session.capacity
  /-- every entry of its own has a ticket -/
  backed : ∀ target entry, k.Queued target entry → entry.waker.session = c.session.id →
    ∃ ticket, c.Backs target entry ticket
  /-- no two entries of one queue share a slot of its session -/
  unshared : k.Unshared c.session.id
  /-- it does not leave for want of room -/
  unexhausted : ∀ text, c.stage ≠ .leaving (.error (.resourceExhausted text))

/-- What leaves a call in order and adds no entry of its own leaves it its seat. -/
theorem Seated.spared (h : c.Seated base k) (hnextId : k.sessions.nextId ≤ k'.sessions.nextId)
    (horderly : ∀ r, c.Orderly r k → c.Orderly r k')
    (hqueued : ∀ target entry, k'.Queued target entry → entry.waker.session = c.session.id →
      k.Queued target entry) (hunshared : k'.Unshared c.session.id) : c.Seated base k' := by
  obtain ⟨r, hr, hcapacity⟩ := h.orderly
  exact ⟨h.since, Nat.lt_of_lt_of_le h.opened hnextId, ⟨r, horderly r hr, hcapacity⟩, h.fits,
    fun target entry hentry hid => h.backed target entry (hqueued target entry hentry hid) hid,
    hunshared, h.unexhausted⟩

/-- Other threads leave a call its seat. -/
theorem Seated.effect (h : c.Seated base k) {op : Operation} (hbelow : op.Below base) :
    c.Seated base (op.effect k) := by
  have hbelow := hbelow.mono h.since
  refine h.spared (Nat.le_of_eq (op.nextId_effect k).symm) (fun r hr => hr.effect hbelow)
    (fun target entry hqueued hid => ?_) (h.unshared.effect hbelow.foreign)
  obtain hold | rfl := (op.effects_effect k).queued hqueued
  · exact hold
  · exact absurd hid (Nat.ne_of_lt hbelow)

/-- A new session leaves a call its seat. -/
theorem Seated.add (h : c.Seated base k) (n : Notifier) :
    c.Seated base { k with sessions := k.sessions.add n } := by
  have hnotifier := SessionTable.get?_add_of_lt h.opened n
  refine h.spared ?_ (fun r hr => hr.of_queued hnotifier fun _ _ hqueued _ => hqueued)
    (fun _ _ hqueued _ => hqueued) (h.unshared.of_registry rfl)
  rw [SessionTable.nextId_add]
  exact Nat.le_succ _

theorem Seated.consults (h : c.Seated base k) (hconsults : k.Consults k') : c.Seated base k' := by
  cases hconsults with
  | kept => exact h
  | read =>
    exact h.spared (Nat.le_refl _) (fun r hr => hr.of_queued rfl fun _ _ hqueued _ => hqueued)
      (fun _ _ hqueued _ => hqueued) (h.unshared.of_registry rfl)

/-- A step of one call leaves another its seat. -/
theorem Seated.beside (h : c.Seated base k) (hstep : Steps k d k' p)
    (hne : c.session.id ≠ d.session.id) : c.Seated base k' := by
  have hqueued : ∀ target entry, k'.Queued target entry → entry.waker.session = c.session.id →
      k.Queued target entry := by
    intro target entry hqueued hid
    obtain ⟨hregistry, -⟩ | ⟨other, e, interest, index, d', he, hready, -, rfl, -, -⟩ |
      ⟨hregistry, -⟩ := hstep.registry_cases
    · exact hqueued.of_registry hregistry
    · obtain hold | ⟨rfl, rfl⟩ := (Kernel.queued_enroll_iff he hready).1 hqueued
      · exact hold
      · exact absurd hid.symm hne
    · exact (hqueued.of_registry hregistry).of_leaveAll
  have hunshared : k'.Unshared c.session.id := by
    obtain ⟨hregistry, -⟩ | ⟨other, e, interest, index, d', -, -, -, rfl, -, -⟩ |
      ⟨hregistry, -⟩ := hstep.registry_cases
    · exact h.unshared.of_registry hregistry
    · exact h.unshared.effect hne.symm
    · exact (h.unshared.leaveAll d.session.tickets).of_registry hregistry
  exact h.spared (Nat.le_of_eq hstep.nextId_eq.symm)
    (fun r hr => hr.of_queued (hstep.get?_ne hne) hqueued) hqueued hunshared

/-- A call that has not come to leave is sound and attended to. -/
theorem Seated.sound (h : c.Seated base k) (hstays : ∀ answer, c.stage ≠ .leaving answer) :
    ∃ r, c.Sound r ∧ ∃ n, c.Attended k n := by
  obtain ⟨r, ⟨answer, hleaving, -⟩ | ⟨-, hsound, hattended⟩, -⟩ := h.orderly
  · exact absurd hleaving (hstays answer)
  · exact ⟨r, hsound, hattended⟩

/-- While the names are looked up no entry is the call's own. -/
theorem Seated.ne_of_resolving (h : c.Seated base k) (hstage : c.stage = .resolving)
    (hqueued : k.Queued target entry) : entry.waker.session ≠ c.session.id := by
  intro hid
  have hstays : ∀ answer, c.stage ≠ .leaving answer := by
    rw [hstage]
    exact fun _ => Stage.noConfusion
  obtain ⟨r, hsound, -⟩ := h.sound hstays
  obtain ⟨ticket, hbacks⟩ := h.backed target entry hqueued hid
  have hslot := hbacks.slot
  rw [hsound.unticketed hstage] at hslot
  cases hslot

/-- A call has room for one more ticket while there is a descriptor ahead. -/
theorem Seated.tickets_lt (h : c.Seated base k) (hstays : ∀ answer, c.stage ≠ .leaving answer)
    (hahead : c.ahead ≠ []) : c.session.tickets.length < c.session.capacity := by
  obtain ⟨r, hsound, -⟩ := h.sound hstays
  obtain ⟨slot, rest, hcons⟩ := List.exists_cons_of_ne_nil hahead
  exact hsound.tickets_lt hcons

/-- A call that makes a step has not come to leave. -/
theorem Steps.stays (h : Steps k c k' (.running c')) (answer : Except WaitError Outcome) :
    c.stage ≠ .leaving answer := fun heq => by
  cases h.returns_of_leaving heq

/-- The entries of a call have tickets after its own steps, too. -/
theorem Seated.backed_steps (h : c.Seated base k) (hstep : Steps k c k' (.running c'))
    (hqueued : k'.Queued target entry) (hid : entry.waker.session = c.session.id) :
    ∃ ticket, c'.Backs target entry ticket := by
  by_cases hold : k.Queued target entry
  · obtain ⟨ticket, hbacks⟩ := h.backed target entry hold hid
    exact hbacks.steps hstep fun hstage => h.ne_of_resolving hstage hold hid
  · obtain ⟨hregistry, -⟩ | ⟨slot, rest, other, e, hahead, htarget, he, hready, rfl, hslots, hsession⟩ |
      ⟨-, hregistry, -⟩ := hstep.ticket_cases
    · exact absurd (hqueued.of_registry hregistry) hold
    · obtain hwas | ⟨rfl, rfl⟩ := (Kernel.queued_enroll_iff he hready).1 hqueued
      · exact absurd hwas hold
      · -- the new entry has the ticket that was handed out for it
        refine ⟨⟨c.passed.length, slot.watch.reportable, some (target, e.queue.nextToken)⟩, ?_, rfl,
          slot, ?_, htarget, rfl⟩
        · rw [hsession]
          exact List.getElem?_concat_length
        · rw [hslots, slots_of_ahead hahead, List.getElem?_append_right (Nat.le_refl _), Nat.sub_self]
          rfl
    · exact absurd (hqueued.of_registry hregistry).of_leaveAll hold

/-- **A call keeps its seat itself.** -/
theorem Seated.steps (h : c.Seated base k) (hstep : Steps k c k' (.running c')) :
    c'.Seated base k' := by
  have hid := hstep.id_eq
  obtain ⟨r, hr, hcapacity⟩ := h.orderly
  refine ⟨hid ▸ h.since, by rw [hid, hstep.nextId_eq]; exact h.opened,
    ⟨r, hr.steps hstep, hstep.capacity_eq.trans hcapacity⟩, ?_,
    fun target entry hqueued hown => h.backed_steps hstep hqueued (hown.trans hid), ?_,
    fun text hleaving => ?_⟩
  · rw [hstep.capacity_eq]
    obtain ⟨-, hsession⟩ | ⟨slot, rest, _, _, hahead, -, -, -, -, -, hsession⟩ |
      ⟨-, -, hsession⟩ := hstep.ticket_cases <;> rw [hsession]
    · exact h.fits
    · have hroom := h.tickets_lt hstep.stays (by rw [hahead]; exact List.cons_ne_nil _ _)
      rwa [Session.join, List.length_append]
    · rw [List.length_map]
      exact h.fits
  · rw [hid]
    obtain ⟨hregistry, -⟩ | ⟨_, _, _, _, -, -, he, hready, rfl, -, -⟩ | ⟨-, hregistry, -⟩ :=
      hstep.ticket_cases
    · exact h.unshared.of_registry hregistry
    · -- all entries have tickets, so none has the slot of the next one
      refine h.unshared.enroll he hready fun other entry hqueued hown => ?_
      obtain ⟨ticket, hbacks⟩ := h.backed other entry hqueued hown
      exact Nat.ne_of_lt (List.getElem?_eq_some_iff.1 hbacks.slot).1
    · exact (h.unshared.leaveAll _).of_registry hregistry
  · obtain ⟨slot, rest, hahead, hfull⟩ | ⟨-, -, rfl⟩ := hstep.leaves_cases hleaving
    · have hroom := h.tickets_lt hstep.stays (by rw [hahead]; exact List.cons_ne_nil _ _)
      exact absurd hroom (Nat.not_lt.2 hfull)
    · have houtcome : c.outcome k = .error (.resourceExhausted text) := Stage.leaving.inj hleaving
      rw [outcome] at houtcome
      split_ifs at houtcome
      cases houtcome

/-- A call begins with a seat. -/
theorem Seated.begin {s s₁ : System} (hattributed : s.kernel.Attributed)
    (hbase : base ≤ s.kernel.sessions.nextId) (h : s.begin r = (s₁, .running c)) :
    c.Seated base s₁.kernel ∧ c.session.id = s.kernel.sessions.nextId ∧
      ∃ n k, s.kernel.Consults k ∧ s₁.kernel = { k with sessions := k.sessions.add n } := by
  obtain ⟨hvalid, hroom⟩ := System.valid_of_begin h
  obtain ⟨horderly, hid, -⟩ := System.orderly_begin_of_opened hattributed hvalid hroom h
  have hnone : ∀ target entry, s.kernel.Queued target entry →
      entry.waker.session ≠ s.kernel.sessions.nextId :=
    fun target entry hqueued => Nat.ne_of_lt (hattributed target entry hqueued)
  rw [System.begin_of_valid hvalid hroom] at h
  obtain ⟨rfl, hc⟩ := Prod.mk.inj h
  obtain rfl := Progress.running.inj hc
  refine ⟨⟨hbase, ?_, ⟨r, horderly, rfl⟩, Nat.zero_le _,
    fun target entry hqueued hown => absurd hown (hnone target entry hqueued),
    fun target e he => WaitQueue.unshared_of_none fun entry hentry =>
      hnone target entry ⟨e, he, hentry⟩, fun _ => Stage.noConfusion⟩, hid, _, _,
    s.kernel.consults_arm r.timeout, rfl⟩
  rw [SessionTable.nextId_add]
  exact Nat.lt_succ_self _

end Call

end KernelWait
