import KernelWait.Proofs.Harvest
import KernelWait.Proofs.Schedule

/-!
# The tickets of a session

A session in progress is tied to the kernel by two things. Every entry that waits on its behalf is one
that a ticket of it knows of (`Session.Covers`), and whatever its notifier holds in a slot was waited
for by the ticket of that slot (`Notifier.Serves`). Other threads reach a session in two ways only: they
announce what an object is ready for, or abort it (`Operation.Effects.get?_session`).

**A call is attended to until it leaves**: both ties hold at every turn, no matter whose it is, and what
made the call stop waiting stays visible (`Call.Attended.effect`, `Call.Attended.steps`).
-/

namespace KernelWait

/-! ## Latching into slots -/

namespace Notifier

theorem held_latch_self {n : Notifier} {slot : Nat} {events : Events}
    (hslot : slot < n.latched.length) (hphase : n.phase ≠ .done) :
    (n.latch slot events).1.held slot = n.held slot ∪ events := by
  have h := getElem?_latched_latch_self hphase slot events
  rw [held, h, held, List.getElem?_eq_getElem hslot]
  rfl

theorem held_latch_ne {n : Notifier} {slot other : Nat} (hne : other ≠ slot) (events : Events) :
    (n.latch slot events).1.held other = n.held other := by
  rw [held, held, getElem?_latched_latch_ne hne]

/-- A slot holds after a latch what it held before, or in addition what was latched into it. -/
theorem held_latch_cases (n : Notifier) (slot : Nat) (events : Events) (other : Nat) :
    (n.latch slot events).1.held other = n.held other ∨
    other = slot ∧ (n.latch slot events).1.held other = n.held other ∪ events := by
  by_cases hne : other = slot
  · subst hne
    obtain ⟨-, h⟩ | ⟨events', hphase, -, hslot, -⟩ := n.latch_cases other events
    · exact .inl (by rw [h])
    · exact .inr ⟨rfl, held_latch_self (List.getElem?_eq_some_iff.1 hslot).1 hphase⟩
  · exact .inl (held_latch_ne hne events)

/-- Nothing that is latched is forgotten by latching more. -/
theorem latchedSlots_le_latch (n : Notifier) (slot : Nat) (events : Events) :
    n.latchedSlots ≤ (n.latch slot events).1.latchedSlots := by
  obtain ⟨-, h⟩ | ⟨held, -, -, -, h⟩ := n.latch_cases slot events
  · exact Nat.le_of_eq (congrArg latchedSlots h).symm
  · rw [h, latchedSlots_wakeOwner, store]
    simp only
    split
    · exact Nat.le_succ _
    · exact Nat.le_refl _

theorem latchedSlots_le_latchAll (n : Notifier) (id : SessionId) (events : Events)
    (entries : List QueueEntry) : n.latchedSlots ≤ (n.latchAll id events entries).latchedSlots :=
  latchAll_induction (motive := fun m => n.latchedSlots ≤ m.latchedSlots) (Nat.le_refl _)
    fun _ _ _ _ h => Nat.le_trans h (latchedSlots_le_latch _ _ _)

/-- The counter of latched slots stays right. -/
theorem Counted.latch {n : Notifier} (h : n.Counted) (slot : Nat) (events : Events) :
    (n.latch slot events).1.Counted := by
  obtain ⟨-, heq⟩ | ⟨held, -, hne, hslot, heq⟩ := n.latch_cases slot events
  · rwa [heq]
  · obtain ⟨hlt, rfl⟩ := List.getElem?_eq_some_iff.1 hslot
    have hunion : n.latched[slot] ∪ events ≠ ∅ := fun hempty =>
      hne (Events.union_eq_empty_iff.1 hempty).2
    rw [heq, Counted, latchedSlots_wakeOwner, latched_wakeOwner]
    simp only [store, List.countP_set hlt, decide_eq_true hunion, if_true]
    rw [h]
    by_cases hheld : n.latched[slot] = ∅
    · rw [if_pos hheld, if_neg (by simp [hheld])]
      rfl
    · rw [if_neg hheld, if_pos (by simp [hheld])]
      have hpos : 0 < n.latched.countP (· ≠ ∅) :=
        List.countP_pos_iff.2 ⟨_, List.getElem_mem hlt, by simp [hheld]⟩
      omega

/-- Something is latched just when some slot holds something. -/
theorem Counted.anyLatched_iff {n : Notifier} (h : n.Counted) :
    n.anyLatched = true ↔ ∃ slot, n.held slot ≠ ∅ := by
  rw [anyLatched, decide_eq_true_iff, h, List.countP_pos_iff]
  constructor
  · rintro ⟨events, hmem, hne⟩
    obtain ⟨slot, hslot, rfl⟩ := List.getElem_of_mem hmem
    refine ⟨slot, ?_⟩
    rw [held_eq (List.getElem?_eq_getElem hslot)]
    exact of_decide_eq_true hne
  · rintro ⟨slot, hne⟩
    rcases hslot : n.latched[slot]? with _ | events
    · exact absurd (held_of_none hslot) hne
    · rw [held_eq hslot] at hne
      exact ⟨events, List.mem_of_getElem? hslot, decide_eq_true hne⟩

@[simp] theorem phase_interrupt (n : Notifier) : n.interrupt.1.phase = n.phase := by
  rw [interrupt]
  split <;> rfl

@[simp] theorem latched_interrupt (n : Notifier) : n.interrupt.1.latched = n.latched := by
  rw [interrupt]
  split <;> rfl

@[simp] theorem latchedSlots_interrupt (n : Notifier) :
    n.interrupt.1.latchedSlots = n.latchedSlots := by
  rw [interrupt]
  split <;> rfl

@[simp] theorem timedOut_interrupt (n : Notifier) : n.interrupt.1.timedOut = n.timedOut := by
  rw [interrupt]
  split <;> rfl

/-- A session that was aborted stays so. -/
theorem interrupted_interrupt {n : Notifier} (h : n.interrupted = true) :
    n.interrupt.1.interrupted = true := by
  rw [interrupt]
  split
  · rfl
  · exact h

/-- A notifier holds nothing but what its session's tickets wait for. -/
structure Serves (n : Notifier) (tickets : List Ticket) : Prop where
  /-- the session is not over -/
  running : n.phase ≠ .done
  /-- the counter of latched slots is right -/
  counted : n.Counted
  /-- what a slot holds was waited for by the ticket of the slot -/
  awaited : ∀ slot, n.held slot ≠ ∅ → ∃ ticket, tickets[slot]? = some ticket ∧
    n.held slot ⊆ ticket.interest ∧ n.held slot ⊆ Events.all

namespace Serves

variable {n : Notifier} {tickets : List Ticket}

/-- Nothing depends on anything but the phase and the slots. -/
theorem congr {n' : Notifier} (h : n.Serves tickets) (hphase : n'.phase ≠ .done)
    (hlatched : n'.latched = n.latched) (hslots : n'.latchedSlots = n.latchedSlots) :
    n'.Serves tickets where
  running := hphase
  counted := by
    rw [Counted, hslots, hlatched]
    exact h.counted
  awaited slot hne := by
    rw [held, hlatched] at hne ⊢
    exact h.awaited slot hne

theorem latch (h : n.Serves tickets) {slot : Nat} {events : Events} {ticket : Ticket}
    (hticket : tickets[slot]? = some ticket) (hwaited : events ⊆ ticket.interest)
    (hknown : events ⊆ Events.all) : (n.latch slot events).1.Serves tickets where
  running := by
    rw [phase_latch]
    exact h.running
  counted := h.counted.latch slot events
  awaited other hne := by
    obtain hsame | ⟨rfl, hmore⟩ := n.held_latch_cases slot events other
    · rw [hsame] at hne ⊢
      exact h.awaited other hne
    · rw [hmore]
      refine ⟨ticket, hticket, ?_⟩
      by_cases hempty : n.held other = ∅
      · rw [hempty, Events.empty_union]
        exact ⟨hwaited, hknown⟩
      · obtain ⟨ticket', hticket', hwas, hall⟩ := h.awaited other hempty
        obtain rfl := Option.some.inj (hticket.symm.trans hticket')
        exact ⟨Events.union_subset hwas hwaited, Events.union_subset hall hknown⟩

/-- A session serves the tickets it had when it gets one more. -/
theorem join (h : n.Serves tickets) (ticket : Ticket) : n.Serves (tickets ++ [ticket]) where
  running := h.running
  counted := h.counted
  awaited slot hne := by
    obtain ⟨t, ht, hwaited, hknown⟩ := h.awaited slot hne
    exact ⟨t, (List.getElem?_append_left (List.getElem?_eq_some_iff.1 ht).1).trans ht, hwaited,
      hknown⟩

end Serves

end Notifier

/-! ## What other threads do to a session -/

namespace Operation

/-- What an operation makes of the notifier of a session. -/
inductive Reach (k k' : Kernel) (id : SessionId) (n : Notifier) : Notifier → Prop where
  /-- nothing -/
  | nothing : Reach k k' id n n
  /-- it is aborted -/
  | aborted : Reach k k' id n n.interrupt.1
  /-- it is told what an object is ready for now -/
  | told (target : Target) (e e' : Entity) (he : k.registry.get? target = some e)
      (he' : k'.registry.get? target = some e') :
    Reach k k' id n (n.latchAll id e'.readiness e.queue.entries)

theorem Effects.get?_session {k k' : Kernel} {op : Operation} (h : Effects k k' op)
    {id : SessionId} {n : Notifier} (hn : k.sessions.get? id = some n) :
    ∃ n', k'.sessions.get? id = some n' ∧ Reach k k' id n n' := by
  cases h with
  | still _ hsessions | created _ _ _ hsessions | enrolled _ _ _ _ _ _ hsessions
  | withdrawn _ _ _ _ _ hsessions => exact ⟨n, by rw [hsessions, hn], .nothing⟩
  | aborted other _ hsessions =>
    rw [hsessions]
    by_cases hid : id = other
    · subst hid
      rw [SessionTable.get?_abort_self, hn]
      exact ⟨_, rfl, .aborted⟩
    · rw [SessionTable.get?_abort_ne hid]
      exact ⟨n, hn, .nothing⟩
  | acted target e a he hentities hsessions =>
    rw [hsessions]
    obtain ⟨-, hsame, -⟩ | ⟨-, htold⟩ := e.act_cases a k.sessions
    · exact ⟨n, by rw [hsame, hn], .nothing⟩
    · refine ⟨_, ?_, .told target e _ he (Registry.get?_set_self he hentities)⟩
      rw [htold, WaitQueue.get?_notify, hn]
      rfl

end Operation

namespace Session

/-- Every entry that waits on behalf of the session is one that a ticket of it knows of. -/
def Covers (k : Kernel) (s : Session) : Prop :=
  ∀ target entry, k.Queued target entry → entry.waker.session = s.id →
    ∃ ticket, s.tickets[entry.waker.slot]? = some ticket ∧
      ticket.place = some (target, entry.token) ∧ ticket.interest = entry.interest

/-- Fewer entries are covered by the same tickets. -/
theorem Covers.of_queued {k k' : Kernel} {s : Session} (h : s.Covers k)
    (hqueued : ∀ target entry, k'.Queued target entry → k.Queued target entry) : s.Covers k' :=
  fun target entry hentry => h target entry (hqueued target entry hentry)

/-- Other threads enroll no ticket of the session. -/
theorem Covers.effect {k : Kernel} {s : Session} (h : s.Covers k) {op : Operation}
    (hforeign : op.Foreign s.id) : s.Covers (op.effect k) := by
  intro target entry hqueued hid
  rcases (op.effects_effect k).queued hqueued with hold | rfl
  · exact h target entry hold hid
  · exact absurd hid hforeign

theorem Covers.join {k : Kernel} {s : Session} (h : s.Covers k) {target : Target} {e : Entity}
    {interest : Events} (he : k.registry.get? target = some e)
    (hready : e.readiness ∩ interest = ∅) (index : Nat) :
    (s.join index target e.queue.nextToken interest).Covers
      ((s.joining target interest).effect k) := by
  intro other entry hqueued hid
  obtain hold | ⟨rfl, rfl⟩ := (Kernel.queued_enroll_iff he hready).1 hqueued
  · obtain ⟨ticket, hticket, hplace, hinterest⟩ := h other entry hold hid
    exact ⟨ticket, (List.getElem?_append_left (List.getElem?_eq_some_iff.1 hticket).1).trans hticket,
      hplace, hinterest⟩
  · exact ⟨_, List.getElem?_concat_length, rfl, rfl⟩

end Session

/-- An announcement latches for a session only what its tickets wait for. -/
theorem Notifier.Serves.told {k : Kernel} {s : Session} {n : Notifier} (h : n.Serves s.tickets)
    (hcovers : s.Covers k) {target : Target} {e : Entity} (he : k.registry.get? target = some e)
    {events : Events} (hknown : events ⊆ Events.all) :
    (n.latchAll s.id events e.queue.entries).Serves s.tickets := by
  refine Notifier.latchAll_induction (motive := fun m => m.Serves s.tickets) h ?_
  intro m entry hentry hid hm
  obtain ⟨ticket, hticket, -, hinterest⟩ := hcovers target entry ⟨e, he, hentry⟩ hid
  refine hm.latch hticket ?_ (Events.subset_trans (Events.inter_subset_right _ _) hknown)
  rw [hinterest]
  exact Events.inter_subset_left _ _

theorem Notifier.Serves.reach {k k' : Kernel} {s : Session} {n n' : Notifier}
    (h : n.Serves s.tickets) (hcovers : s.Covers k) (hreach : Operation.Reach k k' s.id n n') :
    n'.Serves s.tickets := by
  cases hreach with
  | nothing => exact h
  | aborted =>
    refine h.congr ?_ n.latched_interrupt n.latchedSlots_interrupt
    rw [Notifier.phase_interrupt]
    exact h.running
  | told target e e' he he' => exact h.told hcovers he e'.object.readiness_known

theorem Operation.Reach.timedOut_eq {k k' : Kernel} {id : SessionId} {n n' : Notifier}
    (h : Reach k k' id n n') : n'.timedOut = n.timedOut := by
  cases h with
  | nothing => rfl
  | aborted => exact n.timedOut_interrupt
  | told target e e' he he' => exact n.timedOut_latchAll _ _ _

theorem Operation.Reach.phase_eq {k k' : Kernel} {id : SessionId} {n n' : Notifier}
    (h : Reach k k' id n n') : n'.phase = n.phase := by
  cases h with
  | nothing => rfl
  | aborted => exact n.phase_interrupt
  | told target e e' he he' => exact n.phase_latchAll _ _ _

theorem Operation.Reach.length_latched_eq {k k' : Kernel} {id : SessionId} {n n' : Notifier}
    (h : Reach k k' id n n') : n'.latched.length = n.latched.length := by
  cases h with
  | nothing => rfl
  | aborted => rw [n.latched_interrupt]
  | told target e e' he he' => exact n.length_latched_latchAll _ _ _

/-! ## Why a call stops waiting -/

/-- What a verdict says of a notifier. -/
def Verdict.Holds (n : Notifier) : Verdict → Prop
  | ready => n.anyLatched = true
  | interrupted => n.interrupted = true
  | timedOut => n.timedOut = true

theorem Verdict.holds_of_verdict? {n : Notifier} {v : Verdict} (h : n.verdict? = some v) :
    v.Holds n := by
  rw [Notifier.verdict?] at h
  split at h
  · next hready =>
    obtain rfl := Option.some.inj h
    exact hready
  · split at h
    · next hsignal =>
      obtain rfl := Option.some.inj h
      exact hsignal
    · split at h
      · next hexpired =>
        obtain rfl := Option.some.inj h
        exact hexpired
      · cases h

/-- What holds of a session goes on to hold whatever other threads do. -/
theorem Verdict.Holds.reach {k k' : Kernel} {id : SessionId} {n n' : Notifier} {v : Verdict}
    (h : v.Holds n) (hreach : Operation.Reach k k' id n n') : v.Holds n' := by
  cases v with
  | ready =>
    have hpos : 0 < n.latchedSlots := of_decide_eq_true h
    refine decide_eq_true ?_
    cases hreach with
    | nothing => exact hpos
    | aborted => rwa [n.latchedSlots_interrupt]
    | told target e e' he he' =>
      exact Nat.lt_of_lt_of_le hpos (n.latchedSlots_le_latchAll _ _ _)
  | interrupted =>
    cases hreach with
    | nothing => exact h
    | aborted => exact Notifier.interrupted_interrupt h
    | told target e e' he he' => exact (n.interrupted_latchAll _ _ _).trans h
  | timedOut => exact hreach.timedOut_eq.trans h

namespace Call

/-- A call that has stopped waiting has a reason. -/
def Motivated (c : Call) (n : Notifier) : Prop :=
  match c.stage with
  | .blocked (.finished v) => v.Holds n
  | .draining => c.immediate = true ∨ c.poll = true ∨ ∃ v : Verdict, v.Holds n
  | _ => True

theorem Motivated.reach {k k' : Kernel} {id : SessionId} {c : Call} {n n' : Notifier}
    (h : c.Motivated n) (hreach : Operation.Reach k k' id n n') : c.Motivated n' := by
  rw [Motivated] at h ⊢
  split at h
  · exact h.reach hreach
  · obtain himmediate | hpoll | ⟨v, hv⟩ := h
    · exact .inl himmediate
    · exact .inr (.inl hpoll)
    · exact .inr (.inr ⟨v, hv.reach hreach⟩)
  · trivial

/-- How a call that has not come to leave is tied to the kernel. -/
structure Attended (k : Kernel) (c : Call) (n : Notifier) : Prop where
  /-- the notifier is that of the call's session -/
  notifier : c.session.notifier? k = some n
  /-- it holds what the tickets wait for -/
  serves : n.Serves c.session.tickets
  /-- there is a slot for every ticket that the session can have -/
  room : n.latched.length = c.session.capacity
  /-- the session's entries are those of the tickets -/
  covers : c.session.Covers k
  /-- only a deadline that comes can pass -/
  expired : n.timedOut = true → c.session.deadline ≠ .never
  /-- there is a reason not to wait any longer -/
  motivated : c.Motivated n

/-- Other threads leave a call attended to. -/
theorem Attended.effect {k : Kernel} {c : Call} {n : Notifier} (h : c.Attended k n)
    {op : Operation} (hbelow : op.Below c.session.id) :
    ∃ n', c.Attended (op.effect k) n' ∧ Operation.Reach k (op.effect k) c.session.id n n' := by
  obtain ⟨n', hn', hreach⟩ := (op.effects_effect k).get?_session h.notifier
  refine ⟨n', ⟨hn', h.serves.reach h.covers hreach, hreach.length_latched_eq.trans h.room,
    h.covers.effect hbelow.foreign, ?_, h.motivated.reach hreach⟩, hreach⟩
  rw [hreach.timedOut_eq]
  exact h.expired

/-- The notifier of a call is looked after as long as its phase changes only. -/
theorem Attended.advance {k : Kernel} {c c' : Call} {n : Notifier} (h : c.Attended k n)
    {phase : Phase} (hphase : phase ≠ .done) (hsession : c'.session = c.session)
    (hmotivated : c'.Motivated (n.advance phase)) :
    c'.Attended (c.session.advance k phase) (n.advance phase) := by
  refine ⟨?_, ?_, ?_, ?_, ?_, hmotivated⟩ <;> rw [hsession]
  · exact Session.get?_advance h.notifier phase
  · exact h.serves.congr hphase rfl rfl
  · exact h.room
  · exact h.covers.of_queued fun _ _ hqueued => hqueued
  · exact h.expired

/-- A call that changes nothing in the kernel but how far it has come is attended to as before. -/
theorem Attended.move {k : Kernel} {c c' : Call} {n : Notifier} (h : c.Attended k n)
    (hsession : c'.session = c.session) (hmotivated : c'.Motivated n) : c'.Attended k n := by
  refine ⟨?_, ?_, ?_, ?_, ?_, hmotivated⟩ <;> rw [hsession]
  · exact h.notifier
  · exact h.serves
  · exact h.room
  · exact h.covers
  · exact h.expired

end Call

/-! ## The blocked phase -/

namespace Block

variable (deadline : Deadline) (now : Moment) (n : Notifier) (b : Block)

/-- A step of the blocked phase touches the event, and nothing else unless the deadline passes. -/
theorem step_cases :
    (∃ event, (step deadline now n b).1 = { n with event := event }) ∨
    (deadline.hasPassed now = true ∧ (step deadline now n b).1 = n.expire.1) := by
  rcases b with _ | _ | v
  · simp only [step]
    split
    · exact .inl ⟨n.event, rfl⟩
    · exact .inl ⟨n.event, rfl⟩
  · simp only [step, WakeEvent.poll]
    by_cases hsignaled : n.event.signaled = true
    · rw [if_pos hsignaled]
      exact .inl ⟨⟨false⟩, rfl⟩
    · rw [if_neg hsignaled]
      by_cases hpassed : deadline.hasPassed now = true
      · rw [if_pos hpassed]
        exact .inr ⟨hpassed, rfl⟩
      · rw [if_neg hpassed]
        exact .inl ⟨n.event, rfl⟩
  · exact .inl ⟨n.event, rfl⟩

variable {deadline now n b}

/-- The blocked phase ends only for a reason. -/
theorem holds_of_step_finished {v : Verdict} (hb : ∀ v, b ≠ .finished v)
    (h : (step deadline now n b).2 = .finished v) : v.Holds (step deadline now n b).1 := by
  rcases b with _ | _ | v'
  · simp only [step] at h ⊢
    rcases hverdict : n.verdict? with _ | v'
    · rw [hverdict] at h
      cases h
    · rw [hverdict] at h
      obtain rfl := Block.finished.inj h
      exact Verdict.holds_of_verdict? hverdict
  · simp only [step] at h
    split at h <;> cases h
  · exact absurd rfl (hb v')

end Block

theorem Deadline.ne_never_of_hasPassed {deadline : Deadline} {now : Moment}
    (h : deadline.hasPassed now = true) : deadline ≠ .never := by
  rintro rfl
  cases h

/-- Expiry marks a session, wakes its owner, and changes nothing else. -/
theorem Notifier.expire_cases (n : Notifier) :
    n.expire.1 = n ∨ n.expire.1 = { n with timedOut := true, event := n.event.signal } := by
  rw [expire]
  split
  · exact .inr rfl
  · exact .inl rfl

/-- A step of the blocked phase leaves what was latched. -/
theorem Block.step_keeps (deadline : Deadline) (now : Moment) (n : Notifier) (b : Block) :
    (step deadline now n b).1.phase = n.phase ∧ (step deadline now n b).1.latched = n.latched ∧
      (step deadline now n b).1.latchedSlots = n.latchedSlots := by
  obtain ⟨event, heq⟩ | ⟨-, heq⟩ := step_cases deadline now n b
  · rw [heq]
    exact ⟨rfl, rfl, rfl⟩
  · obtain hexpire | hexpire := n.expire_cases <;> rw [heq, hexpire] <;> exact ⟨rfl, rfl, rfl⟩

theorem Session.registry_blockSteps (steps : Nat) (k : Kernel) (s : Session) (b : Block) :
    (s.blockSteps steps k b).1.registry = k.registry := by
  rw [blockSteps]
  rcases s.notifier? k with _ | n <;> rfl

theorem Session.blockSteps_one {k : Kernel} {s : Session} {n : Notifier}
    (h : s.notifier? k = some n) (b : Block) :
    s.blockSteps 1 k b =
      ({ k with sessions := k.sessions.put s.id (Block.step s.deadline k.clock.now n b).1 },
        (Block.step s.deadline k.clock.now n b).2) := by
  simp only [blockSteps, h, Block.steps]

namespace Call

theorem Attended.doze {k : Kernel} {c : Call} {n : Notifier} (h : c.Attended k n) {b : Block}
    (hb : ∀ v, b ≠ .finished v) :
    ∃ n', { c with stage := .blocked (c.session.blockSteps 1 k b).2 }.Attended
      (c.session.blockSteps 1 k b).1 n' := by
  rw [Session.blockSteps_one h.notifier]
  have hsame := Block.step_keeps c.session.deadline k.clock.now n b
  refine ⟨_, SessionTable.get?_put_self h.notifier _,
    h.serves.congr ?_ hsame.2.1 hsame.2.2, ?_, h.covers.of_queued fun _ _ hqueued => hqueued, ?_, ?_⟩
  · rw [hsame.1]
    exact h.serves.running
  · rw [hsame.2.1]
    exact h.room
  · obtain ⟨event, heq⟩ | ⟨hpassed, -⟩ := Block.step_cases c.session.deadline k.clock.now n b
    · rw [heq]
      exact h.expired
    · exact fun _ => Deadline.ne_never_of_hasPassed hpassed
  · rcases hstep : (Block.step c.session.deadline k.clock.now n b).2 with _ | _ | v
    · trivial
    · trivial
    · exact Block.holds_of_step_finished hb hstep

/-- A call attends to its session itself until it comes to leave. -/
theorem Attended.steps {k k' : Kernel} {c c' : Call} {n : Notifier} (h : c.Attended k n)
    (hstep : Steps k c k' (.running c')) (hstays : ∀ answer, c'.stage ≠ .leaving answer) :
    ∃ n', c'.Attended k' n' := by
  cases hstep with
  | found | missing | resolved | skipped | stopped | polled | approached | turned | ignored
  | vanished | overtaken =>
    -- none of these steps has to do with the session
    refine ⟨n, h.move rfl ?_⟩
    simp_all [Motivated, pass, passReady, rewind]
  | resolvedQuietly => exact ⟨_, h.advance (by decide) rfl trivial⟩
  | registered => exact ⟨n, h.notifier, h.serves, h.room, h.covers, h.expired, trivial⟩
  | checked => exact ⟨_, h.advance (by decide) rfl trivial⟩
  | aborted =>
    -- the mark of the signal touches no slot
    have hnotifier := Session.get?_abort h.notifier
    have hserves : n.interrupt.1.Serves c.session.tickets := by
      refine h.serves.congr ?_ n.latched_interrupt n.latchedSlots_interrupt
      rw [Notifier.phase_interrupt]
      exact h.serves.running
    refine ⟨_, Session.get?_advance hnotifier .enrolling, hserves.congr Phase.noConfusion rfl rfl,
      ?_, h.covers.of_queued fun _ _ hqueued => hqueued, ?_, trivial⟩
    · rw [show (n.interrupt.1.advance .enrolling).latched = n.latched from n.latched_interrupt]
      exact h.room
    rw [show (n.interrupt.1.advance .enrolling).timedOut = n.timedOut from n.timedOut_interrupt]
    exact h.expired
  | retired => exact ⟨_, h.advance (by decide) rfl trivial⟩
  | concluded hstage hahead hawake =>
    refine ⟨n, h.move rfl ?_⟩
    obtain himmediate | hpoll := hawake
    · exact .inl himmediate
    · exact .inr (.inl hpoll)
  | full => exact absurd rfl (hstays _)
  | joined hstage hahead htarget hget hunready =>
    refine ⟨n, ?_, h.serves.join _, h.room, h.covers.join hget hunready _, h.expired, trivial⟩
    rw [Session.notifier?, Session.joining, Kernel.sessions_enroll]
    exact h.notifier
  | dozed hstage hb => exact h.doze hb
  | @roused v hstage =>
    refine ⟨n, h.move rfl (.inr (.inr ⟨v, ?_⟩))⟩
    have hmotivated := h.motivated
    rw [Motivated, hstage] at hmotivated
    exact hmotivated
  | drained => exact absurd rfl (hstays _)

end Call

end KernelWait
