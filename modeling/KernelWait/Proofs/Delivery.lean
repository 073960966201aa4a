import KernelWait.Proofs.Endings
import KernelWait.Proofs.FirstOverlap

/-!
# What a session delivers

A session is opened, its owner lets tickets join queues, and other threads act on the objects, abort it
or let it expire in between (`Session.Course`). For each ticket it is written down what its object has
been ready for since, whether the ticket was still waiting or not. Draining delivers the first overlap of
each ticket's interest with that, once, in the order of the tickets.

**A session delivers at most once and never after its end** (`Session.delivers_once`): once it is drained
or let go of, nothing reaches it any more (`Kernel.Unreachable`).
-/

namespace KernelWait

/-! ## Courses -/

namespace Session

/-- What is known of a ticket. -/
structure Record where
  /-- the entry of the call that it belongs to -/
  index : Nat
  /-- the object that it waits for -/
  target : Target
  /-- the events that it waits for -/
  interest : Events
  /-- what its object was ready for after each operation since it joined the queue -/
  seen : List Events := []
  deriving DecidableEq, Repr

namespace Record

/-- The record after one more operation. -/
def see (k : Kernel) (r : Record) : Record := { r with seen := r.seen ++ [k.readiness r.target] }

/-- What the ticket fires with: its object's readiness, as far as the ticket waits for it, when it first
waits for any of it. -/
def fired (r : Record) : Events := r.interest.firstOverlap r.seen

/-- What is delivered for the ticket, if it has fired. -/
def delivery? (r : Record) : Option (Nat × Events) :=
  if r.fired = ∅ then none else some (r.index, r.fired)

theorem fired_see (k : Kernel) (r : Record) :
    (r.see k).fired = if r.fired = ∅ then k.readiness r.target ∩ r.interest else r.fired :=
  Events.firstOverlap_concat _ _ _

end Record

/-- What can become of a session until it is drained, with a record for each of its tickets. -/
inductive Course : List Record → Kernel → Session → Prop where
  /-- it is opened -/
  | opened {handed : List (Target × Token)} {k k' : Kernel} {capacity : Nat} {deadline : Deadline}
      {s : Session} (hreached : k.Reached handed)
      (hnew : Session.new k capacity deadline = .ok (k', s)) : Course [] k' s
  /-- a ticket joins a queue -/
  | enrolled {log : List Record} {k k' : Kernel} {s s' : Session} (h : Course log k s) (index : Nat)
      (target : Target) (interest : Events) {token : Token}
      (henroll : s.enroll k index target interest = .ok (k', s', some (.enrolled token))) :
      Course (log ++ [{ index := index, target := target, interest := interest }]) k' s'
  /-- an object is ready already, and no ticket joins its queue -/
  | declined {log : List Record} {k k' : Kernel} {s s' : Session} (h : Course log k s) (index : Nat)
      (target : Target) (interest : Events) {answer : Option Enrollment}
      (henroll : s.enroll k index target interest = .ok (k', s', answer))
      (hnone : ∀ token, answer ≠ some (.enrolled token)) : Course log k' s'
  /-- a thread carries out an operation, which neither withdraws a ticket of the session nor lets one
  join that is not in its table -/
  | operated {log : List Record} {k : Kernel} {s : Session} (h : Course log k s) (op : Operation)
      (hforeign : op.Foreign s.id)
      (hspares : ∀ ticket ∈ s.tickets, ∀ target token, ticket.place = some (target, token) →
        op ≠ .disenroll target token) :
      Course (log.map (·.see (op.effect k))) (op.effect k) s
  /-- it is aborted -/
  | aborted {log : List Record} {k : Kernel} {s : Session} (h : Course log k s) :
      Course log { k with sessions := (k.sessions.abort s.id).1 } s
  /-- it expires -/
  | expired {log : List Record} {k : Kernel} {s : Session} (h : Course log k s) :
      Course log { k with sessions := (k.sessions.expire s.id).1 } s
  /-- its owner moves it on -/
  | advanced {log : List Record} {k : Kernel} {s : Session} (h : Course log k s) {phase : Phase}
      (hphase : phase ≠ .done) : Course log (s.advance k phase) s
  /-- something happens that touches neither an object nor this session -/
  | elsewhere {log : List Record} {k k' : Kernel} {s : Session} (h : Course log k s)
      (hregistry : k'.registry = k.registry) (hnotifier : s.notifier? k' = s.notifier? k) :
      Course log k' s

end Session

/-! ## Following the tickets of a session -/

theorem SessionTable.get?_expire_self (t : SessionTable) (id : SessionId) :
    (t.expire id).1.get? id = (t.get? id).map fun n => n.expire.1 := by
  rw [expire]
  rcases h : t.get? id with _ | n
  · exact h
  · exact get?_put_self h _

namespace Session

/-- How the records of a session agree with its tickets, and these with the kernel. -/
structure Traced (log : List Record) (k : Kernel) (s : Session) (n : Notifier) : Prop where
  /-- the notifier is that of the session -/
  notifier : s.notifier? k = some n
  /-- it holds what the tickets wait for -/
  serves : n.Serves s.tickets
  /-- there is a slot for every ticket that the session can have -/
  room : n.latched.length = s.capacity
  /-- it has no more tickets than that -/
  fits : s.tickets.length ≤ s.capacity
  /-- the session's entries are those of the tickets -/
  covers : s.Covers k
  /-- there is a record for each ticket -/
  length_eq : log.length = s.tickets.length
  /-- each record is that of the ticket in its place, and says what the ticket has fired with -/
  tracks : ∀ (j : Nat) (r : Record), log[j]? = some r → ∃ token,
    s.tickets[j]? = some ⟨r.index, r.interest, some (r.target, token)⟩ ∧
      k.Tracks n ⟨s.id, j⟩ r.target token r.interest r.fired

namespace Traced

variable {log : List Record} {k k' : Kernel} {s s' : Session} {n n' : Notifier}

/-- Nothing depends on anything but the objects and what the slots hold. -/
theorem congr (h : Traced log k s n) (hregistry : k'.registry = k.registry)
    (hnotifier : s.notifier? k' = some n') (hphase : n'.phase ≠ .done)
    (hlatched : n'.latched = n.latched) (hslots : n'.latchedSlots = n.latchedSlots) :
    Traced log k' s n' where
  notifier := hnotifier
  serves := h.serves.congr hphase hlatched hslots
  room := hlatched ▸ h.room
  fits := h.fits
  covers := h.covers.of_queued fun target entry hqueued => by
    obtain ⟨e, he, hentry⟩ := hqueued
    exact ⟨e, hregistry ▸ he, hentry⟩
  length_eq := h.length_eq
  tracks j r hr := by
    obtain ⟨token, hticket, htracks⟩ := h.tracks j r hr
    refine ⟨token, hticket, htracks.congr hregistry ?_⟩
    rw [Notifier.held, hlatched, ← Notifier.held]

/-- A slot that has a ticket belongs to that ticket alone. -/
theorem owns (h : Traced log k s n) {j : Nat} {index : Nat} {interest : Events} {target : Target}
    {token : Token} (hticket : s.tickets[j]? = some ⟨index, interest, some (target, token)⟩)
    (other : Target) (entry : QueueEntry) (hqueued : k.Queued other entry)
    (hwaker : entry.waker = ⟨s.id, j⟩) : other = target ∧ entry.interest = interest := by
  obtain ⟨ticket, hknows, hplace, hinterest⟩ := h.covers other entry hqueued (by rw [hwaker])
  rw [hwaker] at hknows
  obtain rfl := Option.some.inj (hticket.symm.trans hknows)
  exact ⟨(Prod.mk.inj (Option.some.inj hplace)).1.symm, hinterest.symm⟩

theorem opened {handed : List (Target × Token)} {capacity : Nat} {deadline : Deadline}
    (hreached : k.Reached handed) (hnew : Session.new k capacity deadline = .ok (k', s)) :
    ∃ n, Traced [] k' s n := by
  simp only [Session.new, Notifier.new?] at hnew
  split at hnew
  · cases hnew
  · next n hroom =>
    split at hroom
    · cases hroom
      cases hnew
      refine ⟨_, SessionTable.get?_add_self _ _, ⟨Phase.noConfusion, ?_, ?_⟩, List.length_replicate,
        Nat.zero_le _, ?_, rfl, fun j r hr => absurd hr (by simp)⟩
      · rw [Notifier.Counted]
        exact (List.countP_eq_zero.2 fun e he => by simp [List.eq_of_mem_replicate he]).symm
      · intro slot hne
        refine absurd ?_ hne
        simp only [Notifier.held, List.getElem?_replicate]
        split <;> rfl
      · intro target entry hqueued hid
        exact absurd hid (Nat.ne_of_lt (hreached.opened_of_queued hqueued))
    · cases hroom

theorem join (h : Traced log k s n) (index : Nat) {target : Target} {e : Entity} {interest : Events}
    (he : k.registry.get? target = some e) (hready : e.readiness ∩ interest = ∅)
    (hroom : s.tickets.length < s.capacity) :
    Traced (log ++ [{ index := index, target := target, interest := interest }])
      ((s.joining target interest).effect k) (s.join index target e.queue.nextToken interest) n where
  notifier := by
    have hnotifier := h.notifier
    rwa [Session.notifier?, ← Kernel.sessions_enroll k target interest ⟨s.id, s.tickets.length⟩]
      at hnotifier
  serves := h.serves.join _
  room := h.room
  fits := by
    rw [Session.join, List.length_append]
    exact hroom
  covers := h.covers.join he hready index
  length_eq := by
    rw [Session.join, List.length_append, List.length_append, h.length_eq]
    rfl
  tracks j r hr := by
    -- the record is that of an earlier ticket or that of the new one
    rcases Nat.lt_or_ge j log.length with hold | hnew
    · rw [List.getElem?_append_left hold] at hr
      obtain ⟨token, hticket, htracks⟩ := h.tracks j r hr
      have hj : j < s.tickets.length := h.length_eq ▸ hold
      exact ⟨token, (List.getElem?_append_left hj).trans hticket, htracks.join hj he hready⟩
    · obtain ⟨rfl, rfl⟩ : j = log.length ∧
          r = { index := index, target := target, interest := interest } := by
        rw [List.getElem?_append_right hnew] at hr
        have hlt := (List.getElem?_eq_some_iff.1 hr).1
        rw [List.length_singleton] at hlt
        have hj : j - log.length = 0 := Nat.lt_one_iff.1 hlt
        rw [hj] at hr
        exact ⟨by omega, (Option.some.inj hr).symm⟩
      refine ⟨e.queue.nextToken, ?_, ?_⟩
      · rw [h.length_eq]
        exact List.getElem?_concat_length
      · rw [h.length_eq]
        exact Kernel.Tracks.start h.serves he hready

/-- **An operation of another thread makes the waiting tickets of its object fire**, and does nothing to
the others. -/
theorem effect (h : Traced log k s n) {op : Operation} (hforeign : op.Foreign s.id)
    (hspares : ∀ ticket ∈ s.tickets, ∀ target token, ticket.place = some (target, token) →
      op ≠ .disenroll target token) :
    ∃ n', Traced (log.map (·.see (op.effect k))) (op.effect k) s n' := by
  obtain ⟨n', hn', hreach⟩ := (op.effects_effect k).get?_session h.notifier
  refine ⟨n', hn', h.serves.reach h.covers hreach, hreach.length_latched_eq.trans h.room, h.fits,
    h.covers.effect hforeign, (List.length_map _).trans h.length_eq, ?_⟩
  intro j r' hr'
  obtain ⟨r, hr, rfl⟩ := Option.map_eq_some_iff.1 ((List.getElem?_map).symm.trans hr')
  obtain ⟨token, hticket, htracks⟩ := h.tracks j r hr
  have hslot : j < n.latched.length := by
    have hj := (List.getElem?_eq_some_iff.1 hticket).1
    rw [h.room]
    exact Nat.lt_of_lt_of_le hj h.fits
  refine ⟨token, hticket, ?_⟩
  rw [Record.fired_see]
  -- no entry but that of the ticket itself can latch into its slot
  exact htracks.effect h.notifier hslot h.serves.running (h.owns hticket) hforeign
    (hspares _ (List.mem_of_getElem? hticket) _ _ rfl) hn'

/-- The session's own notifier changes, but neither its phase nor what its slots hold. -/
theorem modify (h : Traced log k s n) {sessions : SessionTable}
    (hsessions : sessions.get? s.id = some n') (hphase : n'.phase = n.phase)
    (hlatched : n'.latched = n.latched) (hslots : n'.latchedSlots = n.latchedSlots) :
    Traced log { k with sessions := sessions } s n' :=
  h.congr rfl hsessions (hphase ▸ h.serves.running) hlatched hslots

end Traced

/-- **The records of a session are right** at every point of its course. -/
theorem Course.traced {log : List Record} {k : Kernel} {s : Session} (h : Course log k s) :
    ∃ n, Traced log k s n := by
  induction h with
  | opened hreached hnew => exact Traced.opened hreached hnew
  | @enrolled log k k' s s' h index target interest token henroll ih =>
    obtain ⟨n, hn⟩ := ih
    obtain ⟨-, cause, heq⟩ | ⟨-, heq⟩ | ⟨e, -, -, heq⟩ | ⟨e, he, hready, hroom, heq⟩ :=
      s.enroll_cases k index target interest
    · cases henroll.symm.trans heq
    · cases henroll.symm.trans heq
    · cases henroll.symm.trans heq
    · cases henroll.symm.trans heq
      exact ⟨n, hn.join index he hready hroom⟩
  | @declined log k k' s s' h index target interest answer henroll hnone ih =>
    obtain ⟨-, cause, heq⟩ | ⟨-, heq⟩ | ⟨e, -, -, heq⟩ | ⟨e, -, -, -, heq⟩ :=
      s.enroll_cases k index target interest
    · cases henroll.symm.trans heq
    · cases henroll.symm.trans heq
      exact ih
    · cases henroll.symm.trans heq
      exact ih
    · cases henroll.symm.trans heq
      exact absurd rfl (hnone _)
  | operated h op hforeign hspares ih =>
    obtain ⟨n, hn⟩ := ih
    exact hn.effect hforeign hspares
  | aborted h ih =>
    obtain ⟨n, hn⟩ := ih
    refine ⟨n.interrupt.1, hn.modify ?_ n.phase_interrupt n.latched_interrupt n.latchedSlots_interrupt⟩
    exact Session.get?_abort hn.notifier
  | @expired log k s h ih =>
    obtain ⟨n, hn⟩ := ih
    have hget : (k.sessions.expire s.id).1.get? s.id = some n.expire.1 := by
      rw [SessionTable.get?_expire_self, show k.sessions.get? s.id = some n from hn.notifier]
      rfl
    refine ⟨n.expire.1, ?_⟩
    obtain heq | heq := n.expire_cases
    · exact hn.modify hget (by rw [heq]) (by rw [heq]) (by rw [heq])
    · exact hn.modify hget (by rw [heq]) (by rw [heq]) (by rw [heq])
  | advanced h hphase ih =>
    obtain ⟨n, hn⟩ := ih
    exact ⟨_, hn.congr rfl (Session.get?_advance hn.notifier _) hphase rfl rfl⟩
  | elsewhere h hregistry hnotifier ih =>
    obtain ⟨n, hn⟩ := ih
    exact ⟨n, hn.congr hregistry (hnotifier.trans hn.notifier) hn.serves.running rfl rfl⟩

/-! ## The first drain -/

/-- What is harvested is what the records say, slot by slot. -/
theorem harvest_eq_deliveries {n : Notifier} {tickets : List Ticket} {log : List Record} {slot : Nat}
    (hlength : log.length = tickets.length)
    (h : ∀ (j : Nat) (r : Record), log[j]? = some r → ∃ ticket, tickets[j]? = some ticket ∧
      ticket.index = r.index ∧ (n.held (slot + j)).truncate ∩ ticket.interest = r.fired) :
    harvest n slot tickets = log.filterMap Record.delivery? := by
  -- by induction on the tickets, with one record fewer for each
  induction tickets generalizing slot log with
  | nil =>
    obtain rfl := List.eq_nil_of_length_eq_zero hlength
    rfl
  | cons ticket tickets ih =>
    cases log with
    | nil => cases hlength
    | cons r log =>
      have hrest : harvest n (slot + 1) tickets = log.filterMap Record.delivery? := by
        apply ih (Nat.succ.inj hlength)
        intro j r' hr'
        have hplace : slot + (j + 1) = slot + 1 + j := by omega
        rw [← hplace]
        exact h (j + 1) r' hr'
      obtain ⟨ticket', hticket', hindex, hfired⟩ := h 0 r rfl
      obtain rfl := Option.some.inj hticket'
      rw [Nat.add_zero] at hfired
      rw [harvest, hfired, hrest, hindex, List.filterMap_cons, Record.delivery?]
      split <;> rfl

/-- **Draining delivers what the records say**, in the order of the tickets. -/
theorem Traced.drain_fired {log : List Record} {k : Kernel} {s : Session} {n : Notifier}
    (h : Traced log k s n) : (s.drain k).2.2 = log.filterMap Record.delivery? := by
  rw [Session.drain_fired h.notifier]
  apply harvest_eq_deliveries h.length_eq
  intro j r hr
  obtain ⟨token, hticket, htracks⟩ := h.tracks j r hr
  refine ⟨_, hticket, rfl, ?_⟩
  have hheld : n.held j = r.fired := htracks.held
  rw [Nat.zero_add, ← hheld]
  by_cases hempty : n.held j = ∅
  · rw [hempty, Events.truncate, Events.empty_inter, Events.empty_inter]
  · obtain ⟨ticket, hticket', hwaited, hknown⟩ := h.serves.awaited j hempty
    obtain rfl := Option.some.inj (hticket.symm.trans hticket')
    rw [Events.truncate, Events.subset_iff.1 hknown]
    exact Events.subset_iff.1 hwaited

/-! ## After the first drain -/

/-- Collecting empties the slots that it goes over, and no others. -/
theorem get?_collect {id : SessionId} (tickets : List Ticket) (slot : Nat) {k : Kernel} {n : Notifier}
    (h : k.sessions.get? id = some n) :
    ∃ n', (collect id slot tickets k).1.sessions.get? id = some n' ∧
      (∀ j, slot ≤ j → j < slot + tickets.length → n'.held j = ∅) ∧
      ∀ j, j < slot ∨ slot + tickets.length ≤ j → n'.held j = n.held j := by
  -- a slot is emptied when its ticket has its turn, and no later ticket has the slot
  induction tickets generalizing slot k n with
  | nil => exact ⟨n, h, fun j hge hlt => absurd hge (Nat.not_le.2 hlt), fun _ _ => rfl⟩
  | cons ticket tickets ih =>
    have hleft : (ticket.leave k).sessions.get? id = some n := by
      rw [ticket.sessions_leave, h]
    let taken : Kernel :=
      { ticket.leave k with sessions := ((ticket.leave k).sessions.take ⟨id, slot⟩).1 }
    have htaken : taken.sessions.get? id = some (n.take slot).1 :=
      (SessionTable.get?_take_self (w := ⟨id, slot⟩) hleft).1
    obtain ⟨n', hn', hemptied, hspared⟩ := ih (slot + 1) htaken
    rw [List.length_cons]
    refine ⟨n', hn', fun j hge hlt => ?_, fun j hout => ?_⟩
    · rcases Nat.eq_or_lt_of_le hge with rfl | hlater
      · rw [hspared slot (.inl (Nat.lt_succ_self _))]
        exact n.held_take_self slot
      · exact hemptied j hlater (by omega)
    · have hne : j ≠ slot := by omega
      rw [hspared j (by omega)]
      exact Notifier.held_take_ne hne

/-- Draining ends a session and empties the slots of its tickets. -/
theorem get?_drain {k : Kernel} {s : Session} {n : Notifier} (h : s.notifier? k = some n) :
    ∃ n', (s.drain k).2.1.notifier? (s.drain k).1 = some n' ∧ n'.phase = .done ∧
      (∀ j, j < s.tickets.length → n'.held j = ∅) ∧
      ∀ j, s.tickets.length ≤ j → n'.held j = n.held j := by
  have hbegun : ∃ k₁ n₁, k₁.sessions.get? s.id = some n₁ ∧ n₁.held = n.held ∧
      (s.drain k).1 = s.advance (collect s.id 0 s.tickets k₁).1 .done := by
    simp only [drain, h]
    by_cases hwakes : n.phase.wakes = true
    · rw [if_pos hwakes]
      exact ⟨_, _, get?_advance h .draining, rfl, rfl⟩
    · rw [if_neg hwakes]
      exact ⟨_, _, h, rfl, rfl⟩
  obtain ⟨k₁, n₁, hn₁, hheld, hdrained⟩ := hbegun
  obtain ⟨n₂, hn₂, hemptied, hspared⟩ := get?_collect s.tickets 0 hn₁
  refine ⟨n₂.advance .done, ?_, rfl, fun j hlt => ?_, fun j hge => ?_⟩
  · rw [hdrained]
    exact get?_advance hn₂ .done
  · exact hemptied j (Nat.zero_le _) (by omega)
  · exact (hspared j (.inr (by omega))).trans (congrFun hheld j)

/-- A drained session is done and holds nothing. -/
structure Drained (k : Kernel) (s : Session) (n : Notifier) : Prop where
  /-- the notifier is that of the session -/
  notifier : s.notifier? k = some n
  /-- its life is over -/
  done : n.phase = .done
  /-- nothing is left in its slots -/
  empty : ∀ slot, n.held slot = ∅

theorem Traced.drained {log : List Record} {k : Kernel} {s : Session} {n : Notifier}
    (h : Traced log k s n) : ∃ n', Drained (s.drain k).1 (s.drain k).2.1 n' := by
  obtain ⟨n', hn', hdone, hemptied, hspared⟩ := get?_drain h.notifier
  refine ⟨n', hn', hdone, fun slot => ?_⟩
  rcases Nat.lt_or_ge slot s.tickets.length with hticket | hnone
  · exact hemptied slot hticket
  · -- a slot without a ticket was never waited for
    rw [hspared slot hnone]
    apply Decidable.byContradiction
    intro hne
    obtain ⟨ticket, hticket, -⟩ := h.serves.awaited slot hne
    exact absurd (List.getElem?_eq_some_iff.1 hticket).1 (Nat.not_lt.2 hnone)

namespace Drained

variable {k : Kernel} {s : Session} {n : Notifier} (h : Drained k s n)

include h

theorem drain_eq_nil : (s.drain k).2.2 = [] := by
  rw [Session.drain_fired h.notifier, harvest_of_empty h.empty]

theorem ended : k.sessions.Ended s.id := by
  intro n' hn'
  obtain rfl := Option.some.inj (h.notifier.symm.trans hn')
  exact h.done

/-- Draining once more leaves it at that. -/
theorem again : ∃ n', Drained (s.drain k).1 (s.drain k).2.1 n' := by
  obtain ⟨n', hn', hdone, hemptied, hspared⟩ := get?_drain h.notifier
  refine ⟨n', hn', hdone, fun slot => ?_⟩
  rcases Nat.lt_or_ge slot s.tickets.length with hticket | hnone
  · exact hemptied slot hticket
  · rw [hspared slot hnone, h.empty]

end Drained

/-! ## At most once -/

/-- **A session delivers at most once and never after its end.** What the first drain yields is what the
records say: one delivery, in the order of the tickets, for each ticket whose object was ever ready for
it since, of the events that it was ready for first. From then on the session is done and nothing reaches
it; another drain yields nothing. The same goes for a session that is let go of, before it is drained or
after. -/
theorem delivers_once {log : List Record} {k : Kernel} {s : Session} (h : Course log k s) :
    (s.drain k).2.2 = log.filterMap Record.delivery? ∧
      (∃ n, Drained (s.drain k).1 (s.drain k).2.1 n) ∧ (s.drain k).1.Unreachable s.id ∧
      (∀ knocks, let late := Knock.runAll (s.drain k).1 knocks
        ((s.drain k).2.1.drain late).2.2 = [] ∧
          (∃ n, Drained ((s.drain k).2.1.drain late).1 ((s.drain k).2.1.drain late).2.1 n) ∧
          ((s.drain k).2.1.close late).sessions.get? s.id = none ∧
          ((s.drain k).2.1.close late).Unreachable s.id) ∧
      (s.close k).sessions.get? s.id = none ∧ (s.close k).Unreachable s.id := by
  obtain ⟨n, hn⟩ := h.traced
  obtain ⟨n', hdrained⟩ := hn.drained
  refine ⟨hn.drain_fired, ⟨n', hdrained⟩, hdrained.ended.unreachable, fun knocks => ?_,
    s.get?_close k, (s.ended_close k).unreachable⟩
  have hlate : Drained (Knock.runAll (s.drain k).1 knocks) (s.drain k).2.1 n' :=
    { hdrained with
      notifier := (Knock.get?_runAll_of_ended knocks hdrained.ended).trans hdrained.notifier }
  exact ⟨hlate.drain_eq_nil, hlate.again, get?_close _ (s.drain k).2.1,
    (ended_close _ (s.drain k).2.1).unreachable⟩

/-- A session waits twice for a semaphore and once for an endpoint; another interest in the endpoint is
met already. The semaphore is released and acquired again, the session expires: both tickets of the
semaphore are delivered, that of the endpoint is not. -/
theorem delivers_once_twice_enrolled :
    let k₀ : Kernel := Operation.runAll { clock := { now := 0, horizon := 1000 } }
      [.create (.semaphore 0), .create (.endpoint 16)]
    let k₁ : Kernel := { k₀ with sessions := k₀.sessions.add { latched := [∅, ∅, ∅] } }
    let k₂ : Kernel := Operation.runAll k₁ [.enroll 0 .read ⟨0, 0⟩, .enroll 1 .read ⟨0, 1⟩,
      .enroll 0 .read ⟨0, 2⟩]
    let k₃ : Kernel := Operation.runAll k₂ [.act 0 (.semaphore (.release 1)),
      .act 0 (.semaphore (.acquire 1))]
    let k : Kernel := { k₃ with sessions := (k₃.sessions.expire 0).1 }
    let s : Session :=
      { id := 0
        tickets := [⟨4, .read, some (0, 0)⟩, ⟨2, .read, some (1, 0)⟩, ⟨0, .read, some (0, 1)⟩]
        capacity := 3
        deadline := .never }
    Course [⟨4, 0, .read, [.read, ∅]⟩, ⟨2, 1, .read, [.write, .write]⟩, ⟨0, 0, .read, [.read, ∅]⟩] k s ∧
      (s.drain k).2.2 = [(4, .read), (0, .read)] ∧ (s.drain k).1.Unreachable 0 := by
  intro k₀ k₁ k₂ k₃ k s
  have hreached : k₀.Reached [] :=
    .operated (.operated (.boot { now := 0, horizon := 1000 }) (.create (.semaphore 0)) trivial)
      (.create (.endpoint 16)) trivial
  have hnew : Session.new k₀ 3 .never = .ok (k₁, { s with tickets := [] }) := rfl
  have hopened : Course [] k₁ { s with tickets := [] } := .opened hreached hnew
  have hfirst : Course _ (Operation.effect k₁ (.enroll 0 .read ⟨0, 0⟩))
      { s with tickets := s.tickets.take 1 } :=
    hopened.enrolled 4 0 .read rfl
  have hready : Course _ (Operation.effect k₁ (.enroll 0 .read ⟨0, 0⟩))
      { s with tickets := s.tickets.take 1 } :=
    hfirst.declined 3 1 .write rfl (fun _ => nofun)
  have hsecond : Course _ (Operation.runAll k₁ [.enroll 0 .read ⟨0, 0⟩, .enroll 1 .read ⟨0, 1⟩])
      { s with tickets := s.tickets.take 2 } :=
    hready.enrolled 2 1 .read rfl
  have hjoined : Course [⟨4, 0, .read, []⟩, ⟨2, 1, .read, []⟩, ⟨0, 0, .read, []⟩] k₂ s :=
    hsecond.enrolled 0 0 .read rfl
  have hcourse : Course [⟨4, 0, .read, [.read, ∅]⟩, ⟨2, 1, .read, [.write, .write]⟩,
      ⟨0, 0, .read, [.read, ∅]⟩] k s :=
    ((hjoined.operated (.act 0 (.semaphore (.release 1))) trivial (fun _ _ _ _ _ => nofun)).operated
      (.act 0 (.semaphore (.acquire 1))) trivial (fun _ _ _ _ _ => nofun)).expired
  obtain ⟨hyields, -, hlate, -⟩ := delivers_once hcourse
  exact ⟨hcourse, hyields, hlate⟩

end Session

end KernelWait
