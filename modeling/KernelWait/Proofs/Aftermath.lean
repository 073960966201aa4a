import KernelWait.Proofs.Tickets

/-!
# What becomes of a waiting ticket

A ticket waits in a queue until its object is ready for something that it waits for. At that moment
it fires with those events and is gone, so that whatever the object is ready for later does not reach
it any more (`Kernel.Tracks`).

**A ticket holds the first overlap of its interest with what its object has been ready for**, after
every operation of other threads, and nothing as long as there was none (`Kernel.Tracks.effect`).
-/

namespace KernelWait

/-! ## The first overlap -/

namespace Events

/-- The part of an interest that is met by the first of some events that meets it at all. -/
def firstOverlap (interest : Events) (history : List Events) : Events :=
  match history.find? fun ready => decide (ready ∩ interest ≠ ∅) with
  | some ready => ready ∩ interest
  | none => ∅

@[simp] theorem firstOverlap_nil (interest : Events) : firstOverlap interest [] = ∅ := rfl

/-- What comes later counts only if nothing has overlapped before. -/
theorem firstOverlap_concat (interest : Events) (history : List Events) (ready : Events) :
    firstOverlap interest (history ++ [ready]) =
      if firstOverlap interest history = ∅ then ready ∩ interest
      else firstOverlap interest history := by
  unfold firstOverlap
  rw [List.find?_append]
  rcases hfind : history.find? fun ready => decide (ready ∩ interest ≠ ∅) with _ | first
  · rw [Option.none_or, if_pos rfl, List.find?_singleton]
    by_cases hmeets : ready ∩ interest = ∅
    · rw [if_neg (by rw [hmeets]; decide), hmeets]
    · rw [if_pos (decide_eq_true hmeets)]
  · have hmeets := List.find?_some hfind
    rw [decide_eq_true_iff] at hmeets
    rw [Option.some_or]
    exact (if_neg hmeets).symm

end Events

/-! ## Announcements to one slot -/

namespace Notifier

variable {n : Notifier} {id : SessionId} {slot : Nat} {events interest : Events}
  {entries : List QueueEntry}

/-- A slot of which no entry is met holds what it held. -/
theorem held_latchAll_of_unmet
    (h : ∀ entry ∈ entries, entry.waker = ⟨id, slot⟩ → entry.interest ∩ events = ∅) :
    (n.latchAll id events entries).held slot = n.held slot := by
  refine latchAll_induction (motive := fun m => m.held slot = n.held slot) rfl ?_
  intro m entry hentry hid hm
  by_cases hslot : entry.waker.slot = slot
  · have hwaker : entry.waker = ⟨id, slot⟩ := by rw [← hid, ← hslot]
    rw [h entry hentry hwaker, latch_refused (by simp [latch]), hm]
  · rw [held_latch_ne fun heq => hslot heq.symm, hm]

/-- A slot that has fired with all that its entries are met in holds no more than that. -/
theorem held_latchAll_of_held
    (h : ∀ entry ∈ entries, entry.waker = ⟨id, slot⟩ → entry.interest = interest)
    (hroom : slot < n.latched.length) (hphase : n.phase ≠ .done)
    (hheld : n.held slot = interest ∩ events) :
    (n.latchAll id events entries).held slot = interest ∩ events := by
  refine And.right (And.right (latchAll_induction
    (motive := fun m => slot < m.latched.length ∧ m.phase ≠ .done ∧
      m.held slot = interest ∩ events) ⟨hroom, hphase, hheld⟩ ?_))
  rintro m entry hentry hid ⟨hmroom, hmphase, hm⟩
  refine ⟨by rwa [length_latched_latch], by rwa [phase_latch], ?_⟩
  by_cases hslot : entry.waker.slot = slot
  · have hwaker : entry.waker = ⟨id, slot⟩ := by rw [← hid, ← hslot]
    rw [hslot, held_latch_self hmroom hmphase, hm, h entry hentry hwaker, Events.union_self]
  · rw [held_latch_ne fun heq => hslot heq.symm, hm]

/-- An empty slot with an entry that is met fires with all that the entry is met in. -/
theorem held_latchAll_of_met
    (h : ∀ entry ∈ entries, entry.waker = ⟨id, slot⟩ → entry.interest = interest)
    (hroom : slot < n.latched.length) (hphase : n.phase ≠ .done) (hheld : n.held slot = ∅)
    (hmet : interest ∩ events ≠ ∅) (hwaits : ∃ entry ∈ entries, entry.waker = ⟨id, slot⟩) :
    (n.latchAll id events entries).held slot = interest ∩ events := by
  induction entries generalizing n with
  | nil => exact absurd hwaits.choose_spec.1 List.not_mem_nil
  | cons entry entries ih =>
    have hrest : ∀ e ∈ entries, e.waker = ⟨id, slot⟩ → e.interest = interest :=
      fun e he => h e (List.mem_cons_of_mem _ he)
    by_cases hwaker : entry.waker = ⟨id, slot⟩
    · have hinterest := h entry List.mem_cons_self hwaker
      rw [latchAll_cons, if_pos ⟨by rw [hwaker], by rwa [hinterest]⟩, hwaker, hinterest]
      -- from here on the slot holds all that it can
      refine held_latchAll_of_held hrest (by rwa [length_latched_latch]) (by rwa [phase_latch]) ?_
      rw [held_latch_self hroom hphase, hheld, Events.empty_union]
    · have hlater : ∃ e ∈ entries, e.waker = ⟨id, slot⟩ := by
        obtain ⟨e, he, hew⟩ := hwaits
        rcases List.mem_cons.1 he with rfl | hmem
        · exact absurd hew hwaker
        · exact ⟨e, hmem, hew⟩
      rw [latchAll_cons]
      split
      · next hhead =>
        -- another ticket of the same session has a slot of its own
        have hslot : slot ≠ entry.waker.slot := by
          rintro rfl
          exact hwaker (by rw [← hhead.1])
        refine ih hrest (by rwa [length_latched_latch]) (by rwa [phase_latch]) ?_ hlater
        rw [held_latch_ne hslot, hheld]
      · exact ih hrest hroom hphase hheld hlater

end Notifier

/-! ## Entries that stay -/

/-- Withdrawing one token leaves the entries of other tokens where they are. -/
theorem WaitQueue.mem_remove_of_ne {token : Token} {q : WaitQueue} {entry : QueueEntry}
    (h : entry ∈ q.entries) (hne : entry.token ≠ token) : entry ∈ (q.remove token).1.entries := by
  rw [remove]
  rcases hfind : q.entries.findIdx? (·.token == token) with _ | i <;> rw [hfind]
  · exact h
  · -- taking an entry out only moves the last one
    obtain ⟨hi, hcarried, -⟩ := List.findIdx?_eq_some_iff_getElem.1 hfind
    rcases List.mem_cons.1 ((removeAt_perm hi).mem_iff.2 h) with rfl | hleft
    · exact absurd (beq_iff_eq.1 hcarried) hne
    · exact hleft

theorem WaitQueue.mem_notify_of_unmet {events : Events} {q : WaitQueue} {t : SessionTable}
    {entry : QueueEntry} (h : entry ∈ q.entries) (hunmet : entry.interest ∩ events = ∅)
    (hlive : t.isLive entry.waker = true) : entry ∈ (q.notify events t).1.entries := by
  by_cases hne : events = ∅
  · rw [hne, notify_empty]
    exact h
  · rw [notify_entries hne, List.mem_filter]
    exact ⟨h, decide_eq_true ⟨hunmet, hlive⟩⟩

namespace Operation

variable {k k' : Kernel} {op : Operation} {target : Target} {e e' : Entity}

/-- An entry of a live session stays in its queue until it is met or withdrawn. -/
theorem Change.keeps {sessions : SessionTable} (h : Change sessions target e op e')
    {entry : QueueEntry} (hentry : entry ∈ e.queue.entries)
    (hunmet : entry.interest ∩ e'.readiness = ∅) (hlive : sessions.isLive entry.waker = true)
    (hkeeps : op ≠ .disenroll target entry.token) : entry ∈ e'.queue.entries := by
  cases h with
  | kept => exact hentry
  | acted a =>
    obtain ⟨hqueue, -, -⟩ | ⟨hqueue, -⟩ := e.act_cases a sessions
    · rwa [hqueue]
    · rw [hqueue]
      exact WaitQueue.mem_notify_of_unmet hentry hunmet hlive
  | enrolled interest waker =>
    simp only [Entity.enroll, WaitQueue.enroll]
    split
    · exact List.mem_append_left _ hentry
    · exact hentry
  | withdrawn token =>
    have hne : entry.token ≠ token := by
      rintro rfl
      exact hkeeps rfl
    exact WaitQueue.mem_remove_of_ne hentry hne

/-- An object that comes to be ready for something it was not ready for before has announced that to
its queue. -/
theorem Effects.announced (h : Effects k k' op) (he : k.registry.get? target = some e)
    (he' : k'.registry.get? target = some e') {interest : Events}
    (hbefore : e.readiness ∩ interest = ∅) (hafter : e'.readiness ∩ interest ≠ ∅) :
    e'.queue = (e.queue.notify e'.readiness k.sessions).1 ∧
      k'.sessions = (e.queue.notify e'.readiness k.sessions).2.1 := by
  have hchanged : e'.readiness ≠ e.readiness := by
    intro heq
    rw [heq] at hafter
    exact hafter hbefore
  -- so the operation was one on this object
  have hsame : k'.registry.get? target = k.registry.get? target → False := by
    intro heq
    obtain rfl := Option.some.inj (he'.symm.trans (heq.trans he))
    exact hchanged rfl
  cases h with
  | still hentities _ => exact (hsame (Registry.get?_congr hentities target)).elim
  | aborted id hentities _ => exact (hsame (Registry.get?_congr hentities target)).elim
  | created added _ hentities _ =>
    exact (hsame ((Registry.get?_append hentities he).trans he.symm)).elim
  | acted other old a hold hentities hsessions =>
    by_cases hto : target = other
    · subst hto
      obtain rfl := Option.some.inj (hold.symm.trans he)
      obtain rfl := Option.some.inj ((Registry.get?_set_self hold hentities).symm.trans he')
      rcases old.act_cases a k.sessions with ⟨-, -, hless⟩ | ⟨hqueue, htold⟩
      · -- an object that says nothing is ready for no more than before
        refine absurd ?_ hafter
        rw [Events.inter_comm] at hbefore ⊢
        exact Events.inter_eq_empty_of_subset hbefore hless
      · exact ⟨hqueue, hsessions.trans htold⟩
    · exact (hsame (Registry.get?_set_ne hto hentities)).elim
  | enrolled other old interest' waker hold hentities _ =>
    by_cases hto : target = other
    · subst hto
      obtain rfl := Option.some.inj (hold.symm.trans he)
      obtain rfl := Option.some.inj ((Registry.get?_set_self hold hentities).symm.trans he')
      exact absurd rfl hchanged
    · exact (hsame (Registry.get?_set_ne hto hentities)).elim
  | withdrawn other old token hold hentities _ =>
    by_cases hto : target = other
    · subst hto
      obtain rfl := Option.some.inj (hold.symm.trans he)
      obtain rfl := Option.some.inj ((Registry.get?_set_self hold hentities).symm.trans he')
      exact absurd rfl hchanged
    · exact (hsame (Registry.get?_set_ne hto hentities)).elim

end Operation

/-! ## Following a ticket -/

/-- A ticket of a session waits in a queue for something that the object is not ready for, or it has
fired and is gone. -/
structure Kernel.Tracks (k : Kernel) (n : Notifier) (waker : Waker) (target : Target)
    (token : Token) (interest fired : Events) : Prop where
  /-- its slot holds what it has fired with -/
  held : n.held waker.slot = fired
  /-- it waits as long as it has not fired -/
  waits : fired = ∅ →
    k.Queued target ⟨token, interest, waker⟩ ∧ k.readiness target ∩ interest = ∅
  /-- it fires once -/
  gone : fired ≠ ∅ → ∀ other entry, k.Queued other entry → entry.waker ≠ waker

namespace Kernel.Tracks

variable {k k' : Kernel} {n : Notifier} {waker : Waker} {target : Target} {token : Token}
  {interest fired : Events}

/-- Nothing depends on anything but the objects and what the slot holds. -/
theorem congr {n' : Notifier} (h : k.Tracks n waker target token interest fired)
    (hregistry : k'.registry = k.registry) (hheld : n'.held waker.slot = n.held waker.slot) :
    k'.Tracks n' waker target token interest fired where
  held := hheld.trans h.held
  waits hnone := by
    obtain ⟨⟨e, he, hentry⟩, hready⟩ := h.waits hnone
    refine ⟨⟨e, hregistry ▸ he, hentry⟩, ?_⟩
    rwa [readiness, hregistry]
  gone hfired other entry hqueued := h.gone hfired other entry (by
    obtain ⟨e, he, hentry⟩ := hqueued
    exact ⟨e, hregistry ▸ he, hentry⟩)

/-- **An operation of another thread makes a waiting ticket fire with what its object is ready for
then, and does nothing to a ticket that has fired.** -/
theorem effect (h : k.Tracks n waker target token interest fired)
    (hn : k.sessions.get? waker.session = some n) (hroom : waker.slot < n.latched.length)
    (hphase : n.phase ≠ .done)
    (hown : ∀ other entry, k.Queued other entry → entry.waker = waker →
      other = target ∧ entry.interest = interest)
    {op : Operation} (hforeign : op.Foreign waker.session)
    (hkeeps : op ≠ .disenroll target token)
    {n' : Notifier} (hn' : (op.effect k).sessions.get? waker.session = some n') :
    (op.effect k).Tracks n' waker target token interest
      (if fired = ∅ then (op.effect k).readiness target ∩ interest else fired) := by
  have heffects := op.effects_effect k
  -- other threads let no ticket of this session join a queue
  have hold : ∀ other entry, (op.effect k).Queued other entry → entry.waker = waker →
      k.Queued other entry := by
    intro other entry hqueued hwaker
    rcases heffects.queued hqueued with hwas | rfl
    · exact hwas
    · rw [Operation.Foreign, hwaker] at hforeign
      exact absurd rfl hforeign
  obtain ⟨n'', hn'', hreach⟩ := heffects.get?_session hn
  obtain rfl := Option.some.inj (hn''.symm.trans hn')
  -- what reaches the slot is what its object is ready for now
  have hunmet : (∀ other e e', k.registry.get? other = some e →
      (op.effect k).registry.get? other = some e' → ∀ entry ∈ e.queue.entries,
        entry.waker = waker → entry.interest ∩ e'.readiness = ∅) →
      n''.held waker.slot = n.held waker.slot := by
    intro hnone
    cases hreach with
    | nothing => rfl
    | aborted => rw [Notifier.held, n.latched_interrupt, ← Notifier.held]
    | told other e e' he he' => exact Notifier.held_latchAll_of_unmet (hnone other e e' he he')
  by_cases hfired : fired = ∅
  · obtain ⟨⟨e, he, hentry⟩, hready⟩ := h.waits hfired
    rw [readiness_eq he] at hready
    obtain ⟨e', he', hchange⟩ := heffects.get?_of_get? he
    rw [if_pos hfired, readiness_eq he']
    by_cases hmet : e'.readiness ∩ interest = ∅
    · refine ⟨?_, fun _ => ⟨⟨e', he', ?_⟩, ?_⟩, fun hne => absurd hmet hne⟩
      · rw [hmet, ← hfired, ← h.held]
        refine hunmet fun other e₁ e₂ he₁ he₂ entry hentry₁ hwaker => ?_
        obtain ⟨rfl, hinterest⟩ := hown other entry ⟨e₁, he₁, hentry₁⟩ hwaker
        obtain rfl := Option.some.inj (he₂.symm.trans he')
        rw [hinterest, Events.inter_comm, hmet]
      · refine hchange.keeps hentry ((Events.inter_comm _ _).trans hmet) ?_ hkeeps
        rw [SessionTable.isLive, hn]
        exact bne_iff_ne.2 hphase
      · rwa [readiness_eq he']
    · obtain ⟨hqueue, hsessions⟩ := heffects.announced he he' hready hmet
      have hmet' : interest ∩ e'.readiness ≠ ∅ := by rwa [Events.inter_comm]
      refine ⟨?_, fun hnone => absurd hnone hmet, fun _ other entry hqueued hwaker => ?_⟩
      · rw [hsessions, WaitQueue.get?_notify, hn] at hn'
        obtain rfl := Option.some.inj hn'
        rw [Events.inter_comm]
        refine Notifier.held_latchAll_of_met (fun entry hentry₁ hwaker => ?_) hroom hphase
          (h.held.trans hfired) hmet' ⟨_, hentry, rfl⟩
        exact (hown target entry ⟨e, he, hentry₁⟩ hwaker).2
      · obtain ⟨rfl, hinterest⟩ := hown other entry (hold other entry hqueued hwaker) hwaker
        obtain ⟨e₁, he₁, hentry₁⟩ := hqueued
        obtain rfl := Option.some.inj (he₁.symm.trans he')
        rw [hqueue] at hentry₁
        refine hmet' ?_
        rw [← hinterest]
        exact WaitQueue.disjointFrom_notify _ _ _ entry hentry₁
  · rw [if_neg hfired]
    refine ⟨?_, fun hnone => absurd hnone hfired, fun _ other entry hqueued hwaker => ?_⟩
    · rw [← h.held]
      refine hunmet fun other e₁ e₂ he₁ _ entry hentry₁ hwaker => ?_
      exact absurd hwaker (h.gone hfired other entry ⟨e₁, he₁, hentry₁⟩)
    · exact h.gone hfired other entry (hold other entry hqueued hwaker) hwaker

end Kernel.Tracks

end KernelWait
