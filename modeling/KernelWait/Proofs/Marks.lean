import KernelWait.Proofs.Outcome

/-!
# What a reply says in any kernel

That a call is sound rests on what the call itself has done, and not on the kernel (`Call.Sound.steps`).
So some of what its reply says holds even in a kernel that no thread can bring about, where queues may
hold what they should not: which watches are marked, that a marked watch reports nothing, and that the
answer counts the others.

**Every reply is marked so** (`System.marked_of_returned`), unless there was no room for the call.
-/

namespace KernelWait

namespace Session

/-- Whatever is collected belongs to a ticket. -/
theorem exists_ticket_of_mem_collect {id : SessionId} {slot : Nat} {tickets : List Ticket}
    {k : Kernel} {f : Nat × Events} (h : f ∈ (collect id slot tickets k).2) :
    ∃ ticket ∈ tickets, ticket.index = f.1 := by
  induction tickets generalizing slot k with
  | nil => cases h
  | cons ticket tickets ih =>
    simp only [collect] at h
    split at h
    · obtain ⟨later, hlater, hindex⟩ := ih h
      exact ⟨later, List.mem_cons_of_mem _ hlater, hindex⟩
    · rcases List.mem_cons.1 h with rfl | hrest
      · exact ⟨ticket, List.mem_cons_self, rfl⟩
      · obtain ⟨later, hlater, hindex⟩ := ih hrest
        exact ⟨later, List.mem_cons_of_mem _ hlater, hindex⟩

/-- Nothing is gathered for an index on behalf of which nothing was fired. -/
theorem gathered_of_not_mem {index : Nat} {fired : List (Nat × Events)} (h : ∀ f ∈ fired, f.1 ≠ index) :
    gathered index fired = ∅ := by
  induction fired with
  | nil => rfl
  | cons f fired ih =>
    rw [gathered, if_neg (h f List.mem_cons_self),
      ih fun g hg => h g (List.mem_cons_of_mem _ hg), Events.union_empty]

/-- Nothing is gathered for an index that no ticket carries. -/
theorem gathered_drain_of_not_mem {k : Kernel} {s : Session} {index : Nat}
    (h : ∀ ticket ∈ s.tickets, ticket.index ≠ index) : gathered index (s.drain k).2.2 = ∅ := by
  refine gathered_of_not_mem fun f hf heq => ?_
  obtain ⟨ticket, hticket, hindex⟩ := exists_ticket_of_mem_collect hf
  exact h ticket hticket (hindex.trans heq)

end Session

/-! ## Sound calls in any kernel -/

namespace Call

variable {r : Request} {k k' : Kernel} {c c' : Call}

/-- What a call that leaves has written, and counted. -/
structure Told (r : Request) (c : Call) (answer : Except WaitError Outcome) : Prop where
  /-- the watches are those of the request -/
  same : c.watches.map Watch.reset = r.watches.map Watch.reset
  /-- a watch is marked just when there is no object -/
  marked : ∀ slot ∈ c.slots, slot.watch.status = .invalidObject ↔ slot.target = none
  /-- nothing is reported without an object -/
  absent : ∀ slot ∈ c.slots, slot.target = none → slot.watch.result = ∅
  /-- what is said to be ready is counted -/
  counted : ∀ m, answer = .ok (.ready m) → c.watches.countP Watch.isReady = m
  /-- the call had something to wait for -/
  hopeful : ∀ m, answer ≠ .error (.noValidTargets m)

/-- A slot without an object gathers nothing. -/
theorem Sound.gathered_of_none (h : c.Sound r) {i : Nat} {slot : Slot} (hslot : c.slots[i]? = some slot)
    (hnone : slot.target = none) : Session.gathered i (c.session.drain k).2.2 = ∅ := by
  refine Session.gathered_drain_of_not_mem fun ticket hticket heq => ?_
  obtain ⟨slot', hslot', hsome, -⟩ := h.matched ticket hticket
  have hsame := getElem?_slots_of_passed hslot'
  rw [heq] at hsame
  obtain rfl := Option.some.inj (hsame.symm.trans hslot)
  rw [hnone] at hsome
  cases hsome

/-- A sound call that drains tells what it has written. -/
theorem Sound.told (h : c.Sound r) (hstage : c.stage = .draining) :
    (c.settledOn k (c.outcome k)).Told r (c.outcome k) := by
  have hne : c.stage ≠ .resolving := by
    rw [hstage]
    exact Stage.noConfusion
  have hblank := (Steps.drained (k := k) hstage).map_blank hne
  have hsettled := h.settled
  rw [looked_of_ne hne] at hsettled
  refine ⟨(watches_reset_of_blank hblank).trans h.same, fun slot' hslot' => ?_,
    fun slot' hslot' hnone => ?_, fun m hanswer => ?_, fun m => ?_⟩
  · obtain ⟨i, hi⟩ := List.getElem?_of_mem hslot'
    obtain ⟨slot, hslot, rfl | rfl⟩ := settledOn_cases hi
    · exact (hsettled slot (List.mem_of_getElem? hslot)).invalid_iff
    · exact (hsettled slot (List.mem_of_getElem? hslot)).invalid_iff
  · obtain ⟨i, hi⟩ := List.getElem?_of_mem hslot'
    obtain ⟨slot, hslot, rfl | rfl⟩ := settledOn_cases hi
    · have hempty := (hsettled slot (List.mem_of_getElem? hslot)).absent hnone
      simp only [Watch.fire, hempty, h.gathered_of_none hslot hnone, Events.union_empty]
    · rfl
  · rw [watches_settledOn]
    rw [outcome] at hanswer
    split at hanswer
    · exact Outcome.ready.inj (Except.ok.inj hanswer)
    · split at hanswer <;> cases hanswer
  · rw [outcome]
    split
    · rintro ⟨⟩
    · split <;> rintro ⟨⟩

/-- A call in progress is sound, and tells what it has written once it leaves. -/
def Candid (r : Request) (c : Call) : Prop :=
  (∃ answer, c.stage = .leaving answer ∧ c.Told r answer) ∨
  ((∀ answer, c.stage ≠ .leaving answer) ∧ c.Sound r)

/-- **In any kernel a call stays so.** -/
theorem Candid.steps (h : c.Candid r) (hstep : Steps k c k' (.running c')) : c'.Candid r := by
  obtain ⟨answer, hstage, -⟩ | ⟨hstays, hsound⟩ := h
  · cases hstep.returns_of_leaving hstage
  · by_cases hleaves : ∃ answer, c'.stage = .leaving answer
    · obtain ⟨answer, hanswer⟩ := hleaves
      obtain ⟨slot, rest, hahead, hfull⟩ | ⟨hstage, -, rfl⟩ := hstep.leaves_cases hanswer
      · exact absurd (hsound.tickets_lt hahead) (Nat.not_lt.2 hfull)
      · exact .inl ⟨_, rfl, hsound.told hstage⟩
    · have hstays' : ∀ answer, c'.stage ≠ .leaving answer := fun answer heq =>
        hleaves ⟨answer, heq⟩
      exact .inr ⟨hstays', hsound.steps hstep hstays'⟩

end Call

/-- What a reply says in any kernel. -/
structure Reply.Marked (r : Request) (reply : Reply) : Prop where
  /-- the watches are those of the request -/
  same : reply.watches.map Watch.reset = r.watches.map Watch.reset
  /-- a name that stands for no object reports nothing -/
  absent : ∀ w ∈ reply.watches, w.status = .invalidObject → w.result = ∅
  /-- what is said to be ready is counted -/
  counted : ∀ m, reply.answer = .ok (.ready m) → reply.watches.countP Watch.isReady = m
  /-- if there was nothing to wait for, every watch is marked -/
  hopeless : ∀ m, reply.answer = .error (.noValidTargets m) →
    ∀ w ∈ reply.watches, w.status = .invalidObject

theorem Call.Candid.returned {r : Request} {k k' : Kernel} {c : Call} {reply : Reply}
    (h : c.Candid r) (hstep : Call.Steps k c k' (.returned reply)) : reply.Marked r := by
  obtain ⟨hstage, hahead, hnone, rfl⟩ | ⟨answer, hstage, rfl⟩ := hstep.returned_cases
  · obtain ⟨answer, hleaving, -⟩ | ⟨-, hsound⟩ := h
    · cases hstage.symm.trans hleaving
    · have hslots : c.slots = c.passed := by rw [slots, hahead, List.append_nil]
      have hsettled := hsound.settled
      rw [looked_of_resolving hstage] at hsettled
      refine ⟨hsound.same, ?_, ?_, fun m _ => ?_⟩
      · rintro w hw -
        obtain ⟨slot, hslot, rfl⟩ := List.mem_map.1 hw
        rw [hslots] at hslot
        exact (hsettled slot hslot).absent (hnone slot hslot)
      · rintro m ⟨⟩
      · intro w hw
        obtain ⟨slot, hslot, rfl⟩ := List.mem_map.1 hw
        rw [hslots] at hslot
        exact (hsettled slot hslot).invalid_iff.2 (hnone slot hslot)
  · obtain ⟨answer', hleaving, htold⟩ | ⟨hstays, -⟩ := h
    · obtain rfl := Stage.leaving.inj (hstage.symm.trans hleaving)
      refine ⟨htold.same, ?_, htold.counted, fun m hanswer => absurd hanswer (htold.hopeful m)⟩
      intro w hw hinvalid
      obtain ⟨slot, hslot, rfl⟩ := List.mem_map.1 hw
      exact htold.absent slot hslot ((htold.marked slot hslot).1 hinvalid)
    · exact absurd hstage (hstays answer)

namespace System

/-- At every moment of a run a call is candid, whatever happens to the kernel. -/
theorem candid_of_moment {s s₁ : System} {r : Request} {c₁ : Call}
    {schedule : List (Turn Operation)} (h : Moment (s.begin r) schedule s₁ c₁) : c₁.Candid r := by
  refine moment_induction (motive := fun _ _ c => c.Candid r) (fun s₁ c₁ hbegin => ?_)
    (fun _ _ _ _ _ _ _ hcandid => hcandid) (fun _ _ s c s' c' _ _ hcandid hstep => ?_)
    (List.append_nil schedule).symm h
  · obtain ⟨hstage, hsound⟩ := sound_begin hbegin
    refine .inr ⟨fun answer => ?_, hsound⟩
    rw [hstage]
    exact Stage.noConfusion
  · have hsteps := c.steps_step s
    rw [hstep] at hsteps
    exact hcandid.steps hsteps

/-- **Every reply is marked**, unless the call was over as soon as it had begun. -/
theorem marked_of_returned {s s' : System} {r : Request} {schedule : List (Turn Operation)}
    {reply : Reply} (h : play (s.begin r) schedule = (s', .returned reply)) :
    (s.begin r).2 = .returned reply ∨ reply.Marked r := by
  obtain hreturned | ⟨earlier, later, s₁, c₁, s₂, -, hmoment, hstep⟩ := last_moment h
  · exact .inl hreturned
  · have hsteps := c₁.steps_step s₁
    rw [hstep] at hsteps
    exact .inr ((candid_of_moment hmoment).returned hsteps)

end System

end KernelWait
