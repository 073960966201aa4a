import KernelWait.Proofs.Reflection
import KernelWait.Proofs.Waits

/-!
# One wait in two kernels

The same wait is made in two kernels in which the world is the same. Its session goes by another number in
each, and its tickets may have got other tokens, but the call cannot tell: what it looks up, finds ready,
collects and answers is decided by the world and by its own session (`Call.Paired`).

**Step by step the call does the same in both** (`Call.Paired.step`), and so does every wait, from its
beginning on (`Invocation.paired_begin`, `Wait.Paired.step`).
-/

namespace KernelWait

/-- Two sessions are alike but for their numbers and for where their tickets wait. -/
structure Session.Twins (s s' : Session) : Prop where
  /-- they can have as many tickets -/
  capacity : s'.capacity = s.capacity
  /-- they are given up at the same time -/
  deadline : s'.deadline = s.deadline
  /-- their tickets stand for the same entries of the call, and wait for the same -/
  tickets : s'.tickets.map (fun t => (t.index, t.interest)) =
    s.tickets.map fun t => (t.index, t.interest)

/-- Two calls are alike but for their sessions, which are twins. -/
def Call.Twins (c c' : Call) : Prop := ∃ s, c' = { c with session := s } ∧ c.session.Twins s

/-- Two calls in two kernels that cannot tell which kernel they are in. A call that leaves has no more
business with its session. -/
structure Call.Paired (k k' : Kernel) (c c' : Call) : Prop where
  /-- the calls are alike -/
  twins : c.Twins c'
  /-- so are their sessions in the kernels -/
  reflects : (∀ answer, c.stage ≠ .leaving answer) → k.Reflects c.session.id c'.session.id k'

/-- Two calls have come equally far. -/
inductive Progress.Paired (k k' : Kernel) : Progress → Progress → Prop where
  /-- they are in progress -/
  | running {c c' : Call} (h : c.Paired k k' c') : Paired k k' (.running c) (.running c')
  /-- they have returned, with the same reply -/
  | returned (reply : Reply) : Paired k k' (.returned reply) (.returned reply)

namespace Session.Twins

variable {s t : Session}

theorem length_eq (h : s.Twins t) : t.tickets.length = s.tickets.length := by
  have hlength := congrArg List.length h.tickets
  rwa [List.length_map, List.length_map] at hlength

/-- Both get one ticket more. -/
theorem join (h : s.Twins t) (index : Nat) (target : Target) (token token' : Token)
    (interest : Events) :
    (s.join index target token interest).Twins (t.join index target token' interest) := by
  refine ⟨h.capacity, h.deadline, ?_⟩
  simp only [Session.join, List.map_append, h.tickets, List.map_cons, List.map_nil]

/-- Both collect the same. -/
theorem harvest_eq {tickets tickets' : List Ticket}
    (h : tickets'.map (fun t => (t.index, t.interest)) = tickets.map fun t => (t.index, t.interest))
    (n : Notifier) (slot : Nat) : harvest n slot tickets' = harvest n slot tickets := by
  induction tickets generalizing tickets' slot with
  | nil =>
    obtain rfl := List.map_eq_nil_iff.1 h
    rfl
  | cons ticket tickets ih =>
    obtain ⟨ticket', rest, rfl, hticket, hrest⟩ := List.map_eq_cons_iff.1 h
    obtain ⟨hindex, hinterest⟩ := Prod.mk.inj hticket
    simp only [harvest, hindex, hinterest, ih hrest]

theorem drain_fired (h : s.Twins t) {k k' : Kernel} {n : Notifier} (hn : s.notifier? k = some n)
    (hn' : t.notifier? k' = some n) : (t.drain k').2.2 = (s.drain k).2.2 := by
  rw [Session.drain_fired hn, Session.drain_fired hn', harvest_eq h.tickets]

theorem drain (h : s.Twins t) (k k' : Kernel) : (s.drain k).2.1.Twins (t.drain k').2.1 := by
  refine ⟨h.capacity, h.deadline, ?_⟩
  have hwithdrawn : (fun t : Ticket => (t.index, t.interest)) ∘ Ticket.withdrawn =
      fun t => (t.index, t.interest) := rfl
  simp only [Session.drain, List.map_map, hwithdrawn]
  exact h.tickets

/-- Both are refused a ticket, or told that the object is ready or gone, or both get one. -/
theorem enroll_cases (h : s.Twins t) {k k' : Kernel} (hworld : k.SameWorld k')
    (hreflects : k.Reflects s.id t.id k') (index : Nat) (target : Target) (interest : Events) :
    (∃ cause, s.enroll k index target interest = .error cause ∧
      t.enroll k' index target interest = .error cause) ∨
    (∃ answer, s.enroll k index target interest = .ok (k, s, answer) ∧
      t.enroll k' index target interest = .ok (k', t, answer)) ∨
    ∃ k₁ k₁' token token', s.enroll k index target interest =
        .ok (k₁, s.join index target token interest, some (.enrolled token)) ∧
      t.enroll k' index target interest =
        .ok (k₁', t.join index target token' interest, some (.enrolled token')) ∧
      k₁.Reflects s.id t.id k₁' := by
  by_cases hfull : s.capacity ≤ s.tickets.length
  · refine .inl ⟨.resourceExhausted ("ticket table full at " ++ Text.natText s.tickets.length), ?_, ?_⟩
    · rw [Session.enroll, if_pos hfull]
    · rw [Session.enroll, h.capacity, h.length_eq, if_pos hfull]
  have hfull' : ¬t.capacity ≤ t.tickets.length := by rwa [h.capacity, h.length_eq]
  simp only [Session.enroll, if_neg hfull, if_neg hfull']
  obtain ⟨hnone, hnone'⟩ | ⟨e, e', he, he', hbare⟩ :=
    Registry.get?_cases_of_bare hworld.objects target
  · simp only [Kernel.enroll, hnone, hnone']
    exact .inr (.inl ⟨none, rfl, rfl⟩)
  have hreadiness := Entity.readiness_congr hbare
  by_cases hready : e.readiness ∩ interest = ∅
  · have hready' := hreadiness ▸ hready
    rw [Kernel.enroll_of_disjoint he hready, Kernel.enroll_of_disjoint he' hready']
    refine .inr (.inr ⟨_, _, _, _, rfl, rfl, ?_⟩)
    exact hreflects.join he he' hready hready' rfl rfl h.length_eq.symm
  · rw [Kernel.enroll_of_ready he hready, Kernel.enroll_of_ready he' (hreadiness ▸ hready), hreadiness]
    exact .inr (.inl ⟨_, rfl, rfl⟩)

end Session.Twins

/-- A call that drains settles on its answer. -/
theorem Call.Steps.settles {k k' : Kernel} {c : Call} {p : Progress} (h : Steps k c k' p)
    (hstage : c.stage = .draining) :
    k' = (c.session.drain k).1 ∧ p = .running (c.settledOn k (c.outcome k)) := by
  cases h with
  | drained => exact ⟨rfl, rfl⟩
  | _ hother => cases hstage.symm.trans hother

namespace Call.Paired

variable {s s' : System} {c c' : Call}

/-- Twins that have moved on in the same way are still paired. -/
theorem move {k k' : Kernel} {c₁ : Call} {t : Session} (htwins : c₁.session.Twins t)
    (hreflects : k.Reflects c₁.session.id t.id k') : c₁.Paired k k' { c₁ with session := t } :=
  ⟨⟨t, rfl, htwins⟩, fun _ => hreflects⟩

theorem resolve (h : c.Paired s.kernel s'.kernel c') (hworld : s.kernel.SameWorld s'.kernel)
    (hstage : c.stage = .resolving) :
    Progress.Paired (c.resolve s).1.kernel (c'.resolve s').1.kernel (c.resolve s).2
      (c'.resolve s').2 := by
  obtain ⟨⟨t, rfl, htwins⟩, hreflects⟩ := h
  have hreflects := hreflects fun answer heq => Stage.noConfusion (hstage.symm.trans heq)
  obtain ⟨thread, interruptible, singleShot, poll, session, passed, ahead, immediate, stage⟩ := c
  cases ahead with
  | nil =>
    simp only [Call.resolve, slots, List.append_nil]
    split
    · exact .returned _
    · split
      · exact .running (move htwins hreflects)
      · exact .running (move htwins (hreflects.modify _))
  | cons slot rest =>
    simp only [Call.resolve, Registry.lookup?_congr hworld.objects]
    split
    · exact .running (move htwins hreflects)
    · exact .running (move htwins hreflects)

theorem register (h : c.Paired s.kernel s'.kernel c') (hstage : c.stage = .registering) :
    Progress.Paired (c.register s).1.kernel (c'.register s').1.kernel (c.register s).2
      (c'.register s').2 := by
  obtain ⟨⟨t, rfl, htwins⟩, hreflects⟩ := h
  have hreflects := hreflects fun answer heq => Stage.noConfusion (hstage.symm.trans heq)
  refine .running (move htwins (hreflects.signals fun thread => ?_))
  simp only [SignalTable.register]
  by_cases hto : thread = c.thread
  · subst hto
    simp only [SignalTable.get_put_self]
  · simp only [SignalTable.get_put_ne hto]
    exact hreflects.active thread

theorem check (h : c.Paired s.kernel s'.kernel c') (hworld : s.kernel.SameWorld s'.kernel)
    (hstage : c.stage = .checking) :
    Progress.Paired (c.check s).1.kernel (c'.check s').1.kernel (c.check s).2 (c'.check s').2 := by
  obtain ⟨⟨t, rfl, htwins⟩, hreflects⟩ := h
  have hreflects := hreflects fun answer heq => Stage.noConfusion (hstage.symm.trans heq)
  simp only [Call.check, startPolling, hworld.hasPending_eq c.thread]
  refine .running (move htwins ?_)
  split
  · refine Kernel.Reflects.modify (hreflects.sessions ?_) _
    rw [SessionTable.get?_abort_self, SessionTable.get?_abort_self, hreflects.notifier]
  · exact hreflects.modify _

theorem conclude (h : c.Paired s.kernel s'.kernel c') (hstage : c.stage = .polling) :
    Progress.Paired (c.conclude s).1.kernel (c'.conclude s').1.kernel (c.conclude s).2
      (c'.conclude s').2 := by
  obtain ⟨⟨t, rfl, htwins⟩, hreflects⟩ := h
  have hreflects := hreflects fun answer heq => Stage.noConfusion (hstage.symm.trans heq)
  simp only [Call.conclude]
  split
  · exact .running (move htwins hreflects)
  · split
    · exact .running (move htwins hreflects)
    · exact .running (move htwins (hreflects.modify _))

theorem pollNext (h : c.Paired s.kernel s'.kernel c') (hworld : s.kernel.SameWorld s'.kernel)
    (hstage : c.stage = .polling) :
    Progress.Paired (c.pollNext s).1.kernel (c'.pollNext s').1.kernel (c.pollNext s).2
      (c'.pollNext s').2 := by
  have hpaired := h
  obtain ⟨⟨t, rfl, htwins⟩, hreflects⟩ := h
  have hreflects := hreflects fun answer heq => Stage.noConfusion (hstage.symm.trans heq)
  obtain ⟨thread, interruptible, singleShot, poll, session, passed, ahead, immediate, stage⟩ := c
  cases ahead with
  | nil => exact hpaired.conclude hstage
  | cons slot rest =>
    rcases htarget : slot.target with _ | target
    · simp only [Call.pollNext, htarget]
      exact .running (move htwins hreflects)
    · simp only [Call.pollNext, htarget, hworld.readiness_eq target]
      split
      · exact .running (move htwins hreflects)
      · split
        · exact .running (move htwins hreflects)
        · split <;> exact .running (move htwins hreflects)

theorem enrollNext (h : c.Paired s.kernel s'.kernel c') (hworld : s.kernel.SameWorld s'.kernel)
    (hstage : c.stage = .enrolling) :
    Progress.Paired (c.enrollNext s).1.kernel (c'.enrollNext s').1.kernel (c.enrollNext s).2
      (c'.enrollNext s').2 := by
  obtain ⟨⟨t, rfl, htwins⟩, hreflects⟩ := h
  have hreflects := hreflects fun answer heq => Stage.noConfusion (hstage.symm.trans heq)
  obtain ⟨thread, interruptible, singleShot, poll, session, passed, ahead, immediate, stage⟩ := c
  cases ahead with
  | nil => exact .running (move htwins hreflects)
  | cons slot rest =>
    rcases htarget : slot.target with _ | target
    · simp only [Call.enrollNext, htarget]
      exact .running (move htwins hreflects)
    simp only [Call.enrollNext, htarget]
    obtain ⟨cause, heq, heq'⟩ | ⟨answer, heq, heq'⟩ | ⟨k, k', token, token', heq, heq', hjoined⟩ :=
      htwins.enroll_cases hworld hreflects passed.length target slot.watch.reportable
    · rw [heq, heq']
      exact .running ⟨⟨t, rfl, htwins⟩, fun hstays => absurd rfl (hstays _)⟩
    · rw [heq, heq']
      rcases answer with _ | events | token <;> exact .running (move htwins hreflects)
    · rw [heq, heq']
      exact .running (move (htwins.join _ _ _ _ _) hjoined)

theorem blockNext (h : c.Paired s.kernel s'.kernel c') (hworld : s.kernel.SameWorld s'.kernel)
    {b : Block} (hstage : c.stage = .blocked b) {n : Notifier}
    (hn : c.session.notifier? s.kernel = some n) :
    Progress.Paired (c.blockNext s b).1.kernel (c'.blockNext s' b).1.kernel (c.blockNext s b).2
      (c'.blockNext s' b).2 := by
  obtain ⟨⟨t, rfl, htwins⟩, hreflects⟩ := h
  have hreflects := hreflects fun answer heq => Stage.noConfusion (hstage.symm.trans heq)
  have hn' : t.notifier? s'.kernel = some n := hreflects.notifier.symm.trans hn
  have hdoze : Progress.Paired (c.session.blockSteps 1 s.kernel b).1 (t.blockSteps 1 s'.kernel b).1
      (.running { c with stage := .blocked (c.session.blockSteps 1 s.kernel b).2 })
      (.running { c with session := t, stage := .blocked (t.blockSteps 1 s'.kernel b).2 }) := by
    have hsame : Block.step t.deadline s'.kernel.clock.now n b =
        Block.step c.session.deadline s.kernel.clock.now n b := by rw [htwins.deadline, hworld.now_eq]
    rw [Session.blockSteps_one hn, Session.blockSteps_one hn', hsame]
    refine .running (move htwins (hreflects.sessions ?_))
    rw [SessionTable.get?_put_self hn, SessionTable.get?_put_self hn']
  cases b with
  | finished v => exact .running (move htwins hreflects)
  | looking => exact hdoze
  | parked => exact hdoze

theorem drain (h : c.Paired s.kernel s'.kernel c') (hstage : c.stage = .draining) {n : Notifier}
    (hn : c.session.notifier? s.kernel = some n) :
    Progress.Paired (c.drain s).1.kernel (c'.drain s').1.kernel (c.drain s).2 (c'.drain s').2 := by
  obtain ⟨⟨t, rfl, htwins⟩, hreflects⟩ := h
  have hreflects := hreflects fun answer heq => Stage.noConfusion (hstage.symm.trans heq)
  have hn' : t.notifier? s'.kernel = some n := hreflects.notifier.symm.trans hn
  have hcollected : collected s'.kernel { c with session := t } = c.collected s.kernel :=
    congrArg (fire c.slots) (htwins.drain_fired hn hn')
  have hkept : kept s'.kernel { c with session := t } = c.kept s.kernel := by
    simp only [kept, hcollected]
  have houtcome : outcome s'.kernel { c with session := t } = c.outcome s.kernel := by
    simp only [outcome, hkept, hn, hn']
  obtain ⟨hkernel, hprogress⟩ := (steps_drain (s := s) hstage).settles hstage
  obtain ⟨hkernel', hprogress'⟩ :=
    (steps_drain (s := s') (c := { c with session := t }) hstage).settles hstage
  rw [hkernel, hprogress, hkernel', hprogress']
  refine .running ⟨⟨(t.drain s'.kernel).2.1, ?_, htwins.drain s.kernel s'.kernel⟩,
    fun hstays => absurd rfl (hstays _)⟩
  simp only [settledOn, hcollected, hkept, houtcome]

theorem leave (h : c.Paired s.kernel s'.kernel c') (answer : Except WaitError Outcome) :
    Progress.Paired (c.leave s answer).1.kernel (c'.leave s' answer).1.kernel (c.leave s answer).2
      (c'.leave s' answer).2 := by
  obtain ⟨⟨t, rfl, -⟩, -⟩ := h
  exact .returned _

/-- **A step of the call is the same in both kernels.** -/
theorem step (h : c.Paired s.kernel s'.kernel c') (hworld : s.kernel.SameWorld s'.kernel)
    (hn : (∀ answer, c.stage ≠ .leaving answer) → ∃ n, c.session.notifier? s.kernel = some n) :
    Progress.Paired (c.step s).1.kernel (c'.step s').1.kernel (c.step s).2 (c'.step s').2 := by
  have hsame : c'.stage = c.stage := by
    obtain ⟨⟨t, rfl, -⟩, -⟩ := h
    rfl
  rw [Call.step, Call.step, hsame]
  rcases hstage : c.stage with _ | _ | _ | _ | _ | b | _ | answer
  · exact h.resolve hworld hstage
  · exact h.register hstage
  · exact h.check hworld hstage
  · exact h.pollNext hworld hstage
  · exact h.enrollNext hworld hstage
  · obtain ⟨n, hn⟩ := hn fun answer heq => Stage.noConfusion (hstage.symm.trans heq)
    exact h.blockNext hworld hstage hn
  · obtain ⟨n, hn⟩ := hn fun answer heq => Stage.noConfusion (hstage.symm.trans heq)
    exact h.drain hstage hn
  · exact h.leave answer

/-- What other threads do leaves the calls paired. -/
theorem effect {k k' : Kernel} (h : c.Paired k k' c') (hworld : k.SameWorld k') {op : Operation}
    (hbelow : op.Below c.session.id) (hbelow' : op.Below c'.session.id)
    (hkeeps : ∀ target token, op ≠ .disenroll target token) :
    c.Paired (op.effect k) (op.effect k') c' :=
  ⟨h.twins, fun hstays => (h.reflects hstays).effect hworld hbelow hbelow' hkeeps⟩

/-- What makes no difference to the one session leaves the calls paired. -/
theorem of_left {k k' k₁ : Kernel} (h : c.Paired k k' c')
    (hspared : k.Reflects c.session.id c.session.id k₁) : c.Paired k₁ k' c' :=
  ⟨h.twins, fun hstays => hspared.symm.trans (h.reflects hstays)⟩

end Call.Paired

/-! ## Waits in every form -/

namespace Wait

/-- Two waits have come equally far, and say the same. -/
inductive Paired (k k' : Kernel) : Wait → Wait → Prop where
  /-- they are in progress, and have the same form -/
  | running {w w' : Wait} {c c' : Call} (hcall : w.call? = some c) (hcall' : w'.call? = some c')
      (hform : ∀ progress, w.after progress = w'.after progress) (h : c.Paired k k' c') : Paired k k' w w'
  /-- they are over -/
  | ended {w : Wait} (hover : w.call? = none) : Paired k k' w w

namespace Paired

variable {k k' : Kernel} {w w' : Wait}

theorem of_typed {p p' : Progress} (h : p.Paired k k' p') : Paired k k' (typed p) (typed p') := by
  cases h with
  | running h => exact .running rfl rfl (fun _ => rfl) h
  | returned reply => exact .ended rfl

theorem of_raw {p p' : Progress} (h : p.Paired k k' p') (entries : List RawEntry)
    (decoded : List (Option Watch)) :
    Paired k k' (raw (.of entries decoded p)) (raw (.of entries decoded p')) := by
  cases h with
  | running h => exact .running rfl rfl (fun _ => rfl) h
  | returned reply => exact .ended rfl

/-- **A step of a wait is the same in both kernels.** -/
theorem step {s s' : System} (h : Paired s.kernel s'.kernel w w')
    (hworld : s.kernel.SameWorld s'.kernel)
    (hn : ∀ c, w.call? = some c → (∀ answer, c.stage ≠ .leaving answer) →
      ∃ n, c.session.notifier? s.kernel = some n) :
    Paired (w.step s).1.kernel (w'.step s').1.kernel (w.step s).2 (w'.step s').2 := by
  cases h with
  | ended hover =>
    rw [step_of_over hover, step_of_over hover]
    exact .ended hover
  | @running _ c c' hcall hcall' hform h =>
    have hstep := h.step hworld (hn c hcall)
    rw [step_of_call hcall, step_of_call hcall']
    simp only
    rcases hp : (c.step s).2 with c₁ | reply <;> rcases hp' : (c'.step s').2 with c₁' | reply' <;>
      rw [hp, hp'] at hstep <;> cases hstep
    · next h =>
      refine .running (call?_after hcall _) (call?_after hcall' _) (fun progress => ?_) h
      rw [after_after hcall, after_after hcall']
      exact hform progress
    · rw [hform]
      exact .ended (call?_of_returned w' reply)

end Paired

end Wait

/-! ## The beginning of a wait -/

/-- A session that is new is the same in both kernels: nothing waits for it, and no signal aborts
it. -/
theorem Kernel.Reached.reflects_add {handed handed' : List (Target × Token)} {k k' : Kernel}
    (h : k.Reached handed) (h' : k'.Reached handed') (n : Notifier) :
    Kernel.Reflects k.sessions.nextId k'.sessions.nextId { k with sessions := k.sessions.add n }
      { k' with sessions := k'.sessions.add n } := by
  have hnone : ∀ {handed : List (Target × Token)} {k : Kernel}, k.Reached handed → ∀ target,
      k.waiting k.sessions.nextId target = [] := fun h =>
    Kernel.waiting_eq_nil fun _ _ hqueued => Nat.ne_of_lt (h.opened_of_queued hqueued)
  have hidle : ∀ {handed : List (Target × Token)} {k : Kernel}, k.Reached handed → ∀ thread,
      (k.signals.get thread).activeWait ≠ some k.sessions.nextId := fun h _ hactive =>
    Nat.lt_irrefl _ (h.opened_of_active hactive)
  refine ⟨fun target => ?_, fun thread => ?_, ?_⟩
  · exact .of_eq ((hnone h target).trans (hnone h' target).symm)
  · exact iff_of_false (hidle h thread) (hidle h' thread)
  · rw [SessionTable.get?_add_self, SessionTable.get?_add_self]

section Beginning

variable {handed handed' : List (Target × Token)} (s s' : System)

theorem System.paired_begin (hreached : s.kernel.Reached handed) (hreached' : s'.kernel.Reached handed')
    (hconfig : s.config = s'.config) (hclock : s.kernel.clock.unread = s'.kernel.clock.unread)
    (r : Request) (hcounts : (s.begin r).1.kernel.clock.CountsAs (s'.begin r).1.kernel.clock) :
    Progress.Paired (s.begin r).1.kernel (s'.begin r).1.kernel (s.begin r).2 (s'.begin r).2 := by
  have hrefusal : s.refusal? r = s'.refusal? r := by
    simp only [refusal?, countRefusal?, hconfig]
  have hnow : s.kernel.clock.now = s'.kernel.clock.now := congrArg (fun clock => clock.now) hclock
  revert hcounts
  simp only [System.begin, ← hrefusal]
  rcases s.refusal? r with _ | cause
  · simp only [Session.new]
    rcases Notifier.new? r.watches.length with cause | n
    · exact fun _ => .returned _
    · intro hcounts
      have hreflects : Kernel.Reflects s.kernel.sessions.nextId s'.kernel.sessions.nextId
          { (s.kernel.arm r.timeout).1 with sessions := s.kernel.sessions.add n }
          { (s'.kernel.arm r.timeout).1 with sessions := s'.kernel.sessions.add n } :=
        (hreached.reflects_add hreached' n).congr rfl rfl rfl rfl rfl rfl
      have harm : (s.kernel.arm r.timeout).2 = (s'.kernel.arm r.timeout).2 :=
        Timeout.arm_congr hclock hcounts
      rw [harm, hnow]
      exact .running (.move ⟨rfl, rfl, rfl⟩ hreflects)
  · exact fun _ => .returned _

theorem System.paired_enter (hreached : s.kernel.Reached handed) (hreached' : s'.kernel.Reached handed')
    (hconfig : s.config = s'.config) (hclock : s.kernel.clock.unread = s'.kernel.clock.unread)
    (thread : ThreadId) (watches : List Watch) (flags : Flags) (value : Int64)
    (hcounts : (s.enter thread watches flags value).1.kernel.clock.CountsAs
      (s'.enter thread watches flags value).1.kernel.clock) :
    Progress.Paired (s.enter thread watches flags value).1.kernel
      (s'.enter thread watches flags value).1.kernel (s.enter thread watches flags value).2
      (s'.enter thread watches flags value).2 := by
  revert hcounts
  simp only [System.enter]
  rcases Request.ofFlags thread watches flags value with cause | r
  · exact fun _ => .returned _
  · exact System.paired_begin s s' hreached hreached' hconfig hclock r

/-- **A wait begins in the same way in both kernels**, if the time and the configuration are the
same, and the clocks count from the same moment once they were read. -/
theorem Invocation.paired_begin (hreached : s.kernel.Reached handed)
    (hreached' : s'.kernel.Reached handed') (hconfig : s.config = s'.config)
    (hclock : s.kernel.clock.unread = s'.kernel.clock.unread) (v : Invocation)
    (hcounts : (v.begin s).1.kernel.clock.CountsAs (v.begin s').1.kernel.clock) :
    Wait.Paired (v.begin s).1.kernel (v.begin s').1.kernel (v.begin s).2 (v.begin s').2 := by
  cases v with
  | multiplexer r =>
    exact .of_typed (System.paired_begin s s' hreached hreached' hconfig hclock r hcounts)
  | typed thread watches flags value =>
    exact .of_typed
      (System.paired_enter s s' hreached hreached' hconfig hclock thread watches flags value hcounts)
  | raw r =>
    have hdecode : r.decode s = r.decode s' := by
      simp only [RawRequest.decode, System.countRefusal?, hconfig]
    revert hcounts
    simp only [Invocation.begin, System.enterRaw, ← hdecode]
    rcases r.decode s with cause | ⟨flags, decoded⟩
    · exact fun _ => .ended rfl
    · simp only
      split
      · exact fun _ => .ended rfl
      · have henter := fun stats stats' => System.paired_enter ⟨s.kernel, s.config, stats⟩
          ⟨s'.kernel, s'.config, stats'⟩ hreached hreached' hconfig hclock r.thread
          (decoded.filterMap id) flags r.timeout
        intro hcounts
        refine .of_raw (henter _ _ ?_) _ _
        exact hcounts

end Beginning

end KernelWait
