import KernelWait.Proofs.Settling

/-!
# One object is enough

A call that reports only what is ready first, and the same call if it collected all that is ready. They do
the same until something is found ready without blocking; then the one stops, and the other goes over the
rest of its objects, which nobody sees. The one clears what it does not report, and it makes no difference
that the other had more to write (`Call.Alongside`).

**The reply of the one is that of the other up to its first ready watch** (`System.single_shot_cuts`), and
neither the kernel nor any counter can tell them apart.
-/

namespace KernelWait

/-! ## What is cut off -/

/-- The watches without what fired after the first of them that is ready. -/
def Watch.cut (ws : List Watch) : List Watch :=
  ws.mapIdx fun i w => if (ws.take i).any isReady then w.clear else w

/-- One ready watch, however many there are. -/
def Reply.single (reply : Reply) : Reply :=
  match reply.answer with
  | .ok (.ready _) => ⟨.ok (.ready 1), Watch.cut reply.watches⟩
  | _ => reply

/-- The reply of a call that has returned. -/
def Progress.reply? : Progress → Option Reply
  | running _ => none
  | returned reply => some reply

/-- The call that reports only what is ready first. -/
def Call.single (c : Call) : Call := { c with singleShot := true }

/-- The progress of a call if it reports only what is ready first. -/
def Progress.single : Progress → Progress
  | running c => running c.single
  | returned reply => returned reply

namespace Request

/-- The request for all that is ready. -/
def collecting (r : Request) : Request := { r with flags := r.flags \ .singleShot }

/-- The request for what is ready first. -/
def single (r : Request) : Request := { r with flags := r.flags ∪ .singleShot }

end Request

namespace Watch

theorem keepFirst_eq_cut (ws : List Watch) : keepFirst ws = cut ws := by
  induction ws with
  | nil => rfl
  | cons w ws ih =>
    rw [keepFirst, cut, List.mapIdx_cons]
    by_cases hready : w.isReady = true
    · have hcleared : ws.map clear = ws.mapIdx fun _ v => v.clear :=
        List.ext_getElem? fun i => by simp
      simp [hready, hcleared]
    · rw [Bool.not_eq_true] at hready
      simp [hready, ih, cut]

theorem keepFirst_append {ws : List Watch} (h : ∃ w ∈ ws, w.isReady = true) (vs : List Watch) :
    keepFirst (ws ++ vs) = keepFirst ws ++ vs.map clear := by
  induction ws with
  | nil => exact absurd h.choose_spec.1 List.not_mem_nil
  | cons w ws ih =>
    simp only [List.cons_append, keepFirst]
    by_cases hready : w.isReady = true
    · simp [hready]
    · simp only [hready, Bool.false_eq_true, if_false, List.cons_append]
      obtain ⟨v, hv, hvready⟩ := h
      rcases List.mem_cons.1 hv with rfl | hlater
      · exact absurd hvready hready
      · rw [ih ⟨v, hlater, hvready⟩]

theorem keepFirst_of_unready {ws : List Watch} (h : ws.countP isReady = 0) : keepFirst ws = ws := by
  induction ws with
  | nil => rfl
  | cons w ws ih =>
    rw [List.countP_eq_zero] at h
    rw [keepFirst, if_neg (h w List.mem_cons_self),
      ih (List.countP_eq_zero.2 fun v hv => h v (List.mem_cons_of_mem w hv))]

theorem countP_keepFirst {ws : List Watch} (h : 0 < ws.countP isReady) :
    (keepFirst ws).countP isReady = 1 := by
  induction ws with
  | nil => cases h
  | cons w ws ih =>
    rw [keepFirst]
    by_cases hready : w.isReady = true
    · have hcleared : (ws.map clear).countP isReady = 0 := by
        rw [List.countP_eq_zero]
        intro v hv
        obtain ⟨u, -, rfl⟩ := List.mem_map.1 hv
        exact Bool.false_ne_true
      rw [if_pos hready, List.countP_cons_of_pos hready, hcleared]
    · rw [List.countP_cons_of_neg hready] at h
      rw [if_neg hready, List.countP_cons_of_neg hready, ih h]

end Watch

namespace Call

variable {k k' : Kernel} {s : System} {c c' d : Call} {r : Request}

/-! ## Steps of both -/

/-- **Until something is ready, and as long as nothing is drained, both make the same steps.** -/
theorem step_single (hstage : c.stage ≠ .draining) (hpolling : c.stage = .polling → c.immediate = false) :
    c.single.step s = ((c.step s).1, (c.step s).2.single) := by
  obtain ⟨thread, interruptible, singleShot, poll, session, passed, ahead, immediate, stage⟩ := c
  cases stage with
  | resolving =>
    cases ahead with
    | nil =>
      simp only [step, single, resolve, slots, List.append_nil]
      by_cases hall : passed.all (·.target.isNone) = true
      · simp only [if_pos hall]
        rfl
      · simp only [if_neg hall]
        cases interruptible <;> rfl
    | cons slot rest =>
      simp only [step, single, resolve]
      split <;> rfl
  | registering => rfl
  | checking => rfl
  | polling =>
    obtain rfl : immediate = false := hpolling rfl
    cases ahead with
    | nil =>
      simp only [step, single, pollNext, conclude]
      cases poll <;> rfl
    | cons slot rest =>
      simp only [step, single, pollNext, Bool.false_and, Bool.false_eq_true, if_false]
      rcases slot.target with _ | target
      · rfl
      · by_cases hready : s.kernel.readiness target ∩ slot.watch.reportable ≠ ∅
        · simp only [if_pos hready]
          rfl
        · simp only [if_neg hready]
          cases poll <;> rfl
  | enrolling =>
    cases ahead with
    | nil => rfl
    | cons slot rest =>
      simp only [step, single, enrollNext]
      rcases slot.target with _ | target
      · rfl
      · simp only
        split
        · rfl
        · split <;> rfl
  | blocked b =>
    simp only [step, single, blockNext]
    split <;> rfl
  | draining => exact absurd rfl hstage
  | leaving answer =>
    simp only [step, single, leave, watches, slots]
    rfl

/-- Something is found ready in one of two ways only. -/
theorem Steps.immediate_cases (h : Steps k c k' (.running c')) :
    c'.immediate = c.immediate ∨
    c'.immediate = true ∧ c'.stage = .polling ∧ ∃ slot ∈ c'.passed, slot.watch.isReady = true := by
  cases h with
  | polled hstage hahead htarget hready =>
    exact .inr ⟨rfl, hstage, _, List.mem_append_right _ (List.mem_singleton_self _),
      bne_iff_ne.2 hready⟩
  | overtaken hstage hahead htarget hget hready =>
    exact .inr ⟨rfl, rfl, _, List.mem_append_right _ (List.mem_singleton_self _),
      bne_iff_ne.2 hready⟩
  | _ => exact .inl rfl

/-! ## Draining both -/

/-- What is fired on behalf of slots at the front leaves those at the back alone. -/
theorem fire_append {front : List Slot} {fired : List (Nat × Events)}
    (h : ∀ f ∈ fired, f.1 < front.length) (back : List Slot) :
    fire (front ++ back) fired = fire front fired ++ back := by
  apply List.ext_getElem?
  intro i
  rw [getElem?_fire]
  by_cases hi : i < front.length
  · rw [List.getElem?_append_left hi, List.getElem?_append_left (by rwa [length_fire]), getElem?_fire]
  · rw [Nat.not_lt] at hi
    have hnothing : Session.gathered i fired = ∅ := by
      refine Session.gathered_of_not_mem fun f hf heq => ?_
      have hlt := h f hf
      omega
    rw [List.getElem?_append_right hi, List.getElem?_append_right (by rwa [length_fire]), length_fire,
      hnothing]
    rcases back[i - front.length]? with _ | slot
    · rfl
    · simp only [Option.map_some, Watch.fire, Events.union_empty]

/-- Two calls with the same slots at the front, one of them ready, write back the same as far as the first
that is ready, and one of them nothing else. -/
theorem kept_of_front {front back back' : List Slot} (hslots : c.slots = front ++ back)
    (hslots' : d.slots = front ++ back') (hsession : d.session = c.session)
    (hcollects : c.singleShot = false) (hsingle : d.singleShot = true)
    (hindices : ∀ ticket ∈ c.session.tickets, ticket.index < front.length)
    (hready : ∃ slot ∈ front, slot.watch.isReady = true)
    (hback : back'.map (·.watch.clear) = back.map (·.watch.clear)) (k : Kernel) :
    d.kept k = Watch.keepFirst (c.kept k) := by
  have hfired : ∀ f ∈ (c.session.drain k).2.2, f.1 < front.length := by
    intro f hf
    obtain ⟨ticket, hticket, hindex⟩ := Session.exists_ticket_of_mem_collect hf
    rw [← hindex]
    exact hindices ticket hticket
  have hfront : ∃ w ∈ (fire front (c.session.drain k).2.2).map Slot.watch, w.isReady = true := by
    obtain ⟨slot, hslot, hslotready⟩ := hready
    obtain ⟨i, hi⟩ := List.getElem?_of_mem hslot
    have hfires := getElem?_fire front (c.session.drain k).2.2 i
    rw [hi, Option.map_some] at hfires
    refine ⟨_, List.mem_map_of_mem (List.mem_of_getElem? hfires), bne_iff_ne.2 fun hempty => ?_⟩
    exact bne_iff_ne.1 hslotready (Events.union_eq_empty_iff.1 hempty).1
  have hcleared : ∀ slots : List Slot, (slots.map Slot.watch).map Watch.clear =
      slots.map (·.watch.clear) := fun slots => List.map_map
  rw [kept, hsingle, if_pos rfl, kept, hcollects, if_neg Bool.false_ne_true, collected, collected,
    hslots, hslots', hsession, fire_append hfired, fire_append hfired, List.map_append, List.map_append,
    Watch.keepFirst_append hfront, Watch.keepFirst_append hfront, hcleared, hcleared, hback]

theorem kept_single (hcollects : c.singleShot = false) (k : Kernel) :
    c.single.kept k = Watch.keepFirst (c.kept k) := by
  rw [kept, kept, hcollects, if_neg Bool.false_ne_true]
  rfl

/-- The one counts a single ready watch if the other counts any, and otherwise both settle on the same. -/
theorem outcome_of_keepFirst (hsession : d.session = c.session)
    (hkept : d.kept k = Watch.keepFirst (c.kept k)) :
    (∃ n, c.outcome k = .ok (.ready n) ∧ d.outcome k = .ok (.ready 1)) ∨
    ((∀ n, c.outcome k ≠ .ok (.ready n)) ∧ d.outcome k = c.outcome k ∧ d.kept k = c.kept k) := by
  by_cases hready : 0 < (c.kept k).countP Watch.isReady
  · refine .inl ⟨_, if_pos hready, ?_⟩
    rw [outcome, hkept, Watch.countP_keepFirst hready, if_pos Nat.one_pos]
  · have hnone := Nat.eq_zero_of_not_pos hready
    have hsame : d.kept k = c.kept k := by rw [hkept, Watch.keepFirst_of_unready hnone]
    refine .inr ⟨fun n => ?_, ?_, hsame⟩
    · rw [outcome, if_neg hready]
      split <;> rintro ⟨⟩
    · rw [outcome, outcome, hsame, hsession]

/-- The one replies what the other does, up to the first ready watch. -/
theorem reply_of_keepFirst (hsession : d.session = c.session)
    (hkept : d.kept k = Watch.keepFirst (c.kept k)) :
    (⟨d.outcome k, d.kept k⟩ : Reply) = Reply.single ⟨c.outcome k, c.kept k⟩ := by
  obtain ⟨n, hready, hone⟩ | ⟨hunready, hsame, hwatches⟩ := outcome_of_keepFirst hsession hkept
  · rw [hone, hready, hkept, Watch.keepFirst_eq_cut]
    rfl
  · rw [hsame, hwatches, Reply.single]
    split
    · next m hanswer => exact absurd hanswer (hunready m)
    · rfl

/-! ## Both calls side by side -/

/-- Two calls have the same caller and the same session. -/
structure Partners (c d : Call) : Prop where
  /-- one thread makes both -/
  thread : d.thread = c.thread
  /-- signals may abort both or neither -/
  interruptible : d.interruptible = c.interruptible
  /-- they have the same session, with the same tickets -/
  session : d.session = c.session

/-- How far a call has come that collects all that is ready, and how far the same call that reports only
what is ready first, once they have polled their objects. -/
inductive Alongside : Progress → Progress → Prop where
  /-- both are blocked -/
  | blocked {c : Call} {b : Block} (hstage : c.stage = .blocked b) (hcollects : c.singleShot = false) :
    Alongside (.running c) (.running c.single)
  /-- both are about to drain -/
  | draining {c d : Call} (hpartners : c.Partners d) (hstage : c.stage = .draining)
      (hstage' : d.stage = .draining) (hkept : ∀ k, d.kept k = Watch.keepFirst (c.kept k)) :
    Alongside (.running c) (.running d)
  /-- both have settled on an answer -/
  | leaving {c d : Call} {answer answer' : Except WaitError Outcome} (hpartners : c.Partners d)
      (hstage : c.stage = .leaving answer) (hstage' : d.stage = .leaving answer')
      (hreply : (⟨answer', d.watches⟩ : Reply) = Reply.single ⟨answer, c.watches⟩) :
    Alongside (.running c) (.running d)
  /-- both have returned -/
  | returned (reply : Reply) : Alongside (.returned reply) (.returned reply.single)

theorem alongside_single (hstage : c.stage = .draining) (hcollects : c.singleShot = false) :
    Alongside (.running c) (.running c.single) :=
  .draining ⟨rfl, rfl, rfl⟩ hstage hstage (kept_single hcollects)

/-- **Both make the same steps from then on**, to the same effect. -/
theorem Alongside.step (h : Alongside (.running c) (.running d)) (s : System) :
    (d.step s).1 = (c.step s).1 ∧ Alongside (c.step s).2 (d.step s).2 := by
  cases h with
  | @blocked _ b hstage hcollects =>
    have hsteps := step_single (c := c) (s := s) (by rw [hstage]; exact Stage.noConfusion)
      (by rw [hstage]; exact Stage.noConfusion)
    rw [hsteps]
    refine ⟨rfl, ?_⟩
    simp only [Call.step, hstage, blockNext]
    rcases b with _ | _ | v
    · exact .blocked rfl hcollects
    · exact .blocked rfl hcollects
    · exact alongside_single rfl hcollects
  | draining hpartners hstage hstage' hkept =>
    have hkept := hkept s.kernel
    have hreply := reply_of_keepFirst hpartners.session hkept
    simp only [Call.step, hstage, hstage', drain_eq, hpartners.session]
    constructor
    · obtain ⟨n, hready, hone⟩ | ⟨-, hsame, -⟩ := outcome_of_keepFirst hpartners.session hkept
      · rw [hready, hone]
      · rw [hsame]
    · refine .leaving ⟨hpartners.thread, hpartners.interruptible, ?_⟩ rfl rfl ?_
      · simp only [settledOn, hpartners.session]
      · rw [watches_settledOn, watches_settledOn, hreply]
  | leaving hpartners hstage hstage' hreply =>
    simp only [Call.step, hstage, hstage', leave, hpartners.thread, hpartners.interruptible,
      hpartners.session, hreply]
    exact ⟨trivial, .returned _⟩

/-- Both sleep at the same time. -/
theorem Alongside.asleep_eq (h : Alongside (.running c) (.running d)) (s : System) :
    d.asleep s = c.asleep s := by
  cases h with
  | blocked => rfl
  | draining _ hstage hstage' | leaving _ hstage hstage' =>
    rw [not_asleep_of_moving (by rw [hstage']; exact fun _ => Stage.noConfusion),
      not_asleep_of_moving (by rw [hstage]; exact fun _ => Stage.noConfusion)]

theorem Alongside.settle (h : Alongside (.running c) (.running d)) (s : System) (n : Nat) :
    (System.settle n s d).1 = (System.settle n s c).1 ∧
      Alongside (System.settle n s c).2 (System.settle n s d).2 := by
  induction n generalizing s c d with
  | zero => exact ⟨rfl, h⟩
  | succ n ih =>
    obtain ⟨hsystem, hnext⟩ := h.step s
    have hasleep := h.asleep_eq s
    rcases hawake : c.asleep s with _ | _
    · rw [hawake] at hasleep
      rcases hstep : c.step s with ⟨s', c' | reply⟩ <;> rcases hstep' : d.step s with ⟨t', d' | reply'⟩ <;>
        rw [hstep, hstep'] at hsystem hnext
      · obtain rfl : t' = s' := hsystem
        rw [System.settle_of_running hawake hstep, System.settle_of_running hasleep hstep']
        exact ih hnext t'
      · cases hnext
      · cases hnext
      · rw [System.settle_of_returned hawake hstep, System.settle_of_returned hasleep hstep']
        exact ⟨hsystem, hnext⟩
    · rw [hawake] at hasleep
      simp only [System.settle, hawake, hasleep, if_true]
      exact ⟨trivial, h⟩

/-! ## Once something is ready -/

/-- A call that drains has two steps left. -/
theorem settle_of_draining (hstage : c.stage = .draining) (s : System) (n : Nat) :
    System.settle (n + 2) s c = System.settle 2 s c := by
  have hmoving : ∀ b, c.stage ≠ .blocked b := by
    rw [hstage]
    exact fun _ => Stage.noConfusion
  have hdrains : ∃ s' c' answer, c.step s = (s', .running c') ∧ c'.stage = .leaving answer := by
    simp only [Call.step, hstage, drain_eq]
    exact ⟨_, _, _, rfl, rfl⟩
  obtain ⟨s', c', answer, hstep, hstage'⟩ := hdrains
  have hmoving' : ∀ b, c'.stage ≠ .blocked b := by
    rw [hstage']
    exact fun _ => Stage.noConfusion
  have hleaves : c'.step s' = ((c'.leave s' answer).1, .returned ⟨answer, c'.watches⟩) := by
    simp only [Call.step, hstage', leave]
  have hend : ∀ m, System.settle (m + 2) s c =
      ((c'.leave s' answer).1, .returned ⟨answer, c'.watches⟩) := by
    intro m
    rw [System.settle_of_running (not_asleep_of_moving hmoving s) hstep,
      System.settle_of_returned (not_asleep_of_moving hmoving' s') hleaves]
  rw [hend n, hend 0]

/-- What a call has to do that has found something ready and gone over all its objects. -/
theorem settle_of_concluded (hstage : c.stage = .polling) (hahead : c.ahead = [])
    (himmediate : c.immediate = true) (s : System) (n : Nat) :
    System.settle (n + 3) s c = System.settle 2 (s.record .immediate) { c with stage := .draining } := by
  have hmoving : ∀ b, c.stage ≠ .blocked b := by
    rw [hstage]
    exact fun _ => Stage.noConfusion
  have hstep : c.step s = (s.record .immediate, .running { c with stage := .draining }) := by
    simp only [Call.step, hstage, pollNext, hahead, conclude, himmediate, if_true]
  rw [System.settle_of_running (not_asleep_of_moving hmoving s) hstep]
  exact settle_of_draining rfl _ n

/-- A call that collects goes over the rest of its objects, and writes nothing but what is ready. -/
theorem settle_collecting (hstage : c.stage = .polling) (himmediate : c.immediate = true)
    (hcollects : c.singleShot = false) (s : System) :
    ∃ back : List Slot, back.map (·.watch.clear) = c.ahead.map (·.watch.clear) ∧
      ∀ n, System.settle (c.ahead.length + n) s c =
        System.settle n s { c with passed := c.passed ++ back, ahead := [] } := by
  induction hahead : c.ahead generalizing c with
  | nil =>
    refine ⟨[], rfl, fun n => ?_⟩
    rw [List.length_nil, Nat.zero_add, List.append_nil, ← hahead]
  | cons slot rest ih =>
    have hmoving : ∀ b, c.stage ≠ .blocked b := by
      rw [hstage]
      exact fun _ => Stage.noConfusion
    -- the slot is passed as it is or with what its object is ready for
    have hpasses : ∃ slot' : Slot, slot'.watch.clear = slot.watch.clear ∧
        c.step s = (s, .running (c.pass slot')) := by
      simp only [Call.step, hstage, pollNext, hahead]
      rcases slot.target with _ | target
      · exact ⟨slot, rfl, rfl⟩
      · simp only [hcollects, himmediate, Bool.and_false, Bool.false_eq_true, if_false, Bool.true_or,
          if_true]
        split
        · refine ⟨{ slot with watch := { slot.watch with
            result := s.kernel.readiness target ∩ slot.watch.reportable } }, rfl, ?_⟩
          rw [passReady, ← himmediate]
          rfl
        · exact ⟨slot, rfl, rfl⟩
    obtain ⟨slot', hclear, hstep⟩ := hpasses
    have hrest : (c.pass slot').ahead = rest := by rw [pass, hahead, List.tail_cons]
    obtain ⟨back, hback, hsettle⟩ := ih (c := c.pass slot') hstage himmediate hcollects hrest
    refine ⟨slot' :: back, ?_, fun n => ?_⟩
    · rw [List.map_cons, List.map_cons, hback, hclear]
    · rw [List.length_cons, Nat.add_right_comm,
        System.settle_of_running (not_asleep_of_moving hmoving s) hstep, hsettle]
      simp only [pass, List.append_assoc, List.singleton_append]

/-- A call that reports only what is ready first is done with its objects at the next one. -/
theorem settle_stopping (hstage : c.stage = .polling) (himmediate : c.immediate = true)
    (hsingle : c.singleShot = true) (s : System) :
    ∃ m ≤ c.ahead.length, ∀ n, System.settle (m + n) s c =
      System.settle n s { c with passed := c.slots, ahead := [] } := by
  induction hahead : c.ahead generalizing c with
  | nil =>
    refine ⟨0, Nat.le_refl _, fun n => ?_⟩
    rw [Nat.zero_add, slots, hahead, List.append_nil, ← hahead]
  | cons slot rest ih =>
    have hmoving : ∀ b, c.stage ≠ .blocked b := by
      rw [hstage]
      exact fun _ => Stage.noConfusion
    have hawake := not_asleep_of_moving hmoving s
    rcases htarget : slot.target with _ | target
    · have hstep : c.step s = (s, .running (c.pass slot)) := by
        simp only [Call.step, hstage, pollNext, hahead, htarget]
      have hrest : (c.pass slot).ahead = rest := by rw [pass, hahead, List.tail_cons]
      obtain ⟨m, hm, hsettle⟩ := ih (c := c.pass slot) hstage himmediate hsingle hrest
      refine ⟨m + 1, Nat.succ_le_succ hm, fun n => ?_⟩
      rw [Nat.add_right_comm, System.settle_of_running hawake hstep, hsettle, slots_pass_self hahead]
      rfl
    · have hstep : c.step s = (s, .running { c with passed := c.slots, ahead := [] }) := by
        simp only [Call.step, hstage, pollNext, hahead, htarget, himmediate, hsingle, Bool.and_self,
          if_true]
      refine ⟨1, Nat.succ_le_succ (Nat.zero_le _), fun n => ?_⟩
      rw [Nat.add_comm, System.settle_of_running hawake hstep]

/-- **Once something is ready, the one stops and the other goes on**, and it makes no difference to what
they drain. -/
theorem settle_of_immediate (hsound : c.Sound r) (hstage : c.stage = .polling)
    (himmediate : c.immediate = true) (hready : ∃ slot ∈ c.passed, slot.watch.isReady = true)
    (hcollects : c.singleShot = false) (s : System) {n : Nat} (hbound : c.remaining ≤ n) :
    (System.settle n s c.single).1 = (System.settle n s c).1 ∧
      Alongside (System.settle n s c).2 (System.settle n s c.single).2 := by
  have hremaining : c.remaining = 2 * c.ahead.length + 6 := by simp only [remaining, hstage]
  obtain ⟨back, hback, hcollecting⟩ := settle_collecting hstage himmediate hcollects s
  obtain ⟨m, hm, hstopping⟩ := settle_stopping (c := c.single) hstage himmediate rfl s
  have hahead : c.single.ahead.length = c.ahead.length := rfl
  obtain ⟨i, rfl⟩ : ∃ i, n = c.ahead.length + (i + 3) := ⟨n - c.ahead.length - 3, by omega⟩
  obtain ⟨j, hj⟩ : ∃ j, c.ahead.length + (i + 3) = m + (j + 3) :=
    ⟨c.ahead.length + i - m, by omega⟩
  have hcollected := (hcollecting (i + 3)).trans
    (settle_of_concluded (c := { c with passed := c.passed ++ back, ahead := [] }) hstage rfl himmediate
      s i)
  have hstopped := (hstopping (j + 3)).trans
    (settle_of_concluded (c := { c.single with passed := c.slots, ahead := [] }) hstage rfl himmediate
      s j)
  have hindices : ∀ ticket ∈ c.session.tickets, ticket.index < c.passed.length := by
    intro ticket hticket
    obtain ⟨slot, hslot, -⟩ := hsound.matched ticket hticket
    exact (List.getElem?_eq_some_iff.1 hslot).1
  have hdraining : Alongside
      (.running { c with passed := c.passed ++ back, ahead := [], stage := .draining })
      (.running { c.single with passed := c.slots, ahead := [], stage := .draining }) :=
    .draining ⟨rfl, rfl, rfl⟩ rfl rfl
      (kept_of_front (List.append_nil _) (List.append_nil _) rfl hcollects rfl hindices hready
        hback.symm)
  rw [hj, hstopped, ← hj, hcollected]
  exact hdraining.settle (s.record .immediate) 2

/-- **Started at the same time, both settle alike.** -/
theorem settle_single (hcandid : c.Candid r) (hstays : ∀ answer, c.stage ≠ .leaving answer)
    (hcollects : c.singleShot = false) (himmediate : c.immediate = false) (s : System) {n : Nat}
    (hbound : c.remaining ≤ n) :
    (System.settle n s c.single).1 = (System.settle n s c).1 ∧
      Alongside (System.settle n s c).2 (System.settle n s c.single).2 := by
  induction n generalizing s c with
  | zero => exact absurd c.remaining_pos (Nat.not_lt.2 hbound)
  | succ n ih =>
    by_cases hblocked : ∃ b, c.stage = .blocked b
    · obtain ⟨b, hstage⟩ := hblocked
      exact (Alongside.blocked hstage hcollects).settle s (n + 1)
    by_cases hdraining : c.stage = .draining
    · exact (alongside_single hdraining hcollects).settle s (n + 1)
    have hmoving : ∀ b, c.stage ≠ .blocked b := fun b hstage => hblocked ⟨b, hstage⟩
    have hawake := not_asleep_of_moving hmoving s
    have hawake' : c.single.asleep s = false := hawake
    have hboth := step_single (s := s) hdraining fun _ => himmediate
    have hsteps := Call.steps_step s c
    rcases hstep : c.step s with ⟨s', c' | reply⟩
    · rw [hstep] at hsteps hboth
      rw [System.settle_of_running hawake hstep, System.settle_of_running hawake' hboth]
      have hcandid' := hcandid.steps hsteps
      have hsound : c.Sound r := hcandid.elim (fun h => absurd h.choose_spec.1 (hstays _)) And.right
      have hstays' : ∀ answer, c'.stage ≠ .leaving answer := by
        intro answer hleaves
        obtain ⟨slot, rest, hahead, hfull⟩ | ⟨hstage, -⟩ := hsteps.leaves_cases hleaves
        · exact absurd (hsound.tickets_lt hahead) (Nat.not_lt.2 hfull)
        · exact hdraining hstage
      have hcollects' := hsteps.singleShot_eq.trans hcollects
      have hless := hsteps.remaining_lt_of_moving hmoving
      obtain hsame | ⟨hfound, hpolling, hready⟩ := hsteps.immediate_cases
      · exact ih hcandid' hstays' hcollects' (hsame.trans himmediate) s' (by omega)
      · exact settle_of_immediate (hsound.steps hsteps hstays') hpolling hfound hready hcollects' s'
          (by omega)
    · rw [hstep] at hsteps hboth
      rw [System.settle_of_returned hawake hstep, System.settle_of_returned hawake' hboth]
      obtain ⟨-, -, -, rfl⟩ | ⟨answer, hleaving, -⟩ := hsteps.returned_cases
      · exact ⟨rfl, .returned _⟩
      · exact absurd hleaving (hstays answer)

end Call

/-! ## Requests for both -/

namespace Flags

theorem union_inter_of_disjoint {a b c : Flags} (h : b.bits &&& c.bits = 0) :
    (a ∪ b) ∩ c = a ∩ c := by
  have hdistrib : (a ∪ b) ∩ c = ⟨a.bits &&& c.bits ||| b.bits &&& c.bits⟩ := by
    apply ext_bits
    apply UInt32.toBitVec_inj.1
    ext i hi
    simp [show (a ∪ b).bits = a.bits ||| b.bits from rfl, Bool.and_or_distrib_right]
  rw [hdistrib, h, UInt32.or_zero]
  rfl

/-- What was added is there. -/
theorem includes_union_self (a b : Flags) : (a ∪ b).includes b = true := by
  have habsorbs : (a ∪ b) ∩ b = b := by
    apply ext_bits
    apply UInt32.toBitVec_inj.1
    ext i hi
    simp [show (a ∪ b).bits = a.bits ||| b.bits from rfl, Bool.and_or_distrib_right]
  rw [includes, habsorbs, beq_self_eq_true]

end Flags

/-- What a request asks for besides is the same. -/
theorem Request.flags_single (r : Request) {flags : Flags}
    (h : flags.bits &&& Flags.singleShot.bits = 0) :
    r.single.flags ∩ flags = r.collecting.flags ∩ flags := by
  have hdisjoint : Flags.singleShot.bits &&& flags.bits = 0 := by rw [UInt32.and_comm, h]
  rw [single, collecting, Flags.union_inter_of_disjoint hdisjoint, Flags.sdiff_inter_of_disjoint h]

namespace System

/-- Both are refused for the same reason, or both begin. -/
theorem begin_single (s : System) (r : Request) :
    (∃ reply, s.begin r.collecting = (s.begin r.collecting |>.1, .returned reply) ∧
      s.begin r.single = (s.begin r.collecting |>.1, .returned reply.single)) ∨
    ∃ s₁ c, s.begin r.collecting = (s₁, .running c) ∧ s.begin r.single = (s₁, .running c.single) ∧
      c.singleShot = false ∧ c.immediate = false ∧ c.stage = .resolving := by
  have hkinds : r.single.flags.meets .timeoutKinds = r.collecting.flags.meets .timeoutKinds := by
    rw [Flags.meets, Flags.meets, r.flags_single (by decide)]
  have hsignals : r.single.flags.includes .interruptible =
      r.collecting.flags.includes .interruptible := by
    rw [Flags.includes, Flags.includes, r.flags_single (by decide)]
  have hcollects : r.collecting.flags.includes .singleShot = false := by
    rw [Request.collecting, Flags.includes, Flags.sdiff_inter_self]
    decide
  have hsingle : r.single.flags.includes .singleShot = true := Flags.includes_union_self _ _
  have hrefusal : s.refusal? r.single = s.refusal? r.collecting := by
    simp only [refusal?, hkinds]
    rfl
  simp only [begin, hrefusal, hsignals, hcollects, hsingle]
  rcases s.refusal? r.collecting with _ | cause
  · simp only [Request.single, Request.collecting]
    rcases Session.new (s.kernel.arm r.timeout).1 r.watches.length (s.kernel.arm r.timeout).2 with
      cause | ⟨kernel, session⟩
    · exact .inl ⟨_, rfl, rfl⟩
    · exact .inr ⟨_, _, rfl, rfl, rfl, rfl, rfl⟩
  · exact .inl ⟨_, rfl, rfl⟩

/-- Both are started alike. -/
theorem alongside_start (s : System) (r : Request) :
    (s.start r.single).1 = (s.start r.collecting).1 ∧
      Call.Alongside (s.start r.collecting).2 (s.start r.single).2 := by
  obtain ⟨reply, hcollecting, hsingle⟩ | ⟨s₁, c, hcollecting, hsingle, hcollects, himmediate, hstage⟩ :=
    s.begin_single r
  · rw [start_of_refused hcollecting, start_of_refused hsingle]
    exact ⟨rfl, .returned reply⟩
  · have hcandid : c.Candid r.collecting :=
      candid_of_moment (show Moment (s.begin r.collecting) [] s₁ c from hcollecting)
    have hstays : ∀ answer, c.stage ≠ .leaving answer := by
      rw [hstage]
      exact fun _ => Stage.noConfusion
    rw [start_of_begin hcollecting, start_of_begin hsingle]
    exact Call.settle_single hcandid hstays hcollects himmediate s₁ c.remaining_le

/-- Whatever happens next, both go on alike. -/
theorem alongside_play {s : System} {p p' : Progress} (h : Call.Alongside p p')
    (schedule : List (Turn Operation)) :
    (play (s, p') schedule).1 = (play (s, p) schedule).1 ∧
      Call.Alongside (play (s, p) schedule).2 (play (s, p') schedule).2 := by
  induction schedule generalizing s p p' with
  | nil => exact ⟨rfl, h⟩
  | cons t schedule ih =>
    cases t with
    | other op => exact ih (s := { s with kernel := op.effect s.kernel }) h
    | own =>
      rcases p with c | reply <;> rcases p' with d | reply'
      · obtain ⟨hsystem, hnext⟩ := h.step s
        have hplay : play (s, .running d) (.own :: schedule) = play (d.step s) schedule := rfl
        have hplay' : play (s, .running c) (.own :: schedule) = play (c.step s) schedule := rfl
        rw [hplay, hplay', ← Prod.mk.eta (p := d.step s), ← Prod.mk.eta (p := c.step s), hsystem]
        exact ih hnext
      · cases h
      · cases h
      · exact ih h

/-- **A call that reports only what is ready first replies what the same call replies if it collects all
that is ready, up to its first ready watch.** Whatever other threads do after both were started, both are
refused, go on or return together, and leave the same kernel and the same counters. -/
theorem single_shot_cuts (s : System) (r : Request) (schedule : List (Turn Operation)) :
    (play (s.start r.single) schedule).1 = (play (s.start r.collecting) schedule).1 ∧
      (play (s.start r.single) schedule).2.reply? =
        (play (s.start r.collecting) schedule).2.reply?.map Reply.single := by
  obtain ⟨hsystem, halongside⟩ := s.alongside_start r
  rcases hsingle : s.start r.single with ⟨s₁, p'⟩
  rcases hcollecting : s.start r.collecting with ⟨s₂, p⟩
  rw [hsingle, hcollecting] at hsystem halongside
  obtain rfl : s₁ = s₂ := hsystem
  obtain ⟨hsame, hends⟩ := alongside_play (s := s₁) halongside schedule
  refine ⟨hsame, ?_⟩
  generalize (play (s₁, p) schedule).2 = q at hends
  generalize (play (s₁, p') schedule).2 = q' at hends
  cases hends <;> rfl

end System

end KernelWait
