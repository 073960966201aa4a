import Mathlib
import KernelWait.Proofs.Tickets

/-!
# The slots of a call

What a call writes into its slots: the status once a name is looked up, and events that the object was
ready for or that a ticket has fired with. Who is named, what is asked for and which object it was
resolved to stay the same from then on (`Call.Steps.map_blank`).

**A call in progress is sound**: what it has looked up is settled, its tickets stand for slots it has
passed, each for one, and it polls no more than it waits for (`Call.Sound.steps`).
-/

namespace KernelWait

/-! ## Slots without what was written -/

/-- The slot before anything was written into its watch. -/
def Slot.blank (slot : Slot) : Slot := { slot with watch := slot.watch.reset }

/-- Watches with the same blank form may report the same. -/
theorem Watch.reportable_congr {w w' : Watch} (h : w.reset = w'.reset) :
    w.reportable = w'.reportable := by
  have hkind : w.kind = w'.kind := congrArg (fun w => w.kind) h
  have hrequested : w.requested = w'.requested := congrArg (fun w => w.requested) h
  rw [reportable, reportable, hkind, hrequested]

namespace Call

variable {k k' : Kernel} {c c' : Call} {slot : Slot} {rest : List Slot}

theorem slots_of_ahead (hahead : c.ahead = slot :: rest) :
    c.slots = c.passed ++ slot :: rest := by
  rw [slots, hahead]

theorem slots_pass (hahead : c.ahead = slot :: rest) (slot' : Slot) :
    (c.pass slot').slots = c.passed ++ slot' :: rest := by
  rw [slots, pass, hahead, List.tail_cons, List.append_assoc]
  rfl

/-- A slot that is passed as it is stays where it is. -/
theorem slots_pass_self (hahead : c.ahead = slot :: rest) : (c.pass slot).slots = c.slots := by
  rw [slots_pass hahead, slots_of_ahead hahead]

theorem slots_passReady (hahead : c.ahead = slot :: rest) (events : Events) :
    (c.passReady slot events).slots =
      c.passed ++ { slot with watch := { slot.watch with result := events } } :: rest :=
  slots_pass hahead _

/-- The slots of a call when it drains, with what its tickets have fired with. -/
theorem getElem?_collected (k : Kernel) (c : Call) (i : Nat) :
    (c.collected k)[i]? = (c.slots[i]?).map fun slot =>
      { slot with watch := slot.watch.fire (Session.gathered i (c.session.drain k).2.2) } :=
  getElem?_fire _ _ _

@[simp] theorem length_collected (k : Kernel) (c : Call) :
    (c.collected k).length = c.slots.length := length_fire _ _

@[simp] theorem length_kept (k : Kernel) (c : Call) : (c.kept k).length = c.slots.length := by
  rw [kept]
  split
  · rw [Watch.length_keepFirst, List.length_map, length_collected]
  · rw [List.length_map, length_collected]

/-- A watch is written back as it was collected, or without what fired. -/
theorem getElem?_kept {i : Nat} (h : (c.collected k)[i]? = some slot) :
    (c.kept k)[i]? = some slot.watch ∨ (c.kept k)[i]? = some slot.watch.clear := by
  have hwatch : ((c.collected k).map Slot.watch)[i]? = some slot.watch := by
    rw [List.getElem?_map, h]
    rfl
  rw [kept]
  split
  · exact Watch.getElem?_keepFirst hwatch
  · exact .inl hwatch

/-- The slots of a call that has settled on an answer. -/
theorem getElem?_slots_settledOn {answer : Except WaitError Outcome} {i : Nat} :
    (c.settledOn k answer).slots[i]? =
      ((c.collected k)[i]?).bind fun slot =>
        ((c.kept k)[i]?).map fun w => { slot with watch := w } := by
  rw [slots, settledOn, List.append_nil, List.getElem?_zipWith']
  rcases (c.collected k)[i]? with _ | slot <;> rfl

/-- Every slot of a call that has settled on an answer was collected, and possibly cleared. -/
theorem settledOn_cases {answer : Except WaitError Outcome} {i : Nat} {slot' : Slot}
    (h : (c.settledOn k answer).slots[i]? = some slot') :
    ∃ slot, c.slots[i]? = some slot ∧
      (slot' = { slot with
          watch := slot.watch.fire (Session.gathered i (c.session.drain k).2.2) } ∨
        slot' = { slot with
          watch := (slot.watch.fire (Session.gathered i (c.session.drain k).2.2)).clear }) := by
  rw [getElem?_slots_settledOn, Option.bind_eq_some_iff] at h
  obtain ⟨collected, hcollected, hkept⟩ := h
  have hcases := getElem?_kept hcollected
  rw [getElem?_collected, Option.map_eq_some_iff] at hcollected
  obtain ⟨slot, hslot, rfl⟩ := hcollected
  refine ⟨slot, hslot, ?_⟩
  rcases hcases with hw | hw
  · rw [hw] at hkept
    exact .inl (Option.some.inj hkept).symm
  · rw [hw] at hkept
    exact .inr (Option.some.inj hkept).symm

/-- The watches of a call that has settled on an answer are those it writes back. -/
theorem watches_settledOn (answer : Except WaitError Outcome) :
    (c.settledOn k answer).watches = c.kept k := by
  apply List.ext_getElem?
  intro i
  rw [watches, List.getElem?_map, getElem?_slots_settledOn]
  rcases hcollected : (c.collected k)[i]? with _ | slot
  · have hnone : (c.kept k)[i]? = none := by
      rw [List.getElem?_eq_none_iff] at hcollected ⊢
      rwa [length_kept, ← length_collected k c]
    rw [hnone]
    rfl
  · rcases getElem?_kept hcollected with hw | hw <;> rw [hw] <;> rfl

/-- Whoever is named and whatever is asked for stays so when the names are looked up. -/
theorem Steps.map_blank (h : Steps k c k' (.running c')) (hstage : c.stage ≠ .resolving) :
    c'.slots.map Slot.blank = c.slots.map Slot.blank := by
  cases h with
  | found hresolving | missing hresolving | resolved hresolving | resolvedQuietly hresolving =>
    exact absurd hresolving hstage
  | registered | aborted | checked | concluded | retired | approached | turned | full | dozed
  | roused => rfl
  | skipped _ hahead => rw [slots_pass_self hahead]
  | ignored _ hahead | vanished _ hahead =>
    rw [slots_pass_self (c := { c with stage := .polling }) hahead]
    rfl
  | stopped => rw [slots, List.append_nil]
  | joined _ hahead =>
    rw [slots_of_ahead hahead, slots, pass, hahead, List.append_assoc]
    rfl
  | polled _ hahead =>
    rw [slots_passReady hahead, slots_of_ahead hahead, List.map_append, List.map_append]
    rfl
  | overtaken _ hahead =>
    rw [slots_passReady (c := { c with stage := .polling }) hahead, slots_of_ahead hahead,
      List.map_append, List.map_append]
    rfl
  | drained =>
    apply List.ext_getElem?
    intro i
    rw [List.getElem?_map, List.getElem?_map]
    rcases hslot : (c.settledOn k (c.outcome k)).slots[i]? with _ | slot'
    · rw [List.getElem?_eq_none_iff] at hslot
      have hnone : c.slots[i]? = none := by
        rw [List.getElem?_eq_none_iff]
        have hlength := congrArg List.length (watches_settledOn (k := k) (c := c) (c.outcome k))
        rw [watches, List.length_map, length_kept] at hlength
        rwa [← hlength]
      rw [hnone]
    · obtain ⟨slot, hold, rfl | rfl⟩ := settledOn_cases hslot <;> rw [hold] <;> rfl

theorem Steps.poll_eq (h : Steps k c k' (.running c')) : c'.poll = c.poll := by
  cases h <;> rfl

theorem Steps.singleShot_eq (h : Steps k c k' (.running c')) : c'.singleShot = c.singleShot := by
  cases h <;> rfl

theorem Steps.id_eq (h : Steps k c k' (.running c')) : c'.session.id = c.session.id := by
  cases h <;> rfl

theorem Steps.deadline_eq (h : Steps k c k' (.running c')) :
    c'.session.deadline = c.session.deadline := by
  cases h <;> rfl

theorem Steps.capacity_eq (h : Steps k c k' (.running c')) :
    c'.session.capacity = c.session.capacity := by
  cases h <;> rfl

/-- No name is looked up twice. -/
theorem Steps.stage_ne_resolving (h : Steps k c k' (.running c')) (hstage : c.stage ≠ .resolving) :
    c'.stage ≠ .resolving := by
  cases h with
  | found hresolving | missing hresolving | resolved hresolving | resolvedQuietly hresolving =>
    exact absurd hresolving hstage
  | skipped | stopped | polled => exact hstage
  | _ => exact Stage.noConfusion

/-- A call that has its answer returns it. -/
theorem Steps.returns_of_leaving {p : Progress} {answer : Except WaitError Outcome}
    (h : Steps k c k' p) (hstage : c.stage = .leaving answer) :
    p = .returned ⟨answer, c.watches⟩ := by
  cases h with
  | left hleaving => rw [Stage.leaving.inj (hstage.symm.trans hleaving)]
  | _ hother => cases hstage.symm.trans hother

/-- A call returns when no name stands for an object, or with the answer that it has. -/
theorem Steps.returned_cases {reply : Reply} (h : Steps k c k' (.returned reply)) :
    (c.stage = .resolving ∧ c.ahead = [] ∧ (∀ slot ∈ c.passed, slot.target = none) ∧
      reply = ⟨.error (.noValidTargets c.slots.length), c.watches⟩) ∨
    ∃ answer, c.stage = .leaving answer ∧ reply = ⟨answer, c.watches⟩ := by
  cases h with
  | hopeless hstage hahead hnone => exact .inl ⟨hstage, hahead, hnone, rfl⟩
  | left hstage => exact .inr ⟨_, hstage, rfl⟩

/-- A call comes to leave when it has no ticket left, or when it is drained. -/
theorem Steps.leaves_cases {answer : Except WaitError Outcome} (h : Steps k c k' (.running c'))
    (hleaves : c'.stage = .leaving answer) :
    (∃ slot rest, c.ahead = slot :: rest ∧ c.session.capacity ≤ c.session.tickets.length) ∨
    (c.stage = .draining ∧ k' = (c.session.drain k).1 ∧ c' = c.settledOn k (c.outcome k)) := by
  cases h with
  | full _ hahead hfull => exact .inl ⟨_, _, hahead, hfull⟩
  | drained hstage => exact .inr ⟨hstage, rfl, rfl⟩
  | found hstage | missing hstage | skipped hstage | stopped hstage | polled hstage =>
    cases hstage.symm.trans hleaves
  | _ => cases hleaves

/-- Once all names are looked up a step passes slots as they are, or one slot with something ready, or
one slot for which a ticket waits from now on. -/
theorem Steps.walk_cases (h : Steps k c k' (.running c')) (hstage : c.stage ≠ .resolving)
    (hstays : ∀ answer, c'.stage ≠ .leaving answer) :
    (∃ l, c'.passed = c.passed ++ l ∧ c.ahead = l ++ c'.ahead ∧ c'.immediate = c.immediate ∧
      c'.session = c.session) ∨
    (∃ slot rest target events, c.ahead = slot :: rest ∧ slot.target = some target ∧
      events ≠ ∅ ∧ events ⊆ slot.watch.reportable ∧ events = k.readiness target ∩
        slot.watch.reportable ∧
      c'.passed = c.passed ++ [{ slot with watch := { slot.watch with result := events } }] ∧
      c'.ahead = rest ∧ c'.immediate = true ∧ c'.session = c.session) ∨
    ∃ slot rest target token, c.ahead = slot :: rest ∧ slot.target = some target ∧
      c'.passed = c.passed ++ [slot] ∧ c'.ahead = rest ∧ c'.immediate = c.immediate ∧
      c'.session = c.session.join c.passed.length target token slot.watch.reportable := by
  cases h with
  | found hresolving | missing hresolving | resolved hresolving | resolvedQuietly hresolving =>
    exact absurd hresolving hstage
  | registered | aborted | checked | concluded | retired | approached | turned | dozed | roused =>
    exact .inl ⟨[], (List.append_nil _).symm, rfl, rfl, rfl⟩
  | skipped _ hahead | ignored _ hahead | vanished _ hahead =>
    refine .inl ⟨[_], rfl, ?_, rfl, rfl⟩
    simp only [pass, hahead]
    rfl
  | stopped => exact .inl ⟨c.ahead, rfl, (List.append_nil _).symm, rfl, rfl⟩
  | polled _ hahead htarget hready =>
    refine .inr (.inl ⟨_, _, _, _, hahead, htarget, hready, Events.inter_subset_right _ _, rfl, rfl,
      ?_, rfl, rfl⟩)
    simp only [passReady, pass, hahead]
    rfl
  | overtaken _ hahead htarget hget hready =>
    refine .inr (.inl ⟨_, _, _, _, hahead, htarget, hready, Events.inter_subset_right _ _, ?_, rfl,
      ?_, rfl, rfl⟩)
    · rw [Kernel.readiness_eq hget]
    · simp only [passReady, pass, hahead]
      rfl
  | joined _ hahead htarget =>
    refine .inr (.inr ⟨_, _, _, _, hahead, htarget, rfl, ?_, rfl, rfl⟩)
    simp only [pass, hahead]
    rfl
  | full => exact absurd rfl (hstays _)
  | drained => exact absurd rfl (hstays _)

end Call

/-! ## Settled slots -/

/-- A slot whose name was looked up says what became of it, and reports no more than it may. -/
structure Slot.Settled (slot : Slot) : Prop where
  /-- the status says whether there is an object -/
  status : slot.watch.status = if slot.target.isSome then .ok else .invalidObject
  /-- nothing is reported but what may be -/
  within : slot.watch.result ⊆ slot.watch.reportable
  /-- nothing is reported without an object -/
  absent : slot.target = none → slot.watch.result = ∅

namespace Slot.Settled

variable {slot : Slot}

theorem write (h : slot.Settled) {events : Events} (hwithin : events ⊆ slot.watch.reportable)
    (habsent : slot.target = none → events = ∅) :
    Slot.Settled { slot with watch := { slot.watch with result := events } } :=
  ⟨h.status, hwithin, habsent⟩

theorem fire (h : slot.Settled) {events : Events} (hwithin : events ⊆ slot.watch.reportable)
    (habsent : slot.target = none → events = ∅) :
    Slot.Settled { slot with watch := slot.watch.fire events } := by
  refine h.write (Events.union_subset h.within hwithin) fun hnone => ?_
  rw [h.absent hnone, habsent hnone, Events.union_empty]

theorem clear (h : slot.Settled) : Slot.Settled { slot with watch := slot.watch.clear } :=
  h.write (Events.empty_subset _) fun _ => rfl

theorem decided (h : slot.Settled) : slot.watch.status ≠ .pending := by
  rw [h.status]
  split <;> exact Status.noConfusion

/-- A settled slot is marked just when it has no object. -/
theorem invalid_iff (h : slot.Settled) :
    slot.watch.status = .invalidObject ↔ slot.target = none := by
  rw [h.status]
  rcases slot.target with _ | target
  · exact ⟨fun _ => rfl, fun _ => rfl⟩
  · constructor <;> rintro ⟨⟩

theorem found (w : Watch) (target : Target) :
    Slot.Settled ⟨{ w.reset with status := .ok }, some target⟩ :=
  ⟨rfl, Events.empty_subset _, fun h => by cases h⟩

theorem missing (w : Watch) : Slot.Settled ⟨{ w.reset with status := .invalidObject }, none⟩ :=
  ⟨rfl, Events.empty_subset _, fun _ => rfl⟩

end Slot.Settled

namespace Call

/-- The slots whose names were looked up. -/
def looked (c : Call) : List Slot :=
  match c.stage with
  | .resolving => c.passed
  | _ => c.slots

theorem looked_of_resolving {c : Call} (h : c.stage = .resolving) : c.looked = c.passed := by
  rw [looked, h]

theorem looked_of_ne {c : Call} (h : c.stage ≠ .resolving) : c.looked = c.slots := by
  rw [looked]
  split
  · exact absurd ‹_› h
  · rfl

/-- While names are looked up, a step looks the next one up or finds that there is none. -/
theorem Steps.looked_cases {k k' : Kernel} {c c' : Call} (h : Steps k c k' (.running c'))
    (hstage : c.stage = .resolving) :
    c'.looked = c.looked ∨
    ∃ slot, c.ahead ≠ [] ∧ c'.looked = c.looked ++ [slot] ∧
      slot.target = k.registry.lookup? slot.watch.kind slot.watch.id := by
  have hpass : ∀ slot, (c.pass slot).looked = c.looked ++ [slot] := by
    intro slot
    rw [looked_of_resolving hstage, looked_of_resolving (c := c.pass slot) hstage]
    rfl
  have hrewind : ∀ stage, c.ahead = [] → stage ≠ .resolving →
      (c.rewind stage).looked = c.looked := by
    intro stage hahead hne
    rw [looked_of_ne (c := c.rewind stage) hne, looked_of_resolving hstage]
    simp only [rewind, slots, hahead, List.nil_append, List.append_nil]
  cases h with
  | found _ hahead hlookup => exact .inr ⟨_, by simp [hahead], hpass _, hlookup.symm⟩
  | missing _ hahead hlookup => exact .inr ⟨_, by simp [hahead], hpass _, hlookup.symm⟩
  | resolved _ hahead => exact .inl (hrewind _ hahead Stage.noConfusion)
  | resolvedQuietly _ hahead => exact .inl (hrewind _ hahead Stage.noConfusion)
  | _ hother => exact absurd (hstage.symm.trans hother) Stage.noConfusion

/-- What a call in progress has written, and which tickets it has. -/
structure Sound (r : Request) (c : Call) : Prop where
  /-- the watches are those of the request -/
  same : c.watches.map Watch.reset = r.watches.map Watch.reset
  /-- there is room for a ticket for each watch -/
  capacity : c.session.capacity = r.watches.length
  /-- a call that does not wait has a deadline -/
  patient : c.poll = true → c.session.deadline ≠ .never
  /-- what was looked up is settled -/
  settled : ∀ slot ∈ c.looked, slot.Settled
  /-- a call with no object to wait for goes no further -/
  live : c.stage ≠ .resolving → ∃ slot ∈ c.slots, slot.target.isSome = true
  /-- the tickets stand for different slots, in order -/
  indices : (c.session.tickets.map Ticket.index).Sublist (List.range c.passed.length)
  /-- each ticket waits for what its slot may report -/
  matched : ∀ ticket ∈ c.session.tickets, ∃ slot, c.passed[ticket.index]? = some slot ∧
    slot.target.isSome = true ∧ ticket.interest = slot.watch.reportable
  /-- no ticket is handed out before all names are looked up -/
  unticketed : c.stage = .resolving → c.session.tickets = []
  /-- something was ready at once only if some slot says so -/
  immediate : c.immediate = true → c.stage ≠ .resolving ∧
    ∃ slot ∈ c.slots, slot.watch.isReady = true
  /-- if nothing was ready at once, no slot says otherwise -/
  unready : c.immediate = false → ∀ slot ∈ c.looked, slot.watch.result = ∅

variable {r : Request} {k k' : Kernel} {c c' : Call}

theorem watches_reset_of_blank (h : c'.slots.map Slot.blank = c.slots.map Slot.blank) :
    c'.watches.map Watch.reset = c.watches.map Watch.reset := by
  have h' := congrArg (List.map Slot.watch) h
  rw [List.map_map, List.map_map] at h'
  rw [watches, watches, List.map_map, List.map_map]
  exact h'

theorem exists_target_of_blank (h : c'.slots.map Slot.blank = c.slots.map Slot.blank)
    (hlive : ∃ slot ∈ c.slots, slot.target.isSome = true) :
    ∃ slot ∈ c'.slots, slot.target.isSome = true := by
  obtain ⟨slot, hslot, hsome⟩ := hlive
  have hmem : slot.blank ∈ c'.slots.map Slot.blank := by
    rw [h]
    exact List.mem_map_of_mem hslot
  obtain ⟨slot', hslot', hblank⟩ := List.mem_map.1 hmem
  refine ⟨slot', hslot', ?_⟩
  have htarget : slot'.target = slot.target := congrArg (fun s => s.target) hblank
  rw [htarget, hsome]

/-- The tickets stand for slots that stay passed when more are. -/
theorem Sound.matched_append (h : c.Sound r) (l : List Slot) :
    ∀ ticket ∈ c.session.tickets, ∃ slot, (c.passed ++ l)[ticket.index]? = some slot ∧
      slot.target.isSome = true ∧ ticket.interest = slot.watch.reportable := by
  intro ticket hticket
  obtain ⟨slot, hslot, hrest⟩ := h.matched ticket hticket
  exact ⟨slot, (List.getElem?_append_left (List.getElem?_eq_some_iff.1 hslot).1).trans hslot, hrest⟩

theorem Sound.indices_append (h : c.Sound r) (l : List Slot) :
    (c.session.tickets.map Ticket.index).Sublist (List.range (c.passed ++ l).length) :=
  h.indices.trans (List.range_sublist.2 (by rw [List.length_append]; exact Nat.le_add_right _ _))

/-- A call that looks a name up stays sound. -/
theorem Sound.look (h : c.Sound r) {slot slot' : Slot} {rest : List Slot}
    (hstage : c.stage = .resolving) (hahead : c.ahead = slot :: rest) (hsettled : slot'.Settled)
    (hresult : slot'.watch.result = ∅) (hreset : slot'.watch.reset = slot.watch.reset) :
    (c.pass slot').Sound r := by
  have hlooked : (c.pass slot').looked = c.looked ++ [slot'] := by
    rw [looked_of_resolving hstage, looked_of_resolving (c := c.pass slot') hstage]
    rfl
  refine ⟨?_, h.capacity, h.patient, ?_, fun hne => absurd hstage hne, h.indices_append [slot'],
    h.matched_append [slot'], h.unticketed, fun himmediate => ?_, fun himmediate => ?_⟩
  · have hsame := h.same
    rw [watches, slots_of_ahead hahead, List.map_append, List.map_append] at hsame
    rw [watches, slots_pass hahead, List.map_append, List.map_append, ← hsame, List.map_cons,
      List.map_cons, List.map_cons, List.map_cons, hreset]
  · rw [hlooked]
    intro s hs
    rcases List.mem_append.1 hs with hold | hnew
    · exact h.settled s hold
    · rwa [List.mem_singleton.1 hnew]
  · exact absurd hstage (h.immediate himmediate).1
  · rw [hlooked]
    intro s hs
    rcases List.mem_append.1 hs with hold | hnew
    · exact h.unready himmediate s hold
    · rwa [List.mem_singleton.1 hnew]

/-- A call that has looked all names up starts over with all of them settled. -/
theorem Sound.rewind (h : c.Sound r) {stage : Stage} (hstage : c.stage = .resolving)
    (hahead : c.ahead = []) (hsome : ∃ slot ∈ c.passed, slot.target.isSome = true)
    (hnext : stage ≠ .resolving) : (c.rewind stage).Sound r := by
  have hslots : (c.rewind stage).slots = c.looked := by
    rw [looked_of_resolving hstage, slots, Call.rewind, slots, hahead, List.append_nil]
    rfl
  have hlooked : (c.rewind stage).looked = c.looked := by
    rw [looked_of_ne (c := c.rewind stage) hnext, hslots]
  have htickets := h.unticketed hstage
  refine ⟨h.same, h.capacity, h.patient, ?_, fun _ => ?_, ?_, ?_, fun heq => absurd heq hnext,
    fun himmediate => absurd hstage (h.immediate himmediate).1, fun himmediate => ?_⟩
  · rw [hlooked]
    exact h.settled
  · rw [hslots, looked_of_resolving hstage]
    exact hsome
  · rw [show (c.rewind stage).session = c.session from rfl, htickets]
    exact List.nil_sublist _
  · rw [show (c.rewind stage).session = c.session from rfl, htickets]
    exact fun ticket hticket => absurd hticket List.not_mem_nil
  · rw [hlooked]
    exact h.unready himmediate

/-- Once all names are looked up no step changes what was asked for, nor which objects there are. -/
theorem Sound.request_steps (h : c.Sound r) (hstep : Steps k c k' (.running c'))
    (hstage : c.stage ≠ .resolving) :
    c'.watches.map Watch.reset = r.watches.map Watch.reset ∧
      c'.session.capacity = r.watches.length ∧
      (c'.poll = true → c'.session.deadline ≠ .never) ∧
      ∃ slot ∈ c'.slots, slot.target.isSome = true := by
  have hblank := hstep.map_blank hstage
  refine ⟨(watches_reset_of_blank hblank).trans h.same, hstep.capacity_eq.trans h.capacity, ?_,
    exists_target_of_blank hblank (h.live hstage)⟩
  rw [hstep.poll_eq, hstep.deadline_eq]
  exact h.patient

/-- A step that writes nothing to the slots leaves a call sound, as long as its tickets are. -/
theorem Sound.keep (h : c.Sound r) (hstep : Steps k c k' (.running c'))
    (hstage : c.stage ≠ .resolving) (hslots : c'.slots = c.slots)
    (himmediate : c'.immediate = c.immediate)
    (hindices : (c'.session.tickets.map Ticket.index).Sublist (List.range c'.passed.length))
    (hmatched : ∀ ticket ∈ c'.session.tickets, ∃ slot, c'.passed[ticket.index]? = some slot ∧
      slot.target.isSome = true ∧ ticket.interest = slot.watch.reportable) : c'.Sound r := by
  obtain ⟨hsame, hcapacity, hpatient, hlive⟩ := h.request_steps hstep hstage
  have hnext := hstep.stage_ne_resolving hstage
  have hlooked : c'.looked = c.looked := by
    rw [looked_of_ne hnext, looked_of_ne hstage, hslots]
  refine ⟨hsame, hcapacity, hpatient, ?_, fun _ => hlive, hindices, hmatched,
    fun heq => absurd heq hnext, ?_, ?_⟩
  · rw [hlooked]
    exact h.settled
  · rw [himmediate, hslots]
    exact fun htrue => ⟨hnext, (h.immediate htrue).2⟩
  · rw [himmediate, hlooked]
    exact h.unready

/-- A step that writes to a slot what its object is ready for leaves a call sound. -/
theorem Sound.report (h : c.Sound r) (hstep : Steps k c k' (.running c'))
    (hstage : c.stage ≠ .resolving) {slot : Slot} {rest : List Slot} {target : Target}
    {events : Events} (hahead : c.ahead = slot :: rest) (htarget : slot.target = some target)
    (hready : events ≠ ∅) (hwithin : events ⊆ slot.watch.reportable)
    (hpassed : c'.passed =
      c.passed ++ [{ slot with watch := { slot.watch with result := events } }])
    (hrest : c'.ahead = rest) (himmediate : c'.immediate = true) (hsession : c'.session = c.session) :
    c'.Sound r := by
  obtain ⟨hsame, hcapacity, hpatient, hlive⟩ := h.request_steps hstep hstage
  have hnext := hstep.stage_ne_resolving hstage
  have hslots : c'.slots = c.passed ++
      { slot with watch := { slot.watch with result := events } } :: rest := by
    rw [slots, hpassed, hrest, List.append_assoc]
    rfl
  have hsettled := h.settled
  rw [looked_of_ne hstage, slots_of_ahead hahead] at hsettled
  refine ⟨hsame, hcapacity, hpatient, ?_, fun _ => hlive, ?_, ?_, fun heq => absurd heq hnext,
    fun _ => ⟨hnext, ?_⟩, fun hfalse => ?_⟩
  · rw [looked_of_ne hnext, hslots]
    intro s hs
    rcases List.mem_append.1 hs with hold | hlater
    · exact hsettled s (List.mem_append_left _ hold)
    · rcases List.mem_cons.1 hlater with rfl | hold
      · have hslot := hsettled slot (List.mem_append_right _ List.mem_cons_self)
        exact hslot.write hwithin fun hnone => by cases htarget.symm.trans hnone
      · exact hsettled s (List.mem_append_right _ (List.mem_cons_of_mem _ hold))
  · rw [hsession, hpassed]
    exact h.indices_append _
  · rw [hsession, hpassed]
    exact h.matched_append _
  · rw [hslots]
    exact ⟨_, List.mem_append_right _ List.mem_cons_self, bne_iff_ne.2 hready⟩
  · cases himmediate.symm.trans hfalse

/-- **A call in progress stays sound.** -/
theorem Sound.steps (h : c.Sound r) (hstep : Steps k c k' (.running c'))
    (hstays : ∀ answer, c'.stage ≠ .leaving answer) : c'.Sound r := by
  by_cases hstage : c.stage = .resolving
  · cases hstep with
    | found _ hahead => exact h.look hstage hahead (.found _ _) rfl rfl
    | missing _ hahead => exact h.look hstage hahead (.missing _) rfl rfl
    | resolved _ hahead hsome => exact h.rewind hstage hahead hsome Stage.noConfusion
    | resolvedQuietly _ hahead hsome => exact h.rewind hstage hahead hsome Stage.noConfusion
    | _ hother => exact absurd (hstage.symm.trans hother) Stage.noConfusion
  · obtain ⟨l, hpassed, hahead, himmediate, hsession⟩ |
      ⟨slot, rest, target, events, hahead, htarget, hready, hwithin, -, hpassed, hrest, himmediate,
        hsession⟩ |
      ⟨slot, rest, target, token, hahead, htarget, hpassed, hrest, himmediate, hsession⟩ :=
      hstep.walk_cases hstage hstays
    · have hslots : c'.slots = c.slots := by
        rw [slots, slots, hpassed, hahead, List.append_assoc]
      refine h.keep hstep hstage hslots himmediate ?_ ?_
      · rw [hsession, hpassed]
        exact h.indices_append l
      · rw [hsession, hpassed]
        exact h.matched_append l
    · exact h.report hstep hstage hahead htarget hready hwithin hpassed hrest himmediate hsession
    · have hslots : c'.slots = c.slots := by
        rw [slots_of_ahead hahead, slots, hpassed, hrest, List.append_assoc]
        rfl
      -- the new ticket stands for the slot passed last
      refine h.keep hstep hstage hslots himmediate ?_ ?_
      · rw [hsession, hpassed, List.length_append, List.length_singleton, List.range_succ,
          Session.join, List.map_append]
        exact h.indices.append (List.Sublist.refl _)
      · rw [hsession, hpassed]
        intro ticket hticket
        rcases List.mem_append.1 hticket with hold | hnew
        · exact h.matched_append [slot] ticket hold
        · obtain rfl := List.mem_singleton.1 hnew
          exact ⟨slot, List.getElem?_concat_length, by rw [htarget]; rfl, rfl⟩

end Call

end KernelWait
