import KernelWait.Proofs.Watching

/-!
# Calls that find nothing ready

A call that nobody disturbs and that finds nothing ready goes over its watches, registers for signals if it
may be interrupted, and lets a ticket join a queue for each watch whose name stands for an object, unless
it does not wait. Whatever it does, nothing is latched for it (`Notifier.idle`).

**It replies that nothing has come, or sleeps with all its tickets waiting** (`System.parks_or_replies`). It
replies at once if no name stands for an object, if it does not wait, or if a signal is pending that
aborts it.
-/

namespace KernelWait

/-! ## Sessions for which nothing was latched -/

namespace Notifier

/-- The notifier of a session for which nothing was latched, but which may have been aborted. -/
def idle (slots : Nat) (phase : Phase) (interrupted : Bool) : Notifier :=
  { phase := phase
    latched := List.replicate slots ∅
    interrupted := interrupted
    event := ⟨interrupted⟩ }

variable {slots : Nat} {phase : Phase}

theorem interrupt_idle (hwakes : phase.wakes = true) :
    (idle slots phase false).interrupt.1 = idle slots phase true := by
  rw [interrupt, if_pos ⟨hwakes, rfl⟩]
  rfl

theorem verdict?_idle (interrupted : Bool) :
    (idle slots phase interrupted).verdict? = if interrupted then some .interrupted else none := by
  cases interrupted <;> rfl

end Notifier

namespace Session.Traced

variable {log : List Session.Record} {k : Kernel} {s : Session} {slots : Nat} {phase : Phase}
  {interrupted : Bool}

theorem advance_idle (h : Traced log k s (.idle slots phase interrupted)) {next : Phase}
    (hnext : next ≠ .done) : Traced log (s.advance k next) s (.idle slots next interrupted) :=
  h.congr rfl (Session.get?_advance h.notifier next) hnext rfl rfl

theorem abort_idle (h : Traced log k s (.idle slots phase false)) (hwakes : phase.wakes = true) :
    Traced log { k with sessions := (k.sessions.abort s.id).1 } s (.idle slots phase true) := by
  have hnotifier := Session.get?_abort h.notifier
  rw [Notifier.interrupt_idle hwakes] at hnotifier
  exact h.congr rfl hnotifier h.serves.running rfl rfl

end Session.Traced

namespace Call

/-! ## What stays the same -/

/-- Two calls are made by the same thread, in the same way, with a session of the same number and the
same deadline. -/
structure Kin (c c' : Call) : Prop where
  /-- they are made by the same thread -/
  thread : c'.thread = c.thread
  /-- signals abort both or none -/
  interruptible : c'.interruptible = c.interruptible
  /-- both wait or none -/
  poll : c'.poll = c.poll
  /-- their sessions go by the same number -/
  id : c'.session.id = c.session.id
  /-- they are given up at the same time -/
  deadline : c'.session.deadline = c.session.deadline

variable {k k₀ k' : Kernel} {c c' c'' : Call} {reg : Registry} {ws before after : List Watch}

theorem Kin.refl (c : Call) : c.Kin c := ⟨rfl, rfl, rfl, rfl, rfl⟩

theorem Kin.symm (h : c.Kin c') : c'.Kin c :=
  ⟨h.thread.symm, h.interruptible.symm, h.poll.symm, h.id.symm, h.deadline.symm⟩

theorem Kin.trans (h : c.Kin c') (h' : c'.Kin c'') : c.Kin c'' :=
  ⟨h'.thread.trans h.thread, h'.interruptible.trans h.interruptible, h'.poll.trans h.poll,
    h'.id.trans h.id, h'.deadline.trans h.deadline⟩

theorem Steps.kin (h : Steps k c k' (.running c')) : c.Kin c' := by
  cases h <;> exact ⟨rfl, rfl, rfl, rfl, rfl⟩

/-- A signal is pending that aborts the call. -/
def summoned (k : Kernel) (c : Call) : Bool := c.interruptible && k.hasPending c.thread

/-- The signals once the call has registered for them, if they may abort it. -/
def registered (k : Kernel) (c : Call) : SignalTable :=
  if c.interruptible then k.signals.register c.thread c.session.id else k.signals

theorem Kin.summoned_eq (h : c.Kin c') (k : Kernel) : c'.summoned k = c.summoned k := by
  rw [summoned, summoned, h.interruptible, h.thread]

theorem Kin.registered_eq (h : c.Kin c') (k : Kernel) : c'.registered k = c.registered k := by
  rw [registered, registered, h.interruptible, h.thread, h.id]

/-! ## Where a call stands that has found nothing -/

/-- The records of the tickets that a call has got for these watches. -/
def enlisted (reg : Registry) (ws : List Watch) (c : Call) : List Session.Record :=
  if c.poll then [] else reg.records (fun _ => []) ws

/-- A call goes over its objects and has found nothing: those of some watches were polled, and those of
the others lie ahead. -/
structure Passes (k₀ : Kernel) (before after : List Watch) (k : Kernel) (c : Call) : Prop where
  /-- it has registered for signals, if they may abort it -/
  signals : k.signals = c.registered k₀
  /-- the names of the watches that were polled are looked up -/
  passed : c.passed = before.map k₀.registry.looked
  /-- so are those of the watches ahead -/
  ahead : c.ahead = after.map k₀.registry.looked
  /-- there is a ticket for each watch that was polled, and nothing is latched -/
  traced : Session.Traced (c.enlisted k₀.registry before) k c.session
    (.idle (before ++ after).length .enrolling (c.summoned k₀))

/-- Where a call stands in its course. -/
def Stands (k₀ : Kernel) (ws : List Watch) (k : Kernel) (c : Call) : Prop :=
  match c.stage with
  | .resolving => k.signals = k₀.signals ∧
      Session.Traced [] k c.session (.idle ws.length .resolving false) ∧
      ∃ before after, ws = before ++ after ∧ c.passed = before.map k₀.registry.looked ∧
        c.ahead = after.map fun w => { watch := w }
  | .registering => k.signals = k₀.signals ∧ c.interruptible = true ∧
      Session.Traced [] k c.session (.idle ws.length .resolving false) ∧ c.passed = [] ∧
      c.ahead = ws.map k₀.registry.looked
  | .checking => k.signals = c.registered k₀ ∧ c.interruptible = true ∧
      Session.Traced [] k c.session (.idle ws.length .resolving false) ∧ c.passed = [] ∧
      c.ahead = ws.map k₀.registry.looked
  | .polling => ∃ before after, ws = before ++ after ∧ c.Passes k₀ before after k
  | .enrolling => c.poll = false ∧ ∃ before after, ws = before ++ after ∧ c.Passes k₀ before after k
  | .blocked b => c.poll = false ∧ k.signals = c.registered k₀ ∧
      c.Awaits k₀.registry ws (fun _ => []) k (.idle ws.length .blocked (c.summoned k₀)) ∧
      (b = .parked → c.summoned k₀ = false) ∧ ∀ v, b = .finished v → c.summoned k₀ = true
  | .draining => (c.poll = true ∨ c.summoned k₀ = true) ∧ c.slots = ws.map k₀.registry.looked ∧
      ∃ log n, Session.Traced log k c.session n ∧ (∀ rec ∈ log, rec.fired = ∅) ∧
        n.interrupted = c.summoned k₀
  | .leaving answer => (c.poll = true ∨ c.summoned k₀ = true) ∧
      answer = (if c.summoned k₀ then .error .interrupted else .ok .timedOut) ∧
      c.watches = ws.map (k₀.registry.report fun _ => [])

/-- How a call stands that began in a kernel, was not disturbed since, and has found nothing ready. -/
structure Lurks (k₀ : Kernel) (ws : List Watch) (k : Kernel) (c : Call) : Prop where
  /-- the world is as it was -/
  world : k.SameWorld k₀
  /-- nothing was ready -/
  unready : c.immediate = false
  /-- everything that is ready will be reported -/
  collects : c.singleShot = false
  /-- it waits unless its deadline had passed -/
  poll_eq : c.poll = c.session.deadline.hasPassed k₀.clock.now
  /-- it goes on only if some name stands for an object -/
  live : c.stage ≠ .resolving → ∃ w ∈ ws, ∃ target, k₀.registry.lookup? w.kind w.id = some target
  /-- it has come so far -/
  stands : c.Stands k₀ ws k

theorem fired_of_mem_enlisted {rec : Session.Record} (h : rec ∈ c.enlisted reg ws) : rec.fired = ∅ := by
  rw [enlisted] at h
  split at h
  · exact absurd h List.not_mem_nil
  · exact Registry.fired_of_mem_records h

/-- There is no ticket for a watch that is no reason to wait. -/
theorem enlisted_concat_of_none {w : Watch}
    (h : reg.lookup? w.kind w.id = none ∨ c.poll = true) :
    c.enlisted reg (before ++ [w]) = c.enlisted reg before := by
  rw [enlisted, enlisted]
  by_cases hpoll : c.poll = true
  · rw [if_pos hpoll, if_pos hpoll]
  · rw [if_neg hpoll, if_neg hpoll, Registry.records_concat_of_none (h.resolve_right hpoll)]

/-- A call that starts over has no ticket yet. -/
theorem passes_nil (hsignals : k.signals = c.registered k₀) (hpassed : c.passed = [])
    (hahead : c.ahead = ws.map k₀.registry.looked)
    (htraced : Session.Traced [] k c.session (.idle ws.length .enrolling (c.summoned k₀))) :
    c.Passes k₀ [] ws k := by
  refine ⟨hsignals, hpassed, hahead, ?_⟩
  rw [enlisted]
  split
  · exact htraced
  · exact htraced

theorem stands_of_polling (hstage : c.stage = .polling) :
    c.Stands k₀ ws k ↔ ∃ before after, ws = before ++ after ∧ c.Passes k₀ before after k := by
  rw [Stands, hstage]

namespace Passes

variable (h : c.Passes k₀ before after k)

include h

/-- The next slot is that of the next watch. -/
theorem next {slot : Slot} {rest : List Slot} (hahead : c.ahead = slot :: rest) :
    ∃ w later, after = w :: later ∧ slot = k₀.registry.looked w ∧
      c.ahead.tail = later.map k₀.registry.looked := by
  obtain ⟨w, later, rfl, rfl, rfl⟩ := List.map_eq_cons_iff.1 (h.ahead.symm.trans hahead)
  exact ⟨w, later, rfl, rfl, by rw [hahead, List.tail_cons]⟩

/-- Nothing is changed by a step that goes on to the next stage only. -/
theorem move (hkin : c.Kin c') (hpassed : c'.passed = c.passed) (hahead : c'.ahead = c.ahead)
    (hsession : c'.session = c.session) : c'.Passes k₀ before after k := by
  refine ⟨?_, hpassed.trans h.passed, hahead.trans h.ahead, ?_⟩
  · rw [hkin.registered_eq, h.signals]
  · rw [hkin.summoned_eq, hsession, enlisted, hkin.poll]
    exact h.traced

/-- A slot that gets no ticket is passed. -/
theorem skip {slot : Slot} {rest : List Slot} (hahead : c.ahead = slot :: rest)
    (hwhy : slot.target = none ∨ c.poll = true) (hkin : c.Kin c')
    (hpassed : c'.passed = c.passed ++ [slot]) (hrest : c'.ahead = c.ahead.tail)
    (hsession : c'.session = c.session) :
    ∃ before' after', before ++ after = before' ++ after' ∧ c'.Passes k₀ before' after' k := by
  obtain ⟨w, later, rfl, rfl, hlater⟩ := h.next hahead
  rw [Registry.target_looked] at hwhy
  refine ⟨before ++ [w], later, (List.append_assoc before [w] later).symm, ?_, ?_, hrest.trans hlater, ?_⟩
  · rw [hkin.registered_eq, h.signals]
  · rw [hpassed, h.passed, List.map_append, List.map_singleton]
  · rw [hkin.summoned_eq, hsession, enlisted, hkin.poll, ← enlisted, enlisted_concat_of_none hwhy,
      List.append_assoc, List.singleton_append]
    exact h.traced

/-- There is room for one ticket more. -/
theorem tickets_lt {slot : Slot} {rest : List Slot} (hahead : c.ahead = slot :: rest) :
    c.session.tickets.length < c.session.capacity := by
  obtain ⟨w, later, rfl, -⟩ := h.next hahead
  have hroom : (before ++ w :: later).length = c.session.capacity := by
    rw [← h.traced.room]
    exact List.length_replicate.symm
  have hle : (c.enlisted k₀.registry before).length ≤ before.length := by
    rw [enlisted]
    split
    · exact Nat.zero_le _
    · exact Registry.length_records_le _ _ _
  rw [← hroom, ← h.traced.length_eq, List.length_append, List.length_cons]
  omega

/-- A ticket joins the queue of the next object. -/
theorem join {slot : Slot} {rest : List Slot} {target : Target} {e : Entity}
    (hahead : c.ahead = slot :: rest) (htarget : slot.target = some target)
    (hget : k.registry.get? target = some e) (hunready : e.readiness ∩ slot.watch.reportable = ∅)
    (hwaits : c.poll = false) (hkin : c.Kin c') (hpassed : c'.passed = c.passed ++ [slot])
    (hrest : c'.ahead = c.ahead.tail)
    (hsession : c'.session =
      c.session.join c.passed.length target e.queue.nextToken slot.watch.reportable) :
    ∃ before' after', before ++ after = before' ++ after' ∧
      c'.Passes k₀ before' after' ((c.session.joining target slot.watch.reportable).effect k) := by
  have hjoined := h.traced.join c.passed.length hget hunready (h.tickets_lt hahead)
  obtain ⟨w, later, rfl, rfl, hlater⟩ := h.next hahead
  rw [Registry.target_looked] at htarget
  have hreportable : (k₀.registry.looked w).watch.reportable = w.reportable := by
    rw [Registry.looked_of_some htarget]
    rfl
  refine ⟨before ++ [w], later, (List.append_assoc before [w] later).symm, ?_, ?_, hrest.trans hlater, ?_⟩
  · rw [hkin.registered_eq, ← h.signals]
    simp only [Session.joining, Operation.effect, Operation.run, Kernel.enroll, hget]
  · rw [hpassed, h.passed, List.map_append, List.map_singleton]
  · have hlog : c'.enlisted k₀.registry (before ++ [w]) = c.enlisted k₀.registry before ++
        [{ index := c.passed.length, target := target, interest := w.reportable }] := by
      rw [enlisted, enlisted, hkin.poll, hwaits, if_neg Bool.false_ne_true, if_neg Bool.false_ne_true,
        Registry.records_concat_of_some htarget, h.passed, List.length_map]
    rw [hkin.summoned_eq, hsession, hlog, ← hreportable, List.append_assoc, List.singleton_append]
    exact hjoined

/-- A call that has gone over all its objects has passed them all. -/
theorem all (hahead : c.ahead = []) : before ++ after = before ∧
    c.slots = (before ++ after).map k₀.registry.looked := by
  have hafter : after = [] := List.map_eq_nil_iff.1 (h.ahead.symm.trans hahead)
  rw [hafter, List.append_nil, slots, hahead, List.append_nil]
  exact ⟨rfl, h.passed⟩

/-- If it does not only look, it has a ticket for each of them. -/
theorem awaits (hahead : c.ahead = []) (hwaits : c.poll = false) (hcollects : c.singleShot = false) :
    c.Awaits k₀.registry (before ++ after) (fun _ => []) k
      (.idle (before ++ after).length .enrolling (c.summoned k₀)) := by
  obtain ⟨hbefore, hslots⟩ := h.all hahead
  have htraced := h.traced
  rw [enlisted, hwaits, if_neg Bool.false_ne_true] at htraced
  rw [slots, hahead, List.append_nil] at hslots
  refine ⟨hslots, hahead, hcollects, ?_⟩
  rw [hbefore] at htraced ⊢
  exact htraced

end Passes

/-! ## Step by step -/

/-- Nothing is ready for any of the watches. -/
def Nothing (k : Kernel) (ws : List Watch) : Prop :=
  ∀ w ∈ ws, ∀ target, k.registry.lookup? w.kind w.id = some target →
    k.readiness target ∩ w.reportable = ∅

/-- A call whose tickets have not fired settles on that. -/
theorem settledOn_of_nothing {log : List Session.Record} {n : Notifier} (hcollects : c.singleShot = false)
    (hslots : c.slots = ws.map reg.looked) (htraced : Session.Traced log k c.session n)
    (hfired : ∀ rec ∈ log, rec.fired = ∅) :
    c.outcome k = (if n.interrupted then .error .interrupted else .ok .timedOut) ∧
      ∀ answer, (c.settledOn k answer).watches = ws.map (reg.report fun _ => []) := by
  have hnone : (c.session.drain k).2.2 = [] := by
    rw [htraced.drain_fired]
    apply List.filterMap_eq_nil_iff.2
    intro rec hrec
    rw [Session.Record.delivery?, if_pos (hfired rec hrec)]
  have hkept : c.kept k = ws.map (reg.report fun _ => []) := by
    rw [kept, hcollects, if_neg Bool.false_ne_true, collected, hnone]
    refine (congrArg (List.map Slot.watch) hslots).trans ?_
    rw [List.map_map]
    exact List.map_congr_left fun w _ => (reg.report_nil w).symm
  have hcount : (ws.map (reg.report fun _ => [])).countP Watch.isReady = 0 := by
    apply List.countP_eq_zero.2
    intro w hw
    obtain ⟨w, -, rfl⟩ := List.mem_map.1 hw
    rw [Registry.isReady_report_iff]
    rintro ⟨target, -, hne⟩
    exact hne rfl
  refine ⟨?_, fun answer => ?_⟩
  · rw [outcome, hkept, hcount, htraced.notifier]
    rfl
  · rw [watches_settledOn, hkept]

section Steps

variable (h : c.Lurks k₀ ws k)

include h

/-- A name that stands for an object when it is looked up did so from the start. -/
theorem Lurks.lookup?_eq (kind : Kind) (id : ObjectId) :
    k.registry.lookup? kind id = k₀.registry.lookup? kind id :=
  Registry.lookup?_congr h.world.objects kind id

/-- However a call goes on, it goes on so if it stands where it should. -/
theorem Lurks.onward (hstep : Steps k c k' (.running c')) (hunready : c'.immediate = c.immediate)
    (hlive : c'.stage ≠ .resolving → ∃ w ∈ ws, ∃ target, k₀.registry.lookup? w.kind w.id = some target)
    (hstands : c'.Stands k₀ ws k') : c'.Lurks k₀ ws k' where
  world := hstep.sameWorld.trans h.world
  unready := hunready.trans h.unready
  collects := hstep.singleShot_eq.trans h.collects
  poll_eq := by rw [hstep.kin.poll, hstep.kin.deadline, h.poll_eq]
  live := hlive
  stands := hstands

/-- A name that is looked up is passed. -/
theorem Lurks.look {slot : Slot} {rest : List Slot} (hstage : c.stage = .resolving)
    (hahead : c.ahead = slot :: rest) :
    (c.pass (k₀.registry.looked slot.watch)).Stands k₀ ws k := by
  have hstands := h.stands
  simp only [Stands, hstage] at hstands
  obtain ⟨hsignals, htraced, before, after, rfl, hpassed, hslots⟩ := hstands
  obtain ⟨w, later, rfl, rfl, rfl⟩ := List.map_eq_cons_iff.1 (hslots.symm.trans hahead)
  simp only [Stands, pass, hstage]
  refine ⟨hsignals, htraced, before ++ [w], later, List.append_cons before w later, ?_, ?_⟩
  · rw [hpassed, List.map_append, List.map_singleton]
  · rw [hahead, List.tail_cons]

/-- A call that has looked all names up starts over if some name stands for an object. -/
theorem Lurks.look_over (hstage : c.stage = .resolving) (hahead : c.ahead = []) :
    k.signals = k₀.signals ∧ Session.Traced [] k c.session (.idle ws.length .resolving false) ∧
      c.slots = ws.map k₀.registry.looked ∧
      ((∃ slot ∈ c.passed, slot.target.isSome = true) →
        ∃ w ∈ ws, ∃ target, k₀.registry.lookup? w.kind w.id = some target) := by
  have hstands := h.stands
  simp only [Stands, hstage] at hstands
  obtain ⟨hsignals, htraced, before, after, rfl, hpassed, hslots⟩ := hstands
  obtain rfl : after = [] := List.map_eq_nil_iff.1 (hslots.symm.trans hahead)
  refine ⟨hsignals, htraced, ?_, ?_⟩
  · rw [slots, hahead, hpassed, List.append_nil, List.append_nil]
  · rintro ⟨slot, hslot, hsome⟩
    rw [hpassed] at hslot
    obtain ⟨w, hw, rfl⟩ := List.mem_map.1 hslot
    rw [Registry.target_looked] at hsome
    exact ⟨w, List.mem_append_left _ hw, Option.isSome_iff_exists.1 hsome⟩

/-- A call that looks for a reason to go on finds one if a signal was pending, and parks otherwise. -/
theorem Lurks.doze (hstage : c.stage = .blocked .looking) :
    { c with stage := .blocked (c.session.blockSteps 1 k .looking).2 }.Stands k₀ ws
      (c.session.blockSteps 1 k .looking).1 := by
  have hstands := h.stands
  simp only [Stands, hstage] at hstands
  obtain ⟨hwaits, hsignals, hawaits, -⟩ := hstands
  have hlooks : Block.step c.session.deadline k.clock.now
      (.idle ws.length .blocked (c.summoned k₀)) .looking =
        (.idle ws.length .blocked (c.summoned k₀),
          if c.summoned k₀ then .finished .interrupted else .parked) := by
    rw [Block.step, Notifier.verdict?_idle]
    rcases c.summoned k₀ <;> rfl
  have htraced := hawaits.traced.doze .looking
  rw [Session.blockSteps_one hawaits.traced.notifier, hlooks] at htraced ⊢
  refine ⟨hwaits, hsignals, ⟨hawaits.passed, hawaits.ahead, hawaits.collects, htraced⟩, ?_, ?_⟩
  · intro hparked
    rcases hsummoned : c.summoned k₀
    · exact hsummoned
    · rw [hsummoned] at hparked
      cases hparked
  · intro v hfinished
    rcases hsummoned : c.summoned k₀
    · rw [hsummoned] at hfinished
      cases hfinished
    · exact hsummoned

/-- A call without a reason to look for signals polls at once. -/
theorem Lurks.poll_quietly (hstage : c.stage = .resolving) (hahead : c.ahead = [])
    (hsignals : c.interruptible = false) :
    (c.rewind .polling).Stands k₀ ws (c.session.advance k .enrolling) := by
  obtain ⟨hsame, htraced, hslots, -⟩ := h.look_over hstage hahead
  have hquiet : (c.rewind .polling).interruptible = false := hsignals
  have hregistered : k.signals = (c.rewind .polling).registered k₀ := by
    rw [registered, hquiet, if_neg Bool.false_ne_true, hsame]
  have hsummoned : (c.rewind .polling).summoned k₀ = false := by
    rw [summoned, hquiet, Bool.false_and]
  refine ⟨[], ws, rfl, passes_nil hregistered rfl hslots ?_⟩
  rw [hsummoned]
  exact htraced.advance_idle Phase.noConfusion

/-- A call that has looked for signals polls, and is aborted if one was pending. -/
theorem Lurks.poll_checked (hstage : c.stage = .checking) :
    { c with stage := .polling }.Stands k₀ ws
      (c.session.advance
        { k with
          sessions := if c.summoned k₀ then (k.sessions.abort c.session.id).1 else k.sessions }
        .enrolling) := by
  have hstands := h.stands
  simp only [Stands, hstage] at hstands
  obtain ⟨hsignals, -, htraced, hpassed, hahead⟩ := hstands
  refine ⟨[], ws, rfl, passes_nil hsignals hpassed hahead ?_⟩
  change Session.Traced [] _ c.session (.idle ws.length .enrolling (c.summoned k₀))
  rcases c.summoned k₀
  · exact htraced.advance_idle Phase.noConfusion
  · exact (htraced.abort_idle rfl).advance_idle Phase.noConfusion

/-- Objects that were found never vanish. -/
theorem Lurks.get?_of_looked (hclosed : k₀.registry.Closed) {w : Watch} {target : Target}
    (htarget : (k₀.registry.looked w).target = some target) :
    ∃ e, k.registry.get? target = some e := by
  rw [Registry.target_looked] at htarget
  obtain ⟨e, he⟩ := hclosed.get?_of_lookup htarget
  obtain ⟨-, hnone⟩ | ⟨e', -, hget, -⟩ := Registry.get?_cases_of_bare h.world.objects target
  · cases he.symm.trans hnone
  · exact ⟨e', hget⟩

/-- What a call looks at next was not ready, and still is not. -/
theorem Lurks.unready_of_next (hnothing : Nothing k₀ ws) (hpasses : c.Passes k₀ before after k)
    (hsplit : ws = before ++ after) {slot : Slot} {rest : List Slot} (hahead : c.ahead = slot :: rest)
    {target : Target} (htarget : slot.target = some target) :
    k.readiness target ∩ slot.watch.reportable = ∅ := by
  obtain ⟨w, later, rfl, rfl, -⟩ := hpasses.next hahead
  rw [Registry.target_looked] at htarget
  have hw : w ∈ ws := by
    rw [hsplit]
    exact List.mem_append_right before List.mem_cons_self
  have hreportable : (k₀.registry.looked w).watch.reportable = w.reportable := by
    rw [Registry.looked_of_some htarget]
    rfl
  rw [h.world.readiness_eq, hreportable]
  exact hnothing w hw target htarget

/-- **A call that finds nothing goes on so**, until it sleeps or replies. -/
theorem Lurks.steps (hclosed : k₀.registry.Closed) (hnothing : Nothing k₀ ws)
    (hstep : Steps k c k' (.running c')) (hawake : c.stage ≠ .blocked .parked) : c'.Lurks k₀ ws k' := by
  have hkin := hstep.kin
  have hstands := h.stands
  have hstarts := h.onward hstep
  have honward : c.stage ≠ .resolving → c'.immediate = c.immediate → c'.Stands k₀ ws k' →
      c'.Lurks k₀ ws k' := by
    intro hstage hunready
    exact hstarts hunready fun _ => h.live hstage
  have hsummoned : c.stage = .checking → c.summoned k₀ = k.hasPending c.thread := by
    intro hstage
    simp only [Stands, hstage] at hstands
    rw [summoned, hstands.2.1, Bool.true_and, h.world.hasPending_eq]
  -- no object is ready and none vanishes, so only the ways that write nothing are left
  cases hstep with
  | found hstage hahead hlookup =>
    rw [h.lookup?_eq] at hlookup
    refine hstarts rfl (absurd hstage) ?_
    rw [← Registry.looked_of_some hlookup]
    exact h.look hstage hahead
  | missing hstage hahead hlookup =>
    rw [h.lookup?_eq] at hlookup
    refine hstarts rfl (absurd hstage) ?_
    rw [← Registry.looked_of_none hlookup]
    exact h.look hstage hahead
  | resolved hstage hahead hsome hsignals =>
    obtain ⟨hsame, htraced, hslots, hfound⟩ := h.look_over hstage hahead
    exact hstarts rfl (fun _ => hfound hsome) ⟨hsame, hsignals, htraced, rfl, hslots⟩
  | resolvedQuietly hstage hahead hsome hsignals =>
    obtain ⟨-, -, -, hfound⟩ := h.look_over hstage hahead
    exact hstarts rfl (fun _ => hfound hsome) (h.poll_quietly hstage hahead hsignals)
  | registered hstage =>
    simp only [Stands, hstage] at hstands
    obtain ⟨hsignals, hinterruptible, htraced, hpassed, hahead⟩ := hstands
    refine honward (by rw [hstage]; exact Stage.noConfusion) rfl ?_
    refine ⟨?_, hinterruptible, ?_, hpassed, hahead⟩
    · simp only [Call.registered, hinterruptible, if_true, hsignals]
    · exact htraced.congr rfl htraced.notifier Phase.noConfusion rfl rfl
  | aborted hstage hpending =>
    have hpolls := h.poll_checked hstage
    rw [hsummoned hstage, hpending, if_pos rfl] at hpolls
    exact honward (by rw [hstage]; exact Stage.noConfusion) rfl hpolls
  | checked hstage hnone =>
    have hpolls := h.poll_checked hstage
    rw [hsummoned hstage, hnone, if_neg Bool.false_ne_true] at hpolls
    exact honward (by rw [hstage]; exact Stage.noConfusion) rfl hpolls
  | concluded hstage hahead hwhy =>
    simp only [Stands, hstage] at hstands
    obtain ⟨before, after, rfl, hpasses⟩ := hstands
    have hpoll : c.poll = true := by
      rw [h.unready] at hwhy
      exact hwhy.resolve_left Bool.false_ne_true
    refine honward (by rw [hstage]; exact Stage.noConfusion) rfl ?_
    exact ⟨.inl hpoll, (hpasses.all hahead).2, _, _, hpasses.traced, fun _ => fired_of_mem_enlisted, rfl⟩
  | retired hstage hahead _ hwaits =>
    simp only [Stands, hstage] at hstands
    obtain ⟨before, after, rfl, hpasses⟩ := hstands
    obtain ⟨hpassed, -, -, htraced⟩ := hpasses.awaits hahead hwaits h.collects
    refine honward (by rw [hstage]; exact Stage.noConfusion) rfl ?_
    exact ⟨hwaits, hpasses.signals,
      ⟨hpassed, hahead, h.collects, htraced.advance_idle Phase.noConfusion⟩,
      Block.noConfusion, fun _ => Block.noConfusion⟩
  | @skipped slot rest hstage hahead hwhy =>
    simp only [Stands, hstage] at hstands
    obtain ⟨before, after, rfl, hpasses⟩ := hstands
    refine honward (by rw [hstage]; exact Stage.noConfusion) rfl ?_
    rw [h.unready] at hwhy
    have hreason := hwhy.imp_right fun hor => hor.resolve_left Bool.false_ne_true
    have hpassing : ∃ before' after', before ++ after = before' ++ after' ∧
        (c.pass slot).Passes k₀ before' after' k :=
      hpasses.skip hahead hreason hkin rfl rfl rfl
    have hpolling : (c.pass slot).stage = .polling := hstage
    exact (stands_of_polling hpolling).2 hpassing
  | stopped _ _ himmediate => cases h.unready.symm.trans himmediate
  | polled hstage hahead htarget hready =>
    simp only [Stands, hstage] at hstands
    obtain ⟨before, after, rfl, hpasses⟩ := hstands
    exact absurd (h.unready_of_next hnothing hpasses rfl hahead htarget) hready
  | approached hstage hahead htarget _ hwaits =>
    simp only [Stands, hstage] at hstands
    obtain ⟨before, after, rfl, hpasses⟩ := hstands
    refine honward (by rw [hstage]; exact Stage.noConfusion) rfl ?_
    exact ⟨hwaits, before, after, rfl, hpasses.move hkin rfl rfl rfl⟩
  | turned hstage hahead =>
    simp only [Stands, hstage] at hstands
    obtain ⟨-, before, after, rfl, hpasses⟩ := hstands
    refine honward (by rw [hstage]; exact Stage.noConfusion) rfl ?_
    exact ⟨before, after, rfl, hpasses.move hkin rfl rfl rfl⟩
  | ignored hstage hahead htarget =>
    simp only [Stands, hstage] at hstands
    obtain ⟨-, before, after, rfl, hpasses⟩ := hstands
    refine honward (by rw [hstage]; exact Stage.noConfusion) rfl ?_
    exact (stands_of_polling rfl).2 (hpasses.skip hahead (.inl htarget) hkin rfl rfl rfl)
  | full hstage hahead hfull =>
    simp only [Stands, hstage] at hstands
    obtain ⟨-, before, after, rfl, hpasses⟩ := hstands
    exact absurd (hpasses.tickets_lt hahead) (Nat.not_lt.2 hfull)
  | vanished hstage hahead htarget hget =>
    simp only [Stands, hstage] at hstands
    obtain ⟨-, before, after, rfl, hpasses⟩ := hstands
    obtain ⟨w, later, rfl, rfl, -⟩ := hpasses.next hahead
    obtain ⟨e, he⟩ := h.get?_of_looked hclosed htarget
    cases hget.symm.trans he
  | overtaken hstage hahead htarget hget hready =>
    simp only [Stands, hstage] at hstands
    obtain ⟨-, before, after, rfl, hpasses⟩ := hstands
    rw [← Kernel.readiness_eq hget] at hready
    exact absurd (h.unready_of_next hnothing hpasses rfl hahead htarget) hready
  | joined hstage hahead htarget hget hunready =>
    simp only [Stands, hstage] at hstands
    obtain ⟨hwaits, before, after, rfl, hpasses⟩ := hstands
    refine honward (by rw [hstage]; exact Stage.noConfusion) rfl ?_
    exact hpasses.join hahead htarget hget hunready hwaits hkin rfl rfl rfl
  | @dozed b hstage hb =>
    obtain rfl : b = .looking := by
      rcases b with _ | _ | v
      · rfl
      · exact absurd hstage hawake
      · exact absurd rfl (hb v)
    refine honward (by rw [hstage]; exact Stage.noConfusion) rfl ?_
    exact h.doze hstage
  | @roused v hstage =>
    simp only [Stands, hstage] at hstands
    obtain ⟨-, -, hawaits, -, hfinished⟩ := hstands
    have hslots : c.slots = ws.map k₀.registry.looked := by
      rw [slots, hawaits.ahead, List.append_nil, hawaits.passed]
    refine honward (by rw [hstage]; exact Stage.noConfusion) rfl ?_
    exact ⟨.inr (hfinished v rfl), hslots, _, _, hawaits.traced, fun _ => Registry.fired_of_mem_records,
      rfl⟩
  | drained hstage =>
    simp only [Stands, hstage] at hstands
    obtain ⟨hwhy, hslots, log, n, htraced, hfired, hinterrupted⟩ := hstands
    obtain ⟨houtcome, hwatches⟩ := settledOn_of_nothing h.collects hslots htraced hfired
    refine honward (by rw [hstage]; exact Stage.noConfusion) rfl ⟨hwhy, ?_, hwatches _⟩
    rw [hkin.summoned_eq, houtcome, hinterrupted]

end Steps

/-! ## A call that nobody disturbs -/

/-- What a call answers that finds nothing ready, unless it sleeps. -/
def quietAnswer? (k : Kernel) (ws : List Watch) (c : Call) : Option (Except WaitError Outcome) :=
  if ws.all fun w => (k.registry.lookup? w.kind w.id).isNone then
    some (.error (.noValidTargets ws.length))
  else if c.summoned k then some (.error .interrupted)
  else if c.poll then some (.ok .timedOut)
  else none

/-- A call sleeps with a ticket for each object, and nothing has come for it. -/
structure Parked (k₀ : Kernel) (ws : List Watch) (k : Kernel) (c : Call) : Prop where
  /-- it sleeps -/
  stage : c.stage = .blocked .parked
  /-- the world is as it was -/
  world : k.SameWorld k₀
  /-- it has registered for signals, if they may abort it -/
  signals : k.signals = c.registered k₀
  /-- its tickets wait -/
  awaits : c.Awaits k₀.registry ws (fun _ => []) k (.idle ws.length .blocked false)

theorem quietAnswer?_of_live (hlive : ∃ w ∈ ws, ∃ target, k.registry.lookup? w.kind w.id = some target) :
    c.quietAnswer? k ws = if c.summoned k then some (.error .interrupted)
      else if c.poll then some (.ok .timedOut) else none := by
  obtain ⟨w, hw, target, htarget⟩ := hlive
  rw [quietAnswer?, if_neg]
  intro hnone
  have habsent := List.all_eq_true.1 hnone w hw
  rw [htarget] at habsent
  cases habsent

/-- A call that finds nothing replies that nothing has come. -/
theorem Lurks.returned (h : c.Lurks k₀ ws k) {reply : Reply} (hstep : Steps k c k' (.returned reply)) :
    c.quietAnswer? k₀ ws = some reply.answer ∧ reply.watches = ws.map (k₀.registry.report fun _ => []) := by
  obtain ⟨hstage, hahead, hnone, rfl⟩ | ⟨answer, hstage, rfl⟩ := hstep.returned_cases
  · obtain ⟨-, -, hslots, -⟩ := h.look_over hstage hahead
    have hpassed : c.passed = ws.map k₀.registry.looked := by
      rw [← hslots, slots, hahead, List.append_nil]
    have hall : (ws.all fun w => (k₀.registry.lookup? w.kind w.id).isNone) = true := by
      apply List.all_eq_true.2
      intro w hw
      rw [← Registry.target_looked, Option.isNone_iff_eq_none]
      exact hnone _ (hpassed ▸ List.mem_map_of_mem hw)
    constructor
    · rw [quietAnswer?, if_pos hall, hslots, List.length_map]
    · rw [watches, hslots, List.map_map]
      exact List.map_congr_left fun w _ => (k₀.registry.report_nil w).symm
  · have hstands := h.stands
    simp only [Stands, hstage] at hstands
    obtain ⟨hwhy, rfl, hwatches⟩ := hstands
    refine ⟨?_, hwatches⟩
    rw [quietAnswer?_of_live (h.live (by rw [hstage]; exact Stage.noConfusion))]
    rcases hsummoned : c.summoned k₀
    · rw [hsummoned] at hwhy
      rw [if_neg Bool.false_ne_true, if_pos (hwhy.resolve_right Bool.false_ne_true),
        if_neg Bool.false_ne_true]
    · rfl

/-- Once it is parked it sleeps. -/
theorem Lurks.parked {s : System} (h : c.Lurks k₀ ws s.kernel) (hstage : c.stage = .blocked .parked) :
    c.asleep s = true ∧ c.quietAnswer? k₀ ws = none ∧ c.Parked k₀ ws s.kernel := by
  have hstands := h.stands
  simp only [Stands, hstage] at hstands
  obtain ⟨hwaits, hsignals, hawaits, hparked, -⟩ := hstands
  have hsummoned := hparked trivial
  rw [hsummoned] at hawaits
  refine ⟨?_, ?_, hstage, h.world, hsignals, hawaits⟩
  · have hpassed : c.session.deadline.hasPassed s.kernel.clock.now = false := by
      rw [h.world.now_eq, ← h.poll_eq, hwaits]
    simp only [asleep, hstage, hawaits.traced.notifier, Notifier.idle, WakeEvent.poll, hpassed,
      Bool.false_eq_true, if_false, Option.isNone_none]
  · rw [quietAnswer?_of_live (h.live (by rw [hstage]; exact Stage.noConfusion)), hsummoned, hwaits]
    rfl

/-- Every step brings a call that finds nothing closer to its end, or to sleep. -/
theorem Lurks.progress {s s' : System} (h : c.Lurks k₀ ws s.kernel) (h' : c'.Lurks k₀ ws s'.kernel)
    (hstep : Steps s.kernel c s'.kernel (.running c')) (hawake : c.stage ≠ .blocked .parked) :
    c'.remaining < c.remaining ∨ c'.asleep s' = true := by
  by_cases hblocked : ∃ b, c.stage = .blocked b
  · obtain ⟨b, hstage⟩ := hblocked
    have hstands := h.stands
    simp only [Stands, hstage] at hstands
    obtain ⟨-, -, hawaits, -⟩ := hstands
    generalize s.kernel = k at hstep hawaits
    generalize hk : s'.kernel = k' at hstep
    cases hstep with
    | @dozed b' hstage' hb =>
      rw [Session.blockSteps_one hawaits.traced.notifier] at h' ⊢
      rcases b' with _ | _ | v
      · simp only [Block.step] at h' ⊢
        split at h'
        · refine .inl ?_
          simp only [remaining, hstage']
          decide
        · exact .inr (h'.parked rfl).1
      · exact absurd hstage' hawake
      · exact absurd rfl (hb v)
    | roused hstage' =>
      refine .inl ?_
      simp only [remaining, hstage']
      decide
    | _ hother => cases hstage.symm.trans hother
  · exact .inl (hstep.remaining_lt_of_moving fun b hstage => hblocked ⟨b, hstage⟩)

end Call

namespace System

end System

end KernelWait
