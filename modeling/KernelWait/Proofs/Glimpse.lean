import KernelWait.Proofs.Settling
import KernelWait.Proofs.World

/-!
# Calls that find something ready

A call that nobody disturbs finds out two things about each of its watches: which object the name stands
for, and what that object is ready for (`Registry.glimpse`). Until it has found something ready it lets
tickets join the queues of objects that are not, and when it drains them they have fired with nothing.

**If some object is ready, the reply is what the objects are ready for** (`System.replies_at_once`): neither
the timeout nor any flag nor any signal has a say in it.
-/

namespace KernelWait

/-! ## What there is to see -/

namespace Registry

/-- What an object is ready for; an object that never was is ready for nothing. -/
def readiness (r : Registry) (target : Target) : Events :=
  match r.get? target with
  | some e => e.readiness
  | none => ∅

/-- A watch with what its object is ready for, of the events that may be reported. -/
def glimpse (r : Registry) (w : Watch) : Watch :=
  match r.lookup? w.kind w.id with
  | some target => { w with result := r.readiness target ∩ w.reportable, status := .ok }
  | none => { w with result := ∅, status := .invalidObject }

/-- The slot of a watch once its name is looked up. -/
def looked (r : Registry) (w : Watch) : Slot :=
  match r.lookup? w.kind w.id with
  | some target => ⟨{ w.reset with status := .ok }, some target⟩
  | none => ⟨{ w.reset with status := .invalidObject }, none⟩

/-- The slot of a watch once its object is polled. -/
def seen (r : Registry) (w : Watch) : Slot := ⟨r.glimpse w, r.lookup? w.kind w.id⟩

variable {r : Registry} {w : Watch} {target : Target}

theorem looked_of_some (h : r.lookup? w.kind w.id = some target) :
    r.looked w = ⟨{ w.reset with status := .ok }, some target⟩ := by
  simp only [looked, h]

theorem looked_of_none (h : r.lookup? w.kind w.id = none) :
    r.looked w = ⟨{ w.reset with status := .invalidObject }, none⟩ := by
  simp only [looked, h]

theorem target_looked (r : Registry) (w : Watch) :
    (r.looked w).target = r.lookup? w.kind w.id := by
  rcases h : r.lookup? w.kind w.id with _ | target
  · rw [looked_of_none h]
  · rw [looked_of_some h]

/-- Polling an object writes what it is ready for. -/
theorem seen_of_target (h : (r.looked w).target = some target) :
    r.seen w = { r.looked w with
      watch := { (r.looked w).watch with
        result := r.readiness target ∩ (r.looked w).watch.reportable } } := by
  rw [target_looked] at h
  simp only [seen, glimpse, looked_of_some h, h]
  rfl

/-- Polling writes nothing if there is no object or it is not ready. -/
theorem seen_of_unready (h : ∀ target, (r.looked w).target = some target →
    r.readiness target ∩ (r.looked w).watch.reportable = ∅) : r.seen w = r.looked w := by
  rcases hlookup : r.lookup? w.kind w.id with _ | target
  · simp only [seen, glimpse, looked_of_none hlookup, hlookup]
    rfl
  · have htarget : (r.looked w).target = some target := by rw [target_looked, hlookup]
    rw [seen_of_target htarget, h target htarget, looked_of_some hlookup]
    rfl

/-- A watch that has something to report stands for an object. -/
theorem exists_target_of_ready (h : (r.glimpse w).isReady = true) :
    ∃ target, (r.looked w).target = some target := by
  rcases hlookup : r.lookup? w.kind w.id with _ | target
  · rw [glimpse, hlookup] at h
    cases h
  · exact ⟨target, by rw [target_looked, hlookup]⟩

end Registry

theorem Kernel.readiness_registry (k : Kernel) (target : Target) :
    k.readiness target = k.registry.readiness target := rfl

namespace Call

variable {reg : Registry} {ws before after : List Watch} {k k₀ k' : Kernel} {c c' : Call} {r : Request}

/-! ## What a call has seen so far -/

/-- A call goes over its objects: those of some watches are polled, and those of the others lie ahead. -/
structure Walks (reg : Registry) (before after : List Watch) (c : Call) : Prop where
  /-- what was polled is written down -/
  passed : c.passed = before.map reg.seen
  /-- nothing else is written down but what became of the names -/
  ahead : c.ahead = after.map reg.looked
  /-- the call knows whether anything was ready -/
  immediate : c.immediate = (before.map reg.glimpse).any Watch.isReady

/-- What a call in progress has found out about its watches, if nobody disturbs it and something is
ready. -/
def Surveys (reg : Registry) (ws : List Watch) (c : Call) : Prop :=
  match c.stage with
  | .resolving =>
    c.immediate = false ∧ ∃ before after, ws = before ++ after ∧ c.passed = before.map reg.looked ∧
      c.ahead = after.map fun w => { watch := w }
  | .registering | .checking | .polling | .enrolling =>
    ∃ before after, ws = before ++ after ∧ c.Walks reg before after
  | .blocked _ => False
  | .draining => c.slots = ws.map reg.seen
  | .leaving answer =>
    answer = .ok (.ready ((ws.map reg.glimpse).countP Watch.isReady)) ∧
      c.watches = ws.map reg.glimpse

theorem surveys_of_polling (hstage : c.stage = .polling) :
    c.Surveys reg ws ↔ ∃ before after, ws = before ++ after ∧ c.Walks reg before after := by
  rw [Surveys, hstage]

/-- A call that looks a name up writes down what the name stands for. -/
theorem Surveys.look (h : c.Surveys reg ws) (hstage : c.stage = .resolving) {slot : Slot} {rest : List Slot}
    (hahead : c.ahead = slot :: rest) : (c.pass (reg.looked slot.watch)).Surveys reg ws := by
  simp only [Surveys, pass, hstage] at h ⊢
  obtain ⟨himmediate, before, after, rfl, hpassed, hslots⟩ := h
  obtain ⟨w, later, rfl, rfl, rfl⟩ := List.map_eq_cons_iff.1 (hslots.symm.trans hahead)
  refine ⟨himmediate, before ++ [w], later, List.append_cons before w later, ?_, by rw [hahead]; rfl⟩
  rw [hpassed, List.map_append, List.map_singleton]

/-- The next slot is that of the next watch, and once it is polled the call has gone one further. -/
theorem Walks.next (h : c.Walks reg before after) {slot : Slot} {rest : List Slot}
    (hahead : c.ahead = slot :: rest) :
    ∃ w later, after = w :: later ∧ slot = reg.looked w ∧
      ∀ c' : Call, c'.passed = c.passed ++ [reg.seen w] → c'.ahead = c.ahead.tail →
        c'.immediate = (c.immediate || (reg.glimpse w).isReady) →
        c'.Walks reg (before ++ [w]) later := by
  obtain ⟨w, later, rfl, rfl, rfl⟩ := List.map_eq_cons_iff.1 (h.ahead.symm.trans hahead)
  refine ⟨w, later, rfl, rfl, fun c' hpassed hrest himmediate => ⟨?_, ?_, ?_⟩⟩
  · rw [hpassed, h.passed, List.map_append]
    rfl
  · rw [hrest, hahead]
    rfl
  · rw [himmediate, h.immediate, List.map_append, List.any_append]
    simp

/-- A slot that is passed as it is has nothing to report. -/
theorem Walks.pass (h : c.Walks reg before after) {slot : Slot} {rest : List Slot}
    (hahead : c.ahead = slot :: rest)
    (hunready : ∀ target, slot.target = some target →
      reg.readiness target ∩ slot.watch.reportable = ∅)
    (hstage : c'.stage = .polling) (hpassed : c'.passed = c.passed ++ [slot])
    (hrest : c'.ahead = c.ahead.tail) (himmediate : c'.immediate = c.immediate) :
    c'.Surveys reg (before ++ after) := by
  obtain ⟨w, later, rfl, rfl, hnext⟩ := h.next hahead
  have hseen : reg.seen w = reg.looked w := Registry.seen_of_unready hunready
  have hnothing : (reg.glimpse w).isReady = false := by
    have hwatch : reg.glimpse w = (reg.looked w).watch := congrArg Slot.watch hseen
    rw [hwatch, Registry.looked]
    split <;> rfl
  rw [surveys_of_polling hstage]
  refine ⟨before ++ [w], later, (List.append_assoc before [w] later).symm, hnext c' ?_ hrest ?_⟩
  · rw [hpassed, hseen]
  · rw [himmediate, hnothing, Bool.or_false]

/-- A slot that is written has what its object is ready for. -/
theorem Walks.report (h : c.Walks reg before after) {slot : Slot} {rest : List Slot} {target : Target}
    (hahead : c.ahead = slot :: rest) (htarget : slot.target = some target)
    (hready : reg.readiness target ∩ slot.watch.reportable ≠ ∅) (hstage : c'.stage = .polling)
    (hpassed : c'.passed = c.passed ++ [{ slot with
      watch := { slot.watch with result := reg.readiness target ∩ slot.watch.reportable } }])
    (hrest : c'.ahead = c.ahead.tail) (himmediate : c'.immediate = true) :
    c'.Surveys reg (before ++ after) := by
  obtain ⟨w, later, rfl, rfl, hnext⟩ := h.next hahead
  have hseen := Registry.seen_of_target htarget
  have hsomething : (reg.glimpse w).isReady = true := by
    have hwatch := congrArg Slot.watch hseen
    rw [show reg.glimpse w = (reg.seen w).watch from rfl, hwatch]
    exact bne_iff_ne.2 hready
  rw [surveys_of_polling hstage]
  refine ⟨before ++ [w], later, (List.append_assoc before [w] later).symm, hnext c' ?_ hrest ?_⟩
  · rw [hpassed, hseen]
  · rw [himmediate, hsomething, Bool.or_true]

/-- A call that has gone over all its objects has polled them all. -/
theorem Walks.slots (h : c.Walks reg before after) (hahead : c.ahead = []) :
    after = [] ∧ c.slots = (before ++ after).map reg.seen := by
  have hafter : after = [] := List.map_eq_nil_iff.1 (h.ahead.symm.trans hahead)
  refine ⟨hafter, ?_⟩
  rw [Call.slots, hahead, h.passed, hafter, List.append_nil, List.append_nil]

/-- A call that has gone over all its objects has found something, if there is anything. -/
theorem Walks.immediate_of_ready (h : c.Walks reg before after) (hahead : c.ahead = [])
    (hready : ∃ w ∈ before ++ after, (reg.glimpse w).isReady = true) : c.immediate = true := by
  obtain ⟨w, hw, hwready⟩ := hready
  rw [(h.slots hahead).1, List.append_nil] at hw
  rw [h.immediate, List.any_eq_true]
  exact ⟨reg.glimpse w, List.mem_map_of_mem hw, hwready⟩

/-- Once all names are looked up the call goes over its objects from the first one on. -/
theorem Walks.rewind (himmediate : c.immediate = false) (hpassed : c.passed = ws.map reg.looked)
    (hahead : c.ahead = []) (stage : Stage) : (c.rewind stage).Walks reg [] ws := by
  refine ⟨rfl, ?_, himmediate⟩
  rw [Call.rewind, Call.slots, hahead, List.append_nil, hpassed]

/-- The watches of slots that were polled. -/
theorem watches_of_slots (h : c.slots = ws.map reg.seen) : c.watches = ws.map reg.glimpse := by
  rw [watches, h, List.map_map]
  rfl

/-- A call whose tickets have fired with nothing settles on what it has seen. -/
theorem settledOn_of_seen (hcollects : c.singleShot = false) (hslots : c.slots = ws.map reg.seen)
    (hfired : (c.session.drain k).2.2 = [])
    (hready : ∃ w ∈ ws, (reg.glimpse w).isReady = true) :
    c.outcome k = .ok (.ready ((ws.map reg.glimpse).countP Watch.isReady)) ∧
      ∀ answer, (c.settledOn k answer).watches = ws.map reg.glimpse := by
  have hkept : c.kept k = ws.map reg.glimpse := by
    rw [kept, hcollects, if_neg Bool.false_ne_true, collected, hfired]
    exact watches_of_slots hslots
  refine ⟨?_, fun answer => ?_⟩
  · have hpos : 0 < (ws.map reg.glimpse).countP Watch.isReady := by
      obtain ⟨w, hw, hwready⟩ := hready
      exact List.countP_pos_iff.2 ⟨reg.glimpse w, List.mem_map_of_mem hw, hwready⟩
    rw [outcome, hkept, if_pos hpos]
  · rw [watches_settledOn, hkept]

/-- **A call sees what there is to see**, step by step. -/
theorem Surveys.steps (h : c.Surveys reg ws) (hstep : Steps k c k' (.running c'))
    (hlookup : ∀ kind id, k.registry.lookup? kind id = reg.lookup? kind id)
    (hreadiness : ∀ target, k.readiness target = reg.readiness target)
    (hsight : ∃ w ∈ ws, (reg.glimpse w).isReady = true) (hcollects : c.singleShot = false)
    (hroom : ∀ slot rest, c.ahead = slot :: rest → c.session.tickets.length < c.session.capacity)
    (hfired : (c.session.drain k).2.2 = []) : c'.Surveys reg ws := by
  cases hstep with
  | found hstage hahead hfound =>
    rw [hlookup] at hfound
    rw [← Registry.looked_of_some hfound]
    exact h.look hstage hahead
  | missing hstage hahead hmissing =>
    rw [hlookup] at hmissing
    rw [← Registry.looked_of_none hmissing]
    exact h.look hstage hahead
  | resolved hstage hahead | resolvedQuietly hstage hahead =>
    simp only [Surveys, hstage] at h
    obtain ⟨himmediate, before, after, rfl, hpassed, hslots⟩ := h
    obtain rfl : after = [] := List.map_eq_nil_iff.1 (hslots.symm.trans hahead)
    exact ⟨[], before ++ [], rfl, .rewind himmediate (by rw [hpassed, List.append_nil]) hahead _⟩
  | registered hstage | aborted hstage | checked hstage | approached hstage | turned hstage =>
    simp only [Surveys, hstage] at h
    obtain ⟨before, after, hsplit, hwalks⟩ := h
    exact ⟨before, after, hsplit, hwalks.passed, hwalks.ahead, hwalks.immediate⟩
  | concluded hstage hahead =>
    simp only [Surveys, hstage] at h
    obtain ⟨before, after, rfl, hwalks⟩ := h
    exact (hwalks.slots hahead).2
  | retired hstage hahead hunready =>
    simp only [Surveys, hstage] at h
    obtain ⟨before, after, rfl, hwalks⟩ := h
    exact absurd (hunready.symm.trans (hwalks.immediate_of_ready hahead hsight)) Bool.false_ne_true
  | skipped hstage hahead _ hunready =>
    obtain ⟨before, after, rfl, hwalks⟩ := (surveys_of_polling hstage).1 h
    refine hwalks.pass hahead (fun target htarget => ?_) hstage rfl rfl rfl
    rw [← hreadiness]
    exact hunready target htarget
  | stopped _ _ _ hsingle => exact absurd (hcollects.symm.trans hsingle) Bool.false_ne_true
  | polled hstage hahead htarget hready =>
    rw [hreadiness] at hready ⊢
    obtain ⟨before, after, rfl, hwalks⟩ := (surveys_of_polling hstage).1 h
    exact hwalks.report hahead htarget hready hstage rfl rfl rfl
  | ignored hstage hahead htarget =>
    simp only [Surveys, hstage] at h
    obtain ⟨before, after, rfl, hwalks⟩ := h
    refine hwalks.pass hahead (fun target hsome => ?_) rfl rfl rfl rfl
    cases htarget.symm.trans hsome
  | full hstage hahead hfull => exact absurd (hroom _ _ hahead) (Nat.not_lt.2 hfull)
  | vanished hstage hahead htarget hget =>
    simp only [Surveys, hstage] at h
    obtain ⟨before, after, rfl, hwalks⟩ := h
    refine hwalks.pass hahead (fun target hsome => ?_) rfl rfl rfl rfl
    obtain rfl := Option.some.inj (htarget.symm.trans hsome)
    rw [← hreadiness, Kernel.readiness, hget]
    exact Events.empty_inter _
  | overtaken hstage hahead htarget hget hready =>
    rw [← Kernel.readiness_eq hget, hreadiness] at hready ⊢
    simp only [Surveys, hstage] at h
    obtain ⟨before, after, rfl, hwalks⟩ := h
    exact hwalks.report hahead htarget hready rfl rfl rfl rfl
  | joined hstage hahead htarget hget hunready =>
    rw [← Kernel.readiness_eq hget, hreadiness] at hunready
    simp only [Surveys, hstage] at h
    obtain ⟨before, after, rfl, hwalks⟩ := h
    refine hwalks.pass hahead (fun target hsome => ?_) rfl rfl rfl rfl
    obtain rfl := Option.some.inj (htarget.symm.trans hsome)
    exact hunready
  | dozed hstage | roused hstage =>
    simp only [Surveys, hstage] at h
  | drained hstage =>
    simp only [Surveys, hstage] at h
    obtain ⟨houtcome, hwatches⟩ := settledOn_of_seen hcollects h hfired hsight
    exact ⟨houtcome, hwatches _⟩

/-! ## A call that nobody disturbs -/

/-- How a call stands that began in a kernel and was not disturbed since. -/
structure Glances (k₀ : Kernel) (r : Request) (k : Kernel) (c : Call) : Prop where
  /-- the world is as it was -/
  world : k.SameWorld k₀
  /-- the call is sound -/
  candid : c.Candid r
  /-- it collects everything that is ready -/
  collects : c.singleShot = false
  /-- until it leaves nothing was latched for it -/
  silent : (∀ answer, c.stage ≠ .leaving answer) →
    ∃ n, c.session.notifier? k = some n ∧ ∀ slot, n.held slot = ∅
  /-- it has seen what there was to see -/
  surveys : c.Surveys k₀.registry r.watches

/-- Undisturbed, a call goes on in the same way. -/
theorem Glances.steps (h : c.Glances k₀ r k) (hstep : Steps k c k' (.running c'))
    (hsight : ∃ w ∈ r.watches, (k₀.registry.glimpse w).isReady = true) : c'.Glances k₀ r k' := by
  obtain ⟨answer, hstage, -⟩ | ⟨hstays, hsound⟩ := h.candid
  · cases hstep.returns_of_leaving hstage
  obtain ⟨n, hn, hempty⟩ := h.silent hstays
  have hfired : (c.session.drain k).2.2 = [] := by
    rw [Session.drain_fired hn, Session.harvest_of_empty hempty]
  refine ⟨hstep.sameWorld.trans h.world, h.candid.steps hstep, hstep.singleShot_eq.trans h.collects,
    fun hstays' => ?_, ?_⟩
  · obtain ⟨n', hn', hlatched, -⟩ := hstep.get?_notifier hstays' hn
    refine ⟨n', hn', fun slot => ?_⟩
    rw [Notifier.held, hlatched]
    exact hempty slot
  · refine h.surveys.steps hstep (fun kind id => Registry.lookup?_congr h.world.objects kind id)
      (fun target => ?_) hsight h.collects (fun slot rest hahead => hsound.tickets_lt hahead) hfired
    rw [h.world.readiness_eq, Kernel.readiness_registry]

/-- In the end it replies with what it has seen. -/
theorem Glances.returned (h : c.Glances k₀ r k) {reply : Reply} (hstep : Steps k c k' (.returned reply))
    (hsight : ∃ w ∈ r.watches, (k₀.registry.glimpse w).isReady = true) :
    reply = ⟨.ok (.ready ((r.watches.map k₀.registry.glimpse).countP Watch.isReady)),
      r.watches.map k₀.registry.glimpse⟩ := by
  have hsurveys := h.surveys
  obtain ⟨hstage, hahead, hnone, -⟩ | ⟨answer, hstage, rfl⟩ := hstep.returned_cases
  · -- the name of an object that is ready was looked up with success
    simp only [Surveys, hstage] at hsurveys
    obtain ⟨-, before, after, hsplit, hpassed, hslots⟩ := hsurveys
    obtain rfl : after = [] := List.map_eq_nil_iff.1 (hslots.symm.trans hahead)
    obtain ⟨w, hw, hready⟩ := hsight
    rw [hsplit, List.append_nil] at hw
    obtain ⟨target, htarget⟩ := Registry.exists_target_of_ready hready
    have hmissing := hnone (k₀.registry.looked w) (by rw [hpassed]; exact List.mem_map_of_mem hw)
    cases htarget.symm.trans hmissing
  · simp only [Surveys, hstage] at hsurveys
    obtain ⟨rfl, hwatches⟩ := hsurveys
    rw [hwatches]

theorem Glances.moving (h : c.Glances k₀ r k) (b : Block) : c.stage ≠ .blocked b := by
  intro hstage
  have hsurveys := h.surveys
  simp only [Surveys, hstage] at hsurveys

/-- A call begins without having seen anything. -/
theorem Glances.begin {s s₁ : System} (h : s.begin r = (s₁, .running c))
    (hcollects : r.flags.includes .singleShot = false) : c.Glances s.kernel r s₁.kernel := by
  obtain ⟨hvalid, hroom⟩ := System.valid_of_begin h
  have hcandid : c.Candid r :=
    System.candid_of_moment (show System.Moment (s.begin r) [] s₁ c from h)
  rw [System.begin_of_valid hvalid hroom] at h
  obtain ⟨rfl, hc⟩ := Prod.mk.inj h
  obtain rfl := Progress.running.inj hc
  have hclock := (s.kernel.consults_arm r.timeout).unread_eq
  refine ⟨⟨rfl, .refl _, hclock⟩, hcandid, hcollects,
    fun _ => ⟨_, SessionTable.get?_add_self _ _, ?_⟩, rfl, [], r.watches, rfl, rfl, rfl⟩
  intro slot
  rw [Notifier.held]
  rcases hslot : (List.replicate r.watches.length (∅ : Events))[slot]? with _ | events
  · rfl
  · exact (List.mem_replicate.1 (List.mem_of_getElem? hslot)).2

end Call

/-- **If something is ready when a call begins, and nobody disturbs it, it replies at once with all that
is ready.** There is nothing of the timeout in the reply, nor of the flags, the caller or any signals: it
is a matter of the watches and the objects alone. -/
theorem System.replies_at_once {s : System} {r : Request} (hvalid : s.refusal? r = none)
    (hroom : r.watches.length < Limits.ticketSlots)
    (hcollects : r.flags.includes .singleShot = false)
    (hsight : ∃ w ∈ r.watches, (s.kernel.registry.glimpse w).isReady = true) :
    (s.start r).2 =
      .returned ⟨.ok (.ready ((r.watches.map s.kernel.registry.glimpse).countP Watch.isReady)),
        r.watches.map s.kernel.registry.glimpse⟩ := by
  obtain ⟨s₀, c₀, hbegin⟩ : ∃ s₀ c₀, s.begin r = (s₀, .running c₀) :=
    ⟨_, _, begin_of_valid hvalid hroom⟩
  have hrunning : ∀ (s₁ : System) (c : Call) (s₂ : System) (c' : Call),
      c.Glances s.kernel r s₁.kernel → c.step s₁ = (s₂, .running c') →
        c'.Glances s.kernel r s₂.kernel := by
    intro s₁ c s₂ c' h hstep
    have hsteps := c.steps_step s₁
    rw [hstep] at hsteps
    exact h.steps hsteps hsight
  have hreturned : ∀ (s₁ : System) (c : Call) (s₂ : System) (reply : Reply),
      c.Glances s.kernel r s₁.kernel → c.step s₁ = (s₂, .returned reply) →
        reply = ⟨.ok (.ready ((r.watches.map s.kernel.registry.glimpse).countP Watch.isReady)),
          r.watches.map s.kernel.registry.glimpse⟩ := by
    intro s₁ c s₂ reply h hstep
    have hsteps := c.steps_step s₁
    rw [hstep] at hsteps
    exact h.returned hsteps hsight
  obtain ⟨s', reply, hsettled, rfl⟩ := settles (fun s₁ c => c.Glances s.kernel r s₁.kernel) _
    (fun _ _ h => h.moving) hrunning hreturned (Call.Glances.begin hbegin hcollects)
    c₀.remaining_le
  rw [start_of_begin hbegin, hsettled]

/-- A thread to which a signal is pending, and which it may abort, asks without a deadline for a semaphore
that nobody has released, for another twice, for a port that is not full, and for an object that is not
there. -/
theorem System.replies_at_once_signalled :
    let k := Operation.runAll { clock := { now := 0, horizon := 1000 } }
      [.create (.semaphore 0), .create (.semaphore 2), .create (.port 4), .send 3 7 .usr1]
    let s : System := { kernel := k, config := .standard }
    let r : Request :=
      { thread := 7
        watches := [{ kind := .semaphore, id := 1, requested := .read },
          { kind := .semaphore, id := 2, requested := .read },
          { kind := .port, id := 1, requested := .read ∪ .write },
          { kind := .endpoint, id := 9, requested := .read },
          { kind := .semaphore, id := 2, requested := .read }]
        flags := .interruptible
        timeout := .infinite }
    s.kernel.hasPending 7 = true ∧
    (s.start r).2 = .returned ⟨.ok (.ready 3),
      [{ kind := .semaphore, id := 1, requested := .read, status := .ok },
        { kind := .semaphore, id := 2, requested := .read, result := .read, status := .ok },
        { kind := .port, id := 1, requested := .read ∪ .write, result := .write, status := .ok },
        { kind := .endpoint, id := 9, requested := .read, status := .invalidObject },
        { kind := .semaphore, id := 2, requested := .read, result := .read, status := .ok }]⟩ := by
  intro k s r
  have hpending : s.kernel.hasPending 7 = true := by decide
  have hglimpse : r.watches.map s.kernel.registry.glimpse =
      [{ kind := .semaphore, id := 1, requested := .read, status := .ok },
        { kind := .semaphore, id := 2, requested := .read, result := .read, status := .ok },
        { kind := .port, id := 1, requested := .read ∪ .write, result := .write, status := .ok },
        { kind := .endpoint, id := 9, requested := .read, status := .invalidObject },
        { kind := .semaphore, id := 2, requested := .read, result := .read, status := .ok }] := by
    decide
  have hsight : ∃ w ∈ r.watches, (s.kernel.registry.glimpse w).isReady = true :=
    ⟨{ kind := .semaphore, id := 2, requested := .read }, by decide, by decide⟩
  have hreplies := replies_at_once (s := s) (r := r) (by decide) (by decide) (by decide) hsight
  rw [hglimpse] at hreplies
  exact ⟨hpending, hreplies⟩

end KernelWait
