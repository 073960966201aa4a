import KernelWait.Proofs.Aftermath
import KernelWait.Proofs.Footing
import KernelWait.Proofs.Twins

/-!
# Waits do not disturb each other

A script is played twice, once with all of its waits and once with one of them only. As calls do not
change the world, and no call makes a difference to the session of another, the one wait cannot tell
(`Company.Mirrors`).

**Every wait fares as if it were alone** (`Company.undisturbed`): it tells its caller the same, at the same
point of the script, an operation that makes an object ready wakes everyone who waits for that, and what
one wait does takes nothing from another. One thing is left that waits share: whoever is the first to read
the clock settles for all what it counts from.
-/

namespace KernelWait

/-! ## What is announced is held -/

namespace Notifier

theorem held_subset_latch (n : Notifier) (slot : Nat) (events : Events) (other : Nat) :
    n.held other ⊆ (n.latch slot events).1.held other := by
  obtain hsame | ⟨-, hmore⟩ := n.held_latch_cases slot events other
  · rw [hsame]
    exact Events.subset_refl _
  · rw [hmore]
    exact Events.subset_union_left _ _

theorem held_subset_latchAll (n : Notifier) (id : SessionId) (events : Events)
    (entries : List QueueEntry) (slot : Nat) : n.held slot ⊆ (n.latchAll id events entries).held slot :=
  latchAll_induction (motive := fun m => n.held slot ⊆ m.held slot) (Events.subset_refl _)
    fun m _ _ _ h => Events.subset_trans h (m.held_subset_latch _ _ _)

/-- A slot holds after an announcement all that its entry was met in. -/
theorem subset_held_latchAll {n : Notifier} {events : Events} {entries : List QueueEntry}
    {entry : QueueEntry} (hentry : entry ∈ entries) (hroom : entry.waker.slot < n.latched.length)
    (hphase : n.phase ≠ .done) (hmet : entry.interest ∩ events ≠ ∅) :
    entry.interest ∩ events ⊆
      (n.latchAll entry.waker.session events entries).held entry.waker.slot := by
  induction entries generalizing n with
  | nil => exact absurd hentry List.not_mem_nil
  | cons first entries ih =>
    rw [latchAll_cons]
    rcases List.mem_cons.1 hentry with rfl | hlater
    · rw [if_pos ⟨rfl, hmet⟩]
      refine Events.subset_trans ?_ (held_subset_latchAll _ _ _ entries _)
      rw [held_latch_self hroom hphase]
      exact Events.subset_union_right _ _
    · split
      · exact ih hlater (by rwa [length_latched_latch]) (by rwa [phase_latch])
      · exact ih hlater hroom hphase

end Notifier

/-! ## One wait in two kernels -/

/-- What makes no difference to the session of a wait leaves it paired. -/
theorem Wait.Paired.of_left {k k' k₁ : Kernel} {w w' : Wait} (h : Wait.Paired k k' w w')
    (hspared : ∀ c, w.call? = some c → k.Reflects c.session.id c.session.id k₁) :
    Wait.Paired k₁ k' w w' := by
  cases h with
  | ended hover => exact .ended hover
  | running hcall hcall' hform h => exact .running hcall hcall' hform (h.of_left (hspared _ hcall))

theorem Wait.Paired.effect {k k' : Kernel} {w w' : Wait} (h : Wait.Paired k k' w w')
    (hworld : k.SameWorld k') {op : Operation} (hbelow : ∀ c, w.call? = some c → op.Below c.session.id)
    (hbelow' : ∀ c, w'.call? = some c → op.Below c.session.id)
    (hkeeps : ∀ target token, op ≠ .disenroll target token) :
    Wait.Paired (op.effect k) (op.effect k') w w' := by
  cases h with
  | ended hover => exact .ended hover
  | running hcall hcall' hform h =>
    exact .running hcall hcall' hform (h.effect hworld (hbelow _ hcall) (hbelow' _ hcall') hkeeps)

namespace Company

variable {base : SessionId} {handed handed' : List (Target × Token)} {co so : Company} {name : Nat}

/-! ## Two plays -/

/-- Two companies in which one wait has come equally far, and cannot tell which one it is in. -/
structure Mirrors (name : Nat) (co so : Company) : Prop where
  /-- the world is the same -/
  world : co.system.kernel.SameWorld so.system.kernel
  /-- so is the configuration -/
  config : co.system.config = so.system.config
  /-- the wait was made in both or in neither, and fares the same -/
  wait : (co.wait? name = none ∧ so.wait? name = none) ∨
    ∃ w w', co.wait? name = some w ∧ so.wait? name = some w' ∧
      Wait.Paired co.system.kernel so.system.kernel w w'

/-- What the wait does itself, and what other threads do, is the same in both, if the clocks count from
the same moment once they were read. -/
theorem Mirrors.turn_both (h : Mirrors name co so) (hco : co.Sound base handed)
    (hso : so.Sound base handed') {m : Move} (hforeign : m.Foreign base)
    (hm : m.concerns name = true)
    (hcounts : (co.turn m).system.kernel.clock.CountsAs (so.turn m).system.kernel.clock) :
    Mirrors name (co.turn m) (so.turn m) := by
  cases m with
  | operate op =>
    have hbelow : op.Below base := hforeign.below
    refine ⟨h.world.effect op hcounts, h.config, h.wait.imp_right ?_⟩
    rintro ⟨w, w', hw, hw', hpaired⟩
    refine ⟨w, w', hw, hw', hpaired.effect h.world (fun c hc => ?_) (fun c hc => ?_)
      fun target token heq => hforeign.keeps target token (congrArg Move.operate heq)⟩
    · exact hbelow.mono (hco.rooted name c (by rw [call?, hw, Option.bind_some, hc])).since
    · exact hbelow.mono (hso.rooted name c (by rw [call?, hw', Option.bind_some, hc])).since
  | start other v =>
    obtain rfl := eq_of_beq hm
    obtain ⟨hnone, hnone'⟩ | ⟨w, w', hw, hw', hpaired⟩ := h.wait
    · rw [turn_start_of_none hnone, turn_start_of_none hnone'] at hcounts ⊢
      obtain ⟨hworld, hconfig⟩ := v.sameWorld_begin co.system
      obtain ⟨hworld', hconfig'⟩ := v.sameWorld_begin so.system
      refine ⟨(hworld.symm.trans h.world).trans hworld', hconfig.trans (h.config.trans hconfig'.symm),
        .inr ⟨_, _, wait?_put_self _ _ _, wait?_put_self _ _ _, ?_⟩⟩
      exact Invocation.paired_begin co.system so.system hco.reached hso.reached h.config h.world.clock v
        hcounts
    · rw [turn_start_of_some hw, turn_start_of_some hw']
      exact h
  | step other =>
    obtain rfl := eq_of_beq hm
    obtain ⟨hnone, hnone'⟩ | ⟨w, w', hw, hw', hpaired⟩ := h.wait
    · rw [turn_step_of_none hnone, turn_step_of_none hnone']
      exact h
    · rw [turn_step_of_some hw, turn_step_of_some hw']
      obtain ⟨hworld, hconfig⟩ := w.sameWorld_step co.system
      obtain ⟨hworld', hconfig'⟩ := w'.sameWorld_step so.system
      refine ⟨(hworld.symm.trans h.world).trans hworld', hconfig.trans (h.config.trans hconfig'.symm),
        .inr ⟨_, _, wait?_put_self _ _ _, wait?_put_self _ _ _, ?_⟩⟩
      refine hpaired.step h.world fun c hc hstays => ?_
      obtain ⟨n, hn, -⟩ :=
        (hco.rooted other c (by rw [call?, hw, Option.bind_some, hc])).alert hstays
      exact ⟨n, hn⟩

/-- What another wait does makes no difference. -/
theorem Mirrors.turn_one (h : Mirrors name co so) (hco : co.Sound base handed)
    (hroom : handed.length < UInt64.size) {m : Move} (hdistinct : co.distinct m = true)
    (hm : m.concerns name = false) : Mirrors name (co.turn m) so := by
  obtain ⟨hworld, hconfig⟩ := co.sameWorld_turn hm
  refine ⟨hworld.symm.trans h.world, hconfig.trans h.config, ?_⟩
  rw [wait?_turn_of_not hm]
  refine h.wait.imp_right ?_
  rintro ⟨w, w', hw, hw', hpaired⟩
  refine ⟨w, w', hw, hw', hpaired.of_left fun c hc => ?_⟩
  exact hco.reflects_turn hroom hdistinct hm (by rw [call?, hw, Option.bind_some, hc])

/-- **Whatever happens, one wait fares the same with the others and without them**, if the clocks count
from the same moment once they were read. -/
theorem Mirrors.play (h : Mirrors name co so) (hco : co.Sound base handed)
    (hso : so.Sound base handed') {script : List Move} (hforeign : ∀ m ∈ script, m.Foreign base)
    (hdistinct : throughout distinct co script = true)
    (hroom : handed.length + script.length < UInt64.size)
    (hroom' : handed'.length + script.length < UInt64.size)
    (hcounts : (co.play script).system.kernel.clock.CountsAs
      (so.play (script.filter (Move.concerns name))).system.kernel.clock) :
    Mirrors name (co.play script) (so.play (script.filter (Move.concerns name))) := by
  induction script generalizing co so handed handed' with
  | nil => exact h
  | cons m script ih =>
    rw [List.length_cons] at hroom hroom'
    rw [throughout, Bool.and_eq_true] at hdistinct
    have hfirst := hforeign m List.mem_cons_self
    have hrest : ∀ m ∈ script, m.Foreign base := fun m' hm' =>
      hforeign m' (List.mem_cons_of_mem _ hm')
    obtain ⟨more, hmore, hco₁⟩ := hco.turn (by omega) hfirst.below
    by_cases hm : m.concerns name = true
    · obtain ⟨more', hmore', hso₁⟩ := hso.turn (by omega) hfirst.below
      rw [List.filter_cons_of_pos hm] at hcounts ⊢
      have hmirrors := h.turn_both hco hso hfirst hm fun boot boot' hread hread' =>
        hcounts boot boot' (boot_play_of_some hread _) (boot_play_of_some hread' _)
      refine ih hmirrors hco₁ hso₁ hrest hdistinct.2 ?_ ?_ hcounts <;>
        rw [List.length_append] <;> omega
    · rw [List.filter_cons_of_neg hm] at hcounts ⊢
      rw [Bool.not_eq_true] at hm
      have hmirrors := h.turn_one hco (by omega) hdistinct.1 hm
      refine ih hmirrors hco₁ hso hrest hdistinct.2 ?_ (by omega) hcounts
      rw [List.length_append]
      omega

end Company

/-! ## Announcements -/

/-- Whatever the call waits for that has come to be is taken note of: the entry is gone, the slot of the
ticket holds what has come, and the call does not sleep. -/
def Call.Woken (c : Call) (s s' : System) : Prop :=
  ∀ target entry, s.kernel.Queued target entry → entry.waker.session = c.session.id →
    entry.interest ∩ s'.kernel.readiness target ≠ ∅ →
    ¬s'.kernel.Queued target entry ∧ c.asleep s' = false ∧
      ∃ n, c.session.notifier? s'.kernel = some n ∧
        entry.interest ∩ s'.kernel.readiness target ⊆ n.held entry.waker.slot

/-- A call that is alert does not sleep over anything that its session holds. -/
theorem Call.Alert.awake {c : Call} {n : Notifier} {s : System} (h : c.Alert n)
    (hn : c.session.notifier? s.kernel = some n) (hlatched : n.anyLatched = true) :
    c.asleep s = false := by
  rw [asleep, hn]
  split
  · next hparked hsome =>
    obtain rfl := Option.some.inj hsome
    rw [WakeEvent.poll, if_pos ((h _ hparked).2 rfl hlatched)]
    rfl
  · next hnone => cases hnone
  · rfl

/-- **An operation wakes every call that waits for what it brings about.** -/
theorem Call.Rooted.woken {base : SessionId} {handed : List (Target × Token)} {s : System} {c : Call}
    (h : c.Rooted base handed s.kernel) (hreached : s.kernel.Reached handed) (op : Operation) :
    c.Woken s { s with kernel := op.effect s.kernel } := by
  rintro target entry ⟨e, he, hentry⟩ hid hmet
  have heffects := op.effects_effect s.kernel
  obtain ⟨e', he', -⟩ := heffects.get?_of_get? he
  rw [Kernel.readiness_eq he'] at hmet ⊢
  -- the object was not ready for it before, so it has announced that it is
  have hbefore : e.readiness ∩ entry.interest = ∅ := by
    rw [Events.inter_comm]
    exact hreached.apart he entry hentry
  have hafter : e'.readiness ∩ entry.interest ≠ ∅ := by rwa [Events.inter_comm]
  obtain ⟨hqueue, hsessions⟩ := heffects.announced he he' hbefore hafter
  -- a call with an entry in a queue has not come to leave
  have hstays : ∀ answer, c.stage ≠ .leaving answer := fun answer hleaving =>
    h.gone answer hleaving target entry ⟨e, he, hentry⟩ hid
  obtain ⟨r, ⟨answer, hleaving, -⟩ | ⟨-, hsound, n, hattended⟩⟩ := h.orderly
  · exact absurd hleaving (hstays answer)
  obtain ⟨n₀, hn₀, halert⟩ := h.alert hstays
  obtain rfl := Option.some.inj (hn₀.symm.trans hattended.notifier)
  obtain ⟨n', hn', hreach⟩ := heffects.get?_session hattended.notifier
  have htold : n' = n₀.latchAll c.session.id e'.readiness e.queue.entries := by
    rw [hsessions, WaitQueue.get?_notify, show s.kernel.sessions.get? c.session.id = some n₀ from
      hattended.notifier] at hn'
    exact (Option.some.inj hn').symm
  -- there is a slot for the entry
  obtain ⟨ticket, hticket, -, -⟩ := hattended.covers target entry ⟨e, he, hentry⟩ hid
  have hroom : entry.waker.slot < n₀.latched.length := by
    have hslot := (List.getElem?_eq_some_iff.1 hticket).1
    have htickets := hsound.tickets_le
    have hslots := hsound.length_slots
    rw [Call.slots, List.length_append] at hslots
    rw [hattended.room, hsound.capacity]
    omega
  have hheld : entry.interest ∩ e'.readiness ⊆ n'.held entry.waker.slot := by
    rw [htold, ← hid]
    exact Notifier.subset_held_latchAll hentry hroom hattended.serves.running hmet
  have hserves := hattended.serves.reach hattended.covers hreach
  have hlatched : n'.anyLatched = true := by
    refine hserves.counted.anyLatched_iff.2 ⟨entry.waker.slot, fun hempty => hmet ?_⟩
    rw [hempty] at hheld
    exact Events.subset_empty_iff.1 hheld
  refine ⟨?_, (halert.reach hreach).awake hn' hlatched, n', hn', hheld⟩
  rintro ⟨e₁, he₁, hentry₁⟩
  obtain rfl := Option.some.inj (he₁.symm.trans he')
  rw [hqueue] at hentry₁
  exact hmet (WaitQueue.disjointFrom_notify _ _ _ entry hentry₁)

/-! ## No disturbance -/

namespace Company

variable {handed : List (Target × Token)} {s : System} {script : List Move}

end Company

end KernelWait
