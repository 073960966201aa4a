import KernelWait.Proofs.RawForm
import KernelWait.Proofs.Tallies

/-!
# Invalid entries

An entry of a wait is invalid if its kind is unknown, which is seen when the wait is accepted, or if no live
object has its name at the moment at which the wait looks it up.

**What comes up as invalid is what the wait marks** (`Company.misses_marked`), in a reply to be written back
over the entries or handed out as it is (`Invocation.frame`).
-/

namespace KernelWait

/-! ## Forms -/

/-- The entries of a raw wait that are of unknown kind. -/
def RawRequest.unknown (r : RawRequest) : Nat := r.entries.countP (·.known?.isNone)

namespace Invocation

/-- How many entries a wait has. -/
def size : Invocation → Nat
  | multiplexer r => r.watches.length
  | typed _ watches _ _ => watches.length
  | raw r => r.entries.length

/-- How many entries of a wait are of unknown kind. -/
def unknown : Invocation → Nat
  | raw r => r.unknown
  | _ => 0

/-- The wait whose call has come so far. -/
def frame : Invocation → Progress → Wait
  | raw r, p => .raw (.of r.entries (r.entries.map RawEntry.known?) p)
  | _, p => .typed p

variable (v : Invocation)

theorem call?_frame (p : Progress) : (v.frame p).call? = p.call? := by
  cases v with
  | raw r => exact RawProgress.call?_of _ _ _
  | _ => rfl

theorem after_frame (c : Call) (p : Progress) : (v.frame (.running c)).after p = v.frame p := by
  cases v <;> rfl

end Invocation

/-! ## The beginning -/

theorem RawRequest.counted_eq (r : RawRequest) (s : System) :
    r.counted s = { s with stats := s.stats.recordMany .invalidEntries r.unknown } := by
  have hlength : r.entries.length - r.known.length = r.unknown := by
    rw [known, List.length_filterMap_eq_countP, List.length_eq_countP_add_countP (·.known?.isSome),
      Nat.add_sub_cancel_left]
    exact List.countP_congr fun e _ => by simp
  rw [counted, hlength]

/-- A call that has just begun. -/
structure Call.Begun (c : Call) : Prop where
  /-- it looks up names -/
  stage : c.stage = .resolving
  /-- it has looked up none -/
  passed : c.passed = []
  /-- it tells what it finds out -/
  honest : c.Honest

/-- A valid request begins, if there is room for its tickets. -/
theorem System.running_of_begin {s : System} {r : Request}
    (hvalid : ¬(Invocation.multiplexer r).Invalid s.config)
    (hroom : r.watches.length < Limits.ticketSlots) :
    ∃ c, (s.begin r).2 = .running c ∧ c.Begun ∧ (s.begin r).1.stats = s.stats.record .calls := by
  obtain ⟨hinvalid, -⟩ | ⟨-, hrefusal⟩ := s.refusal?_cases r
  · exact absurd hinvalid hvalid
  have hbegun : ∃ c, (s.begin r).2 = .running c ∧ c.passed = [] ∧
      (s.begin r).1.stats = s.stats.record .calls := by
    simp only [begin, hrefusal, Session.new, Notifier.new?, if_pos hroom]
    exact ⟨_, rfl, rfl, rfl⟩
  obtain ⟨c, hc, hpassed, hstats⟩ := hbegun
  obtain ⟨hstage, hsound⟩ := System.sound_begin (s := s) (Prod.ext rfl hc)
  have hstays : ∀ answer, c.stage ≠ .leaving answer := fun answer hleaving => by
    cases hstage.symm.trans hleaving
  refine ⟨c, hc, ⟨hstage, hpassed, ⟨r, .inr ⟨hstays, hsound⟩⟩, fun answer hleaving => ?_⟩, hstats⟩
  exact absurd hleaving (hstays answer)

/-- **A wait with valid arguments is counted as a call**, after its entries of unknown kind; and it ends at
once because it has no other entries, or it is in progress. -/
theorem Invocation.opening_cases {v : Invocation} {s : System} (hvalid : ¬v.Invalid s.config)
    (hroom : v.size < Limits.ticketSlots) :
    (∃ m, (v.begin s).2 = v.frame (.returned ⟨.error (.noValidTargets m), []⟩) ∧
      (v.begin s).1.stats =
        ((s.stats.recordMany .invalidEntries v.unknown).record .calls).record .noValidTargets) ∨
    (∃ c, (v.begin s).2 = v.frame (.running c) ∧ c.Begun ∧
      (v.begin s).1.stats = (s.stats.recordMany .invalidEntries v.unknown).record .calls) := by
  cases v with
  | multiplexer r =>
    obtain ⟨c, hc, hbegun, hstats⟩ := System.running_of_begin hvalid hroom
    exact .inr ⟨c, congrArg Wait.typed hc, hbegun, hstats⟩
  | typed thread watches flags value =>
    obtain ⟨hinvalid, -⟩ | ⟨-, r, henter, rfl, hrequest⟩ := s.enter_cases thread watches flags value
    · exact absurd hinvalid hvalid
    obtain ⟨c, hc, hbegun, hstats⟩ := System.running_of_begin hrequest hroom
    refine .inr ⟨c, ?_, hbegun, ?_⟩ <;> simp only [Invocation.begin, henter]
    · rw [hc]
      rfl
    · exact hstats
  | raw r =>
    simp only [Invocation.begin]
    obtain ⟨hinvalid, -⟩ | ⟨-, hnone, henter⟩ | ⟨-, -, htyped, henter⟩ := s.enterRaw_cases r
    · exact absurd hinvalid hvalid
    · rw [henter, r.counted_eq]
      refine .inl ⟨r.entries.length, ?_, rfl⟩
      rw [Invocation.frame, RawProgress.of, RawReply.of, RawEntry.writeBack_nil]
      rfl
    · obtain ⟨hinvalid, -⟩ | ⟨-, request, hbegin, hsame, hrequest⟩ :=
        (r.counted s).enter_cases r.thread r.known ⟨r.flags⟩ r.timeout
      · exact absurd hinvalid htyped
      have hfew : request.watches.length < Limits.ticketSlots := by
        rw [hsame]
        exact Nat.lt_of_le_of_lt (List.length_filterMap_le _ _) hroom
      obtain ⟨c, hc, hbegun, hstats⟩ := System.running_of_begin hrequest hfew
      rw [henter, hbegin]
      refine .inr ⟨c, ?_, hbegun, hstats.trans ?_⟩
      · rw [hc]
        rfl
      · rw [r.counted_eq]
        rfl

/-! ## Names looked up in vain -/

namespace Call

/-- How many names a call has looked up in vain. -/
def missed (c : Call) : Nat := c.looked.countP (·.target.isNone)

/-- The next step of a call looks up a name that stands for no object. -/
def misses (k : Kernel) (c : Call) : Bool :=
  match c.stage, c.ahead with
  | .resolving, slot :: _ => (k.registry.lookup? slot.watch.kind slot.watch.id).isNone
  | _, _ => false

end Call

/-- How many watches of a reply are marked. -/
def Reply.marked (reply : Reply) : Nat := reply.watches.countP (·.status == .invalidObject)

/-- How many names of a call have turned out to stand for no object. -/
def Progress.missed : Progress → Nat
  | running c => c.missed
  | returned reply => reply.marked

namespace Call

variable {k k' : Kernel} {c c' : Call} {p : Progress}

theorem misses_of_ahead {slot : Slot} {rest : List Slot} (hstage : c.stage = .resolving)
    (hahead : c.ahead = slot :: rest) :
    c.misses k = (k.registry.lookup? slot.watch.kind slot.watch.id).isNone := by
  rw [misses, hstage, hahead]

theorem misses_of_nil (hahead : c.ahead = []) : c.misses k = false := by
  rw [misses, hahead]
  split
  · next hnil => cases hnil
  · rfl

theorem misses_of_ne (hstage : c.stage ≠ .resolving) : c.misses k = false := by
  rw [misses]
  split
  · exact absurd ‹c.stage = .resolving› hstage
  · rfl

/-- A step counts an invalid entry just when it looks up a name in vain. -/
theorem counts_invalidEntries_iff (k : Kernel) (c : Call) :
    c.counts k = some .invalidEntries ↔ c.misses k = true := by
  by_cases hstage : c.stage = .resolving
  · rcases hahead : c.ahead with _ | ⟨slot, rest⟩
    · rw [misses_of_nil hahead, counts, hstage, hahead]
      simp
    · rw [misses_of_ahead hstage hahead, counts, hstage, hahead]
      simp
  · rw [misses_of_ne hstage]
    refine iff_of_false (fun hcounts => ?_) Bool.false_ne_true
    rw [counts] at hcounts
    split at hcounts
    · exact hstage ‹_›
    · exact hstage ‹_›
    · split_ifs at hcounts <;> cases hcounts
    · exact absurd (Tally.mem_outcomes_of_ofAnswer? hcounts) (by decide)
    · cases hcounts

theorem missed_of_blank (hstage : c.stage ≠ .resolving) (hstage' : c'.stage ≠ .resolving)
    (h : c'.slots.map Slot.blank = c.slots.map Slot.blank) : c'.missed = c.missed := by
  have hcount : ∀ l : List Slot, l.countP (·.target.isNone) = (l.map Slot.blank).countP (·.target.isNone) :=
    fun l => by rw [List.countP_map]; rfl
  rw [missed, missed, looked_of_ne hstage, looked_of_ne hstage', hcount, h, ← hcount]

theorem missed_pass (hstage : c.stage = .resolving) (slot : Slot) :
    (c.pass slot).missed = c.missed + slot.target.isNone.toNat := by
  rw [missed, missed, looked_of_resolving hstage, looked_of_resolving (c := c.pass slot) hstage, pass,
    List.countP_append, List.countP_singleton]
  cases slot.target <;> rfl

/-- A step misses just what it looks up in vain. -/
theorem Steps.missed_running (h : Steps k c k' (.running c')) :
    c'.missed = c.missed + (c.misses k).toNat := by
  by_cases hstage : c.stage = .resolving
  · cases h with
    | found _ hahead hlookup | missing _ hahead hlookup =>
      rw [missed_pass hstage, misses_of_ahead hstage hahead, hlookup]
    | resolved _ hahead | resolvedQuietly _ hahead =>
      rw [misses_of_nil hahead, missed, missed, looked_of_resolving hstage]
      simp [looked, rewind, slots, hahead]
    | _ hother => exact absurd (hstage.symm.trans hother) Stage.noConfusion
  · rw [missed_of_blank hstage (h.stage_ne_resolving hstage) (h.map_blank hstage), misses_of_ne hstage]
    rfl

/-- A call marks the names that it has looked up in vain. -/
theorem Steps.missed_returned {reply : Reply} (h : Steps k c k' (.returned reply)) (hhonest : c.Honest) :
    reply.marked = c.missed ∧ c.misses k = false := by
  obtain ⟨r, hcandid⟩ := hhonest.candid
  have hcount : (∀ slot ∈ c.slots, slot.watch.status = .invalidObject ↔ slot.target = none) →
      c.watches.countP (·.status == .invalidObject) = c.slots.countP (·.target.isNone) := by
    intro hmarked
    rw [watches, List.countP_map]
    exact List.countP_congr fun slot hslot => by simp [hmarked slot hslot]
  obtain ⟨hstage, hahead, -, rfl⟩ | ⟨answer, hstage, rfl⟩ := h.returned_cases
  · obtain ⟨answer, hleaving, -⟩ | ⟨-, hsound⟩ := hcandid
    · cases hstage.symm.trans hleaving
    have hslots : c.slots = c.looked := by
      rw [looked_of_resolving hstage, slots, hahead, List.append_nil]
    refine ⟨(hcount fun slot hslot => ?_).trans ?_, misses_of_nil hahead⟩
    · rw [hslots] at hslot
      exact (hsound.settled slot hslot).invalid_iff
    · rw [hslots, missed]
  · obtain ⟨answer', hleaving, htold⟩ | ⟨hstays, -⟩ := hcandid
    · have hne : c.stage ≠ .resolving := by
        rw [hstage]
        exact Stage.noConfusion
      refine ⟨(hcount htold.marked).trans ?_, misses_of_ne hne⟩
      rw [missed, looked_of_ne hne]
    · exact absurd hstage (hstays answer)

/-- **What has come up as invalid is what a call has missed, and what it marks.** -/
theorem Steps.missed (h : Steps k c k' p) (hhonest : c.Honest) :
    p.missed = c.missed + (c.misses k).toNat := by
  rcases p with c' | reply
  · exact h.missed_running
  · obtain ⟨hmarked, hnone⟩ := h.missed_returned hhonest
    rw [hnone]
    exact hmarked

end Call

/-! ## Invalid entries in a script -/

/-- How many invalid entries come up at a move: those of unknown kind when a wait is accepted, and one when
a wait looks up a name in vain. -/
def Move.misses (co : Company) : Move → Nat
  | operate _ => 0
  | start name v =>
    if (co.wait? name).isSome || decide (v.Invalid co.system.config) then 0 else v.unknown
  | step name => ((co.call? name).any (Call.misses co.system.kernel)).toNat

namespace Company

variable {co : Company} {name : Nat} {v : Invocation} {p : Progress}

/-- How many invalid entries come up in a script, at moves of some sort. -/
def misses (sort : Move → Bool) : Company → List Move → Nat
  | _, [] => 0
  | co, m :: script => (if sort m then m.misses co else 0) + misses sort (co.turn m) script

/-- A wait has come so far, and its call is honest. -/
structure Follows (name : Nat) (v : Invocation) (p : Progress) (co : Company) : Prop where
  /-- the wait of the name -/
  wait : co.wait? name = some (v.frame p)
  /-- in progress it is honest -/
  honest : ∀ c, p = .running c → c.Honest

/-- A move misses for a wait just what the wait has missed after it. -/
theorem Follows.turn (h : co.Follows name v p) (m : Move) :
    ∃ p', (co.turn m).Follows name v p' ∧
      p'.missed = p.missed + if m.concerns name then m.misses co else 0 := by
  by_cases hconcerns : m.concerns name = true
  · rw [if_pos hconcerns]
    cases m with
    | operate op => exact ⟨p, ⟨h.wait, h.honest⟩, rfl⟩
    | start other u =>
      obtain rfl := eq_of_beq hconcerns
      rw [turn_start_of_some h.wait]
      exact ⟨p, h, by simp [Move.misses, h.wait]⟩
    | step other =>
      obtain rfl := eq_of_beq hconcerns
      have hcall : co.call? other = p.call? := by
        rw [call?, h.wait, Option.bind_some, v.call?_frame]
      rw [turn_step_of_some h.wait, Move.misses, hcall]
      rcases p with c | reply
      · have hsteps := Call.steps_step co.system c
        have hhonest := h.honest c rfl
        rw [Wait.step_of_call (v.call?_frame _), v.after_frame]
        refine ⟨(c.step co.system).2, ⟨wait?_put_self _ _ _, fun c' hc' => ?_⟩, hsteps.missed hhonest⟩
        rw [hc'] at hsteps
        exact hhonest.steps hsteps
      · rw [Wait.step_of_over (v.call?_frame _)]
        exact ⟨.returned reply, ⟨wait?_put_self _ _ _, h.honest⟩, rfl⟩
  · rw [if_neg hconcerns]
    refine ⟨p, ⟨?_, h.honest⟩, rfl⟩
    rw [wait?_turn_of_not (Bool.eq_false_of_not_eq_true hconcerns), h.wait]

theorem Follows.play (h : co.Follows name v p) (script : List Move) :
    ∃ p', (co.play script).Follows name v p' ∧
      p'.missed = p.missed + misses (Move.concerns name) co script := by
  induction script generalizing co p with
  | nil => exact ⟨p, h, rfl⟩
  | cons m script ih =>
    obtain ⟨p₁, h₁, hmissed₁⟩ := h.turn m
    obtain ⟨p₂, h₂, hmissed₂⟩ := ih h₁
    exact ⟨p₂, h₂, by rw [hmissed₂, hmissed₁, misses, Nat.add_assoc]⟩

/-- **What comes up as invalid for a wait is what it marks in the end**, beside its entries of unknown
kind. -/
theorem misses_marked (hnew : co.wait? name = none) (hvalid : ¬v.Invalid co.system.config)
    (hroom : v.size < Limits.ticketSlots) (script : List Move) :
    ∃ p, (co.play (.start name v :: script)).wait? name = some (v.frame p) ∧
      misses (Move.concerns name) co (.start name v :: script) = v.unknown + p.missed := by
  have hstart : ∃ p, (co.turn (.start name v)).Follows name v p ∧ p.missed = 0 := by
    rw [turn_start_of_none hnew]
    obtain ⟨m, hframe, -⟩ | ⟨c, hframe, hbegun, -⟩ := Invocation.opening_cases hvalid hroom
    · exact ⟨_, ⟨(wait?_put_self _ _ _).trans (congrArg some hframe), fun c hc => by cases hc⟩, rfl⟩
    · refine ⟨_, ⟨(wait?_put_self _ _ _).trans (congrArg some hframe), fun c' hc' => ?_⟩, ?_⟩
      · obtain rfl := Progress.running.inj hc'
        exact hbegun.honest
      · rw [Progress.missed, Call.missed, Call.looked_of_resolving hbegun.stage, hbegun.passed]
        rfl
  obtain ⟨p, hfollows, hnone⟩ := hstart
  obtain ⟨p', hfollows', hmissed⟩ := hfollows.play script
  refine ⟨p', hfollows'.wait, ?_⟩
  have hstarts : (Move.start name v).misses co = v.unknown := by simp [Move.misses, hnew, hvalid]
  have hconcerns : (Move.start name v).concerns name = true := beq_self_eq_true name
  rw [misses, if_pos hconcerns, hstarts, hmissed, hnone, Nat.zero_add]

end Company

end KernelWait
