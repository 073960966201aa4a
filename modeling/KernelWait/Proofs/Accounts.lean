import KernelWait.Proofs.Misses

/-!
# The accounts of a multiplexer

Any number of waits are made in one system, and each comes to one outcome at most, or is rejected. The
counters of the system are read against what has become of the waits.

**A move posts what it counts** (`Wait.Posting`): to the outcome that its wait comes to, and otherwise to
what is known of a wait in progress. Ledgers are kept by posting (`Company.Ledger.put`), and so **the
counters account for every wait** (`Company.accounts_balance`).
-/

namespace KernelWait

/-! ## What has become of a wait -/

namespace Wait

/-- The outcome that a wait has come to. -/
def tally? : Wait → Option Tally
  | typed progress => progress.tally?
  | raw (.running c) => c.call.tally?
  | raw (.returned reply) => Tally.ofCode? reply.code

/-- The wait was accepted: it is in progress, or has come to an outcome. -/
def accepted (w : Wait) : Bool := w.call?.isSome || w.tally?.isSome

/-- The wait is in progress, and has not come to its outcome yet. -/
def inFlight (w : Wait) : Bool := w.call?.isSome && w.tally?.isNone

/-- The wait is in flight, and has found something at once. -/
def hasty (w : Wait) : Bool := w.call?.any Call.hasty

/-- The wait is in flight, and has polled all its objects. -/
def late (w : Wait) : Bool := w.call?.any Call.late

/-- The wait was rejected for its arguments. -/
def Rejected (w : Wait) : Prop := ∃ response, w.response? = some response ∧ response.Rejects

variable {w : Wait} {c : Call} {p : Progress}

theorem tally?_of_call (h : w.call? = some c) : w.tally? = c.tally? := by
  rcases w with (c | reply) | (c | reply)
  · cases h
    rfl
  · cases h
  · cases h
    rfl
  · cases h

/-- A wait has come to the outcome that its call has come to. -/
theorem tally?_after (h : w.call? = some c)
    (hready : ∀ reply, p = .returned reply → reply.answer ≠ .ok (.ready 0)) :
    (w.after p).tally? = p.tally? := by
  rcases w with (c | reply) | (c | reply)
  · rfl
  · cases h
  · rcases p with c' | reply
    · rfl
    · exact Tally.ofCode?_returnCode (hready reply rfl)
  · cases h

theorem tally?_frame {v : Invocation}
    (hready : ∀ reply, p = .returned reply → reply.answer ≠ .ok (.ready 0)) :
    (v.frame p).tally? = p.tally? := by
  cases v with
  | raw r =>
    rcases p with c | reply
    · rfl
    · exact Tally.ofCode?_returnCode (hready reply rfl)
  | _ => rfl

theorem mem_outcomes_of_tally? {tally : Tally} (h : w.tally? = some tally) : tally ∈ Tally.outcomes := by
  have hcall : ∀ c : Call, c.tally? = some tally → tally ∈ Tally.outcomes := by
    intro c hc
    rw [Call.tally?] at hc
    split at hc
    · exact Tally.mem_outcomes_of_ofAnswer? hc
    · cases hc
  rcases w with (c | reply) | (c | reply)
  · exact hcall c h
  · exact Tally.mem_outcomes_of_ofAnswer? h
  · exact hcall c.call h
  · rw [tally?, Tally.ofCode?] at h
    split_ifs at h <;> cases h <;> decide

/-- A wait that was rejected has come to no outcome. -/
theorem Rejected.over (h : w.Rejected) : w.call? = none ∧ w.tally? = none := by
  obtain ⟨response, hresponse, hrejects⟩ := h
  rcases w with (c | reply) | (c | reply)
  · cases hresponse
  · obtain rfl := Option.some.inj hresponse
    obtain ⟨text, hanswer⟩ := hrejects
    refine ⟨rfl, ?_⟩
    rw [tally?, Progress.tally?, hanswer]
    rfl
  · cases hresponse
  · obtain rfl := Option.some.inj hresponse
    have hcode : reply.code = -22 := hrejects
    refine ⟨rfl, ?_⟩
    rw [tally?, hcode]
    rfl

theorem rejected_refuse (v : Invocation) (text : String) :
    (v.refuse (.invalidArgument text)).Rejected := by
  have hover : ∃ response, (v.refuse (.invalidArgument text)).response? = some response := by
    cases v <;> exact ⟨_, rfl⟩
  obtain ⟨response, hresponse⟩ := hover
  exact ⟨response, hresponse, v.rejects_refuse hresponse⟩

/-! ## Posting -/

/-- What is counted when a wait has come from one state to another, or has come up. -/
structure Posting (counted : Tally → Nat) (before : Option Wait) (after : Wait) : Prop where
  /-- an outcome is counted just when the wait comes to it -/
  outcome : ∀ tally ∈ Tally.outcomes, (after.tally? == some tally).toNat =
    (before.any (·.tally? == some tally)).toNat + counted tally
  /-- a call is counted just when a wait is accepted -/
  calls : after.accepted.toNat = (before.any accepted).toNat + counted .calls
  /-- what was found at once is reported in the end -/
  immediate : counted .immediate + (before.any hasty).toNat ≤ counted .ready + after.hasty.toNat
  /-- what has found something or blocked has something to wait for -/
  blocked : counted .immediate + counted .blocked + (before.any late).toNat ≤
    counted .ready + counted .timeouts + counted .interrupts + after.late.toNat

/-- A wait that comes to nothing new posts nothing, but that entries may be invalid. -/
theorem Posting.of_still {counted : Tally → Nat} {w' : Wait}
    (hcounted : ∀ tally, tally ≠ .invalidEntries → counted tally = 0) (htally : w'.tally? = w.tally?)
    (haccepted : w'.accepted = w.accepted) (hhasty : w.hasty = true → w'.hasty = true)
    (hlate : w.late = true → w'.late = true) : Posting counted (some w) w' := by
  refine ⟨fun tally hmem => ?_, ?_, ?_, ?_⟩
  · rw [htally, hcounted tally (ne_of_mem_of_not_mem hmem (by decide)), Option.any_some, Nat.add_zero]
  · rw [haccepted, hcounted _ (by decide), Option.any_some, Nat.add_zero]
  · rw [hcounted _ (by decide), hcounted _ (by decide), Nat.zero_add, Nat.zero_add]
    exact Bool.toNat_le_toNat (Bool.le_iff_imp.2 hhasty)
  · simp only [hcounted _ (show Tally.immediate ≠ .invalidEntries by decide),
      hcounted _ (show Tally.blocked ≠ .invalidEntries by decide),
      hcounted _ (show Tally.ready ≠ .invalidEntries by decide),
      hcounted _ (show Tally.timeouts ≠ .invalidEntries by decide),
      hcounted _ (show Tally.interrupts ≠ .invalidEntries by decide), Nat.zero_add, Option.any_some]
    exact Bool.toNat_le_toNat (Bool.le_iff_imp.2 hlate)

theorem Posting.of_rejected (h : w.Rejected) : Posting (fun _ => 0) none w := by
  obtain ⟨hover, hnone⟩ := h.over
  refine ⟨fun tally _ => ?_, ?_, ?_, ?_⟩
  · simp [hnone]
  · simp [accepted, hover, hnone]
  · simp
  · simp

/-- A wait that is accepted posts itself, and its outcome if there is nothing to wait for. -/
theorem Posting.of_accepted (haccepted : w.accepted = true)
    (htally : w.tally? = none ∨ w.tally? = some .noValidTargets) (unknown : Nat) :
    Posting (fun tally => (if Tally.invalidEntries = tally then unknown else 0) +
      ((if Tally.calls = tally then 1 else 0) + if w.tally? = some tally then 1 else 0)) none w := by
  refine ⟨fun tally hmem => ?_, ?_, ?_, ?_⟩
  · have hinvalid := (ne_of_mem_of_not_mem hmem (show Tally.invalidEntries ∉ Tally.outcomes by decide)).symm
    have hcalls := (ne_of_mem_of_not_mem hmem (show Tally.calls ∉ Tally.outcomes by decide)).symm
    rw [if_neg hinvalid, if_neg hcalls]
    by_cases heq : w.tally? = some tally <;> simp [heq]
  · obtain hnone | hhopeless := htally
    · simp [haccepted, hnone]
    · simp [haccepted, hhopeless]
  · obtain hnone | hhopeless := htally
    · simp [hnone]
    · simp [hhopeless]
  · obtain hnone | hhopeless := htally
    · simp [hnone]
    · simp [hhopeless]

/-- **A step of a wait posts what it counts.** -/
theorem Posting.of_accounts {counted : Option Tally} (hcall : w.call? = some c)
    (htally : (w.after p).tally? = p.tally?) (h : c.Accounts counted p) :
    Posting (fun tally => if counted = some tally then 1 else 0) (some w) (w.after p) := by
  have hcall' : (w.after p).call? = p.call? := call?_after hcall p
  have haccepted : (w.after p).accepted = (p.call?.isSome || p.tally?.isSome) := by
    rw [accepted, hcall', htally]
  have haccepted₀ : w.accepted = true := by rw [accepted, hcall, Option.isSome_some, Bool.true_or]
  have hhasty : (w.after p).hasty = p.hasty := by rw [hasty, hcall', Progress.hasty]
  have hhasty₀ : w.hasty = c.hasty := by rw [hasty, hcall, Option.any_some]
  have hlate : (w.after p).late = p.late := by rw [late, hcall', Progress.late]
  have hlate₀ : w.late = c.late := by rw [late, hcall, Option.any_some]
  cases h with
  | idle hcounted hsame hover hkeeps hkeeps' =>
    refine .of_still (fun tally hne => if_neg ?_) ?_ ?_ ?_ ?_
    · obtain rfl | rfl := hcounted
      · exact (Option.some_ne_none tally).symm
      · exact fun heq => hne (Option.some.inj heq).symm
    · rw [htally, hsame, tally?_of_call hcall]
    · rw [haccepted, haccepted₀, hsame]
      rcases hp : p.call? with _ | c'
      · exact hover hp
      · rfl
    · rwa [hhasty, hhasty₀]
    · rwa [hlate, hlate₀]
  | found hcounted hbefore hafter =>
    obtain ⟨hnone, hearly⟩ := hbefore
    obtain ⟨hruns, hnone', hlast, hfound⟩ := hafter
    subst hcounted
    refine ⟨fun tally hmem => ?_, ?_, ?_, ?_⟩
    · have hne := (ne_of_mem_of_not_mem hmem (show Tally.immediate ∉ Tally.outcomes by decide)).symm
      simp [htally, hnone', tally?_of_call hcall, hnone, hne]
    · simp [haccepted, haccepted₀, hruns]
    · simp [hhasty, hhasty₀, hfound, Call.hasty_of_not_late hearly]
    · simp [hlate, hlate₀, hlast, hearly]
  | slept hcounted hbefore hafter =>
    obtain ⟨hnone, hearly⟩ := hbefore
    obtain ⟨hruns, hnone', hlast⟩ := hafter
    subst hcounted
    refine ⟨fun tally hmem => ?_, ?_, ?_, ?_⟩
    · have hne := (ne_of_mem_of_not_mem hmem (show Tally.blocked ∉ Tally.outcomes by decide)).symm
      simp [htally, hnone', tally?_of_call hcall, hnone, hne]
    · simp [haccepted, haccepted₀, hruns]
    · simp [hhasty₀, Call.hasty_of_not_late hearly]
    · simp [hlate, hlate₀, hlast, hearly]
  | settled tally hcounted hbefore hafter hmem hkeeps hkeeps' =>
    subst hcounted
    have hcases : tally = .ready ∨ tally = .timeouts ∨ tally = .interrupts ∨ tally = .noValidTargets := by
      simpa [Tally.outcomes] using hmem
    refine ⟨fun other _ => ?_, ?_, ?_, ?_⟩
    · simp only [htally, hafter, Option.any_some, tally?_of_call hcall, hbefore]
      by_cases heq : tally = other <;> simp [heq]
    · rcases hcases with rfl | rfl | rfl | rfl <;> simp [haccepted, haccepted₀, hafter]
    · rw [Option.any_some, hhasty₀]
      rcases hfound : c.hasty with _ | _
      · rcases hcases with rfl | rfl | rfl | rfl <;> simp
      · simp [hkeeps' hfound]
    · rw [Option.any_some, hlate₀]
      rcases hlast : c.late with _ | _
      · rcases hcases with rfl | rfl | rfl | rfl <;> simp
      · have hhopeful := hkeeps hlast
        rcases hcases with rfl | rfl | rfl | rfl <;> simp at hhopeful ⊢

end Wait

namespace Wait

/-- A wait in progress is honest, and one that is over has come to an outcome or was rejected. -/
structure Orderly (w : Wait) : Prop where
  /-- in progress it is honest -/
  honest : ∀ c, w.call? = some c → c.Honest
  /-- once over it has an outcome, or none because it was rejected -/
  ended : w.call? = none → w.tally?.isSome = true ∨ w.Rejected

/-- A wait in order is in flight, or has come to an outcome, or was rejected. -/
theorem Orderly.sorted {w : Wait} (h : w.Orderly) :
    (w.inFlight = true ∧ w.tally? = none ∧ ¬w.Rejected) ∨
    (w.inFlight = false ∧ (∃ tally ∈ Tally.outcomes, w.tally? = some tally) ∧ ¬w.Rejected) ∨
    (w.inFlight = false ∧ w.tally? = none ∧ w.Rejected) := by
  rcases htally : w.tally? with _ | tally
  · rcases hcall : w.call? with _ | c
    · obtain hsome | hrejected := h.ended hcall
      · rw [htally] at hsome
        cases hsome
      · exact .inr (.inr ⟨by simp [inFlight, hcall], rfl, hrejected⟩)
    · refine .inl ⟨by simp [inFlight, hcall, htally], rfl, fun hrejected => ?_⟩
      cases hcall.symm.trans hrejected.over.1
  · refine .inr (.inl ⟨by simp [inFlight, htally], ⟨tally, mem_outcomes_of_tally? htally, rfl⟩,
      fun hrejected => ?_⟩)
    cases htally.symm.trans hrejected.over.2

theorem inFlight_of_late {w : Wait} (h : w.late = true) : w.inFlight = true := by
  obtain ⟨c, hcall, hlate⟩ := (Option.any_eq_true _ _).1 h
  rw [inFlight, hcall, tally?_of_call hcall, Call.tally?]
  rw [Call.late] at hlate
  split at hlate
  · next hstage => rw [hstage]; rfl
  · next hstage => rw [hstage]; rfl
  · cases hlate

theorem Orderly.tally?_after_step {w : Wait} (h : w.Orderly) {c : Call} (hcall : w.call? = some c)
    (s : System) : (w.after (c.step s).2).tally? = (c.step s).2.tally? := by
  refine tally?_after hcall fun reply hp => ?_
  have hsteps := Call.steps_step s c
  rw [hp] at hsteps
  exact ((h.honest c hcall).returned hsteps).2

/-- An outcome stands. -/
theorem Orderly.tally?_step {w : Wait} (h : w.Orderly) {c : Call} (hcall : w.call? = some c) {tally : Tally}
    (htally : w.tally? = some tally) (s : System) : (w.after (c.step s).2).tally? = some tally := by
  rw [h.tally?_after_step hcall]
  rw [tally?_of_call hcall] at htally
  exact ((Call.steps_step s c).accounts (h.honest c hcall)).stands htally

/-- A step counts what it posts, and leaves its wait in order. -/
theorem Orderly.step {w : Wait} (h : w.Orderly) {c : Call} (hcall : w.call? = some c) (s : System) :
    Posting (fun tally => if c.counts s.kernel = some tally then 1 else 0) (some w)
      (w.after (c.step s).2) ∧ (w.after (c.step s).2).Orderly := by
  have hsteps := Call.steps_step s c
  have hhonest := h.honest c hcall
  have htally := h.tally?_after_step hcall s
  refine ⟨.of_accounts hcall htally (hsteps.accounts hhonest), fun c' hc' => ?_, fun hover => ?_⟩
  · rw [call?_after hcall] at hc'
    rcases hp : (c.step s).2 with c'' | reply <;> rw [hp] at hc' hsteps
    · obtain rfl := Option.some.inj hc'
      exact hhonest.steps hsteps
    · cases hc'
  · rw [call?_after hcall] at hover
    rw [htally]
    rcases hp : (c.step s).2 with c'' | reply <;> rw [hp] at hover hsteps
    · cases hover
    · exact .inl (hhonest.returned hsteps).1

end Wait

namespace Invocation

variable {v : Invocation} {s : System}

theorem rejected_begin (h : v.Invalid s.config) : (v.begin s).2.Rejected := by
  obtain ⟨-, text, hbegin⟩ | ⟨hvalid, -⟩ := v.begin_cases s
  · rw [hbegin]
    exact Wait.rejected_refuse v text
  · exact absurd h hvalid

theorem begin_of_rejected (h : (v.begin s).2.Rejected) : (v.begin s).1 = s := by
  obtain ⟨-, text, hbegin⟩ | ⟨-, hblameless⟩ := v.begin_cases s
  · rw [hbegin]
  · obtain ⟨response, hresponse, hrejects⟩ := h
    exact absurd hrejects (hblameless.not_rejects hresponse)

end Invocation

/-- **A wait posts what it counts when it begins**: its entries of unknown kind, itself, and the outcome
that it has come to at once. -/
theorem Invocation.posting_begin (v : Invocation) (s : System) (hroom : v.size < Limits.ticketSlots) :
    (v.begin s).2.Orderly ∧ ∃ counted, Wait.Posting counted none (v.begin s).2 ∧
      counted .invalidEntries = (if v.Invalid s.config then 0 else v.unknown) ∧
      ∀ shown, s.stats.Shows shown →
        (v.begin s).1.stats.Shows fun tally => shown tally + counted tally := by
  obtain ⟨hinvalid, text, hbegin⟩ | ⟨hvalid, -⟩ := v.begin_cases s
  · have hrejected := Wait.rejected_refuse v text
    rw [hbegin]
    exact ⟨⟨fun c hc => absurd (hc.symm.trans hrejected.over.1) (Option.some_ne_none c),
      fun _ => .inr hrejected⟩, _, .of_rejected hrejected, (if_pos hinvalid).symm, fun _ hshown => hshown⟩
  rw [if_neg hvalid]
  obtain ⟨m, hframe, hstats⟩ | ⟨c, hframe, hbegun, hstats⟩ := Invocation.opening_cases hvalid hroom
  · have hover : (v.begin s).2.call? = none := by
      rw [hframe, v.call?_frame]
      rfl
    have htally : (v.begin s).2.tally? = some .noValidTargets := by
      rw [hframe, Wait.tally?_frame fun reply heq => ?_]
      · rfl
      · obtain rfl := Progress.returned.inj heq
        exact fun h => by cases h
    refine ⟨⟨fun c hc => absurd (hc.symm.trans hover) (Option.some_ne_none c), fun _ => .inl ?_⟩,
      _, .of_accepted ?_ (.inr htally) v.unknown, by simp [htally], fun shown hshown tally => ?_⟩
    · rw [htally]
      rfl
    · simp [Wait.accepted, htally]
    · simpa [hstats, htally, Nat.add_assoc] using ((hshown.recordMany _ _).record _).record _ tally
  · have hcall : (v.begin s).2.call? = some c := by
      rw [hframe, v.call?_frame]
      rfl
    have hnone : (v.begin s).2.tally? = none := by
      rw [Wait.tally?_of_call hcall, Call.tally?, hbegun.stage]
    refine ⟨⟨fun c' hc' => ?_, fun hover => absurd (hcall.symm.trans hover) (Option.some_ne_none c)⟩,
      _, .of_accepted ?_ (.inl hnone) v.unknown, by simp [hnone], fun shown hshown tally => ?_⟩
    · obtain rfl := Option.some.inj (hcall.symm.trans hc')
      exact hbegun.honest
    · simp [Wait.accepted, hcall]
    · simpa [hstats, hnone, Nat.add_assoc] using (hshown.recordMany _ _).record _ tally

/-! ## Ledgers -/

namespace Move

/-- There is room for the tickets of a wait that is made. -/
def Roomy : Move → Prop
  | start _ v => v.size < Limits.ticketSlots
  | _ => True

instance : (m : Move) → Decidable m.Roomy
  | start _ _ => inferInstanceAs (Decidable (_ < _))
  | operate _ => isTrue trivial
  | step _ => isTrue trivial

end Move

namespace Company

variable {co : Company} {name : Nat} {counted : Tally → Nat}

/-- How many waits are so. -/
def count (p : Wait → Bool) (co : Company) : Nat := co.waits.countP fun q => p q.2

theorem countP_without {waits : List (Nat × Wait)} (hnames : (waits.map Prod.fst).Nodup) (name : Nat)
    (p : Wait → Bool) :
    (waits.filter (·.1 != name)).countP (fun q => p q.2) + ((waits.lookup name).any p).toNat =
      waits.countP fun q => p q.2 := by
  induction waits with
  | nil => rfl
  | cons q waits ih =>
    obtain ⟨other, w⟩ := q
    rw [List.map_cons, List.nodup_cons] at hnames
    by_cases heq : other = name
    · subst heq
      have hothers : waits.filter (·.1 != other) = waits := by
        refine List.filter_eq_self.2 fun q hq => bne_iff_ne.2 fun heq => hnames.1 ?_
        rw [← heq]
        exact List.mem_map.2 ⟨q, hq, rfl⟩
      simp [hothers, List.countP_cons, Bool.toNat, Bool.cond_eq_ite]
    · have hne : (name == other) = false := beq_false_of_ne (Ne.symm heq)
      simp only [List.filter_cons_of_pos (p := (·.1 != name)) (a := (other, w)) (by simpa using heq),
        List.lookup_cons, hne, List.countP_cons, ← ih hnames.2]
      omega

/-- The waits are counted anew when one of them has come further. -/
theorem count_put (hnames : (co.waits.map Prod.fst).Nodup) (p : Wait → Bool) (name : Nat)
    (r : System × Wait) :
    (co.put name r).count p + ((co.wait? name).any p).toNat = co.count p + (p r.2).toNat := by
  have hothers := countP_without hnames name p
  rw [count, put, List.countP_cons, count, ← hothers, wait?]
  rcases p r.2 with _ | _ <;> simp
  omega

/-- A ledger of what was counted agrees with what has become of the waits. -/
structure Ledger (co : Company) (counted : Tally → Nat) : Prop where
  /-- a name stands for one wait -/
  names : (co.waits.map Prod.fst).Nodup
  /-- every wait is in order -/
  orderly : ∀ q ∈ co.waits, q.2.Orderly
  /-- the counters show what was counted -/
  shows : co.system.stats.Shows counted
  /-- an outcome was counted for each wait that came to it -/
  outcome : ∀ tally ∈ Tally.outcomes, co.count (·.tally? == some tally) = counted tally
  /-- a call was counted for each wait that was accepted -/
  calls : co.count Wait.accepted = counted .calls
  /-- what was found at once was reported, or will be -/
  immediate : counted .immediate ≤ counted .ready + co.count Wait.hasty
  /-- what has found something or blocked has come to an outcome, or will -/
  blocked : counted .immediate + counted .blocked ≤
    counted .ready + counted .timeouts + counted .interrupts + co.count Wait.late

/-- **A ledger is kept by posting.** -/
theorem Ledger.put (h : co.Ledger counted) {s : System} {w : Wait} (horderly : w.Orderly)
    {more : Tally → Nat} (hposting : Wait.Posting more (co.wait? name) w)
    (hshows : s.stats.Shows fun tally => counted tally + more tally) :
    (co.put name (s, w)).Ledger fun tally => counted tally + more tally := by
  have hcount := fun p => count_put h.names p name (s, w)
  refine ⟨?_, fun q hq => ?_, hshows, fun tally hmem => ?_, ?_, ?_, ?_⟩
  · rw [Company.put, List.map_cons, List.nodup_cons]
    refine ⟨fun hmem => ?_, h.names.sublist (List.filter_sublist.map _)⟩
    obtain ⟨q, hq, heq⟩ := List.mem_map.1 hmem
    exact bne_iff_ne.1 (List.mem_filter.1 hq).2 heq
  · rcases List.mem_cons.1 hq with rfl | hq
    · exact horderly
    · exact h.orderly q (List.mem_filter.1 hq).1
  · have hposted := hposting.outcome tally hmem
    have hkept := h.outcome tally hmem
    have hcounts := hcount (·.tally? == some tally)
    simp only at hcounts
    omega
  · have hposted := hposting.calls
    have hkept := h.calls
    have hcounts := hcount Wait.accepted
    simp only at hcounts ⊢
    omega
  · have hposted := hposting.immediate
    have hkept := h.immediate
    have hcounts := hcount Wait.hasty
    simp only at hcounts ⊢
    omega
  · have hposted := hposting.blocked
    have hkept := h.blocked
    have hcounts := hcount Wait.late
    simp only at hcounts ⊢
    omega

/-- A move keeps the ledger, with the invalid entries that come up at it. -/
theorem Ledger.turn (h : co.Ledger counted) {m : Move} (hroom : m.Roomy) :
    ∃ counted', (co.turn m).Ledger counted' ∧
      counted' .invalidEntries = counted .invalidEntries + m.misses co := by
  cases m with
  | operate op =>
    exact ⟨counted, ⟨h.names, h.orderly, h.shows, h.outcome, h.calls, h.immediate, h.blocked⟩, rfl⟩
  | start name v =>
    rcases hwait : co.wait? name with _ | w
    · obtain ⟨horderly, more, hposting, hmisses, hshows⟩ := v.posting_begin co.system hroom
      rw [turn_start_of_none hwait]
      rw [← hwait] at hposting
      refine ⟨_, h.put horderly hposting (hshows counted h.shows), ?_⟩
      simp [Move.misses, hwait, hmisses]
    · rw [turn_start_of_some hwait]
      exact ⟨counted, h, by simp [Move.misses, hwait]⟩
  | step name =>
    rcases hwait : co.wait? name with _ | w
    · rw [turn_step_of_none hwait]
      exact ⟨counted, h, by simp [Move.misses, call?, hwait]⟩
    rw [turn_step_of_some hwait]
    have hw := h.orderly _ (mem_waits_of_wait? hwait)
    rcases hcall : w.call? with _ | c
    · have hposting : Wait.Posting (fun _ => 0) (some w) w := .of_still (fun _ _ => rfl) rfl rfl id id
      rw [Wait.step_of_over hcall]
      rw [← hwait] at hposting
      exact ⟨_, h.put hw hposting h.shows, by simp [Move.misses, call?, hwait, hcall]⟩
    · obtain ⟨hposting, horderly⟩ := hw.step hcall co.system
      rw [Wait.step_of_call hcall]
      rw [← hwait] at hposting
      refine ⟨_, h.put horderly hposting fun tally => ?_, ?_⟩
      · rw [Call.get_stats_step, h.shows, UInt64.ofNat_add]
        split <;> rfl
      · simp only [Move.misses, call?, hwait, Option.bind_some, hcall, Option.any_some,
          Call.counts_invalidEntries_iff]
        rcases c.misses co.system.kernel with _ | _ <;> rfl

/-- **The ledger is kept throughout a script.** -/
theorem Ledger.play (h : co.Ledger counted) {script : List Move} (hroom : ∀ m ∈ script, m.Roomy) :
    ∃ counted', (co.play script).Ledger counted' ∧
      counted' .invalidEntries = counted .invalidEntries + misses (fun _ => true) co script := by
  induction script generalizing co counted with
  | nil => exact ⟨counted, h, rfl⟩
  | cons m script ih =>
    obtain ⟨counted₁, h₁, hmisses₁⟩ := h.turn (hroom m List.mem_cons_self)
    obtain ⟨counted₂, h₂, hmisses₂⟩ := ih h₁ fun m' hm' => hroom m' (List.mem_cons_of_mem _ hm')
    exact ⟨counted₂, h₂, by rw [hmisses₂, hmisses₁, misses, if_pos rfl, Nat.add_assoc]⟩

/-! ## The balance -/

theorem count_le {p p' : Wait → Bool} (h : ∀ q ∈ co.waits, p q.2 = true → p' q.2 = true) :
    co.count p ≤ co.count p' := List.countP_mono_left h

/-- Every wait that was accepted is in flight, or has come to one of the outcomes. -/
theorem count_accepted (co : Company) :
    co.count Wait.accepted =
      co.count (·.tally? == some .ready) + co.count (·.tally? == some .timeouts) +
        co.count (·.tally? == some .interrupts) + co.count (·.tally? == some .noValidTargets) +
        co.count Wait.inFlight := by
  simp only [count]
  induction co.waits with
  | nil => rfl
  | cons q waits ih =>
    simp only [List.countP_cons, ih]
    have hsplit : (if q.2.accepted = true then 1 else 0) =
        (if (q.2.tally? == some .ready) = true then 1 else 0) +
          (if (q.2.tally? == some .timeouts) = true then 1 else 0) +
          (if (q.2.tally? == some .interrupts) = true then 1 else 0) +
          (if (q.2.tally? == some .noValidTargets) = true then 1 else 0) +
          (if q.2.inFlight = true then 1 else 0) := by
      rw [Wait.accepted, Wait.inFlight]
      rcases htally : q.2.tally? with _ | tally
      · simp
      · have hmem := Wait.mem_outcomes_of_tally? htally
        simp [Tally.outcomes] at hmem
        rcases hmem with rfl | rfl | rfl | rfl <;> simp
    omega

/-- Every wait in progress sleeps, or is about to. -/
def AtRest (co : Company) : Prop := ∀ q ∈ co.waits, ∀ c, q.2.call? = some c → ∃ b, c.stage = .blocked b

/-- The counters of a company agree with what has become of its waits. -/
structure Balanced (co : Company) (invalid : Nat) : Prop where
  /-- a name stands for one wait -/
  names : (co.waits.map Prod.fst).Nodup
  /-- every wait is in flight, or has come to one outcome, or was rejected -/
  sorted : ∀ q ∈ co.waits,
    (q.2.inFlight = true ∧ q.2.tally? = none ∧ ¬q.2.Rejected) ∨
    (q.2.inFlight = false ∧ (∃ tally ∈ Tally.outcomes, q.2.tally? = some tally) ∧ ¬q.2.Rejected) ∨
    (q.2.inFlight = false ∧ q.2.tally? = none ∧ q.2.Rejected)
  /-- the counter of an outcome counts the waits that have come to it -/
  outcome : ∀ tally ∈ Tally.outcomes,
    co.system.stats.get tally = UInt64.ofNat (co.count (·.tally? == some tally))
  /-- a call that was counted has come to an outcome, or is in flight -/
  calls : co.system.stats.calls =
    co.system.stats.ready + co.system.stats.timeouts + co.system.stats.interrupts +
      co.system.stats.noValidTargets + UInt64.ofNat (co.count Wait.inFlight)
  /-- what has come up as invalid is counted -/
  invalid : co.system.stats.invalidEntries = UInt64.ofNat invalid
  /-- what was found at once was reported, or will be -/
  immediate : co.count Wait.accepted < UInt64.size →
    co.system.stats.immediate.toNat ≤ co.system.stats.ready.toNat + co.count Wait.hasty
  /-- what has found something or blocked has come to an outcome, or is in flight -/
  blocked : co.count Wait.accepted < UInt64.size →
    co.system.stats.immediate.toNat + co.system.stats.blocked.toNat ≤
      co.system.stats.ready.toNat + co.system.stats.timeouts.toNat + co.system.stats.interrupts.toNat +
        co.count Wait.inFlight
  /-- at rest, what was found at once was reported, and a wait in progress is in flight -/
  rest : co.AtRest → co.count Wait.hasty = 0 ∧ co.count (·.call?.isSome) = co.count Wait.inFlight

theorem Ledger.outcome_le (h : co.Ledger counted) {tally : Tally} (hmem : tally ∈ Tally.outcomes) :
    counted tally ≤ co.count Wait.accepted := by
  rw [← h.outcome tally hmem]
  refine count_le fun q _ hq => ?_
  rw [Wait.accepted, beq_iff_eq.1 hq]
  exact Bool.or_true _

theorem toNat_ofNat_le (n : Nat) : (UInt64.ofNat n).toNat ≤ n := by
  rw [UInt64.toNat_ofNat']
  exact Nat.mod_le _ _

theorem Ledger.balanced (h : co.Ledger counted) : co.Balanced (counted .invalidEntries) := by
  have hexact : co.count Wait.accepted < UInt64.size → ∀ tally ∈ Tally.outcomes,
      (co.system.stats.get tally).toNat = counted tally := by
    intro hfew tally hmem
    rw [h.shows tally, UInt64.toNat_ofNat_of_lt' (Nat.lt_of_le_of_lt (h.outcome_le hmem) hfew)]
  have hle : ∀ tally, (co.system.stats.get tally).toNat ≤ counted tally := by
    intro tally
    rw [h.shows tally]
    exact toNat_ofNat_le _
  have hsum := count_accepted co
  rw [h.outcome _ (by decide), h.outcome _ (by decide), h.outcome _ (by decide), h.outcome _ (by decide),
    h.calls] at hsum
  refine ⟨h.names, fun q hq => ?_, fun tally hmem => ?_, ?_, h.shows .invalidEntries, fun hfew => ?_,
    fun hfew => ?_, fun hrest => ⟨?_, ?_⟩⟩
  · exact (h.orderly q hq).sorted
  · rw [h.shows tally, h.outcome tally hmem]
  · have hcalls := h.shows .calls
    rw [hsum, UInt64.ofNat_add, UInt64.ofNat_add, UInt64.ofNat_add, UInt64.ofNat_add, ← h.shows .ready,
      ← h.shows .timeouts, ← h.shows .interrupts, ← h.shows .noValidTargets] at hcalls
    exact hcalls
  · have hready := hexact hfew .ready (by decide)
    have himmediate := hle .immediate
    have hkept := h.immediate
    simp only [Statistics.get] at hready himmediate
    omega
  · have hready := hexact hfew .ready (by decide)
    have htimeouts := hexact hfew .timeouts (by decide)
    have hinterrupts := hexact hfew .interrupts (by decide)
    have himmediate := hle .immediate
    have hblocked := hle .blocked
    have hkept := h.blocked
    have hlate : co.count Wait.late ≤ co.count Wait.inFlight :=
      count_le fun q _ hq => Wait.inFlight_of_late hq
    simp only [Statistics.get] at hready htimeouts hinterrupts himmediate hblocked
    omega
  · rw [count, List.countP_eq_zero]
    intro q hq hhasty
    obtain ⟨c, hcall, hfound⟩ := (Option.any_eq_true _ _).1 hhasty
    obtain ⟨b, hstage⟩ := hrest q hq c hcall
    rw [Call.hasty, hstage] at hfound
    cases hfound
  · refine List.countP_congr fun q hq => ?_
    rcases hcall : q.2.call? with _ | c
    · simp [Wait.inFlight, hcall]
    · obtain ⟨b, hstage⟩ := hrest q hq c hcall
      simp [Wait.inFlight, hcall, Wait.tally?_of_call hcall, Call.tally?, hstage]

/-- An outcome stands. -/
theorem Ledger.tally?_turn (h : co.Ledger counted) {w : Wait} {tally : Tally}
    (hwait : co.wait? name = some w) (htally : w.tally? = some tally) (m : Move) :
    ∃ w', (co.turn m).wait? name = some w' ∧ w'.tally? = some tally := by
  by_cases hconcerns : m.concerns name = true
  · cases m with
    | operate op => exact ⟨w, hwait, htally⟩
    | start other v =>
      obtain rfl := eq_of_beq hconcerns
      rw [turn_start_of_some hwait]
      exact ⟨w, hwait, htally⟩
    | step other =>
      obtain rfl := eq_of_beq hconcerns
      rw [turn_step_of_some hwait]
      refine ⟨_, wait?_put_self _ _ _, ?_⟩
      rcases hcall : w.call? with _ | c
      · rw [Wait.step_of_over hcall, htally]
      · rw [Wait.step_of_call hcall]
        exact (h.orderly _ (mem_waits_of_wait? hwait)).tally?_step hcall htally _
  · rw [wait?_turn_of_not (Bool.eq_false_of_not_eq_true hconcerns)]
    exact ⟨w, hwait, htally⟩

theorem Ledger.tally?_play (h : co.Ledger counted) {w : Wait} {tally : Tally}
    (hwait : co.wait? name = some w) (htally : w.tally? = some tally) {script : List Move}
    (hroom : ∀ m ∈ script, m.Roomy) :
    ∃ w', (co.play script).wait? name = some w' ∧ w'.tally? = some tally := by
  induction script generalizing co counted w with
  | nil => exact ⟨w, hwait, htally⟩
  | cons m script ih =>
    obtain ⟨counted₁, h₁, -⟩ := h.turn (hroom m List.mem_cons_self)
    obtain ⟨w₁, hwait₁, htally₁⟩ := h.tally?_turn hwait htally m
    exact ih h₁ hwait₁ htally₁ fun m' hm' => hroom m' (List.mem_cons_of_mem _ hm')

/-- The accounts of a script, and what becomes of each wait that is made in it. -/
structure Accounted (start : Company) (script : List Move) : Prop where
  /-- the counters agree with the waits -/
  balanced : (start.play script).Balanced (start.misses (fun _ => true) script)
  /-- a wait comes to one outcome, and keeps it -/
  stands : ∀ earlier later name w tally, script = earlier ++ later →
    (start.play earlier).wait? name = some w → w.tally? = some tally →
      ∃ w', (start.play script).wait? name = some w' ∧ w'.tally? = some tally
  /-- a wait that is rejected changes nothing -/
  rejected : ∀ earlier name v later, script = earlier ++ .start name v :: later →
    (v.begin (start.play earlier).system).2.Rejected →
      ((start.play earlier).turn (.start name v)).system = (start.play earlier).system
  /-- what has come up as invalid for any other wait is what it marks in the end -/
  marked : ∀ earlier name v later, script = earlier ++ .start name v :: later →
    (start.play earlier).wait? name = none → ¬(v.begin (start.play earlier).system).2.Rejected →
      ∃ p, (start.play script).wait? name = some (v.frame p) ∧
        (start.play earlier).misses (Move.concerns name) (.start name v :: later) = v.unknown + p.missed

/-- No wait was made yet, and nothing is counted. -/
theorem Ledger.empty (kernel : Kernel) (config : WaitConfig) :
    Ledger { system := { kernel, config } } fun _ => 0 where
  names := List.nodup_nil
  orderly q hq := absurd hq List.not_mem_nil
  shows tally := by cases tally <;> rfl
  outcome _ _ := rfl
  calls := rfl
  immediate := Nat.le_refl _
  blocked := Nat.le_refl _

/-- **The counters account for every wait**, however waits of all forms and operations of all kinds go on at
the same time, as long as there is room for the tickets of each wait. -/
theorem accounts_balance {kernel : Kernel} {config : WaitConfig} {script : List Move}
    (hroom : ∀ m ∈ script, m.Roomy) : Accounted { system := { kernel, config } } script := by
  have hstart := Ledger.empty kernel config
  refine ⟨?_, ?_, ?_, ?_⟩
  · obtain ⟨counted, hledger, hmisses⟩ := hstart.play hroom
    rw [Nat.zero_add] at hmisses
    rw [← hmisses]
    exact hledger.balanced
  · rintro earlier later name w tally rfl hwait htally
    obtain ⟨counted, hledger, -⟩ := hstart.play fun m hm => hroom m (List.mem_append_left _ hm)
    rw [play_append]
    exact hledger.tally?_play hwait htally fun m hm => hroom m (List.mem_append_right _ hm)
  · rintro earlier name v later - hrejected
    generalize play _ earlier = co at hrejected ⊢
    rcases hwait : co.wait? name with _ | w
    · rw [turn_start_of_none hwait]
      exact Invocation.begin_of_rejected hrejected
    · rw [turn_start_of_some hwait]
  · rintro earlier name v later rfl hnew haccepted
    have hsize : v.size < Limits.ticketSlots :=
      hroom (.start name v) (List.mem_append_right _ List.mem_cons_self)
    have hvalid : ¬v.Invalid (play { system := { kernel, config } } earlier).system.config :=
      fun hinvalid => haccepted (Invocation.rejected_begin hinvalid)
    rw [play_append]
    exact misses_marked hnew hvalid hsize later

/-- Of three waits one finds its object ready, one blocks and has an entry of unknown kind, and one is
rejected. -/
theorem accounts_balance_mixed :
    let kernel := Operation.runAll { clock := { now := 0, horizon := 1000 } }
      [.create (.semaphore 1), .create (.semaphore 0)]
    let start : Company := { system := { kernel, config := .standard } }
    let poll (thread : ThreadId) (watches : List Watch) : Invocation :=
      .multiplexer { thread, watches, flags := ∅, timeout := .poll }
    let sleep : Invocation :=
      .raw { thread := 8, entries := [⟨2, 1, 1⟩, ⟨9, 77, 1⟩], flags := 0x0008, timeout := 100 }
    let script : List Move :=
      [.start 1 (poll 7 [.preset .semaphore 1 ∅]), .start 2 sleep, .start 3 (poll 9 [])] ++
      List.replicate 5 (.step 1) ++ List.replicate 7 (.step 2)
    (∀ m ∈ script, m.Roomy) ∧ Accounted start script ∧
      (start.play script).system.stats =
        { calls := 2, immediate := 1, blocked := 1, ready := 1, invalidEntries := 1 } ∧
      (start.play script).count Wait.inFlight = 1 := by
  intro kernel start poll sleep script
  have hroom : ∀ m ∈ script, m.Roomy := by decide
  exact ⟨hroom, accounts_balance hroom, by cbv, by cbv⟩

end Company

end KernelWait
