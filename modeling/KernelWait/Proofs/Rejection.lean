import KernelWait.Proofs.Slots
import KernelWait.Proofs.Waits

/-!
# Rejected calls

Arguments are checked in several places: the flags and the timeout at the boundary, the events of each
entry when it is read, the number of entries there and once more where the call begins. All these checks
come before anything is counted or opened, and what is wrong with the arguments can be said at once
(`Invocation.Invalid`).

**A call is rejected just when its arguments are invalid, and then nothing has happened**
(`Invocation.rejected_exactly`): no later check rejects what the first ones let pass.
-/

namespace KernelWait

/-! ## What is wrong with arguments -/

/-- No wait may name so many objects. -/
def WaitConfig.Miscounts (config : WaitConfig) (count : Nat) : Prop :=
  count = 0 ∨ config.maxObjects < count

instance (config : WaitConfig) (count : Nat) : Decidable (config.Miscounts count) :=
  inferInstanceAs (Decidable (_ ∨ _))

/-- The flags ask to read the timeout in two ways. -/
def Flags.Ambiguous (flags : Flags) : Prop :=
  flags.includes .relativeTimeout = true ∧ flags.includes .absoluteTimeout = true

instance (flags : Flags) : Decidable flags.Ambiguous := inferInstanceAs (Decidable (_ ∧ _))

/-- Some bit of a flag word has no name. -/
def Flags.Unnamed (bits : UInt32) : Prop := bits &&& ~~~all.bits ≠ 0

instance (bits : UInt32) : Decidable (Flags.Unnamed bits) := inferInstanceAs (Decidable (_ ≠ _))

/-- Some bit of an event word has no name. -/
def Events.Unnamed (bits : UInt16) : Prop := bits &&& ~~~all.bits ≠ 0

instance (bits : UInt16) : Decidable (Events.Unnamed bits) := inferInstanceAs (Decidable (_ ≠ _))

namespace Invocation

/-- What is wrong with the arguments of a wait. A multiplexer takes no timeout by flags at all. -/
def Invalid (config : WaitConfig) : Invocation → Prop
  | multiplexer r => r.flags ∩ .timeoutKinds ≠ ∅ ∨ config.Miscounts r.watches.length
  | typed _ watches flags _ => flags.Ambiguous ∨ config.Miscounts watches.length
  | raw r =>
    Flags.Unnamed r.flags ∨ Flags.Ambiguous ⟨r.flags⟩ ∨ config.Miscounts r.entries.length ∨
      ∃ entry ∈ r.entries, Events.Unnamed entry.events

instance (config : WaitConfig) : (v : Invocation) → Decidable (v.Invalid config)
  | multiplexer _ => inferInstanceAs (Decidable (_ ∨ _))
  | typed _ _ _ _ => inferInstanceAs (Decidable (_ ∨ _))
  | raw _ => inferInstanceAs (Decidable (_ ∨ _ ∨ _ ∨ _))

/-- A wait that is refused at once: its caller gets back what it gave. -/
def refuse (cause : WaitError) : Invocation → Wait
  | multiplexer r => .typed (.returned ⟨.error cause, r.watches⟩)
  | typed _ watches _ _ => .typed (.returned ⟨.error cause, watches⟩)
  | raw r => .raw (.returned ⟨cause.errno, r.entries⟩)

end Invocation

/-- The caller is told that an argument makes no sense. -/
def Response.Rejects : Response → Prop
  | typed reply => ∃ text, reply.answer = .error (.invalidArgument text)
  | raw reply => reply.code = -22

/-! ## The checks -/

/-- A word has no bit outside of another just when cutting it down to the other changes nothing. -/
theorem and_eq_self_iff {w : Nat} (x y : BitVec w) : x &&& y = x ↔ x &&& ~~~y = 0#w := by
  simp only [BitVec.eq_of_getElem_eq_iff, BitVec.getElem_and, BitVec.getElem_not,
    BitVec.getElem_zero]
  refine forall₂_congr fun i hi => ?_
  cases x[i] <;> simp

theorem Flags.truncate_eq_iff (bits : UInt32) : truncate ⟨bits⟩ = ⟨bits⟩ ↔ ¬Unnamed bits := by
  have hbits : truncate ⟨bits⟩ = ⟨bits⟩ ↔ bits &&& all.bits = bits :=
    ⟨fun h => congrArg Flags.bits h, fun h => ext_bits h⟩
  rw [hbits, Unnamed, not_not, ← UInt32.toBitVec_inj, ← UInt32.toBitVec_inj]
  simpa using and_eq_self_iff bits.toBitVec all.bits.toBitVec

theorem Events.isKnown_iff (bits : UInt16) : isKnown ⟨bits⟩ = true ↔ ¬Unnamed bits := by
  have hbits : isKnown ⟨bits⟩ = true ↔ bits &&& all.bits = bits := by
    rw [isKnown, beq_iff_eq]
    exact ⟨fun h => congrArg Events.bits h, fun h => ext_bits h⟩
  rw [hbits, Unnamed, not_not, ← UInt16.toBitVec_inj, ← UInt16.toBitVec_inj]
  simpa using and_eq_self_iff bits.toBitVec all.bits.toBitVec

theorem Flags.decode_cases (bits : UInt32) :
    (Unnamed bits ∧ ∃ text, decode bits = .error (.invalidArgument text)) ∨
    (¬Unnamed bits ∧ decode bits = .ok ⟨bits⟩) := by
  simp only [decode, ofBits?]
  by_cases hnamed : truncate ⟨bits⟩ = ⟨bits⟩
  · rw [if_pos hnamed]
    exact .inr ⟨(truncate_eq_iff bits).1 hnamed, rfl⟩
  · rw [if_neg hnamed]
    rw [truncate_eq_iff, not_not] at hnamed
    exact .inl ⟨hnamed, _, rfl⟩

theorem Timeout.ofFlags_cases (flags : Flags) (value : Int64) :
    (flags.Ambiguous ∧ ∃ text, ofFlags flags value = .error (.invalidArgument text)) ∨
    (¬flags.Ambiguous ∧ ∃ timeout, ofFlags flags value = .ok timeout) := by
  simp only [ofFlags, Flags.Ambiguous]
  rw [← Bool.and_eq_true]
  by_cases hboth : (flags.includes .relativeTimeout && flags.includes .absoluteTimeout) = true
  · rw [if_pos hboth]
    exact .inl ⟨hboth, _, rfl⟩
  · rw [if_neg hboth]
    refine .inr ⟨hboth, ?_⟩
    split
    · exact ⟨_, rfl⟩
    · split
      · exact ⟨_, rfl⟩
      · split <;> exact ⟨_, rfl⟩

theorem System.countRefusal?_cases (s : System) (count : Nat) :
    (s.config.Miscounts count ∧ ∃ text, s.countRefusal? count = some (.invalidArgument text)) ∨
    (¬s.config.Miscounts count ∧ s.countRefusal? count = none) := by
  simp only [countRefusal?, WaitConfig.Miscounts]
  by_cases hzero : count = 0
  · rw [if_pos hzero]
    exact .inl ⟨.inl hzero, _, rfl⟩
  · rw [if_neg hzero]
    by_cases hmany : s.config.maxObjects < count
    · rw [if_pos hmany]
      exact .inl ⟨.inr hmany, _, rfl⟩
    · rw [if_neg hmany]
      exact .inr ⟨not_or.2 ⟨hzero, hmany⟩, rfl⟩

/-- The watch that an entry of known kind stands for, whatever its events. -/
def RawEntry.known? (e : RawEntry) : Option Watch :=
  match Kind.ofCode e.kindCode with
  | .error _ => none
  | .ok kind => some { kind := kind, id := e.object, requested := ⟨e.events⟩ }

/-- An unknown event is refused, also in an entry of unknown kind. -/
theorem RawEntry.watch?_cases (e : RawEntry) :
    (Events.Unnamed e.events ∧ ∃ text, e.watch? = .error (.invalidArgument text)) ∨
    (¬Events.Unnamed e.events ∧ e.watch? = .ok e.known?) := by
  simp only [watch?, Events.ofBits?, known?]
  by_cases hknown : Events.isKnown ⟨e.events⟩ = true
  · rw [if_pos hknown]
    refine .inr ⟨(Events.isKnown_iff e.events).1 hknown, ?_⟩
    rcases Kind.ofCode e.kindCode with cause | kind <;> rfl
  · rw [if_neg hknown]
    rw [Events.isKnown_iff, not_not] at hknown
    exact .inl ⟨hknown, _, rfl⟩

theorem decodeEntries_cases (entries : List RawEntry) :
    ((∃ e ∈ entries, Events.Unnamed e.events) ∧
      ∃ text, decodeEntries entries = .error (.invalidArgument text)) ∨
    ((¬∃ e ∈ entries, Events.Unnamed e.events) ∧
      decodeEntries entries = .ok (entries.map RawEntry.known?)) := by
  induction entries with
  | nil => exact .inr ⟨by simp, rfl⟩
  | cons e entries ih =>
    simp only [decodeEntries, List.exists_mem_cons_iff]
    obtain ⟨hbad, text, hentry⟩ | ⟨hgood, hentry⟩ := e.watch?_cases
    · rw [hentry]
      exact .inl ⟨.inl hbad, text, rfl⟩
    · rw [hentry]
      obtain ⟨hlater, text, hrest⟩ | ⟨hnone, hrest⟩ := ih
      · rw [hrest]
        exact .inl ⟨.inr hlater, text, rfl⟩
      · rw [hrest]
        exact .inr ⟨not_or.2 ⟨hgood, hnone⟩, rfl⟩

/-- A raw request is read just when it is valid. -/
theorem RawRequest.decode_cases (r : RawRequest) (s : System) :
    ((Invocation.raw r).Invalid s.config ∧ ∃ text, r.decode s = .error (.invalidArgument text)) ∨
    (¬(Invocation.raw r).Invalid s.config ∧
      r.decode s = .ok (⟨r.flags⟩, r.entries.map RawEntry.known?)) := by
  simp only [decode, Invocation.Invalid]
  obtain ⟨hbits, text, hflags⟩ | ⟨hbits, hflags⟩ := Flags.decode_cases r.flags
  · rw [hflags]
    exact .inl ⟨.inl hbits, text, rfl⟩
  rw [hflags]
  obtain ⟨hboth, text, htimeout⟩ | ⟨hboth, timeout, htimeout⟩ :=
    Timeout.ofFlags_cases ⟨r.flags⟩ r.timeout
  · simp only [htimeout]
    exact .inl ⟨.inr (.inl hboth), text, rfl⟩
  simp only [htimeout]
  obtain ⟨hcount, text, hrefusal⟩ | ⟨hcount, hrefusal⟩ := s.countRefusal?_cases r.entries.length
  · rw [hrefusal]
    exact .inl ⟨.inr (.inr (.inl hcount)), text, rfl⟩
  rw [hrefusal]
  obtain ⟨hbad, text, hentries⟩ | ⟨hgood, hentries⟩ := decodeEntries_cases r.entries
  · rw [hentries]
    exact .inl ⟨.inr (.inr (.inr hbad)), text, rfl⟩
  · rw [hentries]
    refine .inr ⟨?_, rfl⟩
    rintro (hword | htwice | hmiscount | hentry)
    · exact hbits hword
    · exact hboth htwice
    · exact hcount hmiscount
    · exact hgood hentry

/-- A request is refused by a multiplexer just when it is invalid. -/
theorem System.refusal?_cases (s : System) (r : Request) :
    ((Invocation.multiplexer r).Invalid s.config ∧
      ∃ text, s.refusal? r = some (.invalidArgument text)) ∨
    (¬(Invocation.multiplexer r).Invalid s.config ∧ s.refusal? r = none) := by
  simp only [refusal?, Invocation.Invalid, Flags.meets, bne_iff_ne]
  by_cases hkinds : r.flags ∩ .timeoutKinds ≠ ∅
  · rw [if_pos hkinds]
    exact .inl ⟨.inl hkinds, _, rfl⟩
  · rw [if_neg hkinds]
    obtain ⟨hcount, text, hrefusal⟩ | ⟨hcount, hrefusal⟩ := s.countRefusal?_cases r.watches.length
    · exact .inl ⟨.inr hcount, text, hrefusal⟩
    · exact .inr ⟨not_or.2 ⟨hkinds, hcount⟩, hrefusal⟩

/-- A call that does not begin has an invalid request, or there is no room for its tickets; and it has
written nothing. -/
theorem System.returned_of_begin {s : System} {r : Request} {reply : Reply}
    (h : (s.begin r).2 = .returned reply) :
    reply.watches = r.watches ∧
      (((Invocation.multiplexer r).Invalid s.config ∧
          ∃ text, reply.answer = .error (.invalidArgument text)) ∨
        (¬(Invocation.multiplexer r).Invalid s.config ∧
          ∃ text, reply.answer = .error (.resourceExhausted text))) := by
  obtain ⟨hinvalid, text, hrefusal⟩ | ⟨hvalid, hrefusal⟩ := s.refusal?_cases r <;>
    simp only [begin, hrefusal] at h
  · obtain rfl := Progress.returned.inj h
    exact ⟨rfl, .inl ⟨hinvalid, text, rfl⟩⟩
  · simp only [Session.new, Notifier.new?] at h
    by_cases hroom : r.watches.length < Limits.ticketSlots
    · rw [if_pos hroom] at h
      cases h
    · rw [if_neg hroom] at h
      obtain rfl := Progress.returned.inj h
      exact ⟨rfl, .inr ⟨hvalid, _, rfl⟩⟩

/-! ## No later check rejects -/

/-- The arguments are not blamed, now or when the call leaves. -/
def Progress.Blameless : Progress → Prop
  | running c => ∀ text, c.stage ≠ .leaving (.error (.invalidArgument text))
  | returned reply => ∀ text, reply.answer ≠ .error (.invalidArgument text)

/-- A ticket is refused for want of room only. -/
theorem Session.exhausted_of_enroll {k : Kernel} {s : Session} {index : Nat} {target : Target}
    {interest : Events} {cause : WaitError} (h : s.enroll k index target interest = .error cause) :
    ∃ text, cause = .resourceExhausted text := by
  rw [enroll] at h
  split at h
  · obtain rfl := Except.error.inj h
    exact ⟨_, rfl⟩
  · split at h <;> cases h

namespace Call

/-- A call that comes to leave from the queues does so for want of room. -/
theorem exhausted_of_enrollNext {s : System} {c c' : Call} {answer : Except WaitError Outcome}
    (h : (c.enrollNext s).2 = .running c') (hleaving : c'.stage = .leaving answer) :
    ∃ text, answer = .error (.resourceExhausted text) := by
  obtain ⟨thread, interruptible, singleShot, poll, session, passed, ahead, immediate, stage⟩ := c
  cases ahead with
  | nil =>
    obtain rfl := Progress.running.inj h
    cases hleaving
  | cons slot rest =>
    rcases htarget : slot.target with _ | target <;> simp only [enrollNext, htarget] at h
    · obtain rfl := Progress.running.inj h
      cases hleaving
    · rcases henroll : session.enroll s.kernel passed.length target slot.watch.reportable with
        cause | ⟨kernel, joined, enrollment⟩ <;> rw [henroll] at h
      · obtain rfl := Progress.running.inj h
        obtain rfl := Stage.leaving.inj hleaving
        obtain ⟨text, rfl⟩ := Session.exhausted_of_enroll henroll
        exact ⟨text, rfl⟩
      · simp only at h
        split at h <;> obtain rfl := Progress.running.inj h <;> cases hleaving

/-- **No step of a call blames the arguments.** -/
theorem blameless_step {c : Call} (h : (Progress.running c).Blameless) (s : System) :
    (c.step s).2.Blameless := by
  have hsteps := c.steps_step s
  generalize (c.step s).1.kernel = k' at hsteps
  rcases hp : (c.step s).2 with c' | reply
  · intro text hleaving
    rw [hp] at hsteps
    by_cases henrolling : c.stage = .enrolling
    · rw [step, henrolling] at hp
      obtain ⟨other, hother⟩ := exhausted_of_enrollNext hp hleaving
      cases hother
    · cases hsteps with
      | full hstage => exact henrolling hstage
      | drained =>
        have hanswer : c.outcome s.kernel = .error (.invalidArgument text) :=
          Stage.leaving.inj hleaving
        rw [outcome] at hanswer
        split at hanswer
        · cases hanswer
        · split at hanswer <;> cases hanswer
      | found hstage | missing hstage | skipped hstage | stopped hstage | polled hstage =>
        cases hstage.symm.trans hleaving
      | _ => cases hleaving
  · intro text hanswer
    rw [hp] at hsteps
    obtain ⟨-, -, -, rfl⟩ | ⟨answer, hstage, rfl⟩ := hsteps.returned_cases
    · cases hanswer
    · exact h text (hstage.trans (congrArg Stage.leaving hanswer))

end Call

/-- What a raw caller is told blames the arguments just when the answer does. -/
theorem returnCode_eq_iff {answer : Except WaitError Outcome} :
    returnCode answer = -22 ↔ ∃ text, answer = .error (.invalidArgument text) := by
  constructor
  · intro h
    rcases answer with cause | outcome
    · cases cause with
      | invalidArgument text => exact ⟨text, rfl⟩
      | interrupted | noValidTargets | resourceExhausted => simp [returnCode, WaitError.errno] at h
    · have hcount : (outcome.readyCount : Int) = -22 := h
      omega
  · rintro ⟨text, rfl⟩
    rfl

namespace Wait

/-- The arguments are not blamed, now or when the call leaves. -/
def Blameless : Wait → Prop
  | typed progress => progress.Blameless
  | raw (.running c) => (Progress.running c.call).Blameless
  | raw (.returned reply) => reply.code ≠ -22

theorem blameless_of {entries : List RawEntry} {decoded : List (Option Watch)} {progress : Progress}
    (h : progress.Blameless) : (raw (.of entries decoded progress)).Blameless := by
  rcases progress with c | reply
  · exact h
  · intro hcode
    obtain ⟨text, hanswer⟩ := returnCode_eq_iff.1 hcode
    exact h text hanswer

theorem Blameless.step {w : Wait} (h : w.Blameless) (s : System) : (w.step s).2.Blameless := by
  rcases w with (c | reply) | (c | reply)
  · exact Call.blameless_step h s
  · exact h
  · exact blameless_of (Call.blameless_step h s)
  · exact h

theorem Blameless.play {p : System × Wait} (h : p.2.Blameless) (schedule : List (Turn Operation)) :
    (play p schedule).2.Blameless := by
  induction schedule generalizing p with
  | nil => exact h
  | cons t schedule ih =>
    refine ih ?_
    cases t with
    | other op => exact h
    | own => exact h.step p.1

theorem Blameless.not_rejects {w : Wait} (h : w.Blameless) {response : Response}
    (hover : w.response? = some response) : ¬response.Rejects := by
  rcases w with (c | reply) | (c | reply)
  · cases hover
  · obtain rfl := Option.some.inj hover
    rintro ⟨text, hanswer⟩
    exact h text hanswer
  · cases hover
  · obtain rfl := Option.some.inj hover
    exact h

end Wait

/-- A valid request begins without blame. It may still be turned down for want of room. -/
theorem System.blameless_begin {s : System} {r : Request}
    (hvalid : ¬(Invocation.multiplexer r).Invalid s.config) : (s.begin r).2.Blameless := by
  obtain ⟨hinvalid, -⟩ | ⟨-, hrefusal⟩ := s.refusal?_cases r
  · exact absurd hinvalid hvalid
  · simp only [System.begin, hrefusal, Session.new, Notifier.new?]
    by_cases hroom : r.watches.length < Limits.ticketSlots
    · rw [if_pos hroom]
      exact fun _ => Stage.noConfusion
    · rw [if_neg hroom]
      rintro text ⟨⟩

/-! ## The three forms -/

/-- The watches that the entries of known kind stand for. -/
def RawRequest.known (r : RawRequest) : List Watch := r.entries.filterMap RawEntry.known?

/-- The system in which the entries of unknown kind are counted. -/
def RawRequest.counted (s : System) (r : RawRequest) : System :=
  { s with stats := s.stats.recordMany .invalidEntries (r.entries.length - r.known.length) }

/-- A typed call is rejected for its arguments, or made by a request that is valid for the
multiplexer. -/
theorem System.enter_cases (s : System) (thread : ThreadId) (watches : List Watch) (flags : Flags)
    (value : Int64) :
    ((Invocation.typed thread watches flags value).Invalid s.config ∧
      ∃ text, s.enter thread watches flags value =
        (s, .returned ⟨.error (.invalidArgument text), watches⟩)) ∨
    (¬(Invocation.typed thread watches flags value).Invalid s.config ∧
      ∃ r : Request, s.enter thread watches flags value = s.begin r ∧ r.watches = watches ∧
        ¬(Invocation.multiplexer r).Invalid s.config) := by
  simp only [System.enter, Request.ofFlags]
  obtain ⟨hboth, text, htimeout⟩ | ⟨hboth, timeout, htimeout⟩ := Timeout.ofFlags_cases flags value
  · rw [htimeout]
    exact .inl ⟨.inl hboth, text, rfl⟩
  rw [htimeout]
  obtain ⟨hinvalid, text, hrefusal⟩ | ⟨hvalid, hrefusal⟩ :=
    s.refusal?_cases { thread, watches, flags := flags \ .timeoutKinds, timeout }
  · refine .inl ⟨?_, text, ?_⟩
    · rcases hinvalid with hkinds | hcount
      · exact absurd (Flags.sdiff_inter_self flags _) hkinds
      · exact .inr hcount
    · simp only [System.begin, hrefusal]
  · exact .inr ⟨not_or.2 ⟨hboth, fun hcount => hvalid (.inr hcount)⟩, _, rfl, rfl, hvalid⟩

/-- A raw call is rejected for its arguments, or ends at once for want of an entry of known kind, or is
a typed call over those entries, which is not rejected any more. -/
theorem System.enterRaw_cases (s : System) (r : RawRequest) :
    ((Invocation.raw r).Invalid s.config ∧ s.enterRaw r = (s, .returned ⟨-22, r.entries⟩)) ∨
    (¬(Invocation.raw r).Invalid s.config ∧ r.known = [] ∧
      s.enterRaw r = (((r.counted s).record .calls).record .noValidTargets,
        .returned ⟨-9, r.entries.map RawEntry.markInvalid⟩)) ∨
    (¬(Invocation.raw r).Invalid s.config ∧ r.known ≠ [] ∧
      ¬(Invocation.typed r.thread r.known ⟨r.flags⟩ r.timeout).Invalid s.config ∧
      s.enterRaw r = (((r.counted s).enter r.thread r.known ⟨r.flags⟩ r.timeout).1,
        .of r.entries (r.entries.map RawEntry.known?)
          ((r.counted s).enter r.thread r.known ⟨r.flags⟩ r.timeout).2)) := by
  simp only [System.enterRaw]
  obtain ⟨hinvalid, text, hdecode⟩ | ⟨hvalid, hdecode⟩ := r.decode_cases s
  · rw [hdecode]
    exact .inl ⟨hinvalid, rfl⟩
  · have hknown : (r.entries.map RawEntry.known?).filterMap id = r.known := by
      rw [List.filterMap_map]
      rfl
    simp only [hdecode, hknown, List.length_map]
    refine .inr ?_
    by_cases hnone : r.known = []
    · rw [if_pos (List.isEmpty_iff.2 hnone)]
      exact .inl ⟨hvalid, hnone, rfl⟩
    · rw [if_neg fun hempty => hnone (List.isEmpty_iff.1 hempty)]
      refine .inr ⟨hvalid, hnone, ?_, rfl⟩
      -- there is a known entry, and there are no more of them than entries
      simp only [Invocation.Invalid, not_or] at hvalid ⊢
      refine ⟨hvalid.2.1, fun hcount => hvalid.2.2.1 ?_⟩
      rcases hcount with hzero | hmany
      · exact absurd (List.length_eq_zero_iff.1 hzero) hnone
      · exact .inr (Nat.lt_of_lt_of_le hmany (List.length_filterMap_le _ _))

/-- A wait with invalid arguments is over at once and has done nothing; one with valid arguments goes on
without blame. -/
theorem Invocation.begin_cases (v : Invocation) (s : System) :
    (v.Invalid s.config ∧ ∃ text, v.begin s = (s, v.refuse (.invalidArgument text))) ∨
    (¬v.Invalid s.config ∧ (v.begin s).2.Blameless) := by
  cases v with
  | multiplexer r =>
    obtain ⟨hinvalid, text, hrefusal⟩ | ⟨hvalid, -⟩ := s.refusal?_cases r
    · refine .inl ⟨hinvalid, text, ?_⟩
      simp only [Invocation.begin, System.begin, hrefusal]
      rfl
    · exact .inr ⟨hvalid, System.blameless_begin hvalid⟩
  | typed thread watches flags value =>
    simp only [Invocation.begin]
    obtain ⟨hinvalid, text, henter⟩ | ⟨hvalid, r, henter, -, hrequest⟩ :=
      s.enter_cases thread watches flags value
    · rw [henter]
      exact .inl ⟨hinvalid, text, rfl⟩
    · rw [henter]
      exact .inr ⟨hvalid, System.blameless_begin hrequest⟩
  | raw r =>
    simp only [Invocation.begin]
    obtain ⟨hinvalid, henter⟩ | ⟨hvalid, -, henter⟩ | ⟨hvalid, -, htyped, henter⟩ :=
      s.enterRaw_cases r
    · rw [henter]
      exact .inl ⟨hinvalid, "", rfl⟩
    · rw [henter]
      exact .inr ⟨hvalid, show (-9 : Int) ≠ -22 by decide⟩
    · rw [henter]
      refine .inr ⟨hvalid, Wait.blameless_of ?_⟩
      obtain ⟨hinvalid, -⟩ | ⟨-, request, hbegin, -, hrequest⟩ :=
        (r.counted s).enter_cases r.thread r.known ⟨r.flags⟩ r.timeout
      · exact absurd hinvalid htyped
      · rw [hbegin]
        exact System.blameless_begin hrequest

theorem Invocation.rejects_refuse (v : Invocation) {text : String} {response : Response}
    (h : (v.refuse (.invalidArgument text)).response? = some response) : response.Rejects := by
  cases v with
  | multiplexer r =>
    obtain rfl := Option.some.inj h
    exact ⟨text, rfl⟩
  | typed thread watches flags value =>
    obtain rfl := Option.some.inj h
    exact ⟨text, rfl⟩
  | raw r =>
    obtain rfl := Option.some.inj h
    rfl

/-- **A wait is rejected just when its arguments are invalid**, in whichever form it is made and whatever
other threads do; and then the system is as it was, and the caller gets back what it gave. -/
theorem Invocation.rejected_exactly (v : Invocation) (s : System) :
    (∀ schedule response, (Wait.play (v.begin s) schedule).2.response? = some response →
      (response.Rejects ↔ v.Invalid s.config)) ∧
    (v.Invalid s.config → ∃ text, v.begin s = (s, v.refuse (.invalidArgument text))) := by
  obtain ⟨hinvalid, text, hbegin⟩ | ⟨hvalid, hblameless⟩ := v.begin_cases s
  · refine ⟨fun schedule response hover => ⟨fun _ => hinvalid, fun _ => ?_⟩, fun _ => ⟨text, hbegin⟩⟩
    have hcall : (v.refuse (.invalidArgument text)).call? = none := by cases v <;> rfl
    rw [hbegin, Wait.play_of_over hcall] at hover
    exact v.rejects_refuse hover
  · refine ⟨fun schedule response hover => ?_, fun hinvalid => absurd hinvalid hvalid⟩
    have hnot := (hblameless.play schedule).not_rejects hover
    exact ⟨fun h => absurd h hnot, fun h => absurd h hvalid⟩

/-- An entry of unknown kind that asks for an event without a name: the call is rejected. Without the
event it is made, and polls the semaphore that the other entry names. -/
theorem Invocation.rejected_exactly_unnamed_event :
    let s : System :=
      { kernel := Operation.effect { clock := { now := 0, horizon := 1000 } } (.create (.semaphore 0))
        config := .standard
        stats := { calls := 3 } }
    let v (word : UInt16) : Invocation :=
      .raw { thread := 7, entries := [⟨1, 1, 1⟩, ⟨9, 77, word⟩], flags := 0x0009, timeout := 0 }
    (∃ text, (v 0x0101).begin s = (s, (v 0x0101).refuse (.invalidArgument text))) ∧
    (Wait.play ((v 0x0001).begin s) (List.replicate 12 .own)).2.response? =
      some (.raw ⟨0, [⟨1, 1, 0⟩, ⟨9, 77, 0x1000⟩]⟩) ∧
    ¬(v 0x0001).Invalid s.config := by
  intro s v
  have hover : (Wait.play ((v 0x0001).begin s) (List.replicate 12 .own)).2.response? =
      some (.raw ⟨0, [⟨1, 1, 0⟩, ⟨9, 77, 0x1000⟩]⟩) := by cbv
  refine ⟨((v 0x0101).rejected_exactly s).2 (by decide), hover, fun hinvalid => ?_⟩
  have hrejects := (((v 0x0001).rejected_exactly s).1 _ _ hover).2 hinvalid
  exact absurd hrejects (show ¬((0 : Int) = -22) by decide)

end KernelWait
