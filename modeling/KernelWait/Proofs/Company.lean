import KernelWait.Proofs.Outcome
import KernelWait.Proofs.Promptness
import KernelWait.Proofs.Reflection
import KernelWait.Proofs.Rejection

/-!
# Waits in company

Any number of waits are made in one kernel, each under a name of its own, and each makes its steps among
those of all others and among the operations of other threads. A script says what happens, in order
(`Company.play`).

**A wait that begins is a call for a request**, made by the same thread, and signals may abort it if its
caller said so (`Invocation.call_cases`).
-/

namespace KernelWait

/-! ## What happens -/

/-- One thing that happens in a company. -/
inductive Move where
  /-- a thread carries out an operation -/
  | operate (op : Operation)
  /-- a wait is made, under a name -/
  | start (name : Nat) (v : Invocation)
  /-- the wait of a name makes a step -/
  | step (name : Nat)

namespace Move

/-- The move is one of a wait, or one of a thread that does not wait. -/
def concerns (name : Nat) : Move → Bool
  | operate _ => true
  | start other _ => other == name
  | step other => other == name

/-- A thread names none but older sessions. -/
def Below (bound : SessionId) : Move → Prop
  | operate op => op.Below bound
  | _ => True

/-- A thread names none but older sessions, and takes no ticket out of a queue. -/
structure Foreign (bound : SessionId) (m : Move) : Prop where
  /-- sessions that it names are older -/
  below : m.Below bound
  /-- tickets stay where they are -/
  keeps : ∀ target token, m ≠ .operate (.disenroll target token)

end Move

/-- A system, and the waits that were made in it so far, by name. -/
structure Company where
  /-- the system -/
  system : System
  /-- the waits, in progress or over -/
  waits : List (Nat × Wait) := []

namespace Company

/-- The wait of a name. -/
def wait? (co : Company) (name : Nat) : Option Wait := co.waits.lookup name

/-- The call of a wait, while it is in progress. -/
def call? (co : Company) (name : Nat) : Option Call := (co.wait? name).bind Wait.call?

/-- What a wait has told its caller, once it is over. -/
def response? (co : Company) (name : Nat) : Option Response := (co.wait? name).bind Wait.response?

/-- The company when a wait has come so far. -/
def put (co : Company) (name : Nat) (p : System × Wait) : Company :=
  { system := p.1, waits := (name, p.2) :: co.waits.filter (·.1 != name) }

/-- The company after one move. A name is given once, and a wait that was not made makes no steps. -/
def turn (co : Company) : Move → Company
  | .operate op =>
    { co with system := { co.system with kernel := op.effect co.system.kernel } }
  | .start name v =>
    match co.wait? name with
    | none => co.put name (v.begin co.system)
    | some _ => co
  | .step name =>
    match co.wait? name with
    | some w => co.put name (w.step co.system)
    | none => co

/-- The company after the moves of a script. -/
def play (co : Company) (script : List Move) : Company := script.foldl turn co

/-- The threads whose signals may abort a wait in progress, one for each such wait. -/
def abortable (co : Company) : List ThreadId :=
  co.waits.filterMap fun p =>
    p.2.call?.bind fun c => if c.interruptible then some c.thread else none

/-- The waits in progress that signals may abort are made by different threads. -/
def distinct (co : Company) (_ : Move) : Bool := decide co.abortable.Nodup

/-- Whether something holds at each move of a script, of the company before it. -/
def throughout (holds : Company → Move → Bool) : Company → List Move → Bool
  | _, [] => true
  | co, m :: script => holds co m && throughout holds (co.turn m) script

/-! ## Reading after a move -/

variable {co : Company} {name other : Nat}

theorem wait?_put_self (co : Company) (name : Nat) (p : System × Wait) :
    (co.put name p).wait? name = some p.2 := by
  simp [wait?, put]

theorem wait?_put_ne (h : other ≠ name) (co : Company) (p : System × Wait) :
    (co.put name p).wait? other = co.wait? other := by
  have hne : (other == name) = false := beq_false_of_ne h
  simp only [wait?, put, List.lookup_cons, hne]
  induction co.waits with
  | nil => rfl
  | cons q waits ih =>
    obtain ⟨first, w⟩ := q
    by_cases hfirst : first = name
    · subst hfirst
      rw [List.filter_cons_of_neg (by simp), List.lookup_cons, hne]
      exact ih
    · rw [List.filter_cons_of_pos (by simpa using hfirst), List.lookup_cons, List.lookup_cons, ih]

theorem turn_start_of_none (h : co.wait? name = none) (v : Invocation) :
    co.turn (.start name v) = co.put name (v.begin co.system) := by
  simp only [turn, h]

theorem turn_start_of_some {w : Wait} (h : co.wait? name = some w) (v : Invocation) :
    co.turn (.start name v) = co := by
  simp only [turn, h]

theorem turn_step_of_none (h : co.wait? name = none) : co.turn (.step name) = co := by
  simp only [turn, h]

theorem turn_step_of_some {w : Wait} (h : co.wait? name = some w) :
    co.turn (.step name) = co.put name (w.step co.system) := by
  simp only [turn, h]

theorem play_append (co : Company) (earlier later : List Move) :
    co.play (earlier ++ later) = (co.play earlier).play later := List.foldl_append

theorem play_concat (co : Company) (script : List Move) (m : Move) :
    co.play (script ++ [m]) = (co.play script).turn m := co.play_append script [m]

/-- What holds throughout a script holds at each of its moves. -/
theorem holds_of_throughout {holds : Company → Move → Bool} {co : Company} {earlier later : List Move}
    {m : Move} (h : throughout holds co (earlier ++ m :: later) = true) :
    holds (co.play earlier) m = true := by
  induction earlier generalizing co with
  | nil =>
    rw [List.nil_append, throughout, Bool.and_eq_true] at h
    exact h.1
  | cons first earlier ih =>
    rw [List.cons_append, throughout, Bool.and_eq_true] at h
    exact ih h.2

/-- A move that is none of a wait's leaves the wait as it is. -/
theorem wait?_turn_of_not {m : Move} (h : m.concerns name = false) (co : Company) :
    (co.turn m).wait? name = co.wait? name := by
  cases m with
  | operate op => cases h
  | start other v =>
    rcases hwait : co.wait? other with _ | w
    · rw [turn_start_of_none hwait, wait?_put_ne (Ne.symm (ne_of_beq_false h))]
    · rw [turn_start_of_some hwait]
  | step other =>
    rcases hwait : co.wait? other with _ | w
    · rw [turn_step_of_none hwait]
    · rw [turn_step_of_some hwait, wait?_put_ne (Ne.symm (ne_of_beq_false h))]

theorem mem_waits_of_wait? {w : Wait} (h : co.wait? name = some w) : (name, w) ∈ co.waits := by
  obtain ⟨l₁, l₂, hsplit, -⟩ := List.lookup_eq_some_iff.1 h
  rw [hsplit]
  exact List.mem_append_right l₁ List.mem_cons_self

theorem mem_waits_of_call? {c : Call} (h : co.call? name = some c) :
    ∃ w, (name, w) ∈ co.waits ∧ w.call? = some c := by
  obtain ⟨w, hw, hc⟩ := Option.bind_eq_some_iff.1 h
  exact ⟨w, mem_waits_of_wait? hw, hc⟩

/-- Two waits that signals may abort are made by different threads. -/
theorem thread_ne_of_distinct {m : Move} (h : co.distinct m = true) (hne : name ≠ other) {c c' : Call}
    (hc : co.call? name = some c) (hc' : co.call? other = some c') (hsignals : c.interruptible = true)
    (hsignals' : c'.interruptible = true) : c.thread ≠ c'.thread := by
  obtain ⟨w, hmem, hw⟩ := mem_waits_of_call? hc
  obtain ⟨w', hmem', hw'⟩ := mem_waits_of_call? hc'
  have hpairs := List.pairwise_filterMap.1 (of_decide_eq_true h)
  have hsymm : Std.Symm fun p q : Nat × Wait =>
      ∀ t, (p.2.call?.bind fun c => if c.interruptible then some c.thread else none) = some t →
      ∀ t', (q.2.call?.bind fun c => if c.interruptible then some c.thread else none) = some t' →
        t ≠ t' := ⟨fun p q hpq t ht t' ht' => (hpq t' ht' t ht).symm⟩
  refine hpairs.forall hmem hmem' (fun heq => hne (congrArg Prod.fst heq)) c.thread ?_ c'.thread ?_
  · simp only [hw, Option.bind_some, hsignals, if_true]
  · simp only [hw', Option.bind_some, hsignals', if_true]

end Company

/-! ## The beginning of a wait -/

namespace Invocation

/-- The thread that makes the wait. -/
def thread : Invocation → ThreadId
  | multiplexer r => r.thread
  | typed thread _ _ _ => thread
  | raw r => r.thread

/-- The wait is called with the flag that lets signals abort it. -/
def interruptible : Invocation → Bool
  | multiplexer r => r.signalled && r.flags.includes .interruptible
  | typed _ _ flags _ => flags.includes .interruptible
  | raw r => Flags.includes ⟨r.flags⟩ .interruptible

end Invocation

/-- The kind of timeout is no matter of whether signals may abort a call. -/
theorem Flags.includes_interruptible_sdiff (flags : Flags) :
    (flags \ .timeoutKinds).includes .interruptible = flags.includes .interruptible := by
  rw [includes, includes, sdiff_inter_of_disjoint (by decide)]

/-- A call that does not begin leaves the kernel alone, or has just read the clock. -/
theorem System.begin_cases (s : System) (r : Request) :
    ((s.begin r).2.call? = none ∧ s.kernel.Consults (s.begin r).1.kernel ∧
      (s.begin r).1.config = s.config) ∨
    ∃ c, s.begin r = ((s.begin r).1, .running c) ∧ (s.begin r).2.call? = some c := by
  rcases hp : (s.begin r).2 with c | reply
  · exact .inr ⟨c, Prod.ext rfl hp, rfl⟩
  · refine .inl ⟨rfl, ?_⟩
    rw [System.begin] at hp ⊢
    rcases hrefusal : s.refusal? r with _ | cause
    · rw [hrefusal] at hp
      simp only [Session.new] at hp ⊢
      rcases hnew : Notifier.new? r.watches.length with cause | n <;> rw [hnew] at hp
      · exact ⟨s.kernel.consults_arm r.timeout, rfl⟩
      · cases hp
    · exact ⟨.kept, rfl⟩

/-- **A wait that begins is over at once and has at most read the clock, or it is a call for some
request.** -/
theorem Invocation.call_cases (v : Invocation) (s : System) :
    ((v.begin s).2.call? = none ∧ s.kernel.Consults (v.begin s).1.kernel ∧
      (v.begin s).1.config = s.config) ∨
    ∃ (s₀ : System) (r : Request) (c : Call), s₀.kernel = s.kernel ∧ s₀.config = s.config ∧
      s₀.begin r = ((v.begin s).1, .running c) ∧ (v.begin s).2.call? = some c ∧
      r.thread = v.thread ∧ (r.signalled && r.flags.includes .interruptible) = v.interruptible := by
  have henter : ∀ (s₀ : System) (thread : ThreadId) (watches : List Watch) (flags : Flags)
      (value : Int64), s₀.kernel = s.kernel → s₀.config = s.config →
      ((s₀.enter thread watches flags value).2.call? = none ∧
        s.kernel.Consults (s₀.enter thread watches flags value).1.kernel ∧
        (s₀.enter thread watches flags value).1.config = s.config) ∨
      ∃ (r : Request) (c : Call), s₀.begin r = ((s₀.enter thread watches flags value).1, .running c) ∧
        (s₀.enter thread watches flags value).2.call? = some c ∧ r.thread = thread ∧
        (r.signalled && r.flags.includes .interruptible) = flags.includes .interruptible := by
    intro s₀ thread watches flags value hkernel hconfig
    simp only [System.enter, Request.ofFlags]
    rcases Timeout.ofFlags flags value with cause | timeout
    · exact .inl ⟨rfl, hkernel ▸ .kept, hconfig⟩
    · obtain ⟨hnone, hsame, hsame'⟩ | ⟨c, hbegin, hc⟩ := s₀.begin_cases
        { thread, watches, flags := flags \ .timeoutKinds, timeout }
      · exact .inl ⟨hnone, hkernel ▸ hsame, hsame'.trans hconfig⟩
      · exact .inr ⟨_, c, hbegin, hc, rfl, flags.includes_interruptible_sdiff⟩
  cases v with
  | multiplexer r =>
    obtain hnone | ⟨c, hbegin, hc⟩ := s.begin_cases r
    · exact .inl hnone
    · exact .inr ⟨s, r, c, rfl, rfl, hbegin, hc, rfl, rfl⟩
  | typed thread watches flags value =>
    obtain hnone | ⟨r, c, hc⟩ := henter s thread watches flags value rfl rfl
    · exact .inl hnone
    · exact .inr ⟨s, r, c, rfl, rfl, hc⟩
  | raw r =>
    simp only [Invocation.begin]
    obtain ⟨-, heq⟩ | ⟨-, -, heq⟩ | ⟨-, -, -, heq⟩ := s.enterRaw_cases r <;> rw [heq]
    · exact .inl ⟨rfl, .kept, rfl⟩
    · exact .inl ⟨rfl, .kept, rfl⟩
    · simp only [Wait.call?, RawProgress.call?_of]
      obtain hnone | ⟨request, c, hc⟩ :=
        henter (r.counted s) r.thread r.known ⟨r.flags⟩ r.timeout rfl rfl
      · exact .inl hnone
      · exact .inr ⟨r.counted s, request, c, rfl, rfl, hc⟩

/-- A step of a call does not change the configuration. -/
theorem Call.config_step (s : System) (c : Call) : (c.step s).1.config = s.config := by
  rw [step]
  split
  · simp only [resolve]
    split
    · split <;> rfl
    · split
      · rfl
      · split <;> rfl
  · rfl
  · rfl
  · simp only [pollNext, conclude]
    split
    · split
      · rfl
      · split <;> rfl
    · split
      · rfl
      · split
        · rfl
        · split
          · rfl
          · split <;> rfl
  · simp only [enrollNext]
    split
    · rfl
    · split
      · rfl
      · split
        · rfl
        · split <;> rfl
  · simp only [blockNext]
    split <;> rfl
  · rw [drain]
    simp only
    split_ifs <;> rfl
  · rfl

end KernelWait
