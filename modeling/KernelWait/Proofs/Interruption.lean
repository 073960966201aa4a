import KernelWait.Proofs.Heeding

/-!
# When a wait is interrupted

A wait is made among other waits, which other threads may make, and among operations of any kind. A
signal alarms it when it is pending as the wait looks for signals or later, and when it comes after the
wait has registered for them (`Company.alarms`).

**A wait that ends with nothing ready says that it was interrupted just when signals may abort it and one
has alarmed it** (`Company.interrupted_exactly`), even if that signal was taken, thrown away or blocked in
the meantime. A signal that was pending when the wait registered, and was taken before the wait has looked,
does not interrupt it (`Company.not_interrupted_by_taken`).
-/

namespace KernelWait

/-! ## Replies -/

namespace Response

/-- The caller is told that a signal has aborted the wait. -/
def Aborted : Response → Prop
  | typed reply => reply.answer = .error .interrupted
  | raw reply => reply.code = WaitError.interrupted.errno

/-- Nothing is reported to be ready. -/
def Quiet : Response → Prop
  | typed reply => ∀ w ∈ reply.watches, w.isReady = false
  | raw reply => reply.code ≤ 0

end Response

/-- What a raw caller is told says that a signal has aborted the call just when the answer does. -/
theorem interrupted_of_returnCode {answer : Except WaitError Outcome} :
    returnCode answer = WaitError.interrupted.errno ↔ answer = .error .interrupted := by
  constructor
  · intro h
    rcases answer with cause | outcome
    · cases cause with
      | interrupted => rfl
      | invalidArgument | noValidTargets | resourceExhausted => simp [returnCode, WaitError.errno] at h
    · have hcount : (outcome.readyCount : Int) = -4 := h
      omega
  · rintro rfl
    rfl

/-- The form of a wait makes no difference to whether it is said to be aborted or ready. -/
theorem Wait.says_of_returned {w : Wait} {c : Call} (hcall : w.call? = some c) {r : Request}
    {reply : Reply} (hsound : reply.Sound r) {response : Response}
    (h : (w.after (.returned reply)).response? = some response) :
    (response.Aborted ↔ reply.answer = .error .interrupted) ∧
      (response.Quiet → ∀ m, reply.answer ≠ .ok (.ready m)) := by
  rcases w with (_ | _) | (_ | _)
  · obtain rfl := Option.some.inj h
    refine ⟨Iff.rfl, fun hquiet m hready => ?_⟩
    obtain ⟨hpos, hcount⟩ := (hsound.ready_iff m).1 hready
    rw [List.countP_eq_zero.2 fun w hw => Bool.eq_false_iff.1 (hquiet w hw)] at hcount
    omega
  · cases hcall
  · obtain rfl := Option.some.inj h
    refine ⟨interrupted_of_returnCode, fun hquiet m hready => ?_⟩
    obtain ⟨hpos, -⟩ := (hsound.ready_iff m).1 hready
    have hcode : returnCode reply.answer ≤ 0 := hquiet
    rw [hready] at hcode
    have hcount : (m : Int) ≤ 0 := hcode
    omega
  · cases hcall

/-- A call that does not begin was not aborted. -/
theorem System.not_interrupted_begin {s : System} {r : Request} {reply : Reply}
    (h : (s.begin r).2 = .returned reply) : reply.answer ≠ .error .interrupted := by
  obtain ⟨-, ⟨-, text, hanswer⟩ | ⟨-, text, hanswer⟩⟩ := System.returned_of_begin h <;>
    rw [hanswer] <;> rintro ⟨⟩

/-- **A wait that is over at once was not aborted.** -/
theorem Invocation.not_aborted_begin (v : Invocation) (s : System) {response : Response}
    (h : (v.begin s).2.response? = some response) : ¬response.Aborted := by
  have henter : ∀ (s : System) (thread : ThreadId) (watches : List Watch) (flags : Flags)
      (value : Int64) (reply : Reply), (s.enter thread watches flags value).2 = .returned reply →
      reply.answer ≠ .error .interrupted := by
    intro s thread watches flags value reply h
    obtain ⟨-, text, heq⟩ | ⟨-, r, heq, -⟩ := s.enter_cases thread watches flags value <;>
      rw [heq] at h
    · obtain rfl := Progress.returned.inj h
      rintro ⟨⟩
    · exact System.not_interrupted_begin h
  cases v with
  | multiplexer r =>
    simp only [Invocation.begin] at h
    rcases hp : (s.begin r).2 with c | reply <;> rw [hp] at h
    · cases h
    · obtain rfl := Option.some.inj h
      exact System.not_interrupted_begin hp
  | typed thread watches flags value =>
    simp only [Invocation.begin] at h
    rcases hp : (s.enter thread watches flags value).2 with c | reply <;> rw [hp] at h
    · cases h
    · obtain rfl := Option.some.inj h
      exact henter s thread watches flags value reply hp
  | raw r =>
    simp only [Invocation.begin] at h
    obtain ⟨-, heq⟩ | ⟨-, -, heq⟩ | ⟨-, -, -, heq⟩ := s.enterRaw_cases r <;> rw [heq] at h
    · obtain rfl := Option.some.inj h
      exact show (-22 : Int) ≠ -4 by decide
    · obtain rfl := Option.some.inj h
      exact show (-9 : Int) ≠ -4 by decide
    · rcases hp : ((r.counted s).enter r.thread r.known ⟨r.flags⟩ r.timeout).2 with c | reply <;>
        rw [hp] at h
      · cases h
      · obtain rfl := Option.some.inj h
        exact fun haborted => henter _ _ _ _ _ reply hp (interrupted_of_returnCode.1 haborted)

/-- The thread stays with its wait: nobody else decides which session its signals abort. -/
def Move.retains (thread : ThreadId) : Move → Bool
  | operate op => op.retains thread
  | _ => true

namespace Company

/-! ## Alarms -/

/-- No wait in progress but this one is made by the thread and may be aborted by signals. -/
def alone (co : Company) (name : Nat) (thread : ThreadId) : Bool :=
  co.waits.all fun p => p.1 == name || !(p.2.call?.any fun c => c.interruptible && c.thread == thread)

/-- While the wait is in progress, its thread makes no other wait that signals may abort, and is neither
forgotten nor unregistered nor registered for another session. -/
def sole (name : Nat) (co : Company) (m : Move) : Bool :=
  (co.call? name).all fun c => co.alone name c.thread && m.retains c.thread

/-- A signal alarms the wait at a move: one is pending after the wait has looked for signals, or it looks
and one is pending, or one comes after it has registered. -/
def alarms (name : Nat) (co : Company) (m : Move) : Bool :=
  (co.call? name).any fun c =>
    match m with
    | .operate op => c.alarmed co.system.kernel (.other op)
    | .start _ _ => c.hears co.system.kernel
    | .step other =>
      if other = name then c.alarmed co.system.kernel .own else c.hears co.system.kernel

/-- Whether something holds at some move of a script, of the company before it. -/
def sometime (holds : Company → Move → Bool) : Company → List Move → Bool
  | _, [] => false
  | co, m :: script => holds co m || sometime holds (co.turn m) script

variable {base : SessionId} {handed : List (Target × Token)} {co : Company} {name : Nat}
  {v : Invocation} {noted : Bool}

theorem thread_ne_of_alone {thread : ThreadId} (h : co.alone name thread = true) {other : Nat}
    (hne : name ≠ other) {d : Call} (hd : co.call? other = some d) (hsignals : d.interruptible = true) :
    thread ≠ d.thread := by
  obtain ⟨w, hmem, hw⟩ := mem_waits_of_call? hd
  rintro rfl
  have hother := List.all_eq_true.1 h (other, w) hmem
  simp only [hw, Option.any_some, hsignals, beq_self_eq_true, Bool.and_self, Bool.not_true,
    Bool.or_false, beq_iff_eq] at hother
  exact hne hother.symm

/-! ## A wait among others -/

/-- A wait was made under a name, and is informed of what has alarmed it so far; once it is over it has
told its caller, unless something was ready. -/
structure Heeded (name : Nat) (v : Invocation) (noted : Bool) (co : Company) : Prop where
  /-- the wait was made -/
  made : ∃ w, co.wait? name = some w
  /-- in progress it is informed -/
  informed : ∀ c, co.call? name = some c →
    c.interruptible = v.interruptible ∧ c.Informed co.system.kernel noted
  /-- its caller is told -/
  told : ∀ response, co.response? name = some response → response.Quiet →
    (response.Aborted ↔ v.interruptible = true ∧ noted = true)

/-- A wait that has told its caller is in progress no more. -/
theorem call?_of_response? {response : Response} (h : co.response? name = some response) :
    co.call? name = none := by
  obtain ⟨w, hw, hresponse⟩ := Option.bind_eq_some_iff.1 h
  rw [call?, hw, Option.bind_some]
  rcases hcall : w.call? with _ | c
  · rfl
  · rw [Wait.response?_of_call hcall] at hresponse
    cases hresponse

/-- Nothing alarms a wait that is over. -/
theorem alarms_of_over (h : co.call? name = none) (m : Move) : alarms name co m = false := by
  rw [alarms, h, Option.any_none]

theorem Heeded.start (hreached : co.system.kernel.Reached handed) (hnew : co.wait? name = none) :
    Heeded name v false (co.turn (.start name v)) := by
  rw [turn_start_of_none hnew]
  refine ⟨⟨_, wait?_put_self _ _ _⟩, fun c hc => ?_, fun response hresponse _ => ?_⟩
  · rw [call?_put_self] at hc
    obtain ⟨hnone, -⟩ | ⟨s₀, r, c', hkernel, -, hbegin, hcall, -, hsignals⟩ := v.call_cases co.system
    · cases hnone.symm.trans hc
    · obtain rfl := Option.some.inj (hcall.symm.trans hc)
      rw [← hkernel] at hreached
      obtain ⟨hinterruptible, hinformed⟩ := Call.Informed.begin hreached hbegin
      exact ⟨hinterruptible.trans hsignals, hinformed⟩
  · rw [response?, wait?_put_self, Option.bind_some] at hresponse
    exact iff_of_false (v.not_aborted_begin co.system hresponse) fun hnoted =>
      Bool.false_ne_true hnoted.2

/-- What a wait has told stays right. -/
theorem Heeded.told_before (h : Heeded name v noted co) (m : Move) {response : Response}
    (hresponse : co.response? name = some response) (hquiet : response.Quiet) :
    response.Aborted ↔ v.interruptible = true ∧ (noted || alarms name co m) = true := by
  rw [alarms_of_over (call?_of_response? hresponse), Bool.or_false]
  exact h.told response hresponse hquiet

/-- What another wait does informs a wait of what is pending. -/
theorem Heeded.turn_other (h : Heeded name v noted co) (hsound : co.Sound base handed)
    (hroom : handed.length < UInt64.size) {m : Move} (hm : m.concerns name = false)
    (hsole : sole name co m = true) :
    Heeded name v (noted || alarms name co m) (co.turn m) := by
  have hwait := wait?_turn_of_not hm co
  refine ⟨by rw [hwait]; exact h.made, fun c hc => ?_, fun response hresponse => ?_⟩
  · rw [call?, hwait, ← call?] at hc
    obtain ⟨hinterruptible, hinformed⟩ := h.informed c hc
    rw [sole, hc, Option.all_some, Bool.and_eq_true] at hsole
    have hreflects := hsound.reflects_turn_of hroom hm hc fun other d hne hd _ =>
      thread_ne_of_alone hsole.1 hne hd
    have halarms : alarms name co m = c.hears co.system.kernel := by
      rw [alarms, hc, Option.any_some]
      cases m with
      | operate op => cases hm
      | start other u => rfl
      | step other => exact if_neg (ne_of_beq_false hm)
    rw [halarms]
    exact ⟨hinterruptible, hinformed.spared hreflects.notifier.symm
      ((co.sameWorld_turn hm).1.hasPending_eq c.thread).symm (hreflects.active c.thread).symm⟩
  · rw [response?, hwait, ← response?] at hresponse
    exact h.told_before m hresponse

/-- What another thread does informs a wait of what comes. -/
theorem Heeded.turn_operate (h : Heeded name v noted co) (hsound : co.Sound base handed) {op : Operation}
    (hsole : sole name co (.operate op) = true) :
    Heeded name v (noted || alarms name co (.operate op)) (co.turn (.operate op)) := by
  refine ⟨h.made, fun c (hc : co.call? name = some c) => ?_,
    fun response (hresponse : co.response? name = some response) => h.told_before _ hresponse⟩
  obtain ⟨hinterruptible, hinformed⟩ := h.informed c hc
  rw [sole, hc, Option.all_some, Bool.and_eq_true] at hsole
  rw [alarms, hc, Option.any_some]
  exact ⟨hinterruptible, hinformed.effect hsole.2 fun thread hactive =>
    ((hsound.rooted name c hc).active thread hactive).1⟩

/-- A wait that is made once is not made again. -/
theorem Heeded.turn_start (h : Heeded name v noted co) (u : Invocation) :
    Heeded name v (noted || alarms name co (.start name u)) (co.turn (.start name u)) := by
  obtain ⟨w, hw⟩ := h.made
  rw [turn_start_of_some hw]
  refine ⟨h.made, fun c hc => ?_, fun response hresponse => h.told_before _ hresponse⟩
  obtain ⟨hinterruptible, hinformed⟩ := h.informed c hc
  rw [alarms, hc, Option.any_some]
  exact ⟨hinterruptible, hinformed.spared rfl rfl Iff.rfl⟩

/-- A wait finds out itself what is pending, and tells its caller in the end. -/
theorem Heeded.turn_step (h : Heeded name v noted co) (hsound : co.Sound base handed) :
    Heeded name v (noted || alarms name co (.step name)) (co.turn (.step name)) := by
  obtain ⟨w, hw⟩ := h.made
  rw [turn_step_of_some hw]
  rcases hcall : w.call? with _ | c
  · -- a wait that is over stays so
    rw [Wait.step_of_over hcall]
    refine ⟨⟨w, wait?_put_self _ _ _⟩, fun c hc => ?_, fun response hresponse => h.told_before _ ?_⟩
    · rw [call?_put_self, hcall] at hc
      cases hc
    · rw [response?, wait?_put_self, Option.bind_some] at hresponse
      rw [response?, hw, Option.bind_some, hresponse]
  have hc : co.call? name = some c := by rw [call?, hw, Option.bind_some, hcall]
  obtain ⟨hinterruptible, hinformed⟩ := h.informed c hc
  have hrooted := hsound.rooted name c hc
  obtain ⟨r, horderly⟩ := hrooted.orderly
  have halarms : alarms name co (.step name) = c.alarmed co.system.kernel .own := by
    rw [alarms, hc, Option.any_some]
    exact if_pos rfl
  have hsteps := Call.steps_step co.system c
  rw [Wait.step_of_call hcall, halarms]
  refine ⟨⟨_, wait?_put_self _ _ _⟩, fun c' hc' => ?_, fun response hresponse hquiet => ?_⟩
  · rw [call?_put_self, Wait.call?_after hcall] at hc'
    rcases hp : (c.step co.system).2 with c'' | reply <;> rw [hp] at hc'
    · obtain rfl := Option.some.inj hc'
      rw [hp] at hsteps
      exact ⟨hsteps.thread_eq.2.trans hinterruptible,
        hinformed.steps horderly hsteps hrooted.registers⟩
    · cases hc'
  · rw [response?, wait?_put_self, Option.bind_some] at hresponse
    rcases hp : (c.step co.system).2 with c'' | reply <;> simp only [hp] at hresponse
    · rw [Wait.response?_of_call (Wait.call?_after hcall _)] at hresponse
      cases hresponse
    · rw [hp] at hsteps
      obtain ⟨-, -, -, hreply, -⟩ := horderly.returned hsteps
      obtain ⟨haborted, hnone⟩ := Wait.says_of_returned hcall hreply hresponse
      rw [haborted, ← hinterruptible]
      exact hinformed.returned hsteps (hnone hquiet)

/-- **Whatever happens, a wait is informed of what alarms it.** -/
theorem Heeded.turn (h : Heeded name v noted co) (hsound : co.Sound base handed)
    (hroom : handed.length < UInt64.size) {m : Move} (hsole : sole name co m = true) :
    Heeded name v (noted || alarms name co m) (co.turn m) := by
  by_cases hm : m.concerns name = false
  · exact h.turn_other hsound hroom hm hsole
  rw [Bool.not_eq_false] at hm
  cases m with
  | operate op => exact h.turn_operate hsound hsole
  | start other u =>
    obtain rfl := eq_of_beq hm
    exact h.turn_start u
  | step other =>
    obtain rfl := eq_of_beq hm
    exact h.turn_step hsound

theorem Heeded.play (h : Heeded name v noted co) (hsound : co.Sound base handed) {script : List Move}
    (hbelow : ∀ m ∈ script, m.Below base) (hroom : handed.length + script.length < UInt64.size)
    (hsole : throughout (sole name) co script = true) :
    Heeded name v (noted || sometime (alarms name) co script) (co.play script) := by
  induction script generalizing co noted handed with
  | nil => rwa [sometime, Bool.or_false]
  | cons m script ih =>
    rw [List.length_cons] at hroom
    rw [throughout, Bool.and_eq_true] at hsole
    obtain ⟨more, hmore, hsound'⟩ := hsound.turn (by omega) (hbelow m List.mem_cons_self)
    rw [sometime, ← Bool.or_assoc]
    refine ih (h.turn hsound (by omega) hsole.1) hsound'
      (fun m' hm' => hbelow m' (List.mem_cons_of_mem _ hm')) ?_ hsole.2
    rw [List.length_append]
    omega

/-! ## Interruption -/

/-- A wait is made in a system, among other waits and operations, and its thread makes no other wait that
signals may abort while it is in progress. -/
structure SoleRun (handed : List (Target × Token)) (s : System) (name : Nat) (v : Invocation)
    (before after : List Move) : Prop where
  /-- the kernel is one that a freshly started kernel can become -/
  reached : s.kernel.Reached handed
  /-- other threads name older sessions only -/
  below : ∀ m ∈ before ++ .start name v :: after, m.Below s.kernel.sessions.nextId
  /-- there are numbers enough for tickets -/
  room : handed.length + (before ++ .start name v :: after).length < UInt64.size
  /-- the name is a new one -/
  new : (play { system := s } before).wait? name = none
  /-- the thread stays with the wait -/
  sole : throughout (sole name) (play { system := s } (before ++ [.start name v])) after = true

variable {s : System} {before after : List Move} {response : Response}

/-- **A wait that ends with nothing ready was interrupted just if it was called so that signals may abort
it, and one has alarmed it**: there was one to take when the wait looked for signals, or at some moment
from then on until it drained its session, or one came between its registration and its look. What became
of the signal afterwards is no matter. -/
theorem interrupted_exactly (h : SoleRun handed s name v before after)
    (hresponse : (play { system := s } (before ++ .start name v :: after)).response? name =
      some response)
    (hquiet : response.Quiet) :
    response.Aborted ↔ v.interruptible = true ∧
      sometime (alarms name) (play { system := s } (before ++ [.start name v])) after = true := by
  have hroom := h.room
  rw [List.length_append, List.length_cons] at hroom
  have hsplit : before ++ .start name v :: after = (before ++ [.start name v]) ++ after :=
    (List.append_assoc before [Move.start name v] after).symm
  obtain ⟨more, hmore, hbefore⟩ := (Sound.start h.reached).play
    (fun m (hm : m ∈ before) => h.below m (List.mem_append_left _ hm)) (by omega)
  obtain ⟨new, hnew, hbegun⟩ := hbefore.turn (m := .start name v)
    (by rw [List.length_append]; omega) trivial
  have hstart : Heeded name v false (play { system := s } (before ++ [.start name v])) := by
    rw [play_concat]
    exact .start hbefore.reached h.new
  rw [← play_concat] at hbegun
  have hplay := hstart.play hbegun
    (fun m hm => h.below m (List.mem_append_right _ (List.mem_cons_of_mem _ hm)))
    (by rw [List.length_append, List.length_append]; omega) h.sole
  rw [hsplit, play, List.foldl_append] at hresponse
  have htold := hplay.told response hresponse hquiet
  rwa [Bool.false_or] at htold

/-- A signal comes to a thread that sleeps in its wait, and is taken before the wait makes another step:
it is interrupted all the same. -/
theorem interrupted_exactly_taken_asleep :
    let s : System :=
      { kernel := Operation.effect { clock := { now := 0, horizon := 1000 } } (.create (.semaphore 0))
        config := .standard }
    let v : Invocation := .multiplexer
      { thread := 7
        watches := [{ kind := .semaphore, id := 1, requested := .read }]
        flags := .interruptible
        timeout := .relative ⟨0, 100⟩ }
    let after : List Move :=
      List.replicate 9 (.step 1) ++ [.operate (.send 3 7 .usr1), .operate (.take 7)] ++
        List.replicate 5 (.step 1)
    SoleRun [] s 1 v [] after ∧
    (play { system := s } (.start 1 v :: after)).response? 1 = some (.typed ⟨.error .interrupted,
      [{ kind := .semaphore, id := 1, requested := .read, status := .ok }]⟩) ∧
    sometime (alarms 1) (play { system := s } [.start 1 v]) after = true := by
  intro s v after
  have hbelow : ∀ m ∈ [] ++ Move.start 1 v :: after, m.Below s.kernel.sessions.nextId := by
    intro m hm
    simp [after] at hm
    rcases hm with rfl | rfl | rfl | rfl | rfl
    all_goals trivial
  have hrun : SoleRun [] s 1 v [] after :=
    ⟨.operated (.boot { now := 0, horizon := 1000 }) (.create (.semaphore 0)) trivial, hbelow,
      by decide, rfl, by cbv⟩
  have hresponse : (play { system := s } (.start 1 v :: after)).response? 1 =
      some (.typed ⟨.error .interrupted,
        [{ kind := .semaphore, id := 1, requested := .read, status := .ok }]⟩) := by cbv
  have hquiet : Response.Quiet (.typed ⟨.error .interrupted,
      [{ kind := .semaphore, id := 1, requested := .read, status := .ok }]⟩) := by
    intro w hw
    obtain rfl := List.mem_singleton.1 hw
    rfl
  exact ⟨hrun, hresponse, ((interrupted_exactly hrun hresponse hquiet).1 rfl).2⟩

/-- A signal is pending for the thread, and the wait has registered for signals and not drained yet. -/
def beset (name : Nat) (co : Company) (_ : Move) : Bool :=
  (co.call? name).any fun c => c.stage.listens && co.system.kernel.hasPending c.thread

/-- What alarms a wait is pending, or is as soon as it has come. -/
theorem beset_of_alarms {m : Move} (h : alarms name co m = true) (next : Move) :
    beset name co m = true ∨ beset name (co.turn m) next = true := by
  obtain ⟨c, hc, halarmed⟩ := (Option.any_eq_true _ _).1 h
  have hhears : c.hears co.system.kernel = true → beset name co m = true := fun hhears => by
    rw [Call.hears, Bool.and_eq_true] at hhears
    rw [beset, hc, Option.any_some, Bool.and_eq_true]
    exact ⟨Stage.listens_of_attends hhears.1, hhears.2⟩
  cases m with
  | operate op =>
    simp only [Call.alarmed, Bool.or_eq_true, Bool.and_eq_true] at halarmed
    obtain hheard | ⟨hlistens, hrouses⟩ := halarmed
    · exact .inl (hhears hheard)
    · have hc' : (co.turn (.operate op)).call? name = some c := hc
      refine .inr ?_
      rw [beset, hc', Option.any_some, Bool.and_eq_true]
      exact ⟨hlistens, Operation.hasPending_of_rouses hrouses⟩
  | start other u => exact .inl (hhears halarmed)
  | step other =>
    simp only at halarmed
    split at halarmed
    · refine .inl ?_
      rw [beset, hc, Option.any_some]
      exact halarmed
    · exact .inl (hhears halarmed)

/-- **A signal that is pending when a wait registers does not always interrupt it**: it does not if it is
taken before the wait looks for signals. -/
theorem not_interrupted_by_taken :
    let s : System :=
      { kernel := Operation.effect { clock := { now := 0, horizon := 1000 } } (.create (.semaphore 0))
        config := .standard }
    let v : Invocation := .multiplexer
      { thread := 7
        watches := [{ kind := .semaphore, id := 1, requested := .read }]
        flags := .interruptible
        timeout := .poll }
    let before : List Move := [.operate (.send 3 7 .usr1)]
    let after : List Move :=
      List.replicate 3 (.step 1) ++ .operate (.take 7) :: List.replicate 5 (.step 1)
    let response : Response := .typed ⟨.ok .timedOut,
      [{ kind := .semaphore, id := 1, requested := .read, status := .ok }]⟩
    SoleRun [] s 1 v before after ∧
    (play { system := s } (before ++ .start 1 v :: after)).response? 1 = some response ∧
    response.Quiet ∧
    ¬(response.Aborted ↔ v.interruptible = true ∧
      sometime (beset 1) (play { system := s } (before ++ [.start 1 v])) after = true) := by
  intro s v before after response
  have hbelow : ∀ m ∈ before ++ Move.start 1 v :: after, m.Below s.kernel.sessions.nextId := by
    intro m hm
    simp [before, after] at hm
    rcases hm with rfl | rfl | rfl | rfl | rfl
    all_goals trivial
  have hrun : SoleRun [] s 1 v before after :=
    ⟨.operated (.boot { now := 0, horizon := 1000 }) (.create (.semaphore 0)) trivial, hbelow,
      by decide, rfl, by cbv⟩
  refine ⟨hrun, by cbv, fun w hw => ?_, fun hiff => ?_⟩
  · obtain rfl := List.mem_singleton.1 hw
    rfl
  · have hbeset : sometime (beset 1) (play { system := s } (before ++ [.start 1 v])) after = true := by
      cbv
    cases hiff.2 ⟨rfl, hbeset⟩

end Company

end KernelWait
