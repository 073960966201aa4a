import KernelWait.Proofs.Slots
import KernelWait.Wait.Run

/-!
# Calls that have something to report

A call may sleep only while nothing was latched for it: whoever latches something wakes it, and it looks
once more before it parks (`Call.Alert`). Everything else that a call does brings it closer to its end
(`Call.Steps.remaining_lt`).

**A call whose session holds something returns after a bounded number of its own steps**, whatever
other threads do in between (`System.returns_of_stirred`).
-/

namespace KernelWait

/-! ## Signals to the owner -/

namespace Notifier

/-- Whatever is latched for an owner who may be asleep signals its event. -/
theorem signaled_latch {n : Notifier} (hwakes : n.phase.wakes = true)
    (h : n.anyLatched = true → n.event.signaled = true) (slot : Nat) (events : Events)
    (hlatched : (n.latch slot events).1.anyLatched = true) :
    (n.latch slot events).1.event.signaled = true := by
  obtain ⟨-, heq⟩ | ⟨held, -, -, -, heq⟩ := n.latch_cases slot events
  · rw [heq] at hlatched ⊢
    exact h hlatched
  · rw [heq, wakeOwner, if_pos (show (n.store slot held events).phase.wakes = true from hwakes)]
    rfl

theorem signaled_interrupt {n : Notifier} (h : n.event.signaled = true) :
    n.interrupt.1.event.signaled = true := by
  rw [interrupt]
  split
  · rfl
  · exact h

end Notifier

namespace Call

/-- The owner of a session may go to sleep only while others would wake it, and is signalled as soon
as there is something to report. -/
def Alert (c : Call) (n : Notifier) : Prop :=
  ∀ b, c.stage = .blocked b → n.phase.wakes = true ∧
    (b = .parked → n.anyLatched = true → n.event.signaled = true)

variable {k k' : Kernel} {c c' : Call} {n n' : Notifier}

/-- Other threads keep a call alert. -/
theorem Alert.reach {id : SessionId} (h : c.Alert n) (hreach : Operation.Reach k k' id n n') :
    c.Alert n' := by
  intro b hb
  obtain ⟨hwakes, hsignaled⟩ := h b hb
  refine ⟨by rwa [hreach.phase_eq], fun hparked => ?_⟩
  have hsignaled := hsignaled hparked
  cases hreach with
  | nothing => exact hsignaled
  | aborted =>
    intro hlatched
    rw [Notifier.anyLatched, n.latchedSlots_interrupt, ← Notifier.anyLatched] at hlatched
    exact Notifier.signaled_interrupt (hsignaled hlatched)
  | told target e e' he he' =>
    refine And.right (Notifier.latchAll_induction
      (motive := fun m => m.phase.wakes = true ∧ (m.anyLatched = true → m.event.signaled = true))
      ⟨hwakes, hsignaled⟩ ?_)
    rintro m entry - - ⟨hm, hmsignaled⟩
    exact ⟨by rwa [Notifier.phase_latch], Notifier.signaled_latch hm hmsignaled _ _⟩

/-- A step of the blocked phase keeps the owner alert: it parks only when it has found nothing. -/
theorem Alert.doze (h : c.Alert n) {b : Block} (hstage : c.stage = .blocked b)
    (deadline : Deadline) (now : Moment) :
    { c with stage := .blocked (Block.step deadline now n b).2 }.Alert
      (Block.step deadline now n b).1 := by
  obtain ⟨hwakes, hsignaled⟩ := h b hstage
  intro b' hb'
  obtain rfl := Stage.blocked.inj hb'
  constructor
  · rw [(Block.step_keeps deadline now n b).1]
    exact hwakes
  · intro hparked
    cases b with
    | looking =>
      simp only [Block.step] at hparked ⊢
      rcases hverdict : n.verdict? with _ | v <;> rw [hverdict] at hparked
      · intro hlatched
        rw [Notifier.verdict?, if_pos hlatched] at hverdict
        cases hverdict
      · cases hparked
    | parked =>
      simp only [Block.step] at hparked ⊢
      rcases hpoll : n.event.poll deadline now with _ | ⟨event, _ | _⟩ <;> rw [hpoll] at hparked
      · exact hsignaled rfl
      · cases hparked
      · cases hparked
    | finished v => cases hparked

/-- What a step of the call itself makes of its notifier: what was latched stays, and the owner stays
alert. -/
theorem Steps.get?_notifier (h : Steps k c k' (.running c'))
    (hstays : ∀ answer, c'.stage ≠ .leaving answer) (hn : c.session.notifier? k = some n) :
    ∃ n', c'.session.notifier? k' = some n' ∧ n'.latched = n.latched ∧
      n'.latchedSlots = n.latchedSlots ∧ (c.Alert n → c'.Alert n') := by
  cases h with
  | found hstage | missing hstage | skipped hstage | stopped hstage | polled hstage =>
    refine ⟨n, hn, rfl, rfl, fun _ b hb => ?_⟩
    cases hstage.symm.trans hb
  | resolved | registered | concluded | approached | turned | ignored | vanished | overtaken
  | roused =>
    exact ⟨n, hn, rfl, rfl, fun _ _ hb => by cases hb⟩
  | resolvedQuietly | checked =>
    exact ⟨_, Session.get?_advance hn .enrolling, rfl, rfl, fun _ _ hb => by cases hb⟩
  | aborted =>
    have hnotifier := Session.get?_abort hn
    exact ⟨_, Session.get?_advance hnotifier .enrolling, n.latched_interrupt,
      n.latchedSlots_interrupt, fun _ _ hb => by cases hb⟩
  | retired =>
    refine ⟨_, Session.get?_advance hn .blocked, rfl, rfl, fun _ b hb => ⟨rfl, ?_⟩⟩
    rintro rfl
    cases hb
  | joined =>
    refine ⟨n, ?_, rfl, rfl, fun _ _ hb => by cases hb⟩
    rw [Session.notifier?, Session.joining, Kernel.sessions_enroll]
    exact hn
  | @dozed b hstage =>
    obtain ⟨-, hlatched, hslots⟩ := Block.step_keeps c.session.deadline k.clock.now n b
    rw [Session.blockSteps_one hn]
    exact ⟨_, SessionTable.get?_put_self hn _, hlatched, hslots, fun halert => halert.doze hstage _ _⟩
  | full => exact absurd rfl (hstays _)
  | drained => exact absurd rfl (hstays _)

/-! ## Steps that remain -/

/-- As many steps as a call with something to report can still make. -/
def remaining (c : Call) : Nat :=
  match c.stage with
  | .resolving => c.ahead.length + 2 * c.slots.length + 10
  | .registering => 2 * c.slots.length + 9
  | .checking => 2 * c.slots.length + 8
  | .polling => 2 * c.ahead.length + 6
  | .enrolling => 2 * c.ahead.tail.length + 7
  | .blocked .parked => 5
  | .blocked .looking => 4
  | .blocked (.finished _) => 3
  | .draining => 2
  | .leaving _ => 1

theorem length_ahead_le (c : Call) : c.ahead.length ≤ c.slots.length := by
  rw [slots, List.length_append]
  exact Nat.le_add_left _ _

/-- There is always a step left to make, and never more than a call has without sleeping. -/
theorem remaining_pos (c : Call) : 0 < c.remaining := by
  rw [remaining]
  split <;> omega

theorem remaining_le (c : Call) : c.remaining ≤ c.bound := by
  have hahead := c.length_ahead_le
  rw [remaining, bound]
  split
  case h_5 =>
    rw [List.length_tail]
    omega
  all_goals omega

/-- An owner that has a reason to go on, and was told of it, does not sleep. -/
theorem remaining_doze {b : Block} {v : Verdict} (hverdict : n.verdict? = some v)
    (hsignaled : b = .parked → n.event.signaled = true) (hb : ∀ v, b ≠ .finished v)
    (deadline : Deadline) (now : Moment) :
    { c with stage := .blocked (Block.step deadline now n b).2 }.remaining <
      { c with stage := .blocked b }.remaining := by
  cases b with
  | looking =>
    rw [Block.step_looking_of_verdict hverdict]
    exact Nat.lt_succ_self 3
  | parked =>
    simp only [Block.step, WakeEvent.poll, if_pos (hsignaled rfl)]
    exact Nat.lt_succ_self 4
  | finished v => exact absurd rfl (hb v)

/-- Every step of a call that is not in its blocked phase brings it closer to its end. -/
theorem Steps.remaining_lt_of_moving (h : Steps k c k' (.running c'))
    (hmoving : ∀ b, c.stage ≠ .blocked b) : c'.remaining < c.remaining := by
  cases h with
  | found hstage hahead | missing hstage hahead =>
    simp only [remaining, pass, slots, hstage, hahead, List.tail_cons, List.length_append,
      List.length_cons, List.length_nil]
    omega
  | resolved hstage hahead | resolvedQuietly hstage hahead =>
    -- all slots lie ahead again, with two steps for each that were counted from the start
    simp only [remaining, rewind, slots, hstage, hahead, List.length_append, List.length_nil]
    omega
  | registered hstage =>
    simp only [remaining, hstage, slots]
    omega
  | aborted hstage | checked hstage =>
    have hahead := c.length_ahead_le
    simp only [remaining, hstage]
    omega
  | concluded hstage hahead | retired hstage hahead =>
    simp only [remaining, hstage, hahead]
    decide
  | skipped hstage hahead | polled hstage hahead =>
    simp only [remaining, passReady, pass, hstage, hahead, List.tail_cons, List.length_cons]
    omega
  | stopped hstage hahead =>
    simp only [remaining, hstage, hahead, List.length_cons, List.length_nil]
    omega
  | approached hstage hahead =>
    simp only [remaining, hstage, hahead, List.tail_cons, List.length_cons]
    omega
  | turned hstage hahead =>
    simp only [remaining, hstage, hahead]
    decide
  | ignored hstage hahead | vanished hstage hahead | overtaken hstage hahead
  | joined hstage hahead =>
    simp only [remaining, passReady, pass, hstage, hahead, List.tail_cons]
    omega
  | full hstage hahead =>
    simp only [remaining, hstage, hahead, List.tail_cons]
    omega
  | dozed hstage | roused hstage => exact absurd hstage (hmoving _)
  | drained hstage =>
    simp only [remaining, settledOn, hstage]
    decide

/-- **Every step of a call that has a reason to go on, and was told of it, brings it closer to its end.** -/
theorem Steps.remaining_lt (h : Steps k c k' (.running c'))
    (hn : c.session.notifier? k = some n) {v : Verdict} (hverdict : n.verdict? = some v)
    (hsignaled : c.stage = .blocked .parked → n.event.signaled = true) :
    c'.remaining < c.remaining := by
  by_cases hblocked : ∃ b, c.stage = .blocked b
  · obtain ⟨b, hstage⟩ := hblocked
    cases h with
    | @dozed b' hstage' hb =>
      have hbefore : c.remaining = { c with stage := .blocked b' }.remaining := by
        rw [remaining, remaining, hstage']
        rfl
      rw [Session.blockSteps_one hn, hbefore]
      exact remaining_doze hverdict (fun hparked => hsignaled (hparked ▸ hstage')) hb _ _
    | roused hstage' =>
      simp only [remaining, hstage']
      decide
    | _ hother => cases hstage.symm.trans hother
  · exact h.remaining_lt_of_moving fun b hstage => hblocked ⟨b, hstage⟩

/-- The call has come to leave, or its session holds something and it will not sleep. -/
def Stirred (k : Kernel) (c : Call) : Prop :=
  (∃ answer, c.stage = .leaving answer) ∨
  ∃ n, c.session.notifier? k = some n ∧ n.anyLatched = true ∧ c.Alert n

/-- Other threads take nothing back from a session. -/
theorem Stirred.effect (h : c.Stirred k) (op : Operation) : c.Stirred (op.effect k) := by
  obtain hleaving | ⟨n, hn, hlatched, halert⟩ := h
  · exact .inl hleaving
  · obtain ⟨n', hn', hreach⟩ := (op.effects_effect k).get?_session hn
    exact .inr ⟨n', hn', Verdict.Holds.reach (v := .ready) hlatched hreach, halert.reach hreach⟩

theorem Stirred.steps (h : c.Stirred k) (hstep : Steps k c k' (.running c')) :
    c'.Stirred k' ∧ c'.remaining < c.remaining := by
  obtain ⟨answer, hstage⟩ | ⟨n, hn, hlatched, halert⟩ := h
  · cases hstep.returns_of_leaving hstage
  · have hverdict : n.verdict? = some .ready := by rw [Notifier.verdict?, if_pos hlatched]
    refine ⟨?_, hstep.remaining_lt hn hverdict fun hparked => (halert _ hparked).2 rfl hlatched⟩
    by_cases hleaves : ∃ answer, c'.stage = .leaving answer
    · exact .inl hleaves
    · obtain ⟨n', hn', -, hslots, halert'⟩ :=
        hstep.get?_notifier (fun answer heq => hleaves ⟨answer, heq⟩) hn
      refine .inr ⟨n', hn', ?_, halert' halert⟩
      rwa [Notifier.anyLatched, hslots]

end Call

/-- **A call that has something to report returns**, as soon as it has had as many turns as it has steps
left. -/
theorem System.returns_of_stirred {s : System} {c : Call} (h : c.Stirred s.kernel)
    {schedule : List (Turn Operation)} (hturns : c.remaining ≤ schedule.count .own) :
    ∃ s' reply, play (s, .running c) schedule = (s', .returned reply) := by
  induction schedule generalizing s c with
  | nil => exact absurd c.remaining_pos (Nat.not_lt.2 hturns)
  | cons t schedule ih =>
    cases t with
    | other op =>
      have hother : Turn.other op ≠ .own := by rintro ⟨⟩
      rw [List.count_cons_of_ne hother] at hturns
      exact ih (s := { s with kernel := op.effect s.kernel }) (h.effect op) hturns
    | own =>
      rw [List.count_cons_self] at hturns
      have hsteps := Call.steps_step s c
      rcases hstep : c.step s with ⟨s₁, c₁ | reply⟩
      · rw [hstep] at hsteps
        obtain ⟨hstirred, hless⟩ := h.steps hsteps
        obtain ⟨s', reply, hplay⟩ := ih hstirred (by omega)
        refine ⟨s', reply, ?_⟩
        rw [← hplay, ← hstep]
        rfl
      · obtain ⟨s', hplay⟩ :=
          returned_of_returned (show play (s, .running c) [.own] = _ from hstep) schedule
        exact ⟨s', reply, hplay⟩

end KernelWait
