import KernelWait.Proofs.Reflection

/-!
# Signals that come to a thread

A signal comes to a thread when it is sent and the thread does not block it, or when it is pending and the
thread blocks it no longer (`Operation.rouses`). Nothing else makes a thread have a signal to take that it
had not before (`Operation.hasPending_of_effect`), and nothing else aborts a wait
(`Operation.interrupted_effect_iff`).
-/

namespace KernelWait

/-- A session that may still be aborted is aborted from then on. -/
theorem Notifier.interrupted_of_interrupt {n : Notifier} (h : n.phase.wakes = true) :
    n.interrupt.1.interrupted = true := by
  rw [interrupt]
  split
  · rfl
  · next hnot => exact Bool.eq_false_imp_eq_true.1 fun hfalse => absurd ⟨h, hfalse⟩ hnot

namespace Operation

/-- The operation makes a signal come to a thread: it is sent, not refused and not blocked, or it is
pending and blocked no longer. -/
def rouses (thread : ThreadId) (k : Kernel) : Operation → Bool
  | send _ receiver signal =>
    receiver == thread && decide ((k.signals.get receiver).pending.length < Limits.maxPendingSignals) &&
      (k.signals.get receiver).delivers signal
  | unblock other signal => other == thread && (k.signals.get other).pending.any (·.signal == signal)
  | _ => false

/-- At most one thread is roused. -/
theorem rouses_unique {op : Operation} {k : Kernel} {thread other : ThreadId}
    (h : op.rouses thread k = true) (h' : op.rouses other k = true) : thread = other := by
  cases op with
  | send sender receiver signal =>
    simp only [rouses, Bool.and_eq_true, beq_iff_eq] at h h'
    exact h.1.1.symm.trans h'.1.1
  | unblock receiver signal =>
    simp only [rouses, Bool.and_eq_true, beq_iff_eq] at h h'
    exact h.1.symm.trans h'.1
  | _ => cases h

end Operation

/-! ## Sending and unblocking -/

/-- A signal is refused when there are too many, and is pending from then on otherwise. -/
theorem SignalTable.enqueue_cases (t : SignalTable) (receiver : ThreadId) (p : PendingSignal) :
    (Limits.maxPendingSignals ≤ (t.get receiver).pending.length ∧
      ∃ cause, t.enqueue receiver p = .error cause) ∨
    ((t.get receiver).pending.length < Limits.maxPendingSignals ∧
      ∃ t', t.enqueue receiver p = .ok t' ∧
        t'.get receiver =
          { t.get receiver with pending := (t.get receiver).pending ++ [p] } ∧
        ∀ other, other ≠ receiver → t'.get other = t.get other) := by
  rw [enqueue]
  by_cases hfull : Limits.maxPendingSignals ≤ (t.get receiver).pending.length
  · rw [if_pos hfull]
    exact .inl ⟨hfull, _, rfl⟩
  · rw [if_neg hfull]
    exact .inr ⟨Nat.lt_of_not_le hfull, _, rfl, get_put_self _ _ _,
      fun other hne => get_put_ne hne _ _⟩

/-- Whose sessions are aborted depends on the sessions and on whose wait is active. -/
theorem Kernel.sessions_interruptActive_congr {k k' : Kernel} {thread : ThreadId}
    (hsessions : k'.sessions = k.sessions)
    (hactive : (k'.signals.get thread).activeWait = (k.signals.get thread).activeWait) :
    (k'.interruptActive thread).sessions = (k.interruptActive thread).sessions := by
  rw [interruptActive, interruptActive, hactive]
  rcases (k.signals.get thread).activeWait with _ | session
  · exact hsessions
  · simp only [interrupt, hsessions]

/-- A signal that is accepted aborts the receiver's wait if it is delivered. -/
theorem Kernel.send_cases (k : Kernel) (sender receiver : ThreadId) (signal : Signal) :
    (Limits.maxPendingSignals ≤ (k.signals.get receiver).pending.length ∧
      (k.send sender receiver signal).1 = k) ∨
    ∃ (t : SignalTable) (p : PendingSignal),
      (k.signals.get receiver).pending.length < Limits.maxPendingSignals ∧ p.signal = signal ∧
      t.get receiver =
        { k.signals.get receiver with pending := (k.signals.get receiver).pending ++ [p] } ∧
      (∀ other, other ≠ receiver → t.get other = k.signals.get other) ∧
      (∀ other, (k.send sender receiver signal).1.signals.get other = t.get other) ∧
      (k.send sender receiver signal).1.sessions =
        if (k.signals.get receiver).delivers signal then (k.interruptActive receiver).sessions
        else k.sessions := by
  rw [send]
  obtain ⟨hfull, cause, hrefused⟩ | ⟨hroom, t, hqueued, hself, hothers⟩ :=
    k.signals.enqueue_cases receiver ⟨signal, sender, k.clock.stamp⟩
  · rw [hrefused]
    exact .inl ⟨hfull, rfl⟩
  · have hdelivers : (t.get receiver).delivers signal = (k.signals.get receiver).delivers signal := by
      rw [hself]
      rfl
    rw [hqueued]
    refine .inr ⟨t, _, hroom, rfl, hself, hothers, fun other => ?_, ?_⟩
    · simp only
      split
      · exact get_interruptActive _ _ _
      · rfl
    · simp only [hdelivers]
      split
      · exact sessions_interruptActive_congr rfl (by rw [hself])
      · rfl

/-- Unblocking a signal aborts the thread's wait if the signal is pending. -/
theorem Kernel.unblock_cases (k : Kernel) (thread : ThreadId) (signal : Signal) :
    (∀ other, (k.unblock thread signal).signals.get other =
      (k.signals.unblock thread signal).get other) ∧
    (k.unblock thread signal).sessions =
      if (k.signals.get thread).pending.any (·.signal == signal) then
        (k.interruptActive thread).sessions
      else k.sessions := by
  have hself : (k.signals.unblock thread signal).get thread = (k.signals.get thread).unblock signal :=
    SignalTable.get_put_self _ _ _
  simp only [unblock, hself, ThreadSignals.unblock]
  split
  · exact ⟨get_interruptActive _ _, sessions_interruptActive_congr rfl (by rw [hself]; rfl)⟩
  · exact ⟨fun _ => rfl, rfl⟩

/-! ## Pending signals -/

namespace Kernel

variable {k k' : Kernel} {thread : ThreadId}

theorem hasPending_congr (h : k'.signals.get thread = k.signals.get thread) :
    k'.hasPending thread = k.hasPending thread := by
  rw [hasPending, hasPending, h]

end Kernel

theorem ThreadSignals.hasDeliverable_iff {t : ThreadSignals} :
    t.hasDeliverable = true ↔ ∃ p ∈ t.pending, t.delivers p.signal = true := by
  rw [hasDeliverable, List.any_eq_true]

/-- A signal that is blocked in addition is delivered no more, and no other is delivered instead. -/
theorem ThreadSignals.delivers_of_block {t : ThreadSignals} {blocked signal : Signal}
    (h : (t.block blocked).delivers signal = true) : t.delivers signal = true := by
  rw [block] at h
  split at h
  · exact h
  · simp only [delivers, Bool.or_eq_true, Bool.not_eq_true', List.contains_append,
      Bool.or_eq_false_iff] at h ⊢
    exact h.imp_right And.left

theorem ThreadSignals.hasDeliverable_of_block {t : ThreadSignals} {signal : Signal}
    (h : (t.block signal).hasDeliverable = true) : t.hasDeliverable = true := by
  obtain ⟨p, hp, hdelivers⟩ := hasDeliverable_iff.1 h
  refine hasDeliverable_iff.2 ⟨p, ?_, delivers_of_block hdelivers⟩
  rw [block] at hp
  split at hp <;> exact hp

/-- Blocking a signal no longer does not change how another is delivered. -/
theorem ThreadSignals.delivers_unblock_ne {t : ThreadSignals} {freed signal : Signal}
    (hne : signal ≠ freed) : (t.unblock freed).delivers signal = t.delivers signal := by
  have hcontains : (t.blocked.filter (· != freed)).contains signal = t.blocked.contains signal := by
    rw [Bool.eq_iff_iff, List.contains_iff_mem, List.contains_iff_mem, List.mem_filter]
    exact and_iff_left (bne_iff_ne.2 hne)
  rw [delivers, delivers, unblock, hcontains]

theorem ThreadSignals.delivers_unblock_self (t : ThreadSignals) (freed : Signal) :
    (t.unblock freed).delivers freed = true := by
  have hcontains : (t.blocked.filter (· != freed)).contains freed = false := by
    rw [Bool.eq_false_iff, ne_eq, List.contains_iff_mem, List.mem_filter]
    exact fun h => bne_iff_ne.1 h.2 rfl
  rw [delivers, unblock, hcontains]
  exact Bool.or_true _

/-- No thread gets a signal to take if the one whose signals change gets none. -/
theorem SignalTable.hasDeliverable_of_put (t : SignalTable) (other : ThreadId) {thread : ThreadId}
    {s : ThreadSignals} (h : s.hasDeliverable = true → (t.get other).hasDeliverable = true)
    (hdeliverable : ((t.put other s).get thread).hasDeliverable = true) :
    (t.get thread).hasDeliverable = true := by
  by_cases hto : thread = other
  · subst hto
    rw [get_put_self] at hdeliverable
    exact h hdeliverable
  · rwa [get_put_ne hto] at hdeliverable

namespace Operation

/-- **Only what rouses a thread makes it have a signal to take.** -/
theorem hasPending_of_effect {op : Operation} {k : Kernel} {thread : ThreadId}
    (h : (op.effect k).hasPending thread = true) :
    k.hasPending thread = true ∨ op.rouses thread k = true := by
  -- most operations do not touch what is pending or blocked
  have hsame : (op.effect k).signals = k.signals → k.hasPending thread = true := fun heq => by
    rwa [Kernel.hasPending_congr (congrArg (SignalTable.get · thread) heq)] at h
  cases op with
  | create blueprint | tell | elapse nanos => exact .inl h
  | act target action =>
    refine .inl (hsame ?_)
    rw [effect_act, k.signals_act]
  | enroll target interest waker =>
    refine .inl (hsame ?_)
    simp only [effect, run, Kernel.enroll]
    rcases k.registry.get? target with _ | e <;> rfl
  | disenroll target token =>
    refine .inl (hsame ?_)
    simp only [effect, run, Kernel.disenroll]
    rcases k.registry.get? target with _ | e <;> rfl
  | deleteSemaphore id | deletePort id | closeEndpoint id => exact .inl (hsame (k.signals_remove _ id _))
  | exitThread id status => exact .inl (hsame (k.signals_exitThread id status))
  | reapThread id => exact .inl (hsame (k.signals_reapThread id))
  | register other session | unregister other =>
    refine .inl (k.signals.hasDeliverable_of_put other ?_ h)
    exact fun hleft => hleft
  | clear other => exact .inl (k.signals.hasDeliverable_of_put other Bool.noConfusion h)
  | take other =>
    refine .inl (k.signals.hasDeliverable_of_put other (fun hleft => ?_) h)
    obtain ⟨p, hp, hdelivers⟩ := ThreadSignals.hasDeliverable_iff.1 hleft
    exact ThreadSignals.hasDeliverable_iff.2 ⟨p, List.mem_of_mem_filter hp, hdelivers⟩
  | cleanup other =>
    refine .inl ?_
    simp only [effect, run, SignalTable.cleanup, Kernel.hasPending] at h ⊢
    by_cases hto : thread = other
    · subst hto
      rw [SignalTable.get_forget_self] at h
      cases h
    · rwa [SignalTable.get_forget_ne hto] at h
  | block other signal =>
    simp only [effect, run, Kernel.block, SignalTable.block] at h
    by_cases hcatch : signal.canCatch = true
    · rw [if_pos hcatch] at h
      exact .inl (k.signals.hasDeliverable_of_put other ThreadSignals.hasDeliverable_of_block h)
    · rw [if_neg hcatch] at h
      exact .inl h
  | send sender receiver signal =>
    obtain ⟨-, heffect⟩ | ⟨t, p, hroom, hsignal, hself, hothers, hget, -⟩ :=
      k.send_cases sender receiver signal
    · rw [effect, run, heffect] at h
      exact .inl h
    · rw [effect, run, Kernel.hasPending, hget] at h
      by_cases hto : thread = receiver
      · subst hto
        rw [hself] at h
        obtain ⟨q, hq, hdelivers⟩ := ThreadSignals.hasDeliverable_iff.1 h
        rcases List.mem_append.1 hq with hold | hnew
        · exact .inl (ThreadSignals.hasDeliverable_iff.2 ⟨q, hold, hdelivers⟩)
        · obtain rfl := List.mem_singleton.1 hnew
          rw [hsignal] at hdelivers
          refine .inr ?_
          rw [rouses, beq_self_eq_true, decide_eq_true hroom]
          exact hdelivers
      · rw [hothers thread hto] at h
        exact .inl h
  | unblock other signal =>
    rw [effect, run, Kernel.hasPending, (k.unblock_cases other signal).1] at h
    by_cases hto : thread = other
    · subst hto
      rw [SignalTable.unblock, SignalTable.get_put_self] at h
      obtain ⟨p, hp, hdelivers⟩ := ThreadSignals.hasDeliverable_iff.1 h
      by_cases hfreed : p.signal = signal
      · refine .inr ?_
        rw [rouses, beq_self_eq_true, Bool.true_and, List.any_eq_true]
        exact ⟨p, hp, beq_iff_eq.2 hfreed⟩
      · rw [ThreadSignals.delivers_unblock_ne hfreed] at hdelivers
        exact .inl (ThreadSignals.hasDeliverable_iff.2 ⟨p, hp, hdelivers⟩)
    · rw [SignalTable.unblock, SignalTable.get_put_ne hto] at h
      exact .inl h

/-- A thread that is roused has a signal to take. -/
theorem hasPending_of_rouses {op : Operation} {k : Kernel} {thread : ThreadId}
    (h : op.rouses thread k = true) : (op.effect k).hasPending thread = true := by
  cases op with
  | send sender receiver signal =>
    simp only [rouses, Bool.and_eq_true, beq_iff_eq, decide_eq_true_iff] at h
    obtain ⟨⟨rfl, hroom⟩, hdelivers⟩ := h
    obtain ⟨hfull, -⟩ | ⟨t, p, -, hsignal, hself, -, hget, -⟩ := k.send_cases sender receiver signal
    · exact absurd hroom (Nat.not_lt.2 hfull)
    · rw [effect, run, Kernel.hasPending, hget, hself]
      refine ThreadSignals.hasDeliverable_iff.2
        ⟨p, List.mem_append_right _ List.mem_cons_self, ?_⟩
      rw [hsignal]
      exact hdelivers
  | unblock other signal =>
    simp only [rouses, Bool.and_eq_true, beq_iff_eq, List.any_eq_true] at h
    obtain ⟨rfl, p, hp, rfl⟩ := h
    rw [effect, run, Kernel.hasPending, (k.unblock_cases _ _).1, SignalTable.unblock,
      SignalTable.get_put_self]
    exact ThreadSignals.hasDeliverable_iff.2 ⟨p, hp, ThreadSignals.delivers_unblock_self _ _⟩
  | _ => cases h

end Operation

/-! ## Aborted waits -/

/-- Whether a session was aborted, if it is there. -/
def SessionTable.interrupted? (t : SessionTable) (id : SessionId) : Option Bool :=
  (t.get? id).map Notifier.interrupted

/-- No action on an object aborts a session. -/
theorem Entity.interrupted?_act (e : Entity) (a : Object.Action) (t : SessionTable) (id : SessionId) :
    (e.act a t).2.1.interrupted? id = t.interrupted? id := by
  obtain ⟨-, hsame, -⟩ | ⟨-, htold⟩ := e.act_cases a t
  · rw [hsame]
  · rw [htold, SessionTable.interrupted?, WaitQueue.get?_notify, Option.map_map, SessionTable.interrupted?]
    refine congrArg (Option.map · _) (funext fun n => ?_)
    exact n.interrupted_latchAll _ _ _

namespace Kernel

variable (k : Kernel) (id : SessionId)

theorem interrupted?_act (target : Target) (a : Object.Action) :
    (k.act target a).1.sessions.interrupted? id = k.sessions.interrupted? id := by
  rw [act]
  rcases k.registry.get? target with _ | e
  · rfl
  · exact e.interrupted?_act a k.sessions id

theorem interrupted?_remove (kind : Kind) (number : ObjectId) (last : Object.Action) :
    (k.remove kind number last).1.sessions.interrupted? id = k.sessions.interrupted? id := by
  rw [remove]
  rcases k.registry.resolve kind number with cause | target
  · rfl
  · exact interrupted?_act _ id target last

theorem interrupted?_exitThread (number : ObjectId) (status : Int32) :
    (k.exitThread number status).1.sessions.interrupted? id = k.sessions.interrupted? id := by
  rw [kernel_exitThread]
  rcases k.registry.resolve .thread number with cause | target
  · rfl
  · exact interrupted?_act k id target _

end Kernel

namespace Operation

variable {op : Operation} {k : Kernel}

/-- What rouses a thread aborts its active wait. -/
theorem sessions_of_rouses {thread : ThreadId} (h : op.rouses thread k = true) :
    (op.effect k).sessions = (k.interruptActive thread).sessions := by
  cases op with
  | send sender receiver signal =>
    simp only [rouses, Bool.and_eq_true, beq_iff_eq, decide_eq_true_iff] at h
    obtain ⟨⟨rfl, hroom⟩, hdelivers⟩ := h
    obtain ⟨hfull, -⟩ | ⟨t, p, -, -, -, -, -, hsessions⟩ := k.send_cases sender receiver signal
    · exact absurd hroom (Nat.not_lt.2 hfull)
    · rw [effect, run, hsessions, if_pos hdelivers]
  | unblock other signal =>
    simp only [rouses, Bool.and_eq_true, beq_iff_eq] at h
    obtain ⟨rfl, hpending⟩ := h
    rw [effect, run, (k.unblock_cases other signal).2, if_pos hpending]
  | _ => cases h

/-- What rouses nobody aborts nobody. -/
theorem interrupted?_effect (h : ∀ thread, op.rouses thread k = false) (id : SessionId) :
    (op.effect k).sessions.interrupted? id = k.sessions.interrupted? id := by
  cases op with
  | create blueprint | take thread | clear thread | cleanup thread | register thread session
  | unregister thread | tell | elapse nanos => rfl
  | disenroll target token =>
    simp only [effect, run, Kernel.disenroll]
    rcases k.registry.get? target with _ | e <;> rfl
  | reapThread number =>
    simp only [effect, run, Kernel.reapThread]
    rcases k.registry.resolve .thread number with cause | target
    · rfl
    · simp only
      split <;> rfl
  | block thread signal =>
    simp only [effect, run, Kernel.block]
    rcases k.signals.block thread signal with cause | t <;> rfl
  | act target action =>
    rw [effect_act]
    exact k.interrupted?_act id target action
  | enroll target interest waker => rw [Kernel.sessions_enroll]
  | deleteSemaphore number | deletePort number | closeEndpoint number =>
    exact k.interrupted?_remove id _ number _
  | exitThread number status => exact k.interrupted?_exitThread id number status
  | send sender receiver signal =>
    obtain ⟨-, heffect⟩ | ⟨t, p, hroom, -, -, -, -, hsessions⟩ := k.send_cases sender receiver signal
    · rw [effect, run, heffect]
    · have hnot := h receiver
      rw [rouses, beq_self_eq_true, decide_eq_true hroom, Bool.true_and, Bool.true_and] at hnot
      rw [effect, run, hsessions, if_neg (Bool.eq_false_iff.1 hnot)]
  | unblock thread signal =>
    have hnot := h thread
    rw [rouses, beq_self_eq_true, Bool.true_and] at hnot
    rw [effect, run, (k.unblock_cases thread signal).2, if_neg (Bool.eq_false_iff.1 hnot)]

/-- **A wait is aborted just when a signal comes to the thread whose active wait it is.** -/
theorem interrupted_effect_iff {id : SessionId} {n n' : Notifier} (hn : k.sessions.get? id = some n)
    (hn' : (op.effect k).sessions.get? id = some n') (hwakes : n.phase.wakes = true) {thread : ThreadId}
    (honly : ∀ other, (k.signals.get other).activeWait = some id → other = thread) :
    n'.interrupted = true ↔ n.interrupted = true ∨
      (k.signals.get thread).activeWait = some id ∧ op.rouses thread k = true := by
  by_cases hroused : ∃ other, op.rouses other k = true
  · obtain ⟨other, hother⟩ := hroused
    rw [sessions_of_rouses hother, Kernel.get?_interruptActive, hn] at hn'
    by_cases hactive : (k.signals.get other).activeWait = some id
    · obtain rfl := honly other hactive
      rw [if_pos hactive] at hn'
      obtain rfl := Option.some.inj hn'
      exact iff_of_true (Notifier.interrupted_of_interrupt hwakes) (.inr ⟨hactive, hother⟩)
    · rw [if_neg hactive] at hn'
      obtain rfl := Option.some.inj hn'
      refine ⟨.inl, fun h => h.resolve_right ?_⟩
      rintro ⟨hself, hthread⟩
      exact hactive (rouses_unique hthread hother ▸ hself)
  · rw [not_exists] at hroused
    have hsame := interrupted?_effect (fun other => Bool.eq_false_iff.2 (hroused other)) id
    rw [SessionTable.interrupted?, SessionTable.interrupted?, hn, hn'] at hsame
    rw [Option.some.inj hsame]
    exact ⟨.inl, fun h => h.resolve_right fun hthread => hroused thread hthread.2⟩

end Operation

end KernelWait
