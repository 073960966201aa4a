import KernelWait.Proofs.Teardown

/-!
# Kernels in which calls are in progress

Calls do nothing to a kernel but what threads may do to it: their tickets join queues and leave them,
their threads are registered for signals, and all else is done to their own notifiers. So a kernel in
which calls are in progress is one that a freshly started kernel can become (`Call.Steps.reached`).

**In such a kernel signals abort only sessions that were opened, and no ticket is left in the queue of an
object that is ready for it** (`Kernel.Reached.opened_of_active`, `Kernel.Reached.apart`).
-/

namespace KernelWait

/-! ## What is done to a notifier -/

namespace SessionTable

variable {t : SessionTable} {id : SessionId}

theorem put_of_get? {n : Notifier} (h : t.get? id = some n) (f : Notifier → Notifier) :
    t.put id (f n) = t.modify id f := by
  refine congrArg SessionTable.mk (List.ext_getElem? fun i => ?_)
  rw [List.getElem?_modify, List.getElem?_modify]
  by_cases hi : id = i
  · subst hi
    rw [get?] at h
    rcases hplace : t.places[id]? with _ | _ | old <;> rw [hplace] at h
    · cases h
    · cases h
    · obtain rfl := Option.some.inj h
      rfl
  · simp only [if_neg hi]

theorem modify_of_none (h : t.get? id = none) (f : Notifier → Notifier) : t.modify id f = t := by
  refine congrArg SessionTable.mk (List.ext_getElem? fun i => ?_)
  rw [List.getElem?_modify]
  by_cases hi : id = i
  · subst hi
    rw [get?] at h
    rcases hplace : t.places[id]? with _ | _ | old <;> rw [hplace] at h
    · rfl
    · simp
    · cases h
  · simp [hi]

theorem abort_eq_modify (t : SessionTable) (id : SessionId) :
    (t.abort id).1 = t.modify id fun n => n.interrupt.1 := by
  rw [abort]
  rcases h : t.get? id with _ | n
  · exact (modify_of_none h _).symm
  · exact put_of_get? h fun n => n.interrupt.1

theorem take_eq_modify (t : SessionTable) (w : Waker) :
    (t.take w).1 = t.modify w.session fun n => (n.take w.slot).1 := by
  rw [take]
  rcases h : t.get? w.session with _ | n
  · exact (modify_of_none h _).symm
  · exact put_of_get? h fun n => (n.take w.slot).1

end SessionTable

theorem Ticket.signals_leave (t : Ticket) (k : Kernel) : (t.leave k).signals = k.signals := by
  rw [leave]
  rcases t.place with _ | ⟨target, token⟩
  · rfl
  · simp only [Kernel.disenroll]
    rcases k.registry.get? target with _ | e <;> rfl

theorem Kernel.sessions_leaveAll (k : Kernel) (tickets : List Ticket) :
    (k.leaveAll tickets).sessions = k.sessions := by
  induction tickets generalizing k with
  | nil => rfl
  | cons ticket tickets ih => exact (ih (ticket.leave k)).trans (ticket.sessions_leave k)

theorem Kernel.signals_leaveAll (k : Kernel) (tickets : List Ticket) :
    (k.leaveAll tickets).signals = k.signals := by
  induction tickets generalizing k with
  | nil => rfl
  | cons ticket tickets ih => exact (ih (ticket.leave k)).trans (ticket.signals_leave k)

theorem SessionTable.nextId_take (t : SessionTable) (w : Waker) :
    (t.take w).1.nextId = t.nextId := by
  rw [take_eq_modify, nextId_modify]

namespace Session

theorem nextId_collect (id : SessionId) (slot : Nat) (tickets : List Ticket) (k : Kernel) :
    (collect id slot tickets k).1.sessions.nextId = k.sessions.nextId := by
  induction tickets generalizing slot k with
  | nil => rfl
  | cons ticket tickets ih =>
    refine (ih _ _).trans ((SessionTable.nextId_take _ _).trans ?_)
    exact congrArg SessionTable.nextId (ticket.sessions_leave k)

theorem nextId_drain (s : Session) (k : Kernel) :
    (s.drain k).1.sessions.nextId = k.sessions.nextId := by
  refine (SessionTable.nextId_modify _ _ _).trans ((nextId_collect _ _ _ _).trans ?_)
  split
  · split
    · exact SessionTable.nextId_modify _ _ _
    · rfl
  · rfl

theorem nextId_close (s : Session) (k : Kernel) :
    (s.close k).sessions.nextId = k.sessions.nextId :=
  (SessionTable.nextId_discard _ _).trans
    (congrArg SessionTable.nextId (k.sessions_leaveAll s.tickets))

theorem nextId_blockSteps (s : Session) (k : Kernel) (b : Block) :
    (s.blockSteps 1 k b).1.sessions.nextId = k.sessions.nextId := by
  rw [blockSteps]
  rcases s.notifier? k with _ | n
  · rfl
  · exact SessionTable.nextId_put _ _ _

end Session

/-- No step of a call opens a session. -/
theorem Call.Steps.nextId_eq {k k' : Kernel} {c : Call} {p : Progress} (h : Steps k c k' p) :
    k'.sessions.nextId = k.sessions.nextId := by
  cases h with
  | found | missing | resolved | registered | concluded | skipped | stopped | polled | approached
  | turned | ignored | full | vanished | overtaken | roused => rfl
  | resolvedQuietly | checked | retired => exact SessionTable.nextId_modify _ _ _
  | aborted => exact (SessionTable.nextId_modify _ _ _).trans (SessionTable.nextId_abort _ _)
  | joined => exact Operation.nextId_effect _ _
  | dozed => exact c.session.nextId_blockSteps k _
  | drained => exact c.session.nextId_drain k
  | hopeless => exact c.session.nextId_close k
  | left =>
    refine (c.session.nextId_close _).trans ?_
    split <;> rfl

namespace Kernel.Reached

variable {handed : List (Target × Token)} {k : Kernel}

/-- An operation that hands out no ticket. -/
theorem operate (h : Reached handed k) (op : Operation) (hbelow : op.Below k.sessions.nextId)
    (hnone : op.handsOut k = []) : Reached handed (op.effect k) := by
  have hoperated := h.operated op hbelow
  rwa [hnone, List.append_nil] at hoperated

theorem leave (h : Reached handed k) (ticket : Ticket) : Reached handed (ticket.leave k) := by
  rcases hplace : ticket.place with _ | ⟨target, token⟩
  · rwa [Ticket.leave_of_none hplace]
  · rw [Ticket.leave_of_some hplace]
    exact h.operate _ trivial rfl

theorem leaveAll (h : Reached handed k) (tickets : List Ticket) :
    Reached handed (k.leaveAll tickets) := by
  induction tickets generalizing k with
  | nil => exact h
  | cons ticket tickets ih => exact ih (h.leave ticket)

theorem collect (h : Reached handed k) (id : SessionId) (slot : Nat) (tickets : List Ticket) :
    Reached handed (Session.collect id slot tickets k).1 := by
  induction tickets generalizing slot k with
  | nil => exact h
  | cons ticket tickets ih =>
    have htaken : Reached handed
        { ticket.leave k with sessions := ((ticket.leave k).sessions.take ⟨id, slot⟩).1 } := by
      rw [SessionTable.take_eq_modify]
      exact (h.leave ticket).touched id _
    exact ih htaken _

theorem drain (h : Reached handed k) (s : Session) : Reached handed (s.drain k).1 := by
  refine (collect ?_ s.id 0 s.tickets).touched s.id _
  split
  · split
    · exact h.touched s.id _
    · exact h
  · exact h

theorem close (h : Reached handed k) (s : Session) : Reached handed (s.close k) :=
  (h.leaveAll s.tickets).discarded s.id

theorem blockSteps (h : Reached handed k) (s : Session) (b : Block) :
    Reached handed (s.blockSteps 1 k b).1 := by
  rw [Session.blockSteps]
  rcases s.notifier? k with _ | n
  · exact h
  · exact h.touched s.id _

/-- No ticket is left in a queue that waits for something the object is ready for. -/
theorem apart (h : Reached handed k) {target : Target} {e : Entity}
    (he : k.registry.get? target = some e) : e.queue.DisjointFrom e.readiness := by
  induction h generalizing e with
  | boot clock => cases he
  | operated _ op _ ih =>
    obtain ⟨-, hnew⟩ | ⟨old, hold, hchange⟩ := (op.effects_effect _).get?_cases he
    · rw [hnew]
      exact fun entry hentry => absurd hentry List.not_mem_nil
    · cases hchange with
      | kept => exact ih hold
      | acted a => exact Entity.disjointFrom_act (ih hold) a _
      | enrolled interest waker => exact (ih hold).enroll interest waker
      | withdrawn token => exact (ih hold).remove token
  | timed _ clock ih => exact ih he
  | opened _ n ih => exact ih he
  | touched _ id f ih => exact ih he
  | discarded _ id ih => exact ih he

end Kernel.Reached

/-- **A step of a call leads from one reached kernel to another**, and every ticket that the call has
after it was handed out, now or before. -/
theorem Call.Steps.reached {handed : List (Target × Token)} {k k' : Kernel} {c : Call} {p : Progress}
    (h : Steps k c k' p) (hreached : k.Reached handed) (hopened : c.session.id < k.sessions.nextId)
    (hplaces : ∀ ticket ∈ c.session.tickets, ∀ place, ticket.place = some place → place ∈ handed) :
    ∃ more, k'.Reached (handed ++ more) ∧ more.length ≤ 1 ∧ ∀ c', p = .running c' →
      ∀ ticket ∈ c'.session.tickets, ∀ place, ticket.place = some place → place ∈ handed ++ more := by
  -- all steps but one hand out nothing
  have hquiet : ∀ {k₁ : Kernel}, k₁.Reached handed →
      (∀ c', p = .running c' → ∀ ticket ∈ c'.session.tickets, ∀ place, ticket.place = some place →
        place ∈ handed) →
      ∃ more, k₁.Reached (handed ++ more) ∧ more.length ≤ 1 ∧ ∀ c', p = .running c' →
        ∀ ticket ∈ c'.session.tickets, ∀ place, ticket.place = some place →
          place ∈ handed ++ more := fun hr hp =>
    ⟨[], by rwa [List.append_nil], Nat.zero_le _, by simpa only [List.append_nil] using hp⟩
  cases h with
  | found | missing | resolved | concluded | skipped | stopped | polled | approached | turned
  | ignored | full | vanished | overtaken | roused =>
    refine hquiet hreached ?_
    rintro c' heq
    obtain rfl := Progress.running.inj heq
    exact hplaces
  | resolvedQuietly | checked | retired =>
    refine hquiet (hreached.touched _ _) ?_
    rintro c' heq
    obtain rfl := Progress.running.inj heq
    exact hplaces
  | registered =>
    refine hquiet (hreached.operate (.register c.thread c.session.id) hopened rfl) ?_
    rintro c' heq
    obtain rfl := Progress.running.inj heq
    exact hplaces
  | aborted =>
    refine hquiet ?_ ?_
    · rw [SessionTable.abort_eq_modify]
      exact (hreached.touched c.session.id _).touched c.session.id _
    · rintro c' heq
      obtain rfl := Progress.running.inj heq
      exact hplaces
  | dozed =>
    refine hquiet (hreached.blockSteps c.session _) ?_
    rintro c' heq
    obtain rfl := Progress.running.inj heq
    exact hplaces
  | @joined slot rest target e _ _ _ hget hunready =>
    have hnew : (c.session.joining target slot.watch.reportable).handsOut k =
        [(target, e.queue.nextToken)] := by
      rw [Session.joining, Operation.handsOut_enroll hget, if_pos hunready]
    refine ⟨_, hreached.operated _ hopened, Operation.length_handsOut_le _ _, ?_⟩
    rintro c' heq ticket hticket place hplace
    obtain rfl := Progress.running.inj heq
    rcases List.mem_append.1 hticket with hold | hadded
    · exact List.mem_append_left _ (hplaces ticket hold place hplace)
    · obtain rfl := List.mem_singleton.1 hadded
      obtain rfl := Option.some.inj hplace
      rw [hnew]
      exact List.mem_append_right _ (List.mem_singleton.2 rfl)
  | drained =>
    refine hquiet (hreached.drain c.session) ?_
    rintro c' heq ticket hticket place hplace
    obtain rfl := Progress.running.inj heq
    obtain ⟨old, -, rfl⟩ := List.mem_map.1 hticket
    cases hplace
  | hopeless =>
    refine hquiet (hreached.close c.session) ?_
    rintro c' ⟨⟩
  | left =>
    refine hquiet (Kernel.Reached.close ?_ c.session) ?_
    · split
      · exact hreached.operate (.unregister c.thread) trivial rfl
      · exact hreached
    · rintro c' ⟨⟩

/-! ## Whom signals abort -/

namespace Kernel

theorem signals_act (k : Kernel) (target : Target) (a : Object.Action) :
    (k.act target a).1.signals = k.signals := by
  rw [act]
  rcases k.registry.get? target with _ | e <;> rfl

theorem signals_remove (k : Kernel) (kind : Kind) (id : ObjectId) (last : Object.Action) :
    (k.remove kind id last).1.signals = k.signals := by
  rw [remove]
  rcases k.registry.resolve kind id with cause | target
  · rfl
  · exact signals_act _ _ _

theorem signals_exitThread (k : Kernel) (id : ObjectId) (status : Int32) :
    (k.exitThread id status).1.signals = k.signals := by
  rw [kernel_exitThread]
  rcases k.registry.resolve .thread id with cause | target
  · rfl
  · exact signals_act _ _ _

theorem signals_reapThread (k : Kernel) (id : ObjectId) :
    (k.reapThread id).1.signals = k.signals := by
  rw [reapThread]
  rcases k.registry.resolve .thread id with cause | target
  · rfl
  · simp only
    split <;> rfl

/-- Aborting a wait changes nothing about any thread. -/
theorem get_interruptActive (k : Kernel) (thread other : ThreadId) :
    (k.interruptActive thread).signals.get other = k.signals.get other := by
  rw [interruptActive]
  rcases (k.signals.get thread).activeWait with _ | session
  · rfl
  · simp only [interrupt]
    split <;> rfl

end Kernel

theorem SignalTable.activeWait_put (t : SignalTable) (thread : ThreadId) (s : ThreadSignals)
    (h : s.activeWait = (t.get thread).activeWait) (other : ThreadId) :
    ((t.put thread s).get other).activeWait = (t.get other).activeWait := by
  by_cases hto : other = thread
  · subst hto
    rw [get_put_self, h]
  · rw [get_put_ne hto]

theorem SignalTable.activeWait_enqueue {t s : SignalTable} {thread : ThreadId} {p : PendingSignal}
    (h : t.enqueue thread p = .ok s) (other : ThreadId) :
    (s.get other).activeWait = (t.get other).activeWait := by
  simp only [enqueue] at h
  split at h
  · cases h
  · obtain rfl := Except.ok.inj h
    exact activeWait_put t thread { t.get thread with pending := (t.get thread).pending ++ [p] } rfl
      other

theorem SignalTable.activeWait_unblock (t : SignalTable) (thread : ThreadId) (signal : Signal)
    (other : ThreadId) :
    ((t.unblock thread signal).get other).activeWait = (t.get other).activeWait :=
  activeWait_put t thread ((t.get thread).unblock signal) rfl other

namespace Operation

/-- The session that signals to a thread abort after an operation. -/
def activeAfter (thread : ThreadId) (before : Option SessionId) : Operation → Option SessionId
  | register other session => if thread = other then some session else before
  | unregister other => if thread = other then none else before
  | cleanup other => if thread = other then none else before
  | _ => before

/-- Only registration and its end decide whom signals abort. -/
theorem activeWait_effect (op : Operation) (k : Kernel) (thread : ThreadId) :
    ((op.effect k).signals.get thread).activeWait =
      op.activeAfter thread (k.signals.get thread).activeWait := by
  cases op with
  | act target action =>
    rw [effect_act, Kernel.signals_act]
    rfl
  | enroll target interest waker =>
    simp only [effect, run, Kernel.enroll]
    rcases k.registry.get? target with _ | e <;> rfl
  | disenroll target token =>
    simp only [effect, run, Kernel.disenroll]
    rcases k.registry.get? target with _ | e <;> rfl
  | deleteSemaphore id | deletePort id | closeEndpoint id =>
    exact congrArg (fun t => (t.get thread).activeWait) (k.signals_remove _ id _)
  | exitThread id status =>
    exact congrArg (fun t => (t.get thread).activeWait) (k.signals_exitThread id status)
  | reapThread id => exact congrArg (fun t => (t.get thread).activeWait) (k.signals_reapThread id)
  | send sender receiver signal =>
    simp only [effect, run, Kernel.send]
    rcases hqueued : k.signals.enqueue receiver ⟨signal, sender, k.clock.stamp⟩ with cause | s
    · rfl
    · simp only
      split
      · rw [Kernel.get_interruptActive]
        exact SignalTable.activeWait_enqueue hqueued thread
      · exact SignalTable.activeWait_enqueue hqueued thread
  | block other signal =>
    simp only [effect, run, Kernel.block, SignalTable.block]
    by_cases hcatch : signal.canCatch = true
    · rw [if_pos hcatch]
      refine SignalTable.activeWait_put _ _ _ ?_ thread
      simp only [ThreadSignals.block]
      split <;> rfl
    · rw [if_neg hcatch]
      rfl
  | unblock other signal =>
    simp only [effect, run, Kernel.unblock]
    split
    · rw [Kernel.get_interruptActive]
      exact SignalTable.activeWait_unblock _ _ _ thread
    · exact SignalTable.activeWait_unblock _ _ _ thread
  | take other =>
    exact SignalTable.activeWait_put k.signals other (k.signals.get other).takeDeliverable.1 rfl thread
  | clear other =>
    exact SignalTable.activeWait_put k.signals other { k.signals.get other with pending := [] } rfl
      thread
  | cleanup other =>
    simp only [effect, run, SignalTable.cleanup, activeAfter]
    by_cases hto : thread = other
    · subst hto
      rw [SignalTable.get_forget_self, if_pos rfl]
    · rw [SignalTable.get_forget_ne hto, if_neg hto]
  | register other session =>
    simp only [effect, run, SignalTable.register, activeAfter]
    by_cases hto : thread = other
    · subst hto
      rw [SignalTable.get_put_self, if_pos rfl]
    · rw [SignalTable.get_put_ne hto, if_neg hto]
  | unregister other =>
    simp only [effect, run, SignalTable.unregister, activeAfter]
    by_cases hto : thread = other
    · subst hto
      rw [SignalTable.get_put_self, if_pos rfl]
    · rw [SignalTable.get_put_ne hto, if_neg hto]
  | create blueprint | tell | elapse nanos => rfl

/-- Only registration makes signals abort a session. -/
theorem activeAfter_cases {op : Operation} {thread : ThreadId} {before : Option SessionId}
    {session : SessionId} (h : op.activeAfter thread before = some session) :
    before = some session ∨ op = .register thread session := by
  cases op with
  | register other s =>
    rw [activeAfter] at h
    split at h
    · next hto =>
      subst hto
      obtain rfl := Option.some.inj h
      exact .inr rfl
    · exact .inl h
  | unregister other | cleanup other =>
    rw [activeAfter] at h
    split at h
    · cases h
    · exact .inl h
  | _ => exact .inl h

end Operation

/-- Signals abort only sessions that were opened. -/
theorem Kernel.Reached.opened_of_active {handed : List (Target × Token)} {k : Kernel}
    (h : k.Reached handed) {thread : ThreadId} {session : SessionId}
    (hactive : (k.signals.get thread).activeWait = some session) : session < k.sessions.nextId := by
  induction h with
  | boot clock => cases hactive
  | operated _ op hbelow ih =>
    rw [op.activeWait_effect] at hactive
    rw [op.nextId_effect]
    obtain hbefore | rfl := Operation.activeAfter_cases hactive
    · exact ih hbefore
    · exact hbelow
  | timed _ clock ih => exact ih hactive
  | opened _ n ih =>
    rw [SessionTable.nextId_add]
    exact Nat.lt_succ_of_lt (ih hactive)
  | touched _ id f ih =>
    rw [SessionTable.nextId_modify]
    exact ih hactive
  | discarded _ id ih =>
    rw [SessionTable.nextId_discard]
    exact ih hactive

end KernelWait
