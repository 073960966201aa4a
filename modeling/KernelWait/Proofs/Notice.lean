import KernelWait.Proofs.Reflection

/-!
# What the owner of a session notices

Until it drains, the owner of a session does not ask which slots hold something. It notices that its
session was aborted or has expired, and that there is a signal on its event (`Notifier.outline`), and an
announcement leaves that signal if it meets any ticket of the session, no matter which.

**If the world is the same in two kernels and the same announcements would meet the session, its owner
goes on to notice the same in both** (`Kernel.Echoes.outline_effect`).
-/

namespace KernelWait

namespace Notifier

/-- The notifier without what was latched. -/
def outline (n : Notifier) : Notifier := { n with latched := [], latchedSlots := 0 }

theorem outline_wakeOwner (n : Notifier) : n.wakeOwner.outline = n.outline.wakeOwner := by
  rw [wakeOwner, wakeOwner, show n.outline.phase = n.phase from rfl]
  split <;> rfl

theorem wakeOwner_wakeOwner (n : Notifier) : n.wakeOwner.wakeOwner = n.wakeOwner := by
  by_cases hwakes : n.phase.wakes = true <;> simp [wakeOwner, hwakes, signal, WakeEvent.signal]

theorem outline_interrupt (n : Notifier) : n.interrupt.1.outline = n.outline.interrupt.1 := by
  rw [interrupt, interrupt, show n.outline.phase = n.phase from rfl,
    show n.outline.interrupted = n.interrupted from rfl]
  split <;> rfl

theorem outline_expire (n : Notifier) : n.expire.1.outline = n.outline.expire.1 := by
  rw [expire, expire, show n.outline.phase = n.phase from rfl,
    show n.outline.timedOut = n.timedOut from rfl]
  split <;> rfl

/-- An owner that notices the same has the same reason to go on. -/
theorem verdict?_congr {n n' : Notifier} (hlatched : n.anyLatched = n'.anyLatched)
    (h : n.outline = n'.outline) : n.verdict? = n'.verdict? := by
  have hinterrupted : n.interrupted = n'.interrupted := congrArg (·.interrupted) h
  have htimedOut : n.timedOut = n'.timedOut := congrArg (·.timedOut) h
  rw [verdict?, verdict?, hlatched, hinterrupted, htimedOut]

/-- A latch into a slot that is there is noticed, unless it is of nothing. -/
theorem outline_latch {n : Notifier} {slot : Nat} (hslot : slot < n.latched.length) {events : Events}
    (hne : events ≠ ∅) : (n.latch slot events).1.outline = n.outline.wakeOwner := by
  obtain ⟨hrefused, heq⟩ | ⟨held, -, -, -, heq⟩ := n.latch_cases slot events
  · obtain hdone | hempty | hnone := hrefused
    · -- nobody is woken any more
      have hwakes : ¬n.outline.phase.wakes = true := by
        rw [show n.outline.phase = n.phase from rfl, hdone]
        decide
      rw [heq, wakeOwner, if_neg hwakes]
    · exact absurd hempty hne
    · exact absurd hslot (Nat.not_lt.2 (List.getElem?_eq_none_iff.1 hnone))
  · rw [heq, outline_wakeOwner]
    rfl

end Notifier

/-- **A blocked owner that notices the same goes on in the same way.** -/
theorem Block.step_congr {n n' : Notifier} (hlatched : n.anyLatched = n'.anyLatched)
    (h : n.outline = n'.outline) (deadline : Deadline) (now : Moment) (b : Block) :
    (step deadline now n b).1.outline = (step deadline now n' b).1.outline ∧
      (step deadline now n b).2 = (step deadline now n' b).2 := by
  cases b with
  | looking =>
    rw [step, step, Notifier.verdict?_congr hlatched h]
    split
    · exact ⟨h, rfl⟩
    · exact ⟨h, rfl⟩
  | parked =>
    have hevent : n.event = n'.event := congrArg (·.event) h
    have hused : ∀ event, Notifier.outline { n with event := event } =
        Notifier.outline { n' with event := event } := fun event =>
      congrArg (fun m : Notifier => { m with event := event }) h
    rw [step, step, hevent]
    rcases n'.event.poll deadline now with _ | ⟨event, _ | _⟩
    · exact ⟨h, rfl⟩
    · exact ⟨hused event, rfl⟩
    · refine ⟨?_, rfl⟩
      simp only [Notifier.outline_expire, hused event]
  | finished v => exact ⟨h, rfl⟩

namespace WaitQueue

/-- An announcement meets a ticket of a session. -/
def meets (id : SessionId) (events : Events) (q : WaitQueue) : Bool :=
  (q.waiting id).any fun p => p.2 ∩ events != ∅

/-- **The owner notices an announcement that meets a ticket of its session**, and no other. -/
theorem outline_latchAll {id : SessionId} {q : WaitQueue} {n : Notifier}
    (hroom : ∀ p ∈ q.waiting id, p.1 < n.latched.length) (events : Events) :
    (n.latchAll id events q.entries).outline =
      if q.meets id events then n.outline.wakeOwner else n.outline := by
  rw [latchAll_eq, meets]
  generalize q.waiting id = ps at hroom
  -- once the owner is woken, further latches make no difference to it
  induction ps generalizing n with
  | nil => rfl
  | cons p ps ih =>
    rw [List.foldl_cons, List.any_cons]
    by_cases hmet : p.2 ∩ events = ∅
    · rw [if_neg (not_not_intro hmet), ih fun p' hp' => hroom p' (List.mem_cons_of_mem p hp'), hmet,
        bne_self_eq_false, Bool.false_or]
    · have hlatched : (n.latch p.1 (p.2 ∩ events)).1.outline = n.outline.wakeOwner :=
        Notifier.outline_latch (hroom p List.mem_cons_self) hmet
      have hrest : ∀ p' ∈ ps, p'.1 < (n.latch p.1 (p.2 ∩ events)).1.latched.length := by
        intro p' hp'
        rw [Notifier.length_latched_latch]
        exact hroom p' (List.mem_cons_of_mem p hp')
      have hp : (p.2 ∩ events != ∅) = true := bne_iff_ne.2 hmet
      rw [if_pos hmet, ih hrest, hlatched, Notifier.wakeOwner_wakeOwner, ite_self, hp, Bool.true_or,
        if_pos rfl]

end WaitQueue

namespace Kernel

/-- An announcement of an object would meet a ticket of a session. -/
def meets (id : SessionId) (k : Kernel) (target : Target) (events : Events) : Bool :=
  (k.waiting id target).any fun p => p.2 ∩ events != ∅

theorem meets_of_get? {id : SessionId} {k : Kernel} {target : Target} {e : Entity}
    (h : k.registry.get? target = some e) (events : Events) :
    k.meets id target events = e.queue.meets id events := by
  rw [meets, waiting_of_get? h, WaitQueue.meets]

theorem sessions_disenroll (k : Kernel) (target : Target) (token : Token) :
    (Operation.effect k (.disenroll target token)).sessions = k.sessions := by
  simp only [Operation.effect, Operation.run, disenroll]
  split <;> rfl

theorem sessions_reapThread (k : Kernel) (number : ObjectId) :
    (Operation.effect k (.reapThread number)).sessions = k.sessions := by
  simp only [Operation.effect, Operation.run, reapThread]
  split
  · rfl
  · split <;> rfl

theorem sessions_block (k : Kernel) (thread : ThreadId) (signal : Signal) :
    (Operation.effect k (.block thread signal)).sessions = k.sessions := by
  simp only [Operation.effect, Operation.run, block]
  split <;> rfl

/-- The owner of a session cannot tell two kernels apart, nor could it if one of their objects were
announced. -/
structure Echoes (id : SessionId) (k k' : Kernel) : Prop where
  /-- the same announcements meet the session -/
  meets : ∀ target events, k.meets id target events = k'.meets id target events
  /-- signals to the same threads abort it -/
  active : ∀ thread, (k.signals.get thread).activeWait = some id ↔
    (k'.signals.get thread).activeWait = some id
  /-- the owner notices the same -/
  outline : (k.sessions.get? id).map Notifier.outline = (k'.sessions.get? id).map Notifier.outline
  /-- there is a slot for each of its tickets in the one -/
  room : ∀ n, k.sessions.get? id = some n → ∀ target, ∀ p ∈ k.waiting id target, p.1 < n.latched.length
  /-- and in the other -/
  room' : ∀ n, k'.sessions.get? id = some n → ∀ target, ∀ p ∈ k'.waiting id target,
    p.1 < n.latched.length

namespace Echoes

variable {id : SessionId} {k k' : Kernel} (h : Echoes id k k') (hworld : k.SameWorld k')

include h

theorem outline_interruptActive (thread : ThreadId) :
    ((k.interruptActive thread).sessions.get? id).map Notifier.outline =
      ((k'.interruptActive thread).sessions.get? id).map Notifier.outline := by
  have hinterrupt : Notifier.outline ∘ (fun n => n.interrupt.1) =
      (fun n => n.interrupt.1) ∘ Notifier.outline := funext Notifier.outline_interrupt
  simp only [get?_interruptActive, h.active thread]
  split
  · rw [Option.map_map, Option.map_map, hinterrupt, ← Option.map_map, ← Option.map_map, h.outline]
  · exact h.outline

include hworld

/-- An object is announced in both kernels, or in neither. -/
theorem outline_act (target : Target) (a : Object.Action) :
    ((k.act target a).1.sessions.get? id).map Notifier.outline =
      ((k'.act target a).1.sessions.get? id).map Notifier.outline := by
  obtain ⟨hnone, hnone'⟩ | ⟨e, e', he, he', hbare⟩ :=
    Registry.get?_cases_of_bare hworld.objects target
  · simp only [Kernel.act, hnone, hnone']
    exact h.outline
  · simp only [Kernel.act, he, he', Entity.act, Entity.object_congr hbare]
    rcases e'.object.perform a with _ | r
    · exact h.outline
    · simp only [Entity.settle]
      by_cases htold : r.announces = true
      · rw [if_pos htold, if_pos htold]
        simp only [WaitQueue.get?_notify]
        have houtline := h.outline
        rcases hn : k.sessions.get? id with _ | n <;> rcases hn' : k'.sessions.get? id with _ | n' <;>
          rw [hn, hn'] at houtline
        · rfl
        · cases houtline
        · cases houtline
        · have hroom := h.room n hn target
          have hroom' := h.room' n' hn' target
          rw [waiting_of_get? he] at hroom
          rw [waiting_of_get? he'] at hroom'
          have hmeets := h.meets target r.object.readiness
          rw [meets_of_get? he, meets_of_get? he'] at hmeets
          have hsame : n.outline = n'.outline := Option.some.inj houtline
          simp only [Option.map_some, WaitQueue.outline_latchAll hroom,
            WaitQueue.outline_latchAll hroom', hmeets, hsame]
      · rw [if_neg htold, if_neg htold]
        exact h.outline

theorem outline_remove (kind : Kind) (number : ObjectId) (last : Object.Action) :
    ((k.remove kind number last).1.sessions.get? id).map Notifier.outline =
      ((k'.remove kind number last).1.sessions.get? id).map Notifier.outline := by
  simp only [Kernel.remove, Registry.resolve_congr hworld.objects]
  rcases k'.registry.resolve kind number with cause | target
  · exact h.outline
  · have hunlisted : Echoes id { k with registry := k.registry.unlist kind number }
        { k' with registry := k'.registry.unlist kind number } :=
      ⟨h.meets, h.active, h.outline, h.room, h.room'⟩
    exact hunlisted.outline_act
      (hworld.replace (Registry.unlist_bare_congr hworld.objects kind number)) target last

theorem outline_exitThread (number : ObjectId) (status : Int32) :
    ((k.exitThread number status).1.sessions.get? id).map Notifier.outline =
      ((k'.exitThread number status).1.sessions.get? id).map Notifier.outline := by
  rw [kernel_exitThread, kernel_exitThread, Registry.resolve_congr hworld.objects]
  rcases k'.registry.resolve .thread number with cause | target
  · exact h.outline
  · exact h.outline_act hworld target (.thread (.exit status))

theorem outline_send (sender receiver : ThreadId) (signal : Signal) :
    ((k.send sender receiver signal).1.sessions.get? id).map Notifier.outline =
      ((k'.send sender receiver signal).1.sessions.get? id).map Notifier.outline := by
  simp only [Kernel.send]
  obtain ⟨cause, hrefused, hrefused'⟩ | ⟨s, s', hqueued, hqueued', -, hdelivers⟩ :=
    hworld.signals.enqueue receiver ⟨signal, sender, k.clock.stamp⟩ ⟨signal, sender, k'.clock.stamp⟩
  · rw [hrefused, hrefused']
    exact h.outline
  · have hqueue : Echoes id { k with signals := s, clock := k.clock.read }
        { k' with signals := s', clock := k'.clock.read } := by
      refine ⟨h.meets, fun thread => ?_, h.outline, h.room, h.room'⟩
      rw [SignalTable.activeWait_enqueue hqueued, SignalTable.activeWait_enqueue hqueued']
      exact h.active thread
    -- whether the signal is delivered is a matter of the world
    rw [hqueued, hqueued']
    simp only [hdelivers signal]
    split
    · exact hqueue.outline_interruptActive receiver
    · exact h.outline

theorem outline_unblock (thread : ThreadId) (signal : Signal) :
    ((k.unblock thread signal).sessions.get? id).map Notifier.outline =
      ((k'.unblock thread signal).sessions.get? id).map Notifier.outline := by
  have hfreed : Echoes id { k with signals := k.signals.unblock thread signal }
      { k' with signals := k'.signals.unblock thread signal } := by
    refine ⟨h.meets, fun other => ?_, h.outline, h.room, h.room'⟩
    rw [SignalTable.activeWait_unblock, SignalTable.activeWait_unblock]
    exact h.active other
  simp only [Kernel.unblock, (hworld.signals.unblock thread signal thread).1]
  split
  · exact hfreed.outline_interruptActive thread
  · exact h.outline

/-- **Whatever threads do to both kernels, the owner of a session notices the same.** -/
theorem outline_effect (op : Operation) :
    ((op.effect k).sessions.get? id).map Notifier.outline =
      ((op.effect k').sessions.get? id).map Notifier.outline := by
  cases op with
  | act target action =>
    rw [Operation.effect_act, Operation.effect_act]
    exact h.outline_act hworld target action
  | enroll target interest waker =>
    rw [sessions_enroll, sessions_enroll]
    exact h.outline
  | disenroll target token =>
    rw [sessions_disenroll, sessions_disenroll]
    exact h.outline
  | deleteSemaphore number => exact h.outline_remove hworld .semaphore number _
  | deletePort number => exact h.outline_remove hworld .port number _
  | closeEndpoint number => exact h.outline_remove hworld .endpoint number _
  | exitThread number status => exact h.outline_exitThread hworld number status
  | reapThread number =>
    rw [sessions_reapThread, sessions_reapThread]
    exact h.outline
  | send sender receiver signal => exact h.outline_send hworld sender receiver signal
  | unblock thread signal => exact h.outline_unblock hworld thread signal
  | block thread signal =>
    rw [sessions_block, sessions_block]
    exact h.outline
  | create | take | clear | cleanup | register | unregister | tell | elapse => exact h.outline

end Echoes

end Kernel

end KernelWait
