import KernelWait.Proofs.Effects
import KernelWait.Proofs.Standing

/-!
# Sessions that are over

A session that is done, or gone, can still be knocked at: its entries may wait in a queue, a signal may
know its number, its timer may run out.

**A session that is over is unreachable** (`SessionTable.Ended.unreachable`): nothing that happens from
outside changes it, and nobody is told that it was woken.
-/

namespace KernelWait

namespace Notifier

variable {n : Notifier} (h : n.phase = .done)

include h

theorem latch_of_done (slot : Nat) (events : Events) : n.latch slot events = (n, false) := by
  rw [latch, if_pos (.inl h)]

theorem interrupt_of_done : n.interrupt = (n, false) := by
  rw [interrupt, h, if_neg fun hwakes => Bool.noConfusion hwakes.1]

theorem expire_of_done : n.expire = (n, false) := by
  rw [expire, h, if_neg fun hwakes => Bool.noConfusion hwakes.1]

theorem latchAll_of_done (id : SessionId) (events : Events) (entries : List QueueEntry) :
    n.latchAll id events entries = n := by
  apply latchAll_induction (motive := fun m => m = n) rfl
  rintro m entry - - rfl
  rw [latch_of_done h]

end Notifier

/-- The queue without the entries of a session. -/
def WaitQueue.without (id : SessionId) (q : WaitQueue) : WaitQueue :=
  { q with entries := q.entries.filter (·.waker.session != id) }

namespace SessionTable

variable {t : SessionTable} {id : SessionId}

/-- The session is gone, or its life is over. -/
def Ended (t : SessionTable) (id : SessionId) : Prop := ∀ n, t.get? id = some n → n.phase = .done

/-- Nothing reaches a session: whoever tries changes nothing and is told so, and it is never counted
among those that an announcement has woken. -/
structure Deaf (t : SessionTable) (id : SessionId) : Prop where
  /-- no ticket of it is woken -/
  wakes : ∀ slot events, t.wake ⟨id, slot⟩ events = (t, false)
  /-- it is not aborted -/
  aborts : t.abort id = (t, false)
  /-- it does not expire -/
  expires : t.expire id = (t, false)
  /-- its entries, if there are any left in a queue, are not counted -/
  unheard : ∀ (q : WaitQueue) (events : Events),
    (q.notify events t).2.2 = ((q.without id).notify events t).2.2

theorem put_get? {n : Notifier} (h : t.get? id = some n) : t.put id n = t := by
  rw [put_of_get? h fun m => m, modify]
  refine congrArg SessionTable.mk (List.ext_getElem? fun i => ?_)
  rw [List.getElem?_modify]
  rcases t.places[i]? with _ | _ | m <;> simp

theorem Ended.wake (h : t.Ended id) (slot : Nat) (events : Events) :
    t.wake ⟨id, slot⟩ events = (t, false) := by
  rw [SessionTable.wake]
  rcases hget : t.get? id with _ | n
  · rfl
  · simp only [Notifier.latch_of_done (h n hget), put_get? hget]

theorem Ended.abort (h : t.Ended id) : t.abort id = (t, false) := by
  rw [SessionTable.abort]
  rcases hget : t.get? id with _ | n
  · rfl
  · simp only [Notifier.interrupt_of_done (h n hget), put_get? hget]

theorem Ended.expire (h : t.Ended id) : t.expire id = (t, false) := by
  rw [SessionTable.expire]
  rcases hget : t.get? id with _ | n
  · rfl
  · simp only [Notifier.expire_of_done (h n hget), put_get? hget]

/-- Waking a ticket of another session does not revive this one. -/
theorem Ended.of_wake (h : t.Ended id) (w : Waker) (events : Events) :
    (t.wake w events).1.Ended id := by
  intro n hn
  by_cases hid : id = w.session
  · obtain ⟨session, slot⟩ := w
    obtain rfl : id = session := hid
    rw [h.wake] at hn
    exact h n hn
  · rw [get?_wake_ne hid] at hn
    exact h n hn

theorem Ended.sweep (h : t.Ended id) (events : Events) (entries : List QueueEntry) :
    (WaitQueue.sweep events entries t).2.2 =
      (WaitQueue.sweep events (entries.filter (·.waker.session != id)) t).2.2 := by
  induction entries generalizing t with
  | nil => rfl
  | cons entry entries ih =>
    obtain ⟨token, interest, session, slot⟩ := entry
    by_cases hid : session = id
    · subst hid
      have hskip : (⟨token, interest, session, slot⟩ :: entries).filter (·.waker.session != session) =
          entries.filter (·.waker.session != session) :=
        List.filter_cons_of_neg (by simp)
      rw [hskip, ← ih h, WaitQueue.sweep]
      split
      · rfl
      · simp only [h.wake, Bool.false_eq_true, if_false]
    · have hkeep : (⟨token, interest, session, slot⟩ :: entries).filter (·.waker.session != id) =
          ⟨token, interest, session, slot⟩ :: entries.filter (·.waker.session != id) :=
        List.filter_cons_of_pos (bne_iff_ne.2 hid)
      rw [hkeep, WaitQueue.sweep, WaitQueue.sweep]
      split
      · exact ih h
      · simp only [ih (h.of_wake _ _)]

/-- **A session that is over is deaf.** -/
theorem Ended.deaf (h : t.Ended id) : t.Deaf id where
  wakes := h.wake
  aborts := h.abort
  expires := h.expire
  unheard q events := by
    rw [WaitQueue.notify, WaitQueue.notify]
    split
    · rfl
    · exact h.sweep events q.entries

theorem get?_expire_ne {other : SessionId} (hne : id ≠ other) (t : SessionTable) :
    (t.expire other).1.get? id = t.get? id := by
  rw [expire]
  rcases t.get? other with _ | n
  · rfl
  · exact get?_put_ne hne t _

theorem Ended.get?_abort (h : t.Ended id) (other : SessionId) :
    (t.abort other).1.get? id = t.get? id := by
  by_cases hid : id = other
  · subst hid
    rw [h.abort]
  · exact get?_abort_ne hid t

theorem Ended.get?_expire (h : t.Ended id) (other : SessionId) :
    (t.expire other).1.get? id = t.get? id := by
  by_cases hid : id = other
  · subst hid
    rw [h.expire]
  · exact get?_expire_ne hid t

theorem Ended.get?_wake (h : t.Ended id) (w : Waker) (events : Events) :
    (t.wake w events).1.get? id = t.get? id := by
  by_cases hid : id = w.session
  · subst hid
    rw [h.wake]
  · exact get?_wake_ne hid t events

theorem Ended.get?_notify (h : t.Ended id) (events : Events) (q : WaitQueue) :
    (q.notify events t).2.1.get? id = t.get? id := by
  rw [WaitQueue.get?_notify]
  rcases hget : t.get? id with _ | n
  · rfl
  · rw [Option.map_some, Notifier.latchAll_of_done (h n hget)]

end SessionTable

/-- No operation changes a session that is over. -/
theorem Operation.get?_effect_of_ended (op : Operation) {k : Kernel} {id : SessionId}
    (h : k.sessions.Ended id) : (op.effect k).sessions.get? id = k.sessions.get? id := by
  cases op.effects_effect k with
  | still _ hsessions | created _ _ _ hsessions | enrolled _ _ _ _ _ _ hsessions
  | withdrawn _ _ _ _ _ hsessions => rw [hsessions]
  | aborted other _ hsessions =>
    rw [hsessions]
    exact h.get?_abort other
  | acted target e a _ _ hsessions =>
    rw [hsessions]
    obtain ⟨-, hsame, -⟩ | ⟨-, hnotified⟩ := e.act_cases a k.sessions
    · rw [hsame]
    · rw [hnotified]
      exact h.get?_notify _ _

/-- One thing that can happen to sessions from outside. -/
inductive Knock where
  /-- a thread carries out an operation -/
  | operation (op : Operation)
  /-- a session is aborted -/
  | abort (id : SessionId)
  /-- a session expires -/
  | expire (id : SessionId)
  /-- a ticket is woken -/
  | wake (waker : Waker) (events : Events)
  deriving DecidableEq, Repr

namespace Knock

/-- The kernel after one of them. -/
def effect (k : Kernel) : Knock → Kernel
  | operation op => op.effect k
  | abort id => { k with sessions := (k.sessions.abort id).1 }
  | expire id => { k with sessions := (k.sessions.expire id).1 }
  | wake waker events => { k with sessions := (k.sessions.wake waker events).1 }

/-- The kernel after a number of them. -/
def runAll (k : Kernel) (knocks : List Knock) : Kernel := knocks.foldl effect k

variable {k : Kernel} {id : SessionId}

theorem get?_effect_of_ended (knock : Knock) (h : k.sessions.Ended id) :
    (knock.effect k).sessions.get? id = k.sessions.get? id := by
  cases knock with
  | operation op => exact op.get?_effect_of_ended h
  | abort other => exact h.get?_abort other
  | expire other => exact h.get?_expire other
  | wake waker events => exact h.get?_wake waker events

theorem get?_runAll_of_ended (knocks : List Knock) (h : k.sessions.Ended id) :
    (runAll k knocks).sessions.get? id = k.sessions.get? id := by
  induction knocks generalizing k with
  | nil => rfl
  | cons knock knocks ih =>
    have hget := knock.get?_effect_of_ended h
    have hended : (knock.effect k).sessions.Ended id := fun n hn => h n (hget.symm.trans hn)
    exact (ih hended).trans hget

end Knock

/-- Whatever happens from outside, the session stays as it is, and nothing reaches it. -/
def Kernel.Unreachable (k : Kernel) (id : SessionId) : Prop :=
  ∀ knocks, (Knock.runAll k knocks).sessions.get? id = k.sessions.get? id ∧
    (Knock.runAll k knocks).sessions.Deaf id

theorem SessionTable.Ended.unreachable {k : Kernel} {id : SessionId} (h : k.sessions.Ended id) :
    k.Unreachable id := by
  intro knocks
  have hget := Knock.get?_runAll_of_ended knocks h
  have hended : (Knock.runAll k knocks).sessions.Ended id := fun n hn => h n (hget.symm.trans hn)
  exact ⟨hget, hended.deaf⟩

namespace Session

/-- A session that is let go of is gone. -/
theorem get?_close (k : Kernel) (s : Session) : (s.close k).sessions.get? s.id = none :=
  SessionTable.get?_discard_self _ _

theorem ended_close (k : Kernel) (s : Session) : (s.close k).sessions.Ended s.id := by
  intro n hn
  cases (s.get?_close k).symm.trans hn

end Session

end KernelWait
