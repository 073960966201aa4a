import KernelWait.Proofs.Announcement

/-!
# No missed wakeup

An object that becomes ready for more announces what it is ready for, and an announcement leaves only
those entries in the queue that it does not meet. An object that says nothing is ready for no more
than before (`Object.readiness_subset_of_quiet`).

**Every entry left in an object's queue waits for something that the object is not ready for**, in
every state that the object's operations lead to (`Entity.disjointFrom_after`).
-/

namespace KernelWait

/-! ## Who says nothing is ready for no more -/

/-- What an acquisition leaves can be acquired only if there was something before. -/
theorem Semaphore.pos_of_acquire {s s' : Semaphore} {n : Int32} (h : s.acquire n = .ok s') :
    0 < s.count ∧ s'.deleted = s.deleted := by
  rw [acquire, refusal?] at h
  split at h
  · cases h
  · next hnone =>
    by_cases hn : n ≤ 0
    · rw [if_pos hn] at hnone
      cases hnone
    · by_cases hless : s.count < n
      · rw [if_pos hless] at h
        cases h
      · rw [if_neg hless] at h
        obtain rfl := Except.ok.inj h
        rw [Int32.not_le] at hn
        rw [Int32.not_lt] at hless
        exact ⟨Int32.lt_of_lt_of_le hn hless, rfl⟩

/-- Acquiring makes a semaphore ready for no more. -/
theorem Semaphore.readiness_subset_of_acquire {s s' : Semaphore} {n : Int32}
    (h : s.acquire n = .ok s') : s'.readiness ⊆ s.readiness := by
  obtain ⟨hpos, hdeleted⟩ := pos_of_acquire h
  simp only [readiness]
  rw [hdeleted, if_pos hpos]
  by_cases hd : s.deleted = true
  · rw [if_pos hd, if_pos hd]
    exact Events.subset_refl _
  · rw [if_neg hd, if_neg hd]
    by_cases hpos' : 0 < s'.count
    · rw [if_pos hpos']
      exact Events.subset_refl _
    · rw [if_neg hpos']
      exact Events.empty_subset _

theorem Semaphore.readiness_subset_of_quiet {s : Semaphore} {a : Action}
    (hquiet : (s.perform a).announces = false) : (s.perform a).object.readiness ⊆ s.readiness := by
  cases a with
  | release n =>
    rcases h : s.release n with cause | s'
    · rw [perform, h]
      exact Events.subset_refl _
    · rw [perform, h] at hquiet
      cases hquiet
  | acquire n =>
    rcases h : s.acquire n with cause | s'
    · rw [perform, h]
      exact Events.subset_refl _
    · rw [perform, h]
      exact readiness_subset_of_acquire h
  | delete =>
    by_cases hd : s.deleted = true
    · rw [perform, if_pos hd]
      exact Events.subset_refl _
    · rw [perform, if_neg hd] at hquiet
      cases hquiet

theorem Port.readiness_subset_of_quiet {p : Port} {a : Action}
    (hquiet : (p.perform a).announces = false) : (p.perform a).object.readiness ⊆ p.readiness := by
  cases a with
  | send message =>
    rcases h : p.send message with cause | p'
    · rw [perform, h]
      exact Events.subset_refl _
    · rw [perform, h] at hquiet
      cases hquiet
  | receive =>
    rcases h : p.receive with cause | ⟨message, p'⟩
    · rw [perform, h]
      exact Events.subset_refl _
    · rw [perform, h] at hquiet
      cases hquiet
  | close =>
    by_cases hc : p.closed = true
    · rw [perform, if_pos hc]
      exact Events.subset_refl _
    · rw [perform, if_neg hc] at hquiet
      cases hquiet

theorem Thread.readiness_subset_of_quiet {t : Thread} {a : Action}
    (hquiet : (t.perform a).announces = false) : (t.perform a).object.readiness ⊆ t.readiness := by
  cases a with
  | exit status =>
    by_cases ha : t.isAlive = true
    · rw [perform, if_pos ha] at hquiet
      cases hquiet
    · rw [perform, if_neg ha]
      exact Events.subset_refl _

theorem Endpoint.readiness_subset_of_quiet {e : Endpoint} {a : Action}
    (hquiet : (e.perform a).announces = false) : (e.perform a).object.readiness ⊆ e.readiness := by
  cases a with
  | write bytes =>
    rcases h : e.write bytes with cause | ⟨n, e'⟩
    · rw [perform, h]
      exact Events.subset_refl _
    · rw [perform, h] at hquiet
      cases hquiet
  | read limit =>
    rcases h : e.read limit with cause | ⟨bytes, e'⟩
    · rw [perform, h]
      exact Events.subset_refl _
    · simp only [perform, h] at hquiet ⊢
      -- only reading from a drained buffer is not announced, and it takes nothing out
      by_cases hempty : e.buffer.isEmpty = true
      · rw [if_pos hempty]
        exact Events.subset_refl _
      · rw [if_neg hempty] at hquiet
        cases hquiet
  | fail => cases hquiet
  | hangUp =>
    by_cases hh : e.hungUp = true
    · rw [perform, if_pos hh]
      exact Events.subset_refl _
    · rw [perform, if_neg hh] at hquiet
      cases hquiet
  | close =>
    by_cases hc : e.closed = true
    · rw [perform, if_pos hc]
      exact Events.subset_refl _
    · rw [perform, if_neg hc] at hquiet
      cases hquiet

/-- An object that tells nobody is ready for no more than before. -/
theorem Object.readiness_subset_of_quiet {o : Object} {a : Action} {r : Reaction Object}
    (h : o.perform a = some r) (hquiet : r.announces = false) :
    r.object.readiness ⊆ o.readiness := by
  cases o with
  | endpoint e =>
    cases a with
    | endpoint a =>
      obtain rfl := Option.some.inj h
      exact Endpoint.readiness_subset_of_quiet hquiet
    | _ => cases h
  | semaphore s =>
    cases a with
    | semaphore a =>
      obtain rfl := Option.some.inj h
      exact Semaphore.readiness_subset_of_quiet hquiet
    | _ => cases h
  | port p =>
    cases a with
    | port a =>
      obtain rfl := Option.some.inj h
      exact Port.readiness_subset_of_quiet hquiet
    | _ => cases h
  | thread t =>
    cases a with
    | thread a =>
      obtain rfl := Option.some.inj h
      exact Thread.readiness_subset_of_quiet hquiet
    | _ => cases h

/-! ## What is left in a queue -/

namespace WaitQueue

theorem disjointFrom_notify (events : Events) (q : WaitQueue) (t : SessionTable) :
    (q.notify events t).1.DisjointFrom events := by
  intro entry hentry
  by_cases hne : events = ∅
  · rw [hne, Events.inter_empty]
  · rw [notify_entries hne, List.mem_filter] at hentry
    exact (of_decide_eq_true hentry.2).1

theorem DisjointFrom.subset {q : WaitQueue} {events fewer : Events} (h : q.DisjointFrom events)
    (hsub : fewer ⊆ events) : q.DisjointFrom fewer :=
  fun entry hentry => Events.inter_eq_empty_of_subset (h entry hentry) hsub

/-- Withdrawal adds no entry. -/
theorem mem_of_mem_remove {token : Token} {q : WaitQueue} {entry : QueueEntry}
    (h : entry ∈ (q.remove token).1.entries) : entry ∈ q.entries := by
  rw [remove] at h
  rcases hfind : q.entries.findIdx? (·.token == token) with _ | i
  · rw [hfind] at h
    exact h
  · rw [hfind] at h
    have hi : i < q.entries.length := (List.findIdx?_eq_some_iff_getElem.1 hfind).1
    exact (removeAt_perm hi).subset (List.mem_cons_of_mem _ h)

theorem DisjointFrom.remove {q : WaitQueue} {events : Events} (h : q.DisjointFrom events)
    (token : Token) : (q.remove token).1.DisjointFrom events :=
  fun entry hentry => h entry (mem_of_mem_remove hentry)

theorem DisjointFrom.enroll {q : WaitQueue} {readiness : Events} (h : q.DisjointFrom readiness)
    (interest : Events) (waker : Waker) :
    (q.enroll readiness interest waker).1.DisjointFrom readiness := by
  rw [WaitQueue.enroll]
  by_cases hready : readiness ∩ interest = ∅
  · rw [if_pos hready]
    intro entry hentry
    rcases List.mem_append.1 hentry with hold | hnew
    · exact h entry hold
    · obtain rfl := List.mem_singleton.1 hnew
      exact (Events.inter_comm _ _).trans hready
  · rw [if_neg hready]
    exact h

end WaitQueue

namespace Entity

/-- One thing done to an object or to its queue. An action finds the sessions of the waiting tickets
in some state, which is any state, as other threads act on them too. -/
inductive Event where
  /-- act on the object -/
  | act (a : Object.Action) (sessions : SessionTable)
  /-- let a ticket join the queue -/
  | enroll (interest : Events) (waker : Waker)
  /-- withdraw a ticket from the queue -/
  | disenroll (token : Token)

/-- The entity after one thing done to it, successful or not. -/
def happen (e : Entity) : Event → Entity
  | .act a sessions => (e.act a sessions).1
  | .enroll interest waker => (e.enroll interest waker).1
  | .disenroll token => (e.disenroll token).1

/-- The entity after a history of things done to it. -/
def after (e : Entity) (history : List Event) : Entity := history.foldl happen e

/-- An action tells nobody, and then the object is ready for no more than before, or it announces
what the object is ready for from now on. -/
theorem act_cases (e : Entity) (a : Object.Action) (t : SessionTable) :
    ((e.act a t).1.queue = e.queue ∧ (e.act a t).2.1 = t ∧
      (e.act a t).1.readiness ⊆ e.readiness) ∨
    ((e.act a t).1.queue = (e.queue.notify (e.act a t).1.readiness t).1 ∧
      (e.act a t).2.1 = (e.queue.notify (e.act a t).1.readiness t).2.1) := by
  rw [act]
  rcases hreact : e.object.perform a with _ | r
  · exact .inl ⟨rfl, rfl, Events.subset_refl _⟩
  · simp only [settle]
    by_cases htold : r.announces = true
    · rw [if_pos htold]
      exact .inr ⟨rfl, rfl⟩
    · rw [if_neg htold]
      exact .inl ⟨rfl, rfl,
        Object.readiness_subset_of_quiet hreact (Bool.eq_false_iff.2 htold)⟩

/-- An action keeps the queue apart from what the object is ready for. -/
theorem disjointFrom_act {e : Entity} (h : e.queue.DisjointFrom e.readiness) (a : Object.Action)
    (t : SessionTable) : (e.act a t).1.queue.DisjointFrom (e.act a t).1.readiness := by
  obtain ⟨hqueue, -, hless⟩ | ⟨hqueue, -⟩ := e.act_cases a t
  · rw [hqueue]
    exact h.subset hless
  · rw [hqueue]
    exact WaitQueue.disjointFrom_notify _ _ _

theorem disjointFrom_happen {e : Entity} (h : e.queue.DisjointFrom e.readiness) (event : Event) :
    (e.happen event).queue.DisjointFrom (e.happen event).readiness := by
  cases event with
  | act a sessions => exact disjointFrom_act h a sessions
  | enroll interest waker => exact h.enroll interest waker
  | disenroll token => exact h.remove token

/-- **No missed wakeup**: whatever is done to an object of any kind since its creation, no ticket is
left in its queue that waits for something the object is ready for. -/
theorem disjointFrom_after (blueprint : Object.Blueprint) (id : ObjectId)
    (history : List Event) :
    let e := after { id := id, object := .ofBlueprint blueprint } history
    e.queue.DisjointFrom e.readiness := by
  have step : ∀ (history : List Event) (e : Entity), e.queue.DisjointFrom e.readiness →
      (e.after history).queue.DisjointFrom (e.after history).readiness := by
    intro history
    induction history with
    | nil => exact fun _ h => h
    | cons event history ih => exact fun e h => ih (e.happen event) (disjointFrom_happen h event)
  exact step history _ fun entry hentry => absurd hentry List.not_mem_nil

end Entity

end KernelWait
