import KernelWait.Proofs.Effects
import KernelWait.Proofs.Tokens

/-!
# The states a kernel reaches

A kernel is started with a clock and nothing else. From then on threads carry out operations, sessions
are opened and let go of, and whatever their owners and wakers do to them is done to one notifier at
a time. The tickets that were handed out on the way are counted (`Kernel.Reached`).

**A reached kernel lists only objects that exist, queues only tickets of sessions that were opened,
and numbers them without repetition** (`Kernel.Reached.closed`, `Kernel.Reached.opened_of_queued`,
`Kernel.Reached.numbered`) as long as fewer than 2⁶⁴ tickets were handed out.
-/

namespace KernelWait

/-! ## The number of sessions -/

namespace SessionTable

@[simp] theorem nextId_modify (t : SessionTable) (id : SessionId) (f : Notifier → Notifier) :
    (t.modify id f).nextId = t.nextId := List.length_modify _ _ _

@[simp] theorem nextId_put (t : SessionTable) (id : SessionId) (n : Notifier) :
    (t.put id n).nextId = t.nextId := List.length_modify _ _ _

@[simp] theorem nextId_discard (t : SessionTable) (id : SessionId) :
    (t.discard id).nextId = t.nextId := List.length_set

@[simp] theorem nextId_add (t : SessionTable) (n : Notifier) :
    (t.add n).nextId = t.nextId + 1 := List.length_append

@[simp] theorem nextId_wake (t : SessionTable) (w : Waker) (events : Events) :
    (t.wake w events).1.nextId = t.nextId := by
  rw [wake]
  rcases t.get? w.session with _ | n
  · rfl
  · exact nextId_put _ _ _

@[simp] theorem nextId_abort (t : SessionTable) (id : SessionId) :
    (t.abort id).1.nextId = t.nextId := by
  rw [abort]
  rcases t.get? id with _ | n
  · rfl
  · exact nextId_put _ _ _

end SessionTable

theorem WaitQueue.nextId_sweep (events : Events) (entries : List QueueEntry) (t : SessionTable) :
    (sweep events entries t).2.1.nextId = t.nextId := by
  induction entries generalizing t with
  | nil => rfl
  | cons entry entries ih =>
    rw [sweep]
    split
    · exact ih t
    · exact (ih _).trans (SessionTable.nextId_wake _ _ _)

@[simp] theorem WaitQueue.nextId_notify (events : Events) (q : WaitQueue) (t : SessionTable) :
    (q.notify events t).2.1.nextId = t.nextId := by
  rw [notify]
  split
  · rfl
  · exact nextId_sweep _ _ _

/-- No operation opens a session. -/
theorem Operation.nextId_effect (op : Operation) (k : Kernel) :
    (op.effect k).sessions.nextId = k.sessions.nextId := by
  cases op.effects_effect k with
  | still _ hsessions | created _ _ _ hsessions | enrolled _ _ _ _ _ _ hsessions
  | withdrawn _ _ _ _ _ hsessions => rw [hsessions]
  | aborted id _ hsessions => rw [hsessions, SessionTable.nextId_abort]
  | acted target e a _ _ hsessions =>
    rw [hsessions]
    obtain ⟨-, hsame, -⟩ | ⟨-, htold⟩ := e.act_cases a k.sessions
    · rw [hsame]
    · rw [htold, WaitQueue.nextId_notify]

/-! ## The directory -/

namespace Kernel

theorem directory_act (k : Kernel) (target : Target) (a : Object.Action) :
    (k.act target a).1.registry.directory = k.registry.directory := by
  rw [act]
  rcases k.registry.get? target with _ | e <;> rfl

theorem registry_interruptActive (k : Kernel) (thread : ThreadId) :
    (k.interruptActive thread).registry = k.registry := by
  rw [interruptActive]
  rcases (k.signals.get thread).activeWait with _ | session <;> rfl

theorem registry_send (k : Kernel) (sender receiver : ThreadId) (signal : Signal) :
    (k.send sender receiver signal).1.registry = k.registry := by
  rw [send]
  rcases k.signals.enqueue receiver ⟨signal, sender, k.clock.stamp⟩ with cause | signals
  · rfl
  · simp only
    split
    · exact registry_interruptActive _ _
    · rfl

theorem registry_block (k : Kernel) (thread : ThreadId) (signal : Signal) :
    (k.block thread signal).1.registry = k.registry := by
  rw [block]
  rcases k.signals.block thread signal with cause | signals <;> rfl

theorem registry_unblock (k : Kernel) (thread : ThreadId) (signal : Signal) :
    (k.unblock thread signal).registry = k.registry := by
  unfold unblock
  simp only
  split
  · exact registry_interruptActive _ _
  · rfl

theorem mem_directory_remove {k : Kernel} {kind : Kind} {id : ObjectId} {last : Object.Action}
    {p : (Kind × ObjectId) × Target} (h : p ∈ (k.remove kind id last).1.registry.directory) :
    p ∈ k.registry.directory := by
  rw [remove] at h
  rcases hresolve : k.registry.resolve kind id with cause | target
  · rwa [hresolve] at h
  · rw [hresolve] at h
    simp only [directory_act] at h
    exact (List.mem_filter.1 h).1

theorem mem_directory_exitThread {k : Kernel} {id : ObjectId} {status : Int32}
    {p : (Kind × ObjectId) × Target} (h : p ∈ (k.exitThread id status).1.registry.directory) :
    p ∈ k.registry.directory := by
  rw [kernel_exitThread] at h
  rcases hresolve : k.registry.resolve .thread id with cause | target
  · rwa [hresolve] at h
  · rw [hresolve] at h
    exact directory_act k target _ ▸ h

theorem mem_directory_reapThread {k : Kernel} {id : ObjectId}
    {p : (Kind × ObjectId) × Target} (h : p ∈ (k.reapThread id).1.registry.directory) :
    p ∈ k.registry.directory := by
  rw [reapThread] at h
  rcases hresolve : k.registry.resolve .thread id with cause | target
  · rwa [hresolve] at h
  · rw [hresolve] at h
    simp only at h
    split at h
    · exact h
    · exact (List.mem_filter.1 h).1

end Kernel

/-- Only creation lists anything. -/
theorem Operation.directory_cases (op : Operation) (k : Kernel) {p : (Kind × ObjectId) × Target}
    (h : p ∈ (op.effect k).registry.directory) :
    p ∈ k.registry.directory ∨ ∃ e, (op.effect k).registry.get? p.2 = some e := by
  cases op with
  | create blueprint =>
    rcases List.mem_cons.1 h with hnew | hold
    · refine .inr ⟨{ id := k.registry.nextId (Object.ofBlueprint blueprint).kind,
                     object := .ofBlueprint blueprint }, ?_⟩
      rw [hnew]
      exact List.getElem?_concat_length
    · exact .inl (List.mem_filter.1 hold).1
  | act target action =>
    rw [effect_act] at h
    exact .inl (k.directory_act target action ▸ h)
  | enroll target interest waker =>
    simp only [effect, run, Kernel.enroll] at h
    rcases hget : k.registry.get? target with _ | e <;> rw [hget] at h <;> exact .inl h
  | disenroll target token =>
    simp only [effect, run, Kernel.disenroll] at h
    rcases hget : k.registry.get? target with _ | e <;> rw [hget] at h <;> exact .inl h
  | deleteSemaphore id | deletePort id | closeEndpoint id =>
    exact .inl (Kernel.mem_directory_remove h)
  | exitThread id status => exact .inl (Kernel.mem_directory_exitThread h)
  | reapThread id => exact .inl (Kernel.mem_directory_reapThread h)
  | send sender receiver signal => exact .inl (k.registry_send sender receiver signal ▸ h)
  | block thread signal => exact .inl (k.registry_block thread signal ▸ h)
  | unblock thread signal => exact .inl (k.registry_unblock thread signal ▸ h)
  | take thread | clear thread | cleanup thread | register thread session | unregister thread
  | tell | elapse nanos => exact .inl h

/-- The directory lists nothing but what was created. -/
theorem Registry.Closed.effect {k : Kernel} (h : k.registry.Closed) (op : Operation) :
    (op.effect k).registry.Closed := by
  intro p hp
  rcases op.directory_cases k hp with hold | hnew
  · obtain ⟨e, he⟩ := h p hold
    obtain ⟨e', he', -⟩ := (op.effects_effect k).get?_of_get? he
    exact ⟨e', he'⟩
  · exact hnew

/-! ## Numbered tickets -/

namespace Operation

/-- The ticket that an operation hands out, if it does. -/
def handsOut (k : Kernel) : Operation → List (Target × Token)
  | enroll target interest waker =>
    match (k.enroll target interest waker).2 with
    | some (.enrolled token) => [(target, token)]
    | _ => []
  | _ => []

theorem handsOut_enroll {k : Kernel} {target : Target} {e : Entity}
    (he : k.registry.get? target = some e) (interest : Events) (waker : Waker) :
    handsOut k (.enroll target interest waker) =
      if e.readiness ∩ interest = ∅ then [(target, e.queue.nextToken)] else [] := by
  simp only [handsOut, Kernel.enroll, he, Entity.enroll, WaitQueue.enroll]
  by_cases hready : e.readiness ∩ interest = ∅
  · rw [if_pos hready, if_pos hready]
  · rw [if_neg hready, if_neg hready]

/-- A ticket is handed out by the queue that it joins. -/
theorem handsOut_cases (op : Operation) (k : Kernel) :
    op.handsOut k = [] ∨
    ∃ target e interest waker, op = .enroll target interest waker ∧
      k.registry.get? target = some e ∧ e.readiness ∩ interest = ∅ ∧
      op.handsOut k = [(target, e.queue.nextToken)] := by
  cases op with
  | enroll target interest waker =>
    rcases he : k.registry.get? target with _ | e
    · refine .inl ?_
      simp only [handsOut, Kernel.enroll, he]
    · rw [handsOut_enroll he]
      by_cases hready : e.readiness ∩ interest = ∅
      · rw [if_pos hready]
        exact .inr ⟨target, e, interest, waker, rfl, he, hready, rfl⟩
      · rw [if_neg hready]
        exact .inl rfl
  | _ => exact .inl rfl

/-- At most one ticket is handed out at a time. -/
theorem length_handsOut_le (op : Operation) (k : Kernel) : (op.handsOut k).length ≤ 1 := by
  obtain hnone | ⟨target, e, interest, waker, -, -, -, hnew⟩ := op.handsOut_cases k
  · rw [hnone]
    exact Nat.zero_le _
  · rw [hnew]
    exact Nat.le_refl _

end Operation

theorem Entity.queue_enroll_of_disjoint {e : Entity} {interest : Events}
    (hready : e.readiness ∩ interest = ∅) (waker : Waker) :
    (e.enroll interest waker).1.queue =
      { entries := e.queue.entries ++ [⟨e.queue.nextToken, interest, waker⟩]
        nextToken := e.queue.nextToken + 1 } := by
  simp only [enroll, WaitQueue.enroll, if_pos hready]

theorem Entity.enroll_of_ready {e : Entity} {interest : Events}
    (hready : e.readiness ∩ interest ≠ ∅) (waker : Waker) : (e.enroll interest waker).1 = e := by
  simp only [enroll, WaitQueue.enroll, if_neg hready]

theorem Kernel.registry_enroll {k : Kernel} {target : Target} {e : Entity}
    (he : k.registry.get? target = some e) (interest : Events) (waker : Waker) :
    (Operation.effect k (.enroll target interest waker)).registry =
      k.registry.put target (e.enroll interest waker).1 := by
  simp only [Operation.effect, Operation.run, Kernel.enroll, he]

theorem Kernel.sessions_enroll (k : Kernel) (target : Target) (interest : Events) (waker : Waker) :
    (Operation.effect k (.enroll target interest waker)).sessions = k.sessions := by
  simp only [Operation.effect, Operation.run, Kernel.enroll]
  rcases k.registry.get? target with _ | e <;> rfl

/-- What becomes of an object's queue when no ticket is handed out: nothing new is in it. -/
theorem Operation.Change.older {k : Kernel} {target : Target} {op : Operation} {e e' : Entity}
    (h : Change k.sessions target e op e') (he : k.registry.get? target = some e)
    (hnone : op.handsOut k = []) (hfresh : e.queue.Fresh) :
    e'.queue.Fresh ∧ e'.queue.nextToken = e.queue.nextToken ∧
      ∀ entry ∈ e'.queue.entries, entry ∈ e.queue.entries := by
  cases h with
  | kept => exact ⟨hfresh, rfl, fun _ h => h⟩
  | acted a =>
    refine ⟨?_, ?_, fun _ => Entity.mem_of_mem_act⟩ <;>
      obtain ⟨hqueue, -, -⟩ | ⟨hqueue, -⟩ := e.act_cases a k.sessions <;> rw [hqueue]
    · exact hfresh
    · exact hfresh.notify _ _
    · exact WaitQueue.nextToken_notify _ _ _
  | enrolled interest waker =>
    have hready : e.readiness ∩ interest ≠ ∅ := by
      intro hdisjoint
      rw [handsOut_enroll he, if_pos hdisjoint] at hnone
      cases hnone
    rw [Entity.enroll_of_ready hready]
    exact ⟨hfresh, rfl, fun _ h => h⟩
  | withdrawn token =>
    exact ⟨hfresh.remove token, WaitQueue.nextToken_remove _ _,
      fun _ => WaitQueue.mem_of_mem_remove⟩

/-- The tickets handed out by a kernel, and the numbers of those that wait in its queues. -/
structure Kernel.Numbered (handed : List (Target × Token)) (k : Kernel) : Prop where
  /-- no ticket was handed out twice -/
  unique : handed.Nodup
  /-- the tokens of every queue are pairwise different and older than its next one -/
  fresh : ∀ target e, k.registry.get? target = some e → e.queue.Fresh
  /-- no queue has handed out more tickets than all together -/
  counted : ∀ target e, k.registry.get? target = some e →
    e.queue.nextToken.toNat ≤ handed.length
  /-- every ticket handed out is older than the next one of its queue -/
  older : ∀ target token, (target, token) ∈ handed →
    ∃ e, k.registry.get? target = some e ∧ token.toNat < e.queue.nextToken.toNat
  /-- every waiting ticket was handed out -/
  issued : ∀ target entry, k.Queued target entry → (target, entry.token) ∈ handed

namespace Kernel

theorem Numbered.boot (clock : Clock) : Numbered [] { clock := clock } where
  unique := List.nodup_nil
  fresh _ _ he := nomatch he
  counted _ _ he := nomatch he
  older _ _ h := nomatch h
  issued _ _ h := nomatch h.choose_spec.1

/-- The tickets depend on the objects only. -/
theorem Numbered.of_registry {handed : List (Target × Token)} {k k' : Kernel}
    (h : Numbered handed k) (hregistry : k'.registry = k.registry) : Numbered handed k' where
  unique := h.unique
  fresh target e he := h.fresh target e (hregistry ▸ he)
  counted target e he := h.counted target e (hregistry ▸ he)
  older target token hmem := hregistry ▸ h.older target token hmem
  issued target entry hqueued := h.issued target entry (by
    obtain ⟨e, he, hentry⟩ := hqueued
    exact ⟨e, hregistry ▸ he, hentry⟩)

/-- Nor does the order in which they were handed out matter. -/
theorem Numbered.perm {handed handed' : List (Target × Token)} {k : Kernel} (h : Numbered handed k)
    (hperm : handed.Perm handed') : Numbered handed' k where
  unique := hperm.nodup_iff.1 h.unique
  fresh := h.fresh
  counted target e he := hperm.length_eq ▸ h.counted target e he
  older target token hmem := h.older target token (hperm.mem_iff.2 hmem)
  issued target entry hqueued := hperm.mem_iff.1 (h.issued target entry hqueued)

/-- An operation that hands out nothing keeps the numbers in order. -/
theorem Numbered.effect_of_nil {handed : List (Target × Token)} {k : Kernel}
    (h : Numbered handed k) {op : Operation} (hnone : op.handsOut k = []) :
    Numbered handed (op.effect k) where
  unique := h.unique
  fresh target e' he' := by
    obtain ⟨-, hnew⟩ | ⟨e, he, hchange⟩ := (op.effects_effect k).get?_cases he'
    · rw [hnew]
      exact WaitQueue.fresh_empty
    · exact (hchange.older he hnone (h.fresh target e he)).1
  counted target e' he' := by
    obtain ⟨-, hnew⟩ | ⟨e, he, hchange⟩ := (op.effects_effect k).get?_cases he'
    · rw [hnew]
      exact Nat.zero_le _
    · rw [(hchange.older he hnone (h.fresh target e he)).2.1]
      exact h.counted target e he
  older target token hmem := by
    obtain ⟨e, he, hlt⟩ := h.older target token hmem
    obtain ⟨e', he', hchange⟩ := (op.effects_effect k).get?_of_get? he
    refine ⟨e', he', ?_⟩
    rwa [(hchange.older he hnone (h.fresh target e he)).2.1]
  issued target entry hqueued := by
    obtain ⟨e', he', hentry⟩ := hqueued
    obtain ⟨-, hnew⟩ | ⟨e, he, hchange⟩ := (op.effects_effect k).get?_cases he'
    · rw [hnew] at hentry
      exact absurd hentry List.not_mem_nil
    · exact h.issued target entry
        ⟨e, he, (hchange.older he hnone (h.fresh target e he)).2.2 entry hentry⟩

/-- A ticket that joins a queue changes no object but the one. -/
theorem get?_enroll_cases {k : Kernel} {target other : Target} {e e' : Entity}
    {interest : Events} {waker : Waker} (he : k.registry.get? target = some e)
    (he' : (Operation.effect k (.enroll target interest waker)).registry.get? other = some e') :
    (other = target ∧ e' = (e.enroll interest waker).1) ∨ k.registry.get? other = some e' := by
  rw [registry_enroll he] at he'
  by_cases hto : other = target
  · subst hto
    exact .inl ⟨rfl, (Option.some.inj ((Registry.get?_put_self he _).symm.trans he')).symm⟩
  · exact .inr ((Registry.get?_put_ne hto k.registry _).symm.trans he')

/-- Such a ticket is the only one that is new in a queue. -/
theorem queued_enroll_iff {k : Kernel} {target other : Target} {e : Entity} {interest : Events}
    {waker : Waker} {entry : QueueEntry} (he : k.registry.get? target = some e)
    (hready : e.readiness ∩ interest = ∅) :
    (Operation.effect k (.enroll target interest waker)).Queued other entry ↔
      k.Queued other entry ∨
      other = target ∧ entry = ⟨e.queue.nextToken, interest, waker⟩ := by
  have hqueue := Entity.queue_enroll_of_disjoint hready waker
  constructor
  · rintro ⟨e', he', hentry⟩
    obtain ⟨rfl, rfl⟩ | hold := get?_enroll_cases he he'
    · rw [hqueue] at hentry
      rcases List.mem_append.1 hentry with hold | hnew
      · exact .inl ⟨e, he, hold⟩
      · exact .inr ⟨rfl, List.mem_singleton.1 hnew⟩
    · exact .inl ⟨e', hold, hentry⟩
  · have hself := Registry.get?_put_self he (e.enroll interest waker).1
    rw [← registry_enroll he interest waker] at hself
    rintro (⟨e', he', hentry⟩ | ⟨rfl, rfl⟩)
    · by_cases hto : other = target
      · subst hto
        obtain rfl := Option.some.inj (he.symm.trans he')
        refine ⟨_, hself, ?_⟩
        rw [hqueue]
        exact List.mem_append_left _ hentry
      · refine ⟨e', ?_, hentry⟩
        rw [registry_enroll he, Registry.get?_put_ne hto, he']
    · refine ⟨_, hself, ?_⟩
      rw [hqueue]
      exact List.mem_append_right _ (List.mem_singleton.2 rfl)

/-- A ticket handed out now has a new number. -/
theorem Numbered.enroll {handed : List (Target × Token)} {k : Kernel} (h : Numbered handed k)
    {target : Target} {e : Entity} (he : k.registry.get? target = some e) {interest : Events}
    (hready : e.readiness ∩ interest = ∅) (waker : Waker) (hroom : handed.length + 1 < UInt64.size) :
    Numbered (handed ++ [(target, e.queue.nextToken)])
      (Operation.effect k (.enroll target interest waker)) := by
  have hcount := h.counted target e he
  have hmore : e.queue.nextToken.toNat + 1 < UInt64.size :=
    Nat.lt_of_le_of_lt (Nat.succ_le_succ hcount) hroom
  have hnext : (e.queue.nextToken + 1).toNat = e.queue.nextToken.toNat + 1 := by
    rw [UInt64.toNat_add]
    exact Nat.mod_eq_of_lt hmore
  have hqueue := Entity.queue_enroll_of_disjoint hready waker
  have hself := Registry.get?_put_self he (e.enroll interest waker).1
  rw [← registry_enroll he interest waker] at hself
  refine ⟨?_, fun other e' he' => ?_, fun other e' he' => ?_, fun other token hmem => ?_,
    fun other entry hqueued => ?_⟩
  · -- all older numbers are below the new one
    rw [List.nodup_append]
    refine ⟨h.unique, List.pairwise_singleton _ _, fun ticket hmem new hnew => ?_⟩
    obtain rfl := List.mem_singleton.1 hnew
    rintro rfl
    obtain ⟨e', he', hlt⟩ := h.older _ _ hmem
    obtain rfl := Option.some.inj (he.symm.trans he')
    exact Nat.lt_irrefl _ hlt
  · obtain ⟨rfl, rfl⟩ | hold := get?_enroll_cases he he'
    · exact (h.fresh other e he).enroll hmore e.readiness interest waker
    · exact h.fresh other e' hold
  · rw [List.length_append, List.length_singleton]
    obtain ⟨rfl, rfl⟩ | hold := get?_enroll_cases he he'
    · rw [hqueue, hnext]
      exact Nat.succ_le_succ hcount
    · exact Nat.le_succ_of_le (h.counted other e' hold)
  · rcases List.mem_append.1 hmem with hold | hnew
    · obtain ⟨e', he', hlt⟩ := h.older other token hold
      by_cases hto : other = target
      · subst hto
        obtain rfl := Option.some.inj (he.symm.trans he')
        refine ⟨_, hself, ?_⟩
        rw [hqueue, hnext]
        exact Nat.lt_succ_of_lt hlt
      · rw [registry_enroll he, Registry.get?_put_ne hto]
        exact ⟨e', he', hlt⟩
    · obtain ⟨rfl, rfl⟩ := Prod.mk.inj (List.mem_singleton.1 hnew)
      refine ⟨_, hself, ?_⟩
      rw [hqueue, hnext]
      exact Nat.lt_succ_self _
  · rcases (queued_enroll_iff he hready).1 hqueued with hold | ⟨rfl, rfl⟩
    · exact List.mem_append_left _ (h.issued other entry hold)
    · exact List.mem_append_right _ (List.mem_singleton.2 rfl)

/-- The numbers stay in order as long as there are enough of them. -/
theorem Numbered.effect {handed : List (Target × Token)} {k : Kernel} (h : Numbered handed k)
    (op : Operation) (hroom : (handed ++ op.handsOut k).length < UInt64.size) :
    Numbered (handed ++ op.handsOut k) (op.effect k) := by
  obtain hnone | ⟨target, e, interest, waker, rfl, he, hready, hnew⟩ := op.handsOut_cases k
  · rw [hnone, List.append_nil]
    exact h.effect_of_nil hnone
  · rw [hnew] at hroom ⊢
    rw [List.length_append] at hroom
    exact h.enroll he hready waker hroom

/-! ## Reached kernels -/

/-- What a freshly started kernel can become, with the tickets that were handed out on the way. Wakers
and abort handles are made by the sessions that they name, so no operation names a session that was
not opened yet. Whatever is done to a notifier, by its owner or by a waker, is a change of that
notifier and of nothing else. -/
inductive Reached : List (Target × Token) → Kernel → Prop where
  /-- a kernel is started -/
  | boot (clock : Clock) : Reached [] { clock := clock }
  /-- a thread carries out an operation -/
  | operated {handed : List (Target × Token)} {k : Kernel} (h : Reached handed k)
      (op : Operation) (hbelow : op.Below k.sessions.nextId) :
    Reached (handed ++ op.handsOut k) (op.effect k)
  /-- the time passes, in whichever way, or the clock is read -/
  | timed {handed : List (Target × Token)} {k : Kernel} (h : Reached handed k) (clock : Clock) :
    Reached handed { k with clock := clock }
  /-- a session is opened -/
  | opened {handed : List (Target × Token)} {k : Kernel} (h : Reached handed k) (n : Notifier) :
    Reached handed { k with sessions := k.sessions.add n }
  /-- something is done to a notifier -/
  | touched {handed : List (Target × Token)} {k : Kernel} (h : Reached handed k) (id : SessionId)
      (f : Notifier → Notifier) :
    Reached handed { k with sessions := k.sessions.modify id f }
  /-- a session is let go of -/
  | discarded {handed : List (Target × Token)} {k : Kernel} (h : Reached handed k)
      (id : SessionId) :
    Reached handed { k with sessions := k.sessions.discard id }

namespace Reached

variable {handed : List (Target × Token)} {k : Kernel}

/-- The directory of a reached kernel lists only objects that exist. -/
theorem closed (h : Reached handed k) : k.registry.Closed := by
  induction h with
  | boot clock => exact fun _ hp => absurd hp List.not_mem_nil
  | operated _ op _ ih => exact ih.effect op
  | timed _ clock ih => exact ih
  | opened _ n ih => exact ih
  | touched _ id f ih => exact ih
  | discarded _ id ih => exact ih

/-- Every ticket that waits belongs to a session that was opened. -/
theorem opened_of_queued (h : Reached handed k) {target : Target} {entry : QueueEntry}
    (hqueued : k.Queued target entry) : entry.waker.session < k.sessions.nextId := by
  induction h with
  | boot clock => cases hqueued.choose_spec.1
  | operated _ op hbelow ih =>
    rw [op.nextId_effect]
    rcases (op.effects_effect _).queued hqueued with hold | rfl
    · exact ih hold
    · exact hbelow
  | timed _ clock ih => exact ih hqueued
  | opened _ n ih =>
    rw [SessionTable.nextId_add]
    exact Nat.lt_succ_of_lt (ih hqueued)
  | touched _ id f ih =>
    rw [SessionTable.nextId_modify]
    exact ih hqueued
  | discarded _ id ih =>
    rw [SessionTable.nextId_discard]
    exact ih hqueued

/-- The tickets of a reached kernel are numbered without repetition, as long as there are numbers
enough. -/
theorem numbered (h : Reached handed k) (hroom : handed.length < UInt64.size) : Numbered handed k := by
  induction h with
  | boot clock => exact .boot clock
  | operated _ op _ ih =>
    refine (ih ?_).effect op hroom
    rw [List.length_append] at hroom
    exact Nat.lt_of_le_of_lt (Nat.le_add_right _ _) hroom
  | timed _ clock ih => exact (ih hroom).of_registry rfl
  | opened _ n ih => exact (ih hroom).of_registry rfl
  | touched _ id f ih => exact (ih hroom).of_registry rfl
  | discarded _ id ih => exact (ih hroom).of_registry rfl

end Reached

/-! ## Kernels whose clock is read -/

/-- The clock may be read, and nothing else happens. -/
inductive Consults (k : Kernel) : Kernel → Prop where
  /-- nobody looks at it -/
  | kept : Consults k k
  /-- somebody reads it -/
  | read : Consults k { k with clock := k.clock.read }

theorem consults_arm (k : Kernel) (timeout : Timeout) : k.Consults (k.arm timeout).1 := by
  cases timeout with
  | absolute stamp => exact .read
  | _ => exact .kept

namespace Consults

variable {handed : List (Target × Token)} {k k' : Kernel}

theorem reached (h : k.Consults k') (hreached : k.Reached handed) : k'.Reached handed := by
  cases h with
  | kept => exact hreached
  | read => exact hreached.timed _

theorem signals_eq (h : k.Consults k') : k'.signals = k.signals := by
  cases h <;> rfl

theorem sessions_eq (h : k.Consults k') : k'.sessions = k.sessions := by
  cases h <;> rfl

theorem unread_eq (h : k.Consults k') : k'.clock.unread = k.clock.unread := by
  cases h <;> rfl

theorem boot_cases (h : k.Consults k') :
    k'.clock.boot = k.clock.boot ∨ k'.clock.boot = some k.clock.origin := by
  cases h with
  | kept => exact .inl rfl
  | read => exact .inr rfl

end Consults

end Kernel

end KernelWait
