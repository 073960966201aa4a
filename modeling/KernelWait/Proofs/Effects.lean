import KernelWait.Operation
import KernelWait.Proofs.Readiness

/-!
# What an operation does to objects and sessions

Eighteen operations touch the objects and the sessions in five ways: not at all, by aborting one
session, by creating an object, by an action on one object, and by a change to one queue. Everything
that holds along histories of operations is proved by going over these five
(`Operation.effects_effect`).

**Objects are created and never vanish** (`Operation.Effects.get?_of_get?`), and only enrolling puts an
entry in a queue (`Operation.Effects.queued`).
-/

namespace KernelWait

/-! ## What objects are ready for -/

/-- Everything an object can be ready for has a name. -/
theorem Object.readiness_known (o : Object) : o.readiness ⊆ Events.all := by
  cases o with
  | endpoint e =>
    simp only [readiness, Endpoint.readiness]
    by_cases hclosed : e.closed = true
    · rw [if_pos hclosed]
      rfl
    · rw [if_neg hclosed]
      refine Events.union_subset (Events.union_subset (Events.union_subset ?_ ?_) ?_) ?_ <;>
        split <;> rfl
  | semaphore s =>
    simp only [readiness, Semaphore.readiness]
    split
    · rfl
    · split <;> rfl
  | port p =>
    simp only [readiness, Port.readiness]
    by_cases hclosed : p.closed = true
    · rw [if_pos hclosed]
      rfl
    · rw [if_neg hclosed]
      refine Events.union_subset ?_ ?_ <;> split <;> rfl
  | thread t =>
    simp only [readiness, Thread.readiness]
    split <;> rfl

/-- The end of a thread is an action like any other; only the answer is put differently. -/
theorem Kernel.kernel_exitThread (k : Kernel) (id : ObjectId) (status : Int32) :
    (k.exitThread id status).1 =
      match k.registry.resolve .thread id with
      | .error _ => k
      | .ok target => (k.act target (.thread (.exit status))).1 := by
  rw [exitThread]
  rcases k.registry.resolve .thread id with cause | target
  · rfl
  · simp only
    split <;> next h => rw [h]

namespace Operation

/-- The operation names only sessions older than the given one. A ticket's waker is made by the
ticket's own session, so operations of other threads never name a session that is not theirs. -/
def Below (bound : SessionId) : Operation → Prop
  | enroll _ _ waker => waker.session < bound
  | register _ session => session < bound
  | _ => True

/-- The operation lets no ticket of a session join a queue: that is for the session's owner to do. -/
def Foreign (id : SessionId) : Operation → Prop
  | enroll _ _ waker => waker.session ≠ id
  | _ => True

theorem Below.foreign {id : SessionId} {op : Operation} (h : op.Below id) : op.Foreign id := by
  cases op with
  | enroll target interest waker => exact Nat.ne_of_lt h
  | _ => trivial

/-- What an operation can do to the objects and to the sessions of a kernel. -/
inductive Effects (k k' : Kernel) : Operation → Prop where
  /-- nothing -/
  | still {op : Operation} (hentities : k'.registry.entities = k.registry.entities)
      (hsessions : k'.sessions = k.sessions) : Effects k k' op
  /-- abort a session on behalf of a signal -/
  | aborted {op : Operation} (id : SessionId)
      (hentities : k'.registry.entities = k.registry.entities)
      (hsessions : k'.sessions = (k.sessions.abort id).1) : Effects k k' op
  /-- create an object -/
  | created {op : Operation} (e : Entity) (hqueue : e.queue = {})
      (hentities : k'.registry.entities = k.registry.entities ++ [e])
      (hsessions : k'.sessions = k.sessions) : Effects k k' op
  /-- act on an object and announce what came of it -/
  | acted {op : Operation} (target : Target) (e : Entity) (a : Object.Action)
      (he : k.registry.get? target = some e)
      (hentities : k'.registry.entities =
        k.registry.entities.set target (e.act a k.sessions).1)
      (hsessions : k'.sessions = (e.act a k.sessions).2.1) : Effects k k' op
  /-- let a ticket join a queue -/
  | enrolled (target : Target) (e : Entity) (interest : Events) (waker : Waker)
      (he : k.registry.get? target = some e)
      (hentities : k'.registry.entities =
        k.registry.entities.set target (e.enroll interest waker).1)
      (hsessions : k'.sessions = k.sessions) : Effects k k' (.enroll target interest waker)
  /-- withdraw a ticket from a queue -/
  | withdrawn (target : Target) (e : Entity) (token : Token)
      (he : k.registry.get? target = some e)
      (hentities : k'.registry.entities =
        k.registry.entities.set target (e.disenroll token).1)
      (hsessions : k'.sessions = k.sessions) : Effects k k' (.disenroll target token)

theorem Effects.refl (k : Kernel) (op : Operation) : Effects k k op := .still rfl rfl

/-- The effects do not depend on the directory. -/
theorem Effects.of_entities {k₀ k k' : Kernel} {op : Operation} (h : Effects k k' op)
    (hentities : k.registry.entities = k₀.registry.entities) (hsessions : k.sessions = k₀.sessions) :
    Effects k₀ k' op := by
  have hget : ∀ target, k.registry.get? target = k₀.registry.get? target := by
    intro target
    rw [Registry.get?, Registry.get?, hentities]
  cases h with
  | still he hs => exact .still (he.trans hentities) (hs.trans hsessions)
  | aborted id he hs => exact .aborted id (he.trans hentities) (by rw [hs, hsessions])
  | created e hq he hs => exact .created e hq (by rw [he, hentities]) (hs.trans hsessions)
  | acted target e a hg he hs =>
    exact .acted target e a ((hget target).symm.trans hg) (by rw [he, hentities, hsessions])
      (by rw [hs, hsessions])
  | enrolled target e interest waker hg he hs =>
    exact .enrolled target e interest waker ((hget target).symm.trans hg) (by rw [he, hentities])
      (hs.trans hsessions)
  | withdrawn target e token hg he hs =>
    exact .withdrawn target e token ((hget target).symm.trans hg) (by rw [he, hentities])
      (hs.trans hsessions)

/-! ## The effects of each operation -/

theorem effect_act (k : Kernel) (target : Target) (a : Object.Action) :
    effect k (.act target a) = (k.act target a).1 := by
  simp only [effect, run]
  rcases k.act target a with ⟨k', _ | answer⟩ <;> rfl

theorem effects_act (k : Kernel) (target : Target) (a : Object.Action) (op : Operation) :
    Effects k (k.act target a).1 op := by
  rw [Kernel.act]
  rcases he : k.registry.get? target with _ | e
  · exact .refl k op
  · exact .acted target e a he rfl rfl

theorem effects_remove (k : Kernel) (kind : Kind) (id : ObjectId) (last : Object.Action)
    (op : Operation) : Effects k (k.remove kind id last).1 op := by
  rw [Kernel.remove]
  rcases k.registry.resolve kind id with cause | target
  · exact .refl k op
  · exact (effects_act { k with registry := k.registry.unlist kind id } target last op).of_entities
      rfl rfl

theorem effects_exitThread (k : Kernel) (id : ObjectId) (status : Int32) (op : Operation) :
    Effects k (k.exitThread id status).1 op := by
  rw [Kernel.kernel_exitThread]
  rcases k.registry.resolve .thread id with cause | target
  · exact .refl k op
  · exact effects_act k target (.thread (.exit status)) op

theorem effects_reapThread (k : Kernel) (id : ObjectId) (op : Operation) :
    Effects k (k.reapThread id).1 op := by
  rw [Kernel.reapThread]
  rcases k.registry.resolve .thread id with cause | target
  · exact .refl k op
  · simp only
    split
    · exact .refl k op
    · exact .still rfl rfl

theorem effects_interruptActive (k : Kernel) (thread : ThreadId) (op : Operation) :
    Effects k (k.interruptActive thread) op := by
  rw [Kernel.interruptActive]
  rcases (k.signals.get thread).activeWait with _ | session
  · exact .refl k op
  · exact .aborted session rfl rfl

theorem effects_send (k : Kernel) (sender receiver : ThreadId) (signal : Signal)
    (op : Operation) : Effects k (k.send sender receiver signal).1 op := by
  rw [Kernel.send]
  rcases k.signals.enqueue receiver ⟨signal, sender, k.clock.stamp⟩ with cause | signals
  · exact .refl k op
  · simp only
    split
    · exact (effects_interruptActive { k with signals := signals, clock := k.clock.read } receiver
        op).of_entities rfl rfl
    · exact .still rfl rfl

theorem effects_block (k : Kernel) (thread : ThreadId) (signal : Signal) (op : Operation) :
    Effects k (k.block thread signal).1 op := by
  rw [Kernel.block]
  rcases k.signals.block thread signal with cause | signals
  · exact .refl k op
  · exact .still rfl rfl

theorem effects_unblock (k : Kernel) (thread : ThreadId) (signal : Signal) (op : Operation) :
    Effects k (k.unblock thread signal) op := by
  unfold Kernel.unblock
  simp only
  split
  · exact (effects_interruptActive { k with signals := k.signals.unblock thread signal } thread
      op).of_entities rfl rfl
  · exact .still rfl rfl

/-- **Every operation has one of the five effects.** -/
theorem effects_effect (op : Operation) (k : Kernel) : Effects k (op.effect k) op := by
  cases op with
  | create blueprint => exact .created _ rfl rfl rfl
  | act target action =>
    rw [effect_act]
    exact effects_act k target action (.act target action)
  | enroll target interest waker =>
    simp only [effect, run, Kernel.enroll]
    rcases he : k.registry.get? target with _ | e
    · exact .refl k _
    · exact .enrolled target e interest waker he rfl rfl
  | disenroll target token =>
    simp only [effect, run, Kernel.disenroll]
    rcases he : k.registry.get? target with _ | e
    · exact .refl k _
    · exact .withdrawn target e token he rfl rfl
  | deleteSemaphore id => exact effects_remove k _ id _ _
  | deletePort id => exact effects_remove k _ id _ _
  | closeEndpoint id => exact effects_remove k _ id _ _
  | exitThread id status => exact effects_exitThread k id status _
  | reapThread id => exact effects_reapThread k id _
  | send sender receiver signal => exact effects_send k sender receiver signal _
  | block thread signal => exact effects_block k thread signal _
  | unblock thread signal => exact effects_unblock k thread signal _
  | take thread => exact .still rfl rfl
  | clear thread => exact .still rfl rfl
  | cleanup thread => exact .still rfl rfl
  | register thread session => exact .still rfl rfl
  | unregister thread => exact .still rfl rfl
  | tell => exact .still rfl rfl
  | elapse nanos => exact .still rfl rfl

end Operation

/-! ## Reading objects after an effect -/

namespace Registry

theorem get?_congr {r r' : Registry} (h : r'.entities = r.entities) (target : Target) :
    r'.get? target = r.get? target := by
  rw [get?, get?, h]

theorem get?_set_self {r r' : Registry} {target : Target} {old e : Entity}
    (hold : r.get? target = some old) (h : r'.entities = r.entities.set target e) :
    r'.get? target = some e :=
  (get?_congr (r := r.put target e) h target).trans (get?_put_self hold e)

theorem get?_set_ne {r r' : Registry} {target other : Target} {e : Entity} (hne : other ≠ target)
    (h : r'.entities = r.entities.set target e) : r'.get? other = r.get? other :=
  (get?_congr (r := r.put target e) h other).trans (get?_put_ne hne r e)

theorem get?_append {r r' : Registry} {added e : Entity} {target : Target}
    (h : r'.entities = r.entities ++ [added]) (he : r.get? target = some e) :
    r'.get? target = some e := by
  rw [get?, h, List.getElem?_append_left (List.getElem?_eq_some_iff.1 he).1]
  exact he

/-- Only a new object is read where nothing was before. -/
theorem get?_append_cases {r r' : Registry} {added e : Entity} {target : Target}
    (h : r'.entities = r.entities ++ [added]) (he : r'.get? target = some e) :
    r.get? target = some e ∨ r.get? target = none ∧ e = added := by
  rw [get?, h] at he
  rcases Nat.lt_or_ge target r.entities.length with hlt | hge
  · rw [List.getElem?_append_left hlt] at he
    exact .inl he
  · rw [List.getElem?_append_right hge] at he
    exact .inr ⟨List.getElem?_eq_none hge, List.mem_singleton.1 (List.mem_of_getElem? he)⟩

/-- The directory lists only objects that were created. -/
def Closed (r : Registry) : Prop := ∀ p ∈ r.directory, ∃ e, r.get? p.2 = some e

/-- An object that can be looked up exists. -/
theorem Closed.get?_of_lookup {r : Registry} (h : r.Closed) {kind : Kind} {id : ObjectId}
    {target : Target} (hlookup : r.lookup? kind id = some target) :
    ∃ e, r.get? target = some e := by
  obtain ⟨l₁, l₂, hsplit, -⟩ := List.lookup_eq_some_iff.1 hlookup
  refine h ((kind, id), target) ?_
  rw [hsplit]
  exact List.mem_append_right l₁ List.mem_cons_self

end Registry

namespace Kernel

/-- An entry waits in the queue of an object. -/
def Queued (k : Kernel) (target : Target) (entry : QueueEntry) : Prop :=
  ∃ e, k.registry.get? target = some e ∧ entry ∈ e.queue.entries

end Kernel

namespace Entity

theorem mem_of_mem_act {e : Entity} {a : Object.Action} {t : SessionTable} {entry : QueueEntry}
    (h : entry ∈ (e.act a t).1.queue.entries) : entry ∈ e.queue.entries := by
  obtain ⟨hqueue, -, -⟩ | ⟨hqueue, -⟩ := e.act_cases a t
  · rwa [hqueue] at h
  · rw [hqueue] at h
    exact WaitQueue.mem_of_mem_notify h

theorem mem_of_mem_enroll {e : Entity} {interest : Events} {waker : Waker} {entry : QueueEntry}
    (h : entry ∈ (e.enroll interest waker).1.queue.entries) :
    entry ∈ e.queue.entries ∨ entry = ⟨e.queue.nextToken, interest, waker⟩ := by
  simp only [enroll, WaitQueue.enroll] at h
  split at h
  · rcases List.mem_append.1 h with hold | hnew
    · exact .inl hold
    · exact .inr (List.mem_singleton.1 hnew)
  · exact .inl h

end Entity

namespace Operation

/-- What an operation can make of one object. -/
inductive Change (sessions : SessionTable) (target : Target) (e : Entity) :
    Operation → Entity → Prop where
  /-- it stays as it is -/
  | kept {op : Operation} : Change sessions target e op e
  /-- something is done to it -/
  | acted {op : Operation} (a : Object.Action) : Change sessions target e op (e.act a sessions).1
  /-- a ticket joins its queue, or is told that it is ready -/
  | enrolled (interest : Events) (waker : Waker) :
    Change sessions target e (.enroll target interest waker) (e.enroll interest waker).1
  /-- a ticket leaves its queue, or was gone -/
  | withdrawn (token : Token) :
    Change sessions target e (.disenroll target token) (e.disenroll token).1

variable {k k' : Kernel} {op : Operation} {target : Target}

/-- Objects never vanish. -/
theorem Effects.get?_of_get? (h : Effects k k' op) {e : Entity}
    (he : k.registry.get? target = some e) :
    ∃ e', k'.registry.get? target = some e' ∧ Change k.sessions target e op e' := by
  cases h with
  | still hentities _ => exact ⟨e, (Registry.get?_congr hentities target).trans he, .kept⟩
  | aborted id hentities _ => exact ⟨e, (Registry.get?_congr hentities target).trans he, .kept⟩
  | created added _ hentities _ => exact ⟨e, Registry.get?_append hentities he, .kept⟩
  | acted other old a hold hentities _ =>
    by_cases hto : target = other
    · subst hto
      obtain rfl := Option.some.inj (hold.symm.trans he)
      exact ⟨_, Registry.get?_set_self hold hentities, .acted a⟩
    · exact ⟨e, (Registry.get?_set_ne hto hentities).trans he, .kept⟩
  | enrolled other old interest waker hold hentities _ =>
    by_cases hto : target = other
    · subst hto
      obtain rfl := Option.some.inj (hold.symm.trans he)
      exact ⟨_, Registry.get?_set_self hold hentities, .enrolled interest waker⟩
    · exact ⟨e, (Registry.get?_set_ne hto hentities).trans he, .kept⟩
  | withdrawn other old token hold hentities _ =>
    by_cases hto : target = other
    · subst hto
      obtain rfl := Option.some.inj (hold.symm.trans he)
      exact ⟨_, Registry.get?_set_self hold hentities, .withdrawn token⟩
    · exact ⟨e, (Registry.get?_set_ne hto hentities).trans he, .kept⟩

/-- An object after an operation was there before, or it is new and nobody waits for it. -/
theorem Effects.get?_cases (h : Effects k k' op) {e' : Entity}
    (he' : k'.registry.get? target = some e') :
    (k.registry.get? target = none ∧ e'.queue = {}) ∨
    ∃ e, k.registry.get? target = some e ∧ Change k.sessions target e op e' := by
  rcases hget : k.registry.get? target with _ | e
  · refine .inl ⟨rfl, ?_⟩
    cases h with
    | created added hqueue hentities _ =>
      rcases Registry.get?_append_cases hentities he' with hold | ⟨-, rfl⟩
      · cases hget.symm.trans hold
      · exact hqueue
    | still hentities _ =>
      cases hget.symm.trans ((Registry.get?_congr hentities target).symm.trans he')
    | aborted id hentities _ =>
      cases hget.symm.trans ((Registry.get?_congr hentities target).symm.trans he')
    | acted other _ _ hold hentities _ | enrolled other _ _ _ hold hentities _
    | withdrawn other _ _ hold hentities _ =>
      have hto : target ≠ other := by
        rintro rfl
        cases hget.symm.trans hold
      cases hget.symm.trans ((Registry.get?_set_ne hto hentities).symm.trans he')
  · obtain ⟨e'', he'', hchange⟩ := h.get?_of_get? hget
    obtain rfl := Option.some.inj (he''.symm.trans he')
    exact .inr ⟨e, rfl, hchange⟩

/-- Only enrolling puts an entry in a queue. -/
theorem Effects.queued (h : Effects k k' op) {entry : QueueEntry}
    (hqueued : k'.Queued target entry) :
    k.Queued target entry ∨ op = .enroll target entry.interest entry.waker := by
  obtain ⟨e', he', hentry⟩ := hqueued
  obtain ⟨-, hnew⟩ | ⟨e, he, hchange⟩ := h.get?_cases he'
  · rw [hnew] at hentry
    exact absurd hentry List.not_mem_nil
  · cases hchange with
    | kept => exact .inl ⟨_, he, hentry⟩
    | acted a => exact .inl ⟨e, he, Entity.mem_of_mem_act hentry⟩
    | enrolled interest waker =>
      rcases Entity.mem_of_mem_enroll hentry with hmem | rfl
      · exact .inl ⟨e, he, hmem⟩
      · exact .inr rfl
    | withdrawn token => exact .inl ⟨e, he, WaitQueue.mem_of_mem_remove hentry⟩

end Operation

end KernelWait
