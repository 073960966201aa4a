import KernelWait.Proofs.Teardown

/-!
# Whatever calls do not change

Calls observe the world and leave it as it is: the objects with all that they hold, their names, the
signals that are pending or blocked, and the time. Which tickets wait in the queues, which wait a
signal aborts, and whether the clock was read, is no part of it (`Kernel.SameWorld`).

**The world goes on in the same way whoever waits in it** (`Kernel.SameWorld.effect`), as long as time
stamps count from the same moment, and no step of a call makes a difference to it (`Call.Steps.sameWorld`).
-/

namespace KernelWait

/-! ## Objects without their queues -/

/-- The object and its number, as if nobody waited for it. -/
def Entity.bare (e : Entity) : Entity := { e with queue := {} }

/-- An action does the same to an object whoever waits for it. -/
theorem Entity.bare_act (e : Entity) (a : Object.Action) (t : SessionTable) :
    (e.act a t).1.bare = (e.bare.act a {}).1.bare := by
  simp only [act, show e.bare.object = e.object from rfl]
  rcases e.object.perform a with _ | r
  · rfl
  · simp only [settle]
    split <;> rfl

theorem Entity.bare_act_congr {e e' : Entity} (h : e.bare = e'.bare) (a : Object.Action)
    (t t' : SessionTable) : (e.act a t).1.bare = (e'.act a t').1.bare := by
  rw [bare_act, h, ← bare_act]

theorem Entity.object_congr {e e' : Entity} (h : e.bare = e'.bare) : e.object = e'.object :=
  show e.bare.object = e'.bare.object from congrArg Entity.object h

theorem Entity.readiness_congr {e e' : Entity} (h : e.bare = e'.bare) :
    e.readiness = e'.readiness := congrArg Object.readiness (object_congr h)

namespace Registry

/-- The objects and their names, as if nobody waited. -/
def bare (r : Registry) : Registry := { r with entities := r.entities.map Entity.bare }

theorem get?_bare (r : Registry) (target : Target) :
    r.bare.get? target = (r.get? target).map Entity.bare := List.getElem?_map

theorem bare_put (r : Registry) (target : Target) (e : Entity) :
    (r.put target e).bare = r.bare.put target e.bare := by
  simp only [bare, put, List.map_set]

/-- An object whose queue is changed is the same object. -/
theorem bare_put_self {r : Registry} {target : Target} {old e : Entity}
    (hold : r.get? target = some old) (h : e.bare = old.bare) : (r.put target e).bare = r.bare := by
  have hbare : r.bare.entities[target]? = some old.bare := by
    rw [← Registry.get?, get?_bare, hold, Option.map_some]
  rw [bare_put, h, put]
  refine congrArg (fun entities => { r.bare with entities := entities }) ?_
  obtain ⟨hlt, heq⟩ := List.getElem?_eq_some_iff.1 hbare
  rw [← heq, List.set_getElem_self]
  rfl

theorem bare_create (r : Registry) (o : Object) : (r.create o).1.bare = (r.bare.create o).1.bare := by
  have hnext : r.bare.nextId o.kind = r.nextId o.kind := by
    simp only [nextId, bare, List.countP_map]
    rfl
  simp only [create, hnext]
  simp only [list, unlist, bare, List.map_append, List.map_map, List.length_map]
  rfl

variable {r r' : Registry}

/-- The same objects are in the same places. -/
theorem get?_cases_of_bare (h : r.bare = r'.bare) (target : Target) :
    (r.get? target = none ∧ r'.get? target = none) ∨
    ∃ e e', r.get? target = some e ∧ r'.get? target = some e' ∧ e.bare = e'.bare := by
  have hget := congrArg (·.get? target) h
  simp only [get?_bare] at hget
  rcases he : r.get? target with _ | e <;> rcases he' : r'.get? target with _ | e' <;>
    rw [he, he'] at hget
  · exact .inl ⟨rfl, rfl⟩
  · cases hget
  · cases hget
  · exact .inr ⟨e, e', rfl, rfl, Option.some.inj hget⟩

theorem put_bare_congr (h : r.bare = r'.bare) (target : Target) {e e' : Entity}
    (he : e.bare = e'.bare) : (r.put target e).bare = (r'.put target e').bare := by
  rw [bare_put, bare_put, h, he]

theorem create_bare_congr (h : r.bare = r'.bare) (o : Object) :
    (r.create o).1.bare = (r'.create o).1.bare := by
  rw [bare_create, h, ← bare_create]

theorem directory_congr (h : r.bare = r'.bare) : r.directory = r'.directory :=
  show r.bare.directory = r'.bare.directory from congrArg Registry.directory h

theorem lookup?_congr (h : r.bare = r'.bare) (kind : Kind) (id : ObjectId) :
    r.lookup? kind id = r'.lookup? kind id := by
  rw [lookup?, directory_congr h, lookup?]

theorem resolve_congr (h : r.bare = r'.bare) (kind : Kind) (id : ObjectId) :
    r.resolve kind id = r'.resolve kind id := by
  rw [resolve, lookup?_congr h, resolve]

theorem unlist_bare_congr (h : r.bare = r'.bare) (kind : Kind) (id : ObjectId) :
    (r.unlist kind id).bare = (r'.unlist kind id).bare := by
  have hentities : r.bare.entities = r'.bare.entities := congrArg Registry.entities h
  simp only [bare, unlist, directory_congr h] at hentities ⊢
  rw [hentities]

end Registry

/-! ## The time -/

namespace Kernel

theorem clock_act (k : Kernel) (target : Target) (a : Object.Action) :
    (k.act target a).1.clock = k.clock := by
  rw [act]
  split <;> rfl

theorem clock_remove (k : Kernel) (kind : Kind) (id : ObjectId) (last : Object.Action) :
    (k.remove kind id last).1.clock = k.clock := by
  rw [remove]
  split
  · rfl
  · exact clock_act _ _ _

theorem clock_interruptActive (k : Kernel) (thread : ThreadId) :
    (k.interruptActive thread).clock = k.clock := (aside_interruptActive 0 k thread).clock

/-- A signal that is queued is the reason to read the clock. -/
theorem clock_send (k : Kernel) (sender receiver : ThreadId) (signal : Signal) :
    (k.send sender receiver signal).1.clock =
      match k.signals.enqueue receiver ⟨signal, sender, k.clock.stamp⟩ with
      | .ok _ => k.clock.read
      | .error _ => k.clock := by
  rw [send]
  rcases k.signals.enqueue receiver ⟨signal, sender, k.clock.stamp⟩ with cause | signals
  · rfl
  · simp only
    split
    · exact clock_interruptActive _ _
    · rfl

end Kernel

/-- The clock after an operation: time passes, or the clock is read. -/
def Operation.clockAfter (k : Kernel) : Operation → Clock
  | send sender receiver signal =>
    match k.signals.enqueue receiver ⟨signal, sender, k.clock.stamp⟩ with
    | .ok _ => k.clock.read
    | .error _ => k.clock
  | tell => k.clock.read
  | elapse nanos => k.clock.elapse nanos
  | _ => k.clock

theorem Operation.clock_effect (op : Operation) (k : Kernel) :
    (op.effect k).clock = op.clockAfter k := by
  cases op with
  | act target action =>
    rw [effect_act]
    exact k.clock_act target action
  | enroll target | disenroll target =>
    simp only [effect, run, Kernel.enroll, Kernel.disenroll]
    rcases k.registry.get? target with _ | e <;> rfl
  | deleteSemaphore id => exact k.clock_remove _ id _
  | deletePort id => exact k.clock_remove _ id _
  | closeEndpoint id => exact k.clock_remove _ id _
  | exitThread id status =>
    have heffect : effect k (.exitThread id status) = (k.exitThread id status).1 := rfl
    rw [heffect, Kernel.kernel_exitThread]
    split
    · rfl
    · exact k.clock_act _ _
  | reapThread id =>
    have heffect : effect k (.reapThread id) = (k.reapThread id).1 := rfl
    rw [heffect, Kernel.reapThread]
    split
    · rfl
    · split <;> rfl
  | send sender receiver signal => exact k.clock_send sender receiver signal
  | block thread signal =>
    have heffect : effect k (.block thread signal) = (k.block thread signal).1 := rfl
    rw [heffect, Kernel.block]
    split <;> rfl
  | unblock thread signal =>
    have heffect : effect k (.unblock thread signal) = k.unblock thread signal := rfl
    rw [heffect, Kernel.unblock]
    split
    · exact Kernel.clock_interruptActive _ _
    · rfl
  | _ => rfl

/-- **The clock goes on to count from where it counted**: once it was read that is settled, and the first
reading settles it. -/
theorem Operation.boot_effect (op : Operation) (k : Kernel) :
    (op.effect k).clock.boot = k.clock.boot ∨
      (op.effect k).clock.boot = some k.clock.origin := by
  rw [op.clock_effect]
  cases op with
  | send sender receiver signal =>
    rw [clockAfter]
    split
    · exact .inr rfl
    · exact .inl rfl
  | tell => exact .inr rfl
  | _ => exact .inl rfl

/-! ## The world -/

namespace Kernel

/-- The objects, names, signals and time of two kernels are the same. The one's clock may have been read,
and the other's not. -/
structure SameWorld (k k' : Kernel) : Prop where
  /-- the objects hold the same, and have the same names -/
  objects : k.registry.bare = k'.registry.bare
  /-- the same signals are pending and blocked -/
  signals : k.signals.Alike k'.signals
  /-- it is the same time -/
  clock : k.clock.unread = k'.clock.unread

namespace SameWorld

variable {k k' k'' : Kernel}

theorem refl (k : Kernel) : k.SameWorld k := ⟨rfl, .refl _, rfl⟩

theorem symm (h : k.SameWorld k') : k'.SameWorld k :=
  ⟨h.objects.symm, h.signals.symm, h.clock.symm⟩

theorem trans (h : k.SameWorld k') (h' : k'.SameWorld k'') : k.SameWorld k'' :=
  ⟨h.objects.trans h'.objects, h.signals.trans h'.signals, h.clock.trans h'.clock⟩

theorem now_eq (h : k.SameWorld k') : k.clock.now = k'.clock.now :=
  congrArg (fun clock => clock.now) h.clock

theorem readiness_eq (h : k.SameWorld k') (target : Target) :
    k.readiness target = k'.readiness target := by
  simp only [readiness]
  obtain ⟨hnone, hnone'⟩ | ⟨e, e', he, he', hbare⟩ := Registry.get?_cases_of_bare h.objects target
  · rw [hnone, hnone']
  · rw [he, he']
    exact Entity.readiness_congr hbare

theorem hasPending_eq (h : k.SameWorld k') (thread : ThreadId) :
    k.hasPending thread = k'.hasPending thread := by
  simp only [hasPending, ThreadSignals.hasDeliverable, (h.signals thread).1,
    h.signals.delivers_eq thread]

theorem exitStatus?_eq (h : k.SameWorld k') (target : Target) :
    k.exitStatus? target = k'.exitStatus? target := by
  simp only [exitStatus?]
  obtain ⟨hnone, hnone'⟩ | ⟨⟨_, o, _⟩, ⟨_, o', _⟩, he, he', hbare⟩ :=
    Registry.get?_cases_of_bare h.objects target
  · rw [hnone, hnone']
  · obtain rfl : o = o' := Entity.object_congr hbare
    rw [he, he']
    cases o <;> rfl

/-- Signals may change in both, if they stay the same. -/
theorem signal (h : k.SameWorld k') {s s' : SignalTable} (hsignals : s.Alike s') :
    SameWorld { k with signals := s } { k' with signals := s' } :=
  ⟨h.objects, hsignals, h.clock⟩

/-- The time may change in both, if it stays the same. -/
theorem timed (h : k.SameWorld k') {clock clock' : Clock} (hclock : clock.unread = clock'.unread) :
    SameWorld { k with clock := clock } { k' with clock := clock' } :=
  ⟨h.objects, h.signals, hclock⟩

/-- Objects may change in both, if they stay the same. -/
theorem replace (h : k.SameWorld k') {r r' : Registry} (hobjects : r.bare = r'.bare) :
    SameWorld { k with registry := r } { k' with registry := r' } :=
  ⟨hobjects, h.signals, h.clock⟩

theorem act (h : k.SameWorld k') (target : Target) (a : Object.Action) :
    (k.act target a).1.SameWorld (k'.act target a).1 := by
  simp only [Kernel.act]
  obtain ⟨hnone, hnone'⟩ | ⟨e, e', he, he', hbare⟩ := Registry.get?_cases_of_bare h.objects target
  · rw [hnone, hnone']
    exact h
  · rw [he, he']
    exact ⟨Registry.put_bare_congr h.objects target (Entity.bare_act_congr hbare a _ _), h.signals,
      h.clock⟩

theorem remove (h : k.SameWorld k') (kind : Kind) (id : ObjectId) (last : Object.Action) :
    (k.remove kind id last).1.SameWorld (k'.remove kind id last).1 := by
  simp only [Kernel.remove, Registry.resolve_congr h.objects]
  rcases k'.registry.resolve kind id with cause | target
  · exact h
  · exact (h.replace (Registry.unlist_bare_congr h.objects kind id)).act target last

theorem exitThread (h : k.SameWorld k') (id : ObjectId) (status : Int32) :
    (k.exitThread id status).1.SameWorld (k'.exitThread id status).1 := by
  rw [kernel_exitThread, kernel_exitThread, Registry.resolve_congr h.objects]
  rcases k'.registry.resolve .thread id with cause | target
  · exact h
  · exact h.act target (.thread (.exit status))

theorem reapThread (h : k.SameWorld k') (id : ObjectId) :
    (k.reapThread id).1.SameWorld (k'.reapThread id).1 := by
  simp only [Kernel.reapThread, Registry.resolve_congr h.objects]
  rcases k'.registry.resolve .thread id with cause | target
  · exact h
  · simp only [h.exitStatus?_eq target]
    rcases k'.exitStatus? target with _ | status
    · exact h
    · exact h.replace (Registry.unlist_bare_congr h.objects .thread id)

end SameWorld

/-- A session that is aborted is no part of the world. -/
theorem sameWorld_interruptActive (k : Kernel) (thread : ThreadId) :
    (k.interruptActive thread).SameWorld k := by
  refine ⟨congrArg Registry.bare (registry_interruptActive k thread), ?_, ?_⟩
  · exact (aside_interruptActive 0 k thread).signals
  · exact congrArg Clock.unread (aside_interruptActive 0 k thread).clock

/-- The clock is read, and the world stays the same. -/
theorem Consults.sameWorld {k k' : Kernel} (h : k.Consults k') : k.SameWorld k' := by
  cases h with
  | kept => exact .refl k
  | read => exact ⟨rfl, .refl _, rfl⟩

namespace SameWorld

variable {k k' : Kernel}

theorem interruptActive (h : k.SameWorld k') (thread : ThreadId) :
    (k.interruptActive thread).SameWorld (k'.interruptActive thread) :=
  ((sameWorld_interruptActive k thread).trans h).trans (sameWorld_interruptActive k' thread).symm

/-- A signal that is queued bears the time stamp that was read for it. -/
theorem send (h : k.SameWorld k') (sender receiver : ThreadId) (signal : Signal)
    (hcounts : (k.send sender receiver signal).1.clock.CountsAs
      (k'.send sender receiver signal).1.clock) :
    (k.send sender receiver signal).1.SameWorld (k'.send sender receiver signal).1 := by
  rw [clock_send, clock_send] at hcounts
  simp only [Kernel.send]
  obtain ⟨cause, hrefused, hrefused'⟩ | ⟨s, s', hqueued, hqueued', halike, hdelivers⟩ :=
    h.signals.enqueue receiver ⟨signal, sender, k.clock.stamp⟩ ⟨signal, sender, k'.clock.stamp⟩
  · rw [hrefused, hrefused']
    exact h
  · rw [hqueued, hqueued'] at hcounts
    have hsame : k.clock.stamp = k'.clock.stamp := Clock.stamp_congr h.clock (hcounts _ _ rfl rfl)
    have hqueue : SameWorld { k with signals := s, clock := k.clock.read }
        { k' with signals := s', clock := k'.clock.read } :=
      (h.signal (halike (by rw [hsame]))).timed h.clock
    rw [hqueued, hqueued']
    simp only [hdelivers signal]
    split
    · exact hqueue.interruptActive receiver
    · exact hqueue

theorem block (h : k.SameWorld k') (thread : ThreadId) (signal : Signal) :
    (k.block thread signal).1.SameWorld (k'.block thread signal).1 := by
  simp only [Kernel.block]
  obtain ⟨cause, hrefused, hrefused'⟩ | ⟨s, s', hblocked, hblocked', halike⟩ :=
    h.signals.block thread signal
  · rw [hrefused, hrefused']
    exact h
  · rw [hblocked, hblocked']
    exact h.signal halike

theorem unblock (h : k.SameWorld k') (thread : ThreadId) (signal : Signal) :
    (k.unblock thread signal).SameWorld (k'.unblock thread signal) := by
  have halike := h.signals.unblock thread signal
  simp only [Kernel.unblock, (halike thread).1]
  split
  · exact (h.signal halike).interruptActive thread
  · exact h.signal halike

/-- An object whose queue is changed makes no difference. -/
theorem put_left {target : Target} {old e : Entity} (hold : k.registry.get? target = some old)
    (h : e.bare = old.bare) : SameWorld { k with registry := k.registry.put target e } k :=
  ⟨Registry.bare_put_self hold h, .refl _, rfl⟩

theorem enroll_left (k : Kernel) (target : Target) (interest : Events) (waker : Waker) :
    (Operation.effect k (.enroll target interest waker)).SameWorld k := by
  simp only [Operation.effect, Operation.run, Kernel.enroll]
  rcases he : k.registry.get? target with _ | e
  · exact .refl k
  · exact put_left he rfl

theorem disenroll_left (k : Kernel) (target : Target) (token : Token) :
    (Operation.effect k (.disenroll target token)).SameWorld k := by
  simp only [Operation.effect, Operation.run, Kernel.disenroll]
  rcases he : k.registry.get? target with _ | e
  · exact .refl k
  · exact put_left he rfl

/-- **The world goes on in the same way**, whatever the tickets and sessions are, if the clocks count from
the same moment once they were read. -/
theorem effect (h : k.SameWorld k') (op : Operation)
    (hcounts : (op.effect k).clock.CountsAs (op.effect k').clock) :
    (op.effect k).SameWorld (op.effect k') := by
  cases op with
  | create blueprint => exact h.replace (Registry.create_bare_congr h.objects _)
  | act target action =>
    rw [Operation.effect_act, Operation.effect_act]
    exact h.act target action
  | enroll target interest waker =>
    exact ((enroll_left k _ _ _).trans h).trans (enroll_left k' _ _ _).symm
  | disenroll target token =>
    exact ((disenroll_left k _ _).trans h).trans (disenroll_left k' _ _).symm
  | deleteSemaphore id => exact h.remove .semaphore id _
  | deletePort id => exact h.remove .port id _
  | closeEndpoint id => exact h.remove .endpoint id _
  | exitThread id status => exact h.exitThread id status
  | reapThread id => exact h.reapThread id
  | send sender receiver signal => exact h.send sender receiver signal hcounts
  | block thread signal => exact h.block thread signal
  | unblock thread signal => exact h.unblock thread signal
  | take thread => exact h.signal (h.signals.take thread)
  | clear thread => exact h.signal (h.signals.clear thread)
  | cleanup thread => exact h.signal (h.signals.cleanup thread)
  | register thread session =>
    exact h.signal (h.signals.put thread (h.signals thread).1 (h.signals thread).2)
  | unregister thread =>
    exact h.signal (h.signals.put thread (h.signals thread).1 (h.signals thread).2)
  | tell => exact ⟨h.objects, h.signals, h.clock⟩
  | elapse nanos => exact h.timed (congrArg (Clock.elapse · nanos) h.clock)

/-- The clock goes on in the same way, too. -/
theorem clock_effect (h : k.SameWorld k') (hclock : k.clock = k'.clock) (op : Operation) :
    (op.effect k).clock = (op.effect k').clock := by
  rw [op.clock_effect, op.clock_effect]
  cases op with
  | send sender receiver signal =>
    rw [Operation.clockAfter, Operation.clockAfter]
    obtain ⟨cause, hrefused, hrefused'⟩ | ⟨s, s', hqueued, hqueued', -⟩ :=
      h.signals.enqueue receiver ⟨signal, sender, k.clock.stamp⟩ ⟨signal, sender, k'.clock.stamp⟩
    · rw [hrefused, hrefused']
      exact hclock
    · rw [hqueued, hqueued']
      exact congrArg Clock.read hclock
  | tell => exact congrArg Clock.read hclock
  | elapse nanos => exact congrArg (Clock.elapse · nanos) hclock
  | _ => exact hclock

/-- Tickets that leave make no difference. -/
theorem leaveAll_left (k : Kernel) (tickets : List Ticket) : (k.leaveAll tickets).SameWorld k := by
  induction tickets generalizing k with
  | nil => exact .refl k
  | cons ticket tickets ih =>
    refine (ih (ticket.leave k)).trans ?_
    rcases hplace : ticket.place with _ | ⟨target, token⟩
    · rw [Ticket.leave_of_none hplace]
      exact .refl k
    · rw [Ticket.leave_of_some hplace]
      exact disenroll_left k target token

end SameWorld

end Kernel

/-- **No step of a call makes a difference to the world.** -/
theorem Call.Steps.sameWorld {k k' : Kernel} {c : Call} {p : Progress} (h : Steps k c k' p) :
    k'.SameWorld k := by
  refine ⟨?_, h.aside.signals, congrArg Clock.unread h.aside.clock⟩
  obtain ⟨hregistry, -⟩ | ⟨target, e, interest, index, c', -, -, -, rfl, -, -⟩ | ⟨hregistry, -⟩ :=
    h.registry_cases
  · rw [hregistry]
  · exact (Kernel.SameWorld.enroll_left k _ _ _).objects
  · rw [hregistry]
    exact (Kernel.SameWorld.leaveAll_left k _).objects

end KernelWait
