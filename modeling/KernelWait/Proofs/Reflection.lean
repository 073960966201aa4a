import KernelWait.Proofs.Standing
import KernelWait.Proofs.World

/-!
# A session in two kernels

What a kernel has to do with one session: the session's notifier, the tickets that wait in queues on its
behalf, and the threads whose signals abort it. Two kernels may hold this much of a session in common,
which may go by another number and by other tokens in the one than in the other, whatever else waits there
(`Kernel.Reflects`).

**If the world is the same in both, a session goes on to be the same**, as an announcement comes to it
as a row of latches, the order of which does not matter (`Notifier.latch_comm`,
`Kernel.Reflects.effect`). A step of another call makes no difference to it (`Call.Steps.spares`).
-/

namespace KernelWait

/-! ## The order of latches -/

namespace Notifier

variable {n : Notifier} {slot : Nat} {events held : Events}

theorem latch_of_refused
    (h : n.phase = .done ∨ events = ∅ ∨ n.latched[slot]? = none) : (n.latch slot events).1 = n := by
  obtain ⟨-, heq⟩ | ⟨held, hphase, hne, hslot, -⟩ := n.latch_cases slot events
  · exact heq
  · rcases h with hdone | hempty | hnone
    · exact absurd hdone hphase
    · exact absurd hempty hne
    · cases hslot.symm.trans hnone

theorem latch_of_accepted (hphase : n.phase ≠ .done) (hne : events ≠ ∅)
    (hslot : n.latched[slot]? = some held) :
    (n.latch slot events).1 = (n.store slot held events).wakeOwner := by
  obtain ⟨hrefused, -⟩ | ⟨held', -, -, hslot', heq⟩ := n.latch_cases slot events
  · rcases hrefused with hdone | hempty | hnone
    · exact absurd hdone hphase
    · exact absurd hempty hne
    · cases hslot.symm.trans hnone
  · obtain rfl := Option.some.inj (hslot.symm.trans hslot')
    exact heq

/-- What is refused before another latch is refused after it. -/
theorem refused_latch {other : Nat} {more : Events}
    (h : n.phase = .done ∨ events = ∅ ∨ n.latched[slot]? = none) :
    (n.latch other more).1.phase = .done ∨ events = ∅ ∨
      (n.latch other more).1.latched[slot]? = none := by
  rw [phase_latch]
  refine h.imp_right (Or.imp_right fun hnone => ?_)
  rw [List.getElem?_eq_none_iff] at hnone ⊢
  rwa [length_latched_latch]

theorem wakeOwner_store_wakeOwner (n : Notifier) (slot : Nat) (held events : Events) :
    (n.wakeOwner.store slot held events).wakeOwner = (n.store slot held events).wakeOwner := by
  by_cases hwakes : n.phase.wakes = true <;> simp [wakeOwner, store, signal, hwakes, WakeEvent.signal]

/-- Latches into different slots, or into one, may change places. -/
theorem store_comm {other : Nat} {more held' : Events} (hne : events ≠ ∅) (hne' : more ≠ ∅)
    (hslot : n.latched[slot]? = some held) (hslot' : n.latched[other]? = some held') :
    ∃ between between', (n.store slot held events).latched[other]? = some between ∧
      (n.store other held' more).latched[slot]? = some between' ∧
      (n.store slot held events).store other between more =
        (n.store other held' more).store slot between' events := by
  have hlt := (List.getElem?_eq_some_iff.1 hslot).1
  have hlt' := (List.getElem?_eq_some_iff.1 hslot').1
  by_cases hsame : slot = other
  · subst hsame
    obtain rfl := Option.some.inj (hslot.symm.trans hslot')
    refine ⟨held ∪ events, held ∪ more, List.getElem?_set_self hlt, List.getElem?_set_self hlt, ?_⟩
    have hfull : held ∪ events ≠ ∅ := fun hempty => hne (Events.union_eq_empty_iff.1 hempty).2
    have hfull' : held ∪ more ≠ ∅ := fun hempty => hne' (Events.union_eq_empty_iff.1 hempty).2
    simp only [store, List.set_set, if_neg hfull, if_neg hfull', Events.union_assoc,
      Events.union_comm events more]
  · refine ⟨held', held, ?_, ?_, ?_⟩
    · rw [store, List.getElem?_set_ne hsame, hslot']
    · rw [store, List.getElem?_set_ne (Ne.symm hsame), hslot]
    · simp only [store, List.set_comm _ _ hsame]
      by_cases hempty : held = ∅ <;> by_cases hempty' : held' = ∅ <;> simp [hempty, hempty']

/-- **Latches may change places.** -/
theorem latch_comm (n : Notifier) (slot other : Nat) (events more : Events) :
    ((n.latch slot events).1.latch other more).1 = ((n.latch other more).1.latch slot events).1 := by
  by_cases hrefused : n.phase = .done ∨ events = ∅ ∨ n.latched[slot]? = none
  · rw [latch_of_refused hrefused, latch_of_refused (refused_latch hrefused)]
  by_cases hrefused' : n.phase = .done ∨ more = ∅ ∨ n.latched[other]? = none
  · rw [latch_of_refused hrefused', latch_of_refused (refused_latch hrefused')]
  simp only [not_or, ← ne_eq, Option.ne_none_iff_exists'] at hrefused hrefused'
  obtain ⟨hphase, hne, held, hslot⟩ := hrefused
  obtain ⟨-, hne', held', hslot'⟩ := hrefused'
  obtain ⟨between, between', hbetween, hbetween', hcomm⟩ := store_comm hne hne' hslot hslot'
  rw [latch_of_accepted hphase hne hslot, latch_of_accepted hphase hne' hslot',
    latch_of_accepted (by rwa [phase_wakeOwner]) hne' (by rwa [latched_wakeOwner]),
    latch_of_accepted (by rwa [phase_wakeOwner]) hne (by rwa [latched_wakeOwner]),
    wakeOwner_store_wakeOwner, wakeOwner_store_wakeOwner, hcomm]

end Notifier

/-! ## The tickets of a session in a queue -/

namespace WaitQueue

/-- The slots of a session for which a queue holds an entry, and what they wait for. -/
def waiting (id : SessionId) (q : WaitQueue) : List (Nat × Events) :=
  (q.entries.filter (·.waker.session == id)).map fun entry => (entry.waker.slot, entry.interest)

/-- What an announcement latches for a session is decided by the session's own entries. -/
theorem latchAll_eq (id : SessionId) (events : Events) (q : WaitQueue) (n : Notifier) :
    n.latchAll id events q.entries =
      (q.waiting id).foldl
        (fun n p => if p.2 ∩ events ≠ ∅ then (n.latch p.1 (p.2 ∩ events)).1 else n) n := by
  rw [waiting]
  generalize q.entries = entries
  induction entries generalizing n with
  | nil => rfl
  | cons entry entries ih =>
    rw [Notifier.latchAll_cons, ih]
    by_cases hid : entry.waker.session = id
    · rw [List.filter_cons_of_pos (by rwa [beq_iff_eq])]
      simp only [hid, true_and, List.map_cons, List.foldl_cons]
    · rw [List.filter_cons_of_neg (by rwa [beq_iff_eq])]
      simp only [hid, false_and, if_false]

/-- The order of a queue makes no difference to a session. -/
theorem latchAll_congr {id id' : SessionId} {q q' : WaitQueue}
    (h : (q.waiting id).Perm (q'.waiting id')) (events : Events) (n : Notifier) :
    n.latchAll id events q.entries = n.latchAll id' events q'.entries := by
  rw [latchAll_eq, latchAll_eq]
  refine h.foldl_eq' (fun p _ p' _ n => ?_) n
  split <;> split
  · exact n.latch_comm _ _ _ _
  · rfl
  · rfl
  · rfl

theorem waiting_notify (id : SessionId) {events : Events} (hne : events ≠ ∅) (q : WaitQueue)
    (t : SessionTable) :
    (q.notify events t).1.waiting id =
      (q.waiting id).filter fun p => p.2 ∩ events = ∅ ∧ t.isLive ⟨id, p.1⟩ := by
  rw [waiting, waiting, notify_entries hne, List.filter_map, List.filter_filter, List.filter_filter]
  refine congrArg (List.map _) (List.filter_congr fun entry _ => ?_)
  by_cases hid : entry.waker.session = id
  · subst hid
    simp
  · simp [beq_false_of_ne hid]

/-- An announcement leaves the same tickets of a session, if the session is the same. -/
theorem waiting_notify_congr {id id' : SessionId} {q q' : WaitQueue}
    (h : (q.waiting id).Perm (q'.waiting id')) (events : Events) {t t' : SessionTable}
    (hnotifier : t.get? id = t'.get? id') :
    ((q.notify events t).1.waiting id).Perm ((q'.notify events t').1.waiting id') := by
  by_cases hne : events = ∅
  · subst hne
    rwa [notify_empty, notify_empty]
  · rw [waiting_notify id hne, waiting_notify id' hne]
    simp only [SessionTable.isLive, hnotifier]
    exact h.filter _

/-- A ticket of another session joins without a difference. -/
theorem waiting_append_of_ne {id : SessionId} {q q' : WaitQueue} {entry : QueueEntry}
    (hq : q'.entries = q.entries ++ [entry]) (hne : entry.waker.session ≠ id) :
    q'.waiting id = q.waiting id := by
  rw [waiting, waiting, hq, List.filter_append, List.filter_cons_of_neg (by rwa [beq_iff_eq]),
    List.filter_nil, List.append_nil]

theorem waiting_append_self {id : SessionId} {q q' : WaitQueue} {entry : QueueEntry}
    (hq : q'.entries = q.entries ++ [entry]) (hid : entry.waker.session = id) :
    q'.waiting id = q.waiting id ++ [(entry.waker.slot, entry.interest)] := by
  rw [waiting, waiting, hq, List.filter_append, List.filter_cons_of_pos (by rwa [beq_iff_eq]),
    List.filter_nil, List.map_append]
  rfl

/-- A token that no entry of a session carries takes none of its entries. -/
theorem waiting_remove {id : SessionId} {q : WaitQueue} (hfresh : q.Fresh) {token : Token}
    (h : ∀ entry ∈ q.entries, entry.token = token → entry.waker.session ≠ id) :
    ((q.remove token).1.waiting id).Perm (q.waiting id) := by
  refine (((remove_entries_perm hfresh token).filter _).map _).trans (.of_eq ?_)
  rw [waiting, List.filter_filter]
  refine congrArg (List.map _) (List.filter_congr fun entry hentry => ?_)
  by_cases htoken : entry.token = token
  · have hne := h entry hentry htoken
    simp [hne]
  · simp [htoken]

end WaitQueue

namespace Kernel

/-- The slots of a session for which an entry waits for an object, and what they wait for. -/
def waiting (id : SessionId) (k : Kernel) (target : Target) : List (Nat × Events) :=
  match k.registry.get? target with
  | some e => e.queue.waiting id
  | none => []

variable {id id' : SessionId} {k k' k₁ k₁' : Kernel} {target : Target} {e : Entity}

theorem waiting_of_get? (h : k.registry.get? target = some e) :
    k.waiting id target = e.queue.waiting id := by
  rw [waiting, h]

theorem waiting_of_none (h : k.registry.get? target = none) : k.waiting id target = [] := by
  rw [waiting, h]

/-- Who waits is a matter of the objects. -/
theorem waiting_congr (h : k'.registry.entities = k.registry.entities) (target : Target) :
    k'.waiting id target = k.waiting id target := by
  rw [waiting, waiting, Registry.get?_congr h]

theorem waiting_put_self {old : Entity} (hold : k.registry.get? target = some old) (e : Entity)
    (t : SessionTable) :
    waiting id { k with registry := k.registry.put target e, sessions := t } target =
      e.queue.waiting id := waiting_of_get? (Registry.get?_put_self hold e)

theorem waiting_put_ne {other : Target} (hne : other ≠ target) (k : Kernel) (e : Entity)
    (t : SessionTable) :
    waiting id { k with registry := k.registry.put target e, sessions := t } other =
      k.waiting id other := by
  rw [waiting, waiting, Registry.get?_put_ne hne]

/-- A ticket that joins a queue is in that queue only. -/
theorem waiting_enroll_ne {other : Target} (hne : other ≠ target) (k : Kernel) (interest : Events)
    (waker : Waker) :
    waiting id (Operation.effect k (.enroll target interest waker)) other = k.waiting id other := by
  rcases he : k.registry.get? target with _ | e
  · simp only [Operation.effect, Operation.run, Kernel.enroll, he]
  · rw [waiting, waiting, Kernel.registry_enroll he, Registry.get?_put_ne hne]

theorem waiting_enroll_self (he : k.registry.get? target = some e) {interest : Events}
    (hready : e.readiness ∩ interest = ∅) {waker : Waker} (hid : waker.session = id) :
    waiting id (Operation.effect k (.enroll target interest waker)) target =
      k.waiting id target ++ [(waker.slot, interest)] := by
  rw [waiting, registry_enroll he, Registry.get?_put_self he, waiting_of_get? he]
  exact WaitQueue.waiting_append_self
    (congrArg WaitQueue.entries (Entity.queue_enroll_of_disjoint hready waker)) hid

/-- The ticket of another session that joins a queue makes no difference. -/
theorem waiting_enroll_of_ne {interest : Events} {waker : Waker} (hne : waker.session ≠ id)
    (k : Kernel) (target other : Target) :
    waiting id (Operation.effect k (.enroll target interest waker)) other = k.waiting id other := by
  by_cases hto : other = target
  · subst hto
    rcases he : k.registry.get? other with _ | e
    · simp only [Operation.effect, Operation.run, Kernel.enroll, he]
    · rw [waiting, Kernel.registry_enroll he, Registry.get?_put_self he, waiting_of_get? he]
      by_cases hready : e.readiness ∩ interest = ∅
      · exact WaitQueue.waiting_append_of_ne
          (congrArg WaitQueue.entries (Entity.queue_enroll_of_disjoint hready waker)) hne
      · rw [Entity.enroll_of_ready hready]
  · exact waiting_enroll_ne hto k interest waker

/-- Nobody waits for an object that is new. -/
theorem waiting_create (k : Kernel) (blueprint : Object.Blueprint) (target : Target) :
    (k.create blueprint).1.waiting id target = k.waiting id target := by
  rcases hget : k.registry.get? target with _ | e
  · rw [waiting_of_none hget, waiting]
    rcases hnew : (k.create blueprint).1.registry.get? target with _ | e
    · rfl
    · have hadded : (k.create blueprint).1.registry.entities = k.registry.entities ++
          [{ id := k.registry.nextId (Object.ofBlueprint blueprint).kind,
             object := .ofBlueprint blueprint }] := rfl
      rcases Registry.get?_append_cases hadded hnew with hold | ⟨-, rfl⟩
      · cases hget.symm.trans hold
      · rfl
  · rw [waiting_of_get? hget]
    exact waiting_of_get? (Registry.get?_append rfl hget)

/-- If a session has no entry in any queue, it waits for nothing. -/
theorem waiting_eq_nil (h : ∀ target entry, k.Queued target entry → entry.waker.session ≠ id)
    (target : Target) : k.waiting id target = [] := by
  rw [waiting]
  rcases he : k.registry.get? target with _ | e
  · rfl
  · refine List.map_eq_nil_iff.2 (List.filter_eq_nil_iff.2 fun entry hentry => ?_)
    rw [beq_iff_eq]
    exact h target entry ⟨e, he, hentry⟩

/-! ## What two kernels hold in common -/

/-- Two kernels hold the same of a session, which has another number in each. -/
structure Reflects (id id' : SessionId) (k k' : Kernel) : Prop where
  /-- the same slots wait for each object, and for the same -/
  waiting : ∀ target, (k.waiting id target).Perm (k'.waiting id' target)
  /-- signals to the same threads abort it -/
  active : ∀ thread, (k.signals.get thread).activeWait = some id ↔
    (k'.signals.get thread).activeWait = some id'
  /-- its notifier is the same -/
  notifier : k.sessions.get? id = k'.sessions.get? id'

namespace Reflects

theorem refl (id : SessionId) (k : Kernel) : Reflects id id k k := ⟨fun _ => .refl _, fun _ => .rfl, rfl⟩

theorem symm (h : Reflects id id' k k') : Reflects id' id k' k :=
  ⟨fun target => (h.waiting target).symm, fun thread => (h.active thread).symm, h.notifier.symm⟩

theorem trans {id'' : SessionId} {k'' : Kernel} (h : Reflects id id' k k')
    (h' : Reflects id' id'' k' k'') : Reflects id id'' k k'' :=
  ⟨fun target => (h.waiting target).trans (h'.waiting target),
    fun thread => (h.active thread).trans (h'.active thread), h.notifier.trans h'.notifier⟩

/-- Sessions may be changed in both kernels, if this one stays the same. -/
theorem sessions (h : Reflects id id' k k') {t t' : SessionTable} (hnotifier : t.get? id = t'.get? id') :
    Reflects id id' { k with sessions := t } { k' with sessions := t' } :=
  ⟨h.waiting, h.active, hnotifier⟩

/-- The session may be changed in the same way in both kernels. -/
theorem modify (h : Reflects id id' k k') (f : Notifier → Notifier) :
    Reflects id id' { k with sessions := k.sessions.modify id f }
      { k' with sessions := k'.sessions.modify id' f } := by
  refine h.sessions ?_
  rw [SessionTable.get?_modify_self, SessionTable.get?_modify_self, h.notifier]

/-- Signals may be changed in both kernels, if they go on to abort the session or not. -/
theorem signals (h : Reflects id id' k k') {s s' : SignalTable}
    (hactive : ∀ thread, (s.get thread).activeWait = some id ↔ (s'.get thread).activeWait = some id') :
    Reflects id id' { k with signals := s } { k' with signals := s' } :=
  ⟨h.waiting, hactive, h.notifier⟩

/-- The directory makes no difference, and neither does the time. -/
theorem congr (h : Reflects id id' k k') (hentities : k₁.registry.entities = k.registry.entities)
    (hentities' : k₁'.registry.entities = k'.registry.entities) (hsignals : k₁.signals = k.signals)
    (hsignals' : k₁'.signals = k'.signals) (hsessions : k₁.sessions = k.sessions)
    (hsessions' : k₁'.sessions = k'.sessions) : Reflects id id' k₁ k₁' := by
  refine ⟨fun target => ?_, ?_, ?_⟩
  · rw [waiting_congr hentities, waiting_congr hentities']
    exact h.waiting target
  · rw [hsignals, hsignals']
    exact h.active
  · rw [hsessions, hsessions']
    exact h.notifier

end Reflects

/-- To read the clock makes no difference to a session. -/
theorem Consults.reflects {k k' : Kernel} (h : k.Consults k') (id : SessionId) :
    Reflects id id k k' := by
  cases h with
  | kept => exact .refl id k
  | read => exact (Reflects.refl id k).congr rfl rfl rfl rfl rfl rfl

/-- What an abortion of a wait makes of a session. -/
theorem get?_interruptActive (k : Kernel) (thread : ThreadId) (id : SessionId) :
    (k.interruptActive thread).sessions.get? id =
      if (k.signals.get thread).activeWait = some id then
        (k.sessions.get? id).map fun n => n.interrupt.1
      else k.sessions.get? id := by
  rw [interruptActive]
  rcases (k.signals.get thread).activeWait with _ | session
  · rfl
  · simp only [interrupt]
    by_cases hsession : session = id
    · subst hsession
      rw [if_pos rfl, SessionTable.get?_abort_self]
    · rw [if_neg fun heq => hsession (Option.some.inj heq),
        SessionTable.get?_abort_ne (Ne.symm hsession)]

end Kernel

/-- Operations of other threads make signals abort a session no longer, or leave it at that. -/
theorem Operation.activeAfter_eq_some_iff {op : Operation} {id : SessionId} (hbelow : op.Below id)
    (thread : ThreadId) (before : Option SessionId) :
    op.activeAfter thread before = some id ↔
      before = some id ∧ op ≠ .unregister thread ∧ op ≠ .cleanup thread ∧
        ∀ session, op ≠ .register thread session := by
  cases op with
  | register other session =>
    have hne : session ≠ id := Nat.ne_of_lt hbelow
    simp only [activeAfter]
    by_cases hto : thread = other
    · subst hto
      simp [hne]
    · simp [hto, Ne.symm hto]
  | unregister other | cleanup other =>
    simp only [activeAfter]
    by_cases hto : thread = other
    · subst hto
      simp
    · simp [hto, Ne.symm hto]
  | _ => simp [activeAfter]

namespace Kernel.Reflects

variable {id id' : SessionId} {k k' : Kernel}

theorem act (h : Reflects id id' k k') (hworld : k.SameWorld k') (target : Target)
    (a : Object.Action) : Reflects id id' (k.act target a).1 (k'.act target a).1 := by
  obtain ⟨hnone, hnone'⟩ | ⟨e, e', he, he', hbare⟩ :=
    Registry.get?_cases_of_bare hworld.objects target
  · simp only [Kernel.act, hnone, hnone']
    exact h
  · have hwaiting := h.waiting target
    rw [waiting_of_get? he, waiting_of_get? he'] at hwaiting
    have hobject := Entity.object_congr hbare
    -- only the object's own queue and the sessions change
    have hput : ∀ (new new' : Entity) (t t' : SessionTable),
        (new.queue.waiting id).Perm (new'.queue.waiting id') → t.get? id = t'.get? id' →
        Reflects id id' { k with registry := k.registry.put target new, sessions := t }
          { k' with registry := k'.registry.put target new', sessions := t' } := by
      intro new new' t t' hnew hnotifier
      refine ⟨fun other => ?_, h.active, hnotifier⟩
      by_cases hto : other = target
      · subst hto
        rw [waiting_put_self he, waiting_put_self he']
        exact hnew
      · rw [waiting_put_ne hto, waiting_put_ne hto]
        exact h.waiting other
    simp only [Kernel.act, he, he', Entity.act, hobject]
    rcases e'.object.perform a with _ | r
    · exact hput e e' _ _ hwaiting h.notifier
    · simp only [Entity.settle]
      by_cases htold : r.announces = true
      · rw [if_pos htold, if_pos htold]
        refine hput _ _ _ _ (WaitQueue.waiting_notify_congr hwaiting _ h.notifier) ?_
        rw [WaitQueue.get?_notify, WaitQueue.get?_notify, h.notifier]
        exact congrArg (Option.map · _) (funext fun n => WaitQueue.latchAll_congr hwaiting _ n)
      · rw [if_neg htold, if_neg htold]
        exact hput _ _ _ _ hwaiting h.notifier

theorem remove (h : Reflects id id' k k') (hworld : k.SameWorld k') (kind : Kind) (number : ObjectId)
    (last : Object.Action) :
    Reflects id id' (k.remove kind number last).1 (k'.remove kind number last).1 := by
  simp only [Kernel.remove, Registry.resolve_congr hworld.objects]
  rcases k'.registry.resolve kind number with cause | target
  · exact h
  · have hunlisted : Reflects id id' { k with registry := k.registry.unlist kind number }
        { k' with registry := k'.registry.unlist kind number } := h.congr rfl rfl rfl rfl rfl rfl
    exact hunlisted.act (hworld.replace (Registry.unlist_bare_congr hworld.objects kind number))
      target last

theorem exitThread (h : Reflects id id' k k') (hworld : k.SameWorld k') (number : ObjectId)
    (status : Int32) :
    Reflects id id' (k.exitThread number status).1 (k'.exitThread number status).1 := by
  rw [kernel_exitThread, kernel_exitThread, Registry.resolve_congr hworld.objects]
  rcases k'.registry.resolve .thread number with cause | target
  · exact h
  · exact h.act hworld target (.thread (.exit status))

theorem reapThread (h : Reflects id id' k k') (hworld : k.SameWorld k') (number : ObjectId) :
    Reflects id id' (k.reapThread number).1 (k'.reapThread number).1 := by
  simp only [Kernel.reapThread, Registry.resolve_congr hworld.objects]
  rcases k'.registry.resolve .thread number with cause | target
  · exact h
  · simp only [hworld.exitStatus?_eq target]
    rcases k'.exitStatus? target with _ | status
    · exact h
    · exact h.congr rfl rfl rfl rfl rfl rfl

theorem interruptActive (h : Reflects id id' k k') (thread : ThreadId) :
    Reflects id id' (k.interruptActive thread) (k'.interruptActive thread) := by
  refine ⟨fun target => ?_, fun other => ?_, ?_⟩
  · rw [waiting_congr (congrArg Registry.entities (registry_interruptActive k thread)),
      waiting_congr (congrArg Registry.entities (registry_interruptActive k' thread))]
    exact h.waiting target
  · rw [get_interruptActive, get_interruptActive]
    exact h.active other
  · simp only [get?_interruptActive, h.active thread, h.notifier]

theorem send (h : Reflects id id' k k') (hworld : k.SameWorld k') (sender receiver : ThreadId)
    (signal : Signal) :
    Reflects id id' (k.send sender receiver signal).1 (k'.send sender receiver signal).1 := by
  simp only [Kernel.send]
  obtain ⟨cause, hrefused, hrefused'⟩ | ⟨s, s', hqueued, hqueued', -, hdelivers⟩ :=
    hworld.signals.enqueue receiver ⟨signal, sender, k.clock.stamp⟩ ⟨signal, sender, k'.clock.stamp⟩
  · rw [hrefused, hrefused']
    exact h
  · have hqueue : Reflects id id' { k with signals := s, clock := k.clock.read }
        { k' with signals := s', clock := k'.clock.read } := by
      have hsignals : Reflects id id' { k with signals := s } { k' with signals := s' } := by
        refine h.signals fun thread => ?_
        rw [SignalTable.activeWait_enqueue hqueued, SignalTable.activeWait_enqueue hqueued']
        exact h.active thread
      exact hsignals.congr rfl rfl rfl rfl rfl rfl
    rw [hqueued, hqueued']
    simp only [hdelivers signal]
    split
    · exact hqueue.interruptActive receiver
    · exact hqueue

theorem unblock (h : Reflects id id' k k') (hworld : k.SameWorld k') (thread : ThreadId)
    (signal : Signal) : Reflects id id' (k.unblock thread signal) (k'.unblock thread signal) := by
  have hfreed : Reflects id id' { k with signals := k.signals.unblock thread signal }
      { k' with signals := k'.signals.unblock thread signal } := by
    refine h.signals fun other => ?_
    rw [SignalTable.activeWait_unblock, SignalTable.activeWait_unblock]
    exact h.active other
  simp only [Kernel.unblock, (hworld.signals.unblock thread signal thread).1]
  split
  · exact hfreed.interruptActive thread
  · exact hfreed

/-- Whom signals abort is decided in the same way in both kernels. -/
theorem active_effect (h : Reflects id id' k k') {op : Operation} (hbelow : op.Below id)
    (hbelow' : op.Below id') (thread : ThreadId) :
    ((op.effect k).signals.get thread).activeWait = some id ↔
      ((op.effect k').signals.get thread).activeWait = some id' := by
  rw [op.activeWait_effect, op.activeWait_effect, Operation.activeAfter_eq_some_iff hbelow,
    Operation.activeAfter_eq_some_iff hbelow', h.active thread]

/-- **What threads do to both kernels leaves a session the same in both**, if they name neither it nor a
ticket of its own. -/
theorem effect (h : Reflects id id' k k') (hworld : k.SameWorld k') {op : Operation}
    (hbelow : op.Below id) (hbelow' : op.Below id')
    (hkeeps : ∀ target token, op ≠ .disenroll target token) :
    Reflects id id' (op.effect k) (op.effect k') := by
  have hactive := h.active_effect hbelow hbelow'
  cases op with
  | create blueprint =>
    refine ⟨fun target => ?_, hactive, h.notifier⟩
    have hwaiting := h.waiting target
    rwa [← waiting_create k blueprint, ← waiting_create k' blueprint] at hwaiting
  | act target action =>
    rw [Operation.effect_act, Operation.effect_act]
    exact h.act hworld target action
  | enroll target interest waker =>
    refine ⟨fun other => ?_, hactive, ?_⟩
    · rw [waiting_enroll_of_ne (Nat.ne_of_lt hbelow), waiting_enroll_of_ne (Nat.ne_of_lt hbelow')]
      exact h.waiting other
    · rw [sessions_enroll, sessions_enroll]
      exact h.notifier
  | disenroll target token => exact absurd rfl (hkeeps target token)
  | deleteSemaphore number => exact h.remove hworld .semaphore number _
  | deletePort number => exact h.remove hworld .port number _
  | closeEndpoint number => exact h.remove hworld .endpoint number _
  | exitThread number status => exact h.exitThread hworld number status
  | reapThread number => exact h.reapThread hworld number
  | send sender receiver signal => exact h.send hworld sender receiver signal
  | unblock thread signal => exact h.unblock hworld thread signal
  | block thread signal =>
    simp only [Operation.effect, Operation.run, Kernel.block] at hactive ⊢
    obtain ⟨cause, hrefused, hrefused'⟩ | ⟨s, s', hblocked, hblocked', -⟩ :=
      hworld.signals.block thread signal
    · rw [hrefused, hrefused']
      exact h
    · rw [hblocked, hblocked'] at hactive ⊢
      exact h.signals hactive
  | take thread | clear thread | cleanup thread | register thread session | unregister thread =>
    exact h.signals hactive
  | tell | elapse nanos => exact h.congr rfl rfl rfl rfl rfl rfl

/-- A ticket of the session joins the queue of an object in both kernels. -/
theorem join (h : Reflects id id' k k') {target : Target} {e e' : Entity} {interest : Events}
    {waker waker' : Waker} (he : k.registry.get? target = some e)
    (he' : k'.registry.get? target = some e') (hready : e.readiness ∩ interest = ∅)
    (hready' : e'.readiness ∩ interest = ∅) (hid : waker.session = id) (hid' : waker'.session = id')
    (hslot : waker.slot = waker'.slot) :
    Reflects id id' (Operation.effect k (.enroll target interest waker))
      (Operation.effect k' (.enroll target interest waker')) := by
  refine ⟨fun other => ?_, fun thread => ?_, ?_⟩
  · by_cases hto : other = target
    · subst hto
      rw [waiting_enroll_self he hready hid, waiting_enroll_self he' hready' hid', hslot]
      exact (h.waiting other).append_right _
    · rw [waiting_enroll_ne hto, waiting_enroll_ne hto]
      exact h.waiting other
  · rw [Operation.activeWait_effect, Operation.activeWait_effect]
    exact h.active thread
  · rw [sessions_enroll, sessions_enroll]
    exact h.notifier

end Kernel.Reflects

/-! ## Steps of other calls -/

namespace Session

variable {id other : SessionId}

theorem get?_collect_ne (hne : other ≠ id) (slot : Nat) (tickets : List Ticket) (k : Kernel) :
    (collect id slot tickets k).1.sessions.get? other = k.sessions.get? other := by
  induction tickets generalizing slot k with
  | nil => rfl
  | cons ticket tickets ih =>
    refine (ih _ _).trans ?_
    have htaken : ((ticket.leave k).sessions.take ⟨id, slot⟩).1.get? other =
        (ticket.leave k).sessions.get? other := by
      rw [SessionTable.take_eq_modify, SessionTable.get?_modify_ne hne]
    exact htaken.trans (congrArg (SessionTable.get? · other) (ticket.sessions_leave k))

theorem get?_drain_ne {s : Session} (hne : other ≠ s.id) (k : Kernel) :
    (s.drain k).1.sessions.get? other = k.sessions.get? other := by
  refine (SessionTable.get?_modify_ne hne _ _).trans ((get?_collect_ne hne 0 s.tickets _).trans ?_)
  split
  · split
    · exact SessionTable.get?_modify_ne hne _ _
    · rfl
  · rfl

theorem get?_close_ne {s : Session} (hne : other ≠ s.id) (k : Kernel) :
    (s.close k).sessions.get? other = k.sessions.get? other := by
  refine (SessionTable.get?_discard_ne hne _).trans ?_
  exact congrArg (SessionTable.get? · other) (k.sessions_leaveAll s.tickets)

theorem signals_collect (slot : Nat) (tickets : List Ticket) (k : Kernel) :
    (collect id slot tickets k).1.signals = k.signals := by
  induction tickets generalizing slot k with
  | nil => rfl
  | cons ticket tickets ih => exact (ih _ _).trans (ticket.signals_leave k)

theorem signals_drain (s : Session) (k : Kernel) : (s.drain k).1.signals = k.signals := by
  refine (signals_collect 0 s.tickets _).trans ?_
  split
  · split <;> rfl
  · rfl

theorem get?_blockSteps_ne {s : Session} (hne : other ≠ s.id) (k : Kernel) (b : Block) :
    (s.blockSteps 1 k b).1.sessions.get? other = k.sessions.get? other := by
  rw [blockSteps]
  rcases s.notifier? k with _ | n
  · rfl
  · exact SessionTable.get?_put_ne hne _ _

end Session

namespace Kernel

variable {id : SessionId} {handed : List (Target × Token)} {k : Kernel}

/-- Tickets that stand for no entry of a session leave without a difference to it. -/
theorem Numbered.waiting_leaveAll (h : k.Numbered handed) {tickets : List Ticket}
    (hothers : ∀ ticket ∈ tickets, ∀ target token, ticket.place = some (target, token) →
      ∀ entry, k.Queued target entry → entry.token = token → entry.waker.session ≠ id)
    (target : Target) : ((k.leaveAll tickets).waiting id target).Perm (k.waiting id target) := by
  induction tickets generalizing k with
  | nil => exact .refl _
  | cons ticket tickets ih =>
    refine (ih (h.leave ticket) fun later hlater other token hplace entry hqueued =>
      hothers later (List.mem_cons_of_mem _ hlater) other token hplace entry hqueued.of_leave).trans ?_
    rcases hplace : ticket.place with _ | ⟨other, token⟩
    · rw [Ticket.leave_of_none hplace]
    · simp only [Ticket.leave, hplace, disenroll]
      rcases he : k.registry.get? other with _ | e
      · exact .refl _
      · by_cases hto : target = other
        · subst hto
          rw [show waiting id { k with registry := k.registry.put target (e.disenroll token).1 } target =
            (e.disenroll token).1.queue.waiting id from waiting_put_self he _ k.sessions,
            waiting_of_get? he]
          exact WaitQueue.waiting_remove (h.fresh target e he) fun entry hentry =>
            hothers ticket List.mem_cons_self target token hplace entry ⟨e, he, hentry⟩
        · exact .of_eq (waiting_put_ne hto k _ k.sessions)

end Kernel

namespace Call

variable {k k' : Kernel} {c : Call} {p : Progress}

/-- A step of a call touches no notifier but its own. -/
theorem Steps.get?_ne (h : Steps k c k' p) {id : SessionId} (hne : id ≠ c.session.id) :
    k'.sessions.get? id = k.sessions.get? id := by
  cases h with
  | found | missing | resolved | registered | concluded | skipped | stopped | polled | approached
  | turned | ignored | full | vanished | overtaken | roused => rfl
  | resolvedQuietly | checked | retired => exact SessionTable.get?_modify_ne hne _ _
  | aborted =>
    exact (SessionTable.get?_modify_ne hne _ _).trans (SessionTable.get?_abort_ne hne _)
  | joined => exact congrArg (SessionTable.get? · id) (k.sessions_enroll _ _ _)
  | dozed => exact Session.get?_blockSteps_ne hne k _
  | drained => exact Session.get?_drain_ne hne k
  | hopeless => exact Session.get?_close_ne hne k
  | left =>
    refine (Session.get?_close_ne hne _).trans ?_
    split <;> rfl

/-- A step of a call decides whom signals abort when it registers and when it leaves, and only for its
own thread. -/
theorem Steps.signals_cases (h : Steps k c k' p) :
    k'.signals = k.signals ∨
    (c.stage = .registering ∧ k'.signals = k.signals.register c.thread c.session.id) ∨
    ((∃ answer, c.stage = .leaving answer) ∧ c.interruptible = true ∧
      k'.signals = k.signals.unregister c.thread) := by
  have hclose : ∀ k₁ : Kernel, (c.session.close k₁).signals = k₁.signals := fun k₁ =>
    k₁.signals_leaveAll c.session.tickets
  cases h with
  | found | missing | resolved | resolvedQuietly | aborted | checked | concluded | retired | skipped
  | stopped | polled | approached | turned | ignored | full | vanished | overtaken | roused =>
    exact .inl rfl
  | registered hstage => exact .inr (.inl ⟨hstage, rfl⟩)
  | joined _ _ _ hget =>
    refine .inl ?_
    simp only [Session.joining, Operation.effect, Operation.run, Kernel.enroll, hget]
  | @dozed b =>
    refine .inl ?_
    rw [Session.blockSteps]
    rcases c.session.notifier? k with _ | n <;> rfl
  | drained => exact .inl (c.session.signals_drain k)
  | hopeless => exact .inl (hclose k)
  | left hstage =>
    by_cases hsignals : c.interruptible = true
    · rw [if_pos hsignals]
      exact .inr (.inr ⟨⟨_, hstage⟩, hsignals, hclose _⟩)
    · rw [if_neg hsignals]
      exact .inl (hclose k)

/-- **A step of a call makes no difference to another session**, if the tickets of the call stand for
none of its entries and signals to the thread of the call do not abort it. -/
theorem Steps.spares (h : Steps k c k' p) {id : SessionId} {handed : List (Target × Token)}
    (hnumbered : k.Numbered handed) (hne : id ≠ c.session.id)
    (howns : ∀ ticket ∈ c.session.tickets, ∀ target token, ticket.place = some (target, token) →
      ∀ entry, k.Queued target entry → entry.token = token → entry.waker.session ≠ id)
    (hsignals : c.interruptible = true → (k.signals.get c.thread).activeWait ≠ some id)
    (hregisters : c.stage = .registering → c.interruptible = true) : k.Reflects id id k' := by
  refine ⟨fun target => ?_, fun thread => ?_, (h.get?_ne hne).symm⟩
  · obtain ⟨hregistry, -⟩ | ⟨other, e, interest, index, c', -, -, -, rfl, -, -⟩ | ⟨hregistry, -⟩ :=
      h.registry_cases
    · have hentities : k'.registry.entities = k.registry.entities :=
        congrArg Registry.entities hregistry
      rw [Kernel.waiting_congr hentities]
    · rw [Session.joining, Kernel.waiting_enroll_of_ne (Ne.symm hne)]
    · have hentities : k'.registry.entities = (k.leaveAll c.session.tickets).registry.entities :=
        congrArg Registry.entities hregistry
      rw [Kernel.waiting_congr hentities]
      exact (hnumbered.waiting_leaveAll howns target).symm
  · obtain hsame | ⟨hstage, hregistered⟩ | ⟨-, hleaves, hunregistered⟩ := h.signals_cases
    · rw [hsame]
    · rw [hregistered, SignalTable.register]
      by_cases hto : thread = c.thread
      · subst hto
        rw [SignalTable.get_put_self]
        exact ⟨fun hactive => absurd hactive (hsignals (hregisters hstage)),
          fun hactive => absurd (Option.some.inj hactive) (Ne.symm hne)⟩
      · rw [SignalTable.get_put_ne hto]
    · rw [hunregistered, SignalTable.unregister]
      by_cases hto : thread = c.thread
      · subst hto
        rw [SignalTable.get_put_self]
        exact ⟨fun hactive => absurd hactive (hsignals hleaves), fun hactive => by cases hactive⟩
      · rw [SignalTable.get_put_ne hto]

end Call

end KernelWait
