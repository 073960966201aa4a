import KernelWait.Proofs.Reached

/-!
# Kernels that differ by one session

A kernel in which a call is in progress is compared with one in which that call was never made. Objects,
directory and clock are the same, so are the signals that are pending or blocked, and the sessions of other
calls are in the same phases. In the queues of the one there may be entries of the call's session, and the
tokens of all others may differ, but they stand for the same tickets (`WaitQueue.Matches`).

**Whatever a thread does to both of them, they go on to differ by that session only**
(`Kernel.Alike.effect`, `Kernel.Alike.withdraw`).
-/

namespace KernelWait

/-! ## Phases -/

namespace SessionTable

/-- The phase that a session is in, while it exists. -/
def phase? (t : SessionTable) (id : SessionId) : Option Phase := (t.get? id).map Notifier.phase

theorem phase?_modify_ne {id other : SessionId} (h : other ≠ id) (t : SessionTable)
    (f : Notifier → Notifier) : (t.modify id f).phase? other = t.phase? other := by
  rw [phase?, get?_modify_ne h, phase?]

/-- A session that exists is in the phase that it is moved on to. -/
theorem phase?_advance_self (t : SessionTable) (id : SessionId) (phase : Phase) :
    (t.modify id (Notifier.advance phase)).phase? id = (t.phase? id).map fun _ => phase := by
  rw [phase?, get?_modify_self, phase?, Option.map_map, Option.map_map]
  rfl

theorem phase?_discard_self (t : SessionTable) (id : SessionId) : (t.discard id).phase? id = none := by
  rw [phase?, get?_discard_self, Option.map_none]

theorem phase?_put_ne {id other : SessionId} (h : other ≠ id) (t : SessionTable) (n : Notifier) :
    (t.put id n).phase? other = t.phase? other := by
  rw [phase?, get?_put_ne h, phase?]

theorem phase?_discard_ne {id other : SessionId} (h : other ≠ id) (t : SessionTable) :
    (t.discard id).phase? other = t.phase? other := by
  rw [phase?, get?_discard_ne h, phase?]

theorem phase?_take_ne {other : SessionId} {w : Waker} (h : other ≠ w.session) (t : SessionTable) :
    (t.take w).1.phase? other = t.phase? other := by
  rw [take]
  rcases t.get? w.session with _ | n
  · rfl
  · exact phase?_put_ne h t _

/-- A signal does not change the phase of a session. -/
theorem phase?_abort (t : SessionTable) (id other : SessionId) :
    (t.abort id).1.phase? other = t.phase? other := by
  rw [phase?, phase?]
  by_cases hid : other = id
  · subst hid
    rw [get?_abort_self, Option.map_map]
    refine congrArg (Option.map · (t.get? other)) (funext fun n => ?_)
    simp only [Function.comp, Notifier.interrupt]
    split <;> rfl
  · rw [get?_abort_ne hid]

theorem isLive_congr {t t' : SessionTable} {w : Waker}
    (h : t.phase? w.session = t'.phase? w.session) : t.isLive w = t'.isLive w := by
  simp only [phase?] at h
  simp only [isLive]
  rcases hn : t.get? w.session with _ | n <;> rcases hn' : t'.get? w.session with _ | n' <;>
    rw [hn, hn'] at h
  · cases h
  · cases h
  · rw [Option.map_some, Option.map_some] at h
    simp only [Option.some.inj h]

end SessionTable

/-- An announcement does not change the phase of a session. -/
theorem WaitQueue.phase?_notify (events : Events) (q : WaitQueue) (t : SessionTable)
    (id : SessionId) : (q.notify events t).2.1.phase? id = t.phase? id := by
  rw [SessionTable.phase?, get?_notify, SessionTable.phase?]
  rcases t.get? id with _ | n
  · rfl
  · simp only [Option.map_some, Notifier.phase_latchAll]

theorem Entity.phase?_act (e : Entity) (a : Object.Action) (t : SessionTable) (id : SessionId) :
    (e.act a t).2.1.phase? id = t.phase? id := by
  obtain ⟨-, hsame, -⟩ | ⟨-, htold⟩ := e.act_cases a t
  · rw [hsame]
  · rw [htold, WaitQueue.phase?_notify]

/-! ## Signals -/

/-- The same signals are pending and blocked for every thread. Which wait a signal aborts and what was
counted may differ. -/
def SignalTable.Alike (t t' : SignalTable) : Prop :=
  ∀ thread, (t.get thread).pending = (t'.get thread).pending ∧
    (t.get thread).blocked = (t'.get thread).blocked

namespace SignalTable

variable {t t' : SignalTable}

theorem get_forget_self (t : SignalTable) (thread : ThreadId) : (t.forget thread).get thread = {} := by
  have hnone : (t.threads.filter (·.1 != thread)).lookup thread = none := by
    rw [List.lookup_eq_none_iff]
    intro p hp
    rw [bne_comm]
    exact (List.mem_filter.1 hp).2
  rw [get, forget, hnone]
  rfl

theorem get_forget_ne {thread other : ThreadId} (h : other ≠ thread) (t : SignalTable) :
    (t.forget thread).get other = t.get other := by
  rw [get, forget, lookup_filter_ne h, get]

theorem Alike.put (h : t.Alike t') (thread : ThreadId) {s s' : ThreadSignals}
    (hpending : s.pending = s'.pending) (hblocked : s.blocked = s'.blocked) :
    (t.put thread s).Alike (t'.put thread s') := by
  intro other
  by_cases hto : other = thread
  · subst hto
    rw [get_put_self, get_put_self]
    exact ⟨hpending, hblocked⟩
  · rw [get_put_ne hto, get_put_ne hto]
    exact h other

/-- Whom a signal aborts does not matter. -/
theorem alike_put {thread : ThreadId} {s : ThreadSignals}
    (hpending : s.pending = (t.get thread).pending) (hblocked : s.blocked = (t.get thread).blocked) :
    (t.put thread s).Alike t := by
  intro other
  by_cases hto : other = thread
  · subst hto
    rw [get_put_self]
    exact ⟨hpending, hblocked⟩
  · rw [get_put_ne hto]
    exact ⟨rfl, rfl⟩

theorem alike_register (t : SignalTable) (thread : ThreadId) (session : SessionId) :
    (t.register thread session).Alike t := alike_put rfl rfl

theorem alike_unregister (t : SignalTable) (thread : ThreadId) : (t.unregister thread).Alike t :=
  alike_put rfl rfl

theorem Alike.refl (t : SignalTable) : t.Alike t := fun _ => ⟨rfl, rfl⟩

theorem Alike.symm (h : t.Alike t') : t'.Alike t := fun thread =>
  ⟨(h thread).1.symm, (h thread).2.symm⟩

theorem Alike.trans {t'' : SignalTable} (h : t.Alike t') (h' : t'.Alike t'') : t.Alike t'' :=
  fun thread => ⟨(h thread).1.trans (h' thread).1, (h thread).2.trans (h' thread).2⟩

theorem Alike.delivers_eq (h : t.Alike t') (thread : ThreadId) (signal : Signal) :
    (t.get thread).delivers signal = (t'.get thread).delivers signal := by
  rw [ThreadSignals.delivers, (h thread).2, ThreadSignals.delivers]

/-- Signals are refused in both tables, or queued in both; the same signal leaves the tables alike, and
whichever two are queued, the same is delivered. -/
theorem Alike.enqueue (h : t.Alike t') (thread : ThreadId) (p p' : PendingSignal) :
    (∃ cause, t.enqueue thread p = .error cause ∧ t'.enqueue thread p' = .error cause) ∨
    ∃ s s', t.enqueue thread p = .ok s ∧ t'.enqueue thread p' = .ok s' ∧
      (p = p' → s.Alike s') ∧
      ∀ signal, (s.get thread).delivers signal = (s'.get thread).delivers signal := by
  have hpending := (h thread).1
  simp only [SignalTable.enqueue]
  by_cases hfull : Limits.maxPendingSignals ≤ (t.get thread).pending.length
  · rw [if_pos hfull, if_pos (hpending ▸ hfull)]
    exact .inl ⟨_, rfl, rfl⟩
  · rw [if_neg hfull, if_neg (hpending ▸ hfull)]
    refine .inr ⟨_, _, rfl, rfl, fun hsame => ?_, fun signal => ?_⟩
    · subst hsame
      exact h.put thread (congrArg (· ++ [p]) hpending) (h thread).2
    · change ((t.put thread _).get thread).delivers signal =
        ((t'.put thread _).get thread).delivers signal
      rw [get_put_self, get_put_self]
      exact h.delivers_eq thread signal

theorem Alike.block (h : t.Alike t') (thread : ThreadId) (signal : Signal) :
    (∃ cause, t.block thread signal = .error cause ∧ t'.block thread signal = .error cause) ∨
    ∃ s s', t.block thread signal = .ok s ∧ t'.block thread signal = .ok s' ∧ s.Alike s' := by
  simp only [SignalTable.block]
  by_cases hcatch : signal.canCatch = true
  · rw [if_pos hcatch, if_pos hcatch]
    refine .inr ⟨_, _, rfl, rfl, h.put thread ?_ ?_⟩
    · simp only [ThreadSignals.block]
      split <;> split <;> exact (h thread).1
    · simp only [ThreadSignals.block]
      rw [(h thread).2]
      split
      · exact (h thread).2
      · rfl
  · rw [if_neg hcatch, if_neg hcatch]
    exact .inl ⟨_, rfl, rfl⟩

theorem Alike.unblock (h : t.Alike t') (thread : ThreadId) (signal : Signal) :
    (t.unblock thread signal).Alike (t'.unblock thread signal) := by
  refine h.put thread (h thread).1 ?_
  simp only [ThreadSignals.unblock, (h thread).2]

theorem Alike.take (h : t.Alike t') (thread : ThreadId) :
    (t.take thread).1.Alike (t'.take thread).1 := by
  refine h.put thread ?_ (h thread).2
  simp only [(h thread).1, h.delivers_eq thread]

theorem Alike.clear (h : t.Alike t') (thread : ThreadId) :
    (t.clear thread).1.Alike (t'.clear thread).1 := h.put thread rfl (h thread).2

theorem Alike.cleanup (h : t.Alike t') (thread : ThreadId) :
    (t.cleanup thread).1.Alike (t'.cleanup thread).1 := by
  intro other
  simp only [SignalTable.cleanup]
  by_cases hto : other = thread
  · subst hto
    rw [get_forget_self, get_forget_self]
    exact ⟨rfl, rfl⟩
  · rw [get_forget_ne hto, get_forget_ne hto]
    exact h other

end SignalTable

/-! ## Queues -/

/-- The entries of a queue that do not wait on behalf of a session. -/
def WaitQueue.others (id : SessionId) (q : WaitQueue) : List QueueEntry :=
  q.entries.filter (·.waker.session != id)

/-- Two entries stand for the same ticket: they have the same interest and waker, and their tokens are
those of the ticket that was handed out at the same position. -/
def QueueEntry.Twins (held held' : List (Target × Token)) (target : Target)
    (entry entry' : QueueEntry) : Prop :=
  entry.interest = entry'.interest ∧ entry.waker = entry'.waker ∧
    ∃ i : Nat, held[i]? = some (target, entry.token) ∧ held'[i]? = some (target, entry'.token)

/-- Leaving aside the entries of a session, the entries of a queue stand for the same tickets as those
of another queue. -/
def WaitQueue.Matches (id : SessionId) (held held' : List (Target × Token)) (target : Target)
    (q q' : WaitQueue) : Prop :=
  ∃ shared : List (QueueEntry × QueueEntry), (q.others id).Perm (shared.map Prod.fst) ∧
    q'.entries.Perm (shared.map Prod.snd) ∧
    ∀ p ∈ shared, p.1.Twins held held' target p.2

namespace WaitQueue

variable {id : SessionId} {held held' : List (Target × Token)} {target : Target}
  {q q' q₁ q₁' : WaitQueue}

theorem matches_empty : Matches id held held' target {} {} := 
  ⟨[], .nil, .nil, List.forall_mem_nil _⟩

/-- More tickets may be handed out. -/
theorem Matches.append (h : Matches id held held' target q q') (more more' : List (Target × Token)) :
    Matches id (held ++ more) (held' ++ more') target q q' := by
  obtain ⟨shared, hperm, hperm', htwins⟩ := h
  refine ⟨shared, hperm, hperm', fun p hp => ?_⟩
  obtain ⟨hinterest, hwaker, i, hi, hi'⟩ := htwins p hp
  refine ⟨hinterest, hwaker, i, ?_, ?_⟩
  · exact (List.getElem?_append_left (List.getElem?_eq_some_iff.1 hi).1).trans hi
  · exact (List.getElem?_append_left (List.getElem?_eq_some_iff.1 hi').1).trans hi'

/-- The entries of the session itself do not matter. -/
theorem Matches.of_others (h : Matches id held held' target q q')
    (hothers : (q₁.others id).Perm (q.others id)) : Matches id held held' target q₁ q' := by
  obtain ⟨shared, hperm, hrest⟩ := h
  exact ⟨shared, hothers.trans hperm, hrest⟩

/-- If two queues are left with entries that stand for the same tickets, they match as before. -/
theorem Matches.filter (h : Matches id held held' target q q') {keep keep' : QueueEntry → Bool}
    (hkeep : ∀ entry entry', entry.waker.session ≠ id → entry.Twins held held' target entry' →
      keep entry = keep' entry')
    (hq : q₁.entries.Perm (q.entries.filter keep))
    (hq' : q₁'.entries.Perm (q'.entries.filter keep')) :
    Matches id held held' target q₁ q₁' := by
  obtain ⟨shared, hperm, hperm', htwins⟩ := h
  have hsame : ∀ p ∈ shared, keep p.1 = keep' p.2 := by
    intro p hp
    refine hkeep p.1 p.2 ?_ (htwins p hp)
    have hmem : p.1 ∈ q.others id := hperm.mem_iff.2 (List.mem_map_of_mem hp)
    exact bne_iff_ne.1 (List.mem_filter.1 hmem).2
  refine ⟨shared.filter fun p => keep p.1, ?_, ?_, fun p hp => htwins p (List.mem_filter.1 hp).1⟩
  · have hcomm : (q.entries.filter keep).filter (·.waker.session != id) =
        (q.others id).filter keep := by
      rw [others, List.filter_filter, List.filter_filter]
      simp only [Bool.and_comm]
    refine (hq.filter _).trans ?_
    rw [hcomm]
    refine (hperm.filter keep).trans ?_
    rw [List.filter_map]
    exact .refl _
  · have hfilter : shared.filter (fun p => keep p.1) = shared.filter (keep' ∘ Prod.snd) :=
      List.filter_congr hsame
    refine hq'.trans ((hperm'.filter keep').trans ?_)
    rw [List.filter_map, hfilter]

/-- An announcement leaves the same tickets in both queues. -/
theorem Matches.notify (h : Matches id held held' target q q') (events : Events)
    {t t' : SessionTable} (hphase : ∀ other, other ≠ id → t.phase? other = t'.phase? other) :
    Matches id held held' target (q.notify events t).1 (q'.notify events t').1 := by
  by_cases hempty : events = ∅
  · rw [hempty, notify_empty, notify_empty]
    exact h
  · refine h.filter ?_ (.of_eq (notify_entries hempty q t)) (.of_eq (notify_entries hempty q' t'))
    rintro entry entry' hne ⟨hinterest, hwaker, -⟩
    rw [hinterest, hwaker, SessionTable.isLive_congr (hphase _ (hwaker ▸ hne))]

/-- A ticket that joins both queues is handed out at the same position. -/
theorem Matches.enroll (h : Matches id held held' target q q')
    (hlength : held.length = held'.length) {entry entry' : QueueEntry}
    (hne : entry.waker.session ≠ id) (hinterest : entry.interest = entry'.interest)
    (hwaker : entry.waker = entry'.waker) (hq : q₁.entries = q.entries ++ [entry])
    (hq' : q₁'.entries = q'.entries ++ [entry']) :
    Matches id (held ++ [(target, entry.token)]) (held' ++ [(target, entry'.token)]) target
      q₁ q₁' := by
  obtain ⟨shared, hperm, hperm', htwins⟩ :=
    h.append [(target, entry.token)] [(target, entry'.token)]
  refine ⟨shared ++ [(entry, entry')], ?_, ?_, fun p hp => ?_⟩
  · have hjoins : [entry].filter (·.waker.session != id) = [entry] :=
      List.filter_cons_of_pos (bne_iff_ne.2 hne)
    rw [others, hq, List.filter_append, hjoins, List.map_append]
    exact hperm.append_right _
  · rw [hq', List.map_append]
    exact hperm'.append_right _
  · rcases List.mem_append.1 hp with hold | hnew
    · exact htwins p hold
    · obtain rfl := List.mem_singleton.1 hnew
      refine ⟨hinterest, hwaker, held.length, List.getElem?_concat_length, ?_⟩
      rw [hlength]
      exact List.getElem?_concat_length

/-- A ticket that is withdrawn leaves both queues, or neither if it has left them before. -/
theorem Matches.withdraw (h : Matches id held held' target q q') (hunique : held.Nodup)
    (hunique' : held'.Nodup) {i : Nat} {token token' : Token}
    (hi : held[i]? = some (target, token)) (hi' : held'[i]? = some (target, token'))
    (hfresh : q.Fresh) (hfresh' : q'.Fresh) :
    Matches id held held' target (q.remove token).1 (q'.remove token').1 := by
  refine h.filter ?_ (remove_entries_perm hfresh token) (remove_entries_perm hfresh' token')
  rintro entry entry' - ⟨-, -, j, hj, hj'⟩
  -- the position tells which ticket it is, in both lists
  have hiff : entry.token = token ↔ entry'.token = token' := by
    constructor
    · rintro rfl
      obtain rfl := (List.getElem?_inj (List.getElem?_eq_some_iff.1 hi).1 hunique).1 (hi.trans hj.symm)
      exact (Prod.mk.inj (Option.some.inj (hj'.symm.trans hi'))).2
    · rintro rfl
      obtain rfl :=
        (List.getElem?_inj (List.getElem?_eq_some_iff.1 hi').1 hunique').1 (hi'.trans hj'.symm)
      exact (Prod.mk.inj (Option.some.inj (hj.symm.trans hi))).2
  by_cases htoken : entry.token = token
  · rw [bne, bne, beq_iff_eq.2 htoken, beq_iff_eq.2 (hiff.1 htoken)]
  · rw [bne_iff_ne.2 htoken, bne_iff_ne.2 fun heq => htoken (hiff.2 heq)]

/-- A token that was handed out to none of the others takes none of their entries with it. -/
theorem Matches.others_remove (h : Matches id held held' target q q') (hfresh : q.Fresh)
    {token : Token} (hown : (target, token) ∉ held) :
    ((q.remove token).1.others id).Perm (q.others id) := by
  obtain ⟨shared, hperm, -, htwins⟩ := h
  refine ((remove_entries_perm hfresh token).filter _).trans (.of_eq ?_)
  rw [others, List.filter_filter]
  refine List.filter_congr fun entry hentry => ?_
  by_cases hsession : entry.waker.session = id
  · rw [bne, beq_iff_eq.2 hsession, Bool.not_true, Bool.false_and]
  · have hmem : entry ∈ q.others id := List.mem_filter.2 ⟨hentry, bne_iff_ne.2 hsession⟩
    obtain ⟨p, hp, rfl⟩ := List.mem_map.1 (hperm.mem_iff.1 hmem)
    obtain ⟨-, -, i, hi, -⟩ := htwins p hp
    have htoken : p.1.token ≠ token := by
      rintro rfl
      exact hown (List.mem_of_getElem? hi)
    rw [bne_iff_ne.2 hsession, bne_iff_ne.2 htoken, Bool.and_self]

end WaitQueue

/-! ## Objects -/

/-- The same object, in the queue of which the same tickets of others wait. -/
structure Entity.Alike (id : SessionId) (held held' : List (Target × Token)) (target : Target)
    (e e' : Entity) : Prop where
  /-- the number is the same -/
  number : e.id = e'.id
  /-- everything that the object holds is the same -/
  object : e.object = e'.object
  /-- the same tickets wait -/
  queue : e.queue.Matches id held held' target e'.queue

namespace Entity

variable {id : SessionId} {held held' : List (Target × Token)} {target : Target} {e e' : Entity}

theorem Alike.append (h : e.Alike id held held' target e') (more more' : List (Target × Token)) :
    e.Alike id (held ++ more) (held' ++ more') target e' :=
  ⟨h.number, h.object, h.queue.append more more'⟩

/-- An action does the same to both. -/
theorem Alike.act (h : e.Alike id held held' target e') (a : Object.Action) {t t' : SessionTable}
    (hphase : ∀ other, other ≠ id → t.phase? other = t'.phase? other) :
    (e.act a t).1.Alike id held held' target (e'.act a t').1 := by
  obtain ⟨hnumber, hobject, hqueue⟩ := h
  simp only [Entity.act]
  rw [hobject]
  rcases e'.object.perform a with _ | r
  · exact ⟨hnumber, hobject, hqueue⟩
  · simp only [settle]
    by_cases htold : r.announces = true
    · rw [if_pos htold, if_pos htold]
      exact ⟨hnumber, rfl, hqueue.notify _ hphase⟩
    · rw [if_neg htold, if_neg htold]
      exact ⟨hnumber, rfl, hqueue⟩

end Entity

/-- The same objects under the same names. -/
structure Registry.Alike (id : SessionId) (held held' : List (Target × Token)) (r r' : Registry) :
    Prop where
  /-- there are as many objects -/
  length : r.entities.length = r'.entities.length
  /-- the objects are the same -/
  entities : ∀ target e e', r.get? target = some e → r'.get? target = some e' →
    e.Alike id held held' target e'
  /-- they have the same names -/
  directory : r.directory = r'.directory

namespace Registry

variable {id : SessionId} {held held' : List (Target × Token)} {target : Target}
  {r r' : Registry} {e e' : Entity}

theorem Alike.get?_cases (h : r.Alike id held held' r') (target : Target) :
    (r.get? target = none ∧ r'.get? target = none) ∨
    ∃ e e', r.get? target = some e ∧ r'.get? target = some e' ∧
      e.Alike id held held' target e' := by
  rcases Nat.lt_or_ge target r.entities.length with hlt | hge
  · have hlt' := h.length ▸ hlt
    have he : r.get? target = some _ := List.getElem?_eq_getElem hlt
    have he' : r'.get? target = some _ := List.getElem?_eq_getElem hlt'
    exact .inr ⟨_, _, he, he', h.entities target _ _ he he'⟩
  · exact .inl ⟨List.getElem?_eq_none hge, List.getElem?_eq_none (h.length ▸ hge)⟩

theorem Alike.append (h : r.Alike id held held' r') (more more' : List (Target × Token)) :
    r.Alike id (held ++ more) (held' ++ more') r' :=
  ⟨h.length, fun target e e' he he' => (h.entities target e e' he he').append more more',
    h.directory⟩

/-- One object may be changed, if it stays the same in both. -/
theorem Alike.put {old old' : Entity} (h : r.Alike id held held' r') (hold : r.get? target = some old)
    (hold' : r'.get? target = some old') (hnew : e.Alike id held held' target e') :
    (r.put target e).Alike id held held' (r'.put target e') := by
  refine ⟨?_, fun other e₁ e₁' he₁ he₁' => ?_, h.directory⟩
  · rw [Registry.put, Registry.put, List.length_set, List.length_set]
    exact h.length
  · by_cases hto : other = target
    · subst hto
      obtain rfl := Option.some.inj ((get?_put_self hold e).symm.trans he₁)
      obtain rfl := Option.some.inj ((get?_put_self hold' e').symm.trans he₁')
      exact hnew
    · rw [get?_put_ne hto] at he₁ he₁'
      exact h.entities other e₁ e₁' he₁ he₁'

/-- What a queue holds on behalf of the session alone may change. -/
theorem Alike.put_left {old : Entity} (h : r.Alike id held held' r') (hold : r.get? target = some old)
    (hnumber : e.id = old.id) (hobject : e.object = old.object)
    (hothers : (e.queue.others id).Perm (old.queue.others id)) :
    (r.put target e).Alike id held held' r' := by
  refine ⟨?_, fun other e₁ e₁' he₁ he₁' => ?_, h.directory⟩
  · rw [Registry.put, List.length_set]
    exact h.length
  · by_cases hto : other = target
    · subst hto
      obtain rfl := Option.some.inj ((get?_put_self hold e).symm.trans he₁)
      obtain ⟨hold₁, hold₂, hqueue⟩ := h.entities other old e₁' hold he₁'
      exact ⟨hnumber.trans hold₁, hobject.trans hold₂, hqueue.of_others hothers⟩
    · rw [get?_put_ne hto] at he₁
      exact h.entities other e₁ e₁' he₁ he₁'

/-- All objects are the same, with their numbers. -/
theorem Alike.objects (h : r.Alike id held held' r') :
    r.entities.map (fun e => (e.id, e.object)) = r'.entities.map (fun e => (e.id, e.object)) := by
  refine List.ext_getElem? fun target => ?_
  rw [List.getElem?_map, List.getElem?_map]
  obtain ⟨hnone, hnone'⟩ | ⟨e, e', he, he', halike⟩ := h.get?_cases target
  · rw [show r.entities[target]? = none from hnone, show r'.entities[target]? = none from hnone']
  · rw [show r.entities[target]? = some e from he, show r'.entities[target]? = some e' from he',
      Option.map_some, Option.map_some, halike.number, halike.object]

theorem Alike.nextId_eq (h : r.Alike id held held' r') (kind : Kind) :
    r.nextId kind = r'.nextId kind := by
  have hcount : ∀ entities : List Entity, entities.countP (·.kind == kind) =
      (entities.map fun e => (e.id, e.object)).countP (·.2.kind == kind) := by
    intro entities
    rw [List.countP_map]
    rfl
  rw [nextId, nextId, hcount, hcount, h.objects]

theorem Alike.resolve_eq (h : r.Alike id held held' r') (kind : Kind) (number : ObjectId) :
    r.resolve kind number = r'.resolve kind number := by
  rw [resolve, lookup?, h.directory, resolve, lookup?]

theorem Alike.unlist (h : r.Alike id held held' r') (kind : Kind) (number : ObjectId) :
    (r.unlist kind number).Alike id held held' (r'.unlist kind number) := by
  refine ⟨h.length, h.entities, ?_⟩
  rw [Registry.unlist, Registry.unlist, h.directory]

/-- A new object gets the same number and the same place in both. -/
theorem Alike.create (h : r.Alike id held held' r') (o : Object) :
    (r.create o).1.Alike id held held' (r'.create o).1 := by
  have hnew := h.nextId_eq o.kind
  refine ⟨?_, fun target e e' he he' => ?_, ?_⟩
  · simp only [Registry.create, list, List.length_append, h.length, List.length_singleton]
  · have hentities : (r.create o).1.entities = r.entities ++ [_] := rfl
    have hentities' : (r'.create o).1.entities = r'.entities ++ [_] := rfl
    -- a place is that of an old object in both registries, or that of the new one in both
    rcases get?_append_cases hentities he with hold | ⟨hnone, rfl⟩ <;>
      rcases get?_append_cases hentities' he' with hold' | ⟨hnone', rfl⟩ <;>
      obtain ⟨hno, hno'⟩ | ⟨old, old', hwas, hwas', halike⟩ := h.get?_cases target
    · cases hno.symm.trans hold
    · exact h.entities target e e' hold hold'
    · cases hno.symm.trans hold
    · cases hnone'.symm.trans hwas'
    · cases hno'.symm.trans hold'
    · cases hnone.symm.trans hwas
    · exact ⟨hnew, rfl, WaitQueue.matches_empty⟩
    · cases hnone.symm.trans hwas
  · simp only [Registry.create, list, Registry.unlist, h.directory, h.length, hnew]

end Registry

/-! ## Kernels -/

/-- Objects and one session set aside, two kernels are the same but for whom signals abort. -/
structure Kernel.Aside (id : SessionId) (k k' : Kernel) : Prop where
  /-- other sessions are in the same phases -/
  phases : ∀ other, other ≠ id → k.sessions.phase? other = k'.sessions.phase? other
  /-- the same signals are pending and blocked -/
  signals : k.signals.Alike k'.signals
  /-- it is the same time -/
  clock : k.clock = k'.clock

/-- Two kernels differ by what one session does. -/
structure Kernel.Alike (id : SessionId) (held held' : List (Target × Token)) (k k' : Kernel) :
    Prop where
  /-- the objects are the same -/
  registry : k.registry.Alike id held held' k'.registry
  /-- so is everything else -/
  aside : k.Aside id k'

namespace Kernel

variable {id : SessionId} {held held' : List (Target × Token)} {k k' k₁ k₁' k'' : Kernel}

theorem Aside.refl (id : SessionId) (k : Kernel) : k.Aside id k :=
  ⟨fun _ _ => rfl, .refl _, rfl⟩

theorem Aside.symm (h : k.Aside id k') : k'.Aside id k :=
  ⟨fun other hne => (h.phases other hne).symm, h.signals.symm, h.clock.symm⟩

theorem Aside.trans (h : k.Aside id k') (h' : k'.Aside id k'') : k.Aside id k'' :=
  ⟨fun other hne => (h.phases other hne).trans (h'.phases other hne), h.signals.trans h'.signals,
    h.clock.trans h'.clock⟩

/-- Another session may move on to a phase in both kernels. -/
theorem Aside.advance (h : k.Aside id k') (session : SessionId) (phase : Phase) :
    ({ k with sessions := k.sessions.modify session (Notifier.advance phase) } : Kernel).Aside id
      { k' with sessions := k'.sessions.modify session (Notifier.advance phase) } := by
  refine ⟨fun other hne => ?_, h.signals, h.clock⟩
  by_cases hsession : other = session
  · subst hsession
    simp only [SessionTable.phase?_advance_self, h.phases other hne]
  · simp only [SessionTable.phase?_modify_ne hsession]
    exact h.phases other hne

/-- Another session may be let go of in both kernels. -/
theorem Aside.discard (h : k.Aside id k') (session : SessionId) :
    ({ k with sessions := k.sessions.discard session } : Kernel).Aside id
      { k' with sessions := k'.sessions.discard session } := by
  refine ⟨fun other hne => ?_, h.signals, h.clock⟩
  by_cases hsession : other = session
  · subst hsession
    simp only [SessionTable.phase?_discard_self]
  · simp only [SessionTable.phase?_discard_ne hsession]
    exact h.phases other hne

/-- Aborting a wait changes no phase. -/
theorem aside_interruptActive (id : SessionId) (k : Kernel) (thread : ThreadId) :
    (k.interruptActive thread).Aside id k := by
  rw [interruptActive]
  rcases (k.signals.get thread).activeWait with _ | session
  · exact .refl id k
  · refine ⟨fun other _ => SessionTable.phase?_abort _ _ _, fun receiver => ?_, rfl⟩
    simp only [interrupt]
    split <;> exact ⟨rfl, rfl⟩

namespace Alike

/-- Objects may be changed in both kernels, if they stay the same. -/
theorem replace {later later' : List (Target × Token)} {r r' : Registry}
    (h : k.Alike id held held' k') (hregistry : r.Alike id later later' r') :
    ({ k with registry := r } : Kernel).Alike id later later' { k' with registry := r' } :=
  ⟨hregistry, h.aside.phases, h.aside.signals, h.aside.clock⟩

theorem act (h : k.Alike id held held' k') (target : Target) (a : Object.Action) :
    (k.act target a).1.Alike id held held' (k'.act target a).1 := by
  simp only [Kernel.act]
  obtain ⟨hnone, hnone'⟩ | ⟨e, e', he, he', halike⟩ := h.registry.get?_cases target
  · rw [hnone, hnone']
    exact h
  · rw [he, he']
    refine ⟨h.registry.put he he' (halike.act a h.aside.phases), ?_, h.aside.signals, h.aside.clock⟩
    intro other hne
    simp only [Entity.phase?_act]
    exact h.aside.phases other hne

theorem remove (h : k.Alike id held held' k') (kind : Kind) (number : ObjectId)
    (last : Object.Action) :
    (k.remove kind number last).1.Alike id held held' (k'.remove kind number last).1 := by
  simp only [Kernel.remove]
  rw [← h.registry.resolve_eq]
  rcases k.registry.resolve kind number with cause | target
  · exact h
  · exact (h.replace (h.registry.unlist kind number)).act target last

theorem exitThread (h : k.Alike id held held' k') (number : ObjectId) (status : Int32) :
    (k.exitThread number status).1.Alike id held held' (k'.exitThread number status).1 := by
  rw [kernel_exitThread, kernel_exitThread, ← h.registry.resolve_eq]
  rcases k.registry.resolve .thread number with cause | target
  · exact h
  · exact h.act target (.thread (.exit status))

theorem exitStatus?_eq (h : k.Alike id held held' k') (target : Target) :
    k.exitStatus? target = k'.exitStatus? target := by
  simp only [exitStatus?]
  obtain ⟨hnone, hnone'⟩ | ⟨⟨_, o, _⟩, ⟨_, o', _⟩, he, he', halike⟩ := h.registry.get?_cases target
  · rw [hnone, hnone']
  · obtain rfl : o = o' := halike.object
    rw [he, he']
    cases o <;> rfl

theorem reapThread (h : k.Alike id held held' k') (number : ObjectId) :
    (k.reapThread number).1.Alike id held held' (k'.reapThread number).1 := by
  simp only [Kernel.reapThread]
  rw [← h.registry.resolve_eq]
  rcases k.registry.resolve .thread number with cause | target
  · exact h
  · simp only [h.exitStatus?_eq target]
    rcases k'.exitStatus? target with _ | status
    · exact h
    · exact h.replace (h.registry.unlist .thread number)

theorem signal (h : k.Alike id held held' k') {s s' : SignalTable} (hsignals : s.Alike s') :
    ({ k with signals := s } : Kernel).Alike id held held' { k' with signals := s' } :=
  ⟨h.registry, h.aside.phases, hsignals, h.aside.clock⟩

/-- The time may change in both kernels, if it stays the same. -/
theorem timed (h : k.Alike id held held' k') {clock clock' : Clock} (hclock : clock = clock') :
    ({ k with clock := clock } : Kernel).Alike id held held' { k' with clock := clock' } :=
  ⟨h.registry, h.aside.phases, h.aside.signals, hclock⟩

/-- A signal may abort a wait in the one kernel and another, or none, in the other. -/
theorem interruptActive (h : k.Alike id held held' k') (thread : ThreadId) :
    (k.interruptActive thread).Alike id held held' (k'.interruptActive thread) := by
  refine ⟨?_, ((aside_interruptActive id k thread).trans h.aside).trans
    (aside_interruptActive id k' thread).symm⟩
  rw [registry_interruptActive, registry_interruptActive]
  exact h.registry

theorem send (h : k.Alike id held held' k') (sender receiver : ThreadId) (signal : Signal) :
    (k.send sender receiver signal).1.Alike id held held' (k'.send sender receiver signal).1 := by
  simp only [Kernel.send]
  obtain ⟨cause, hrefused, hrefused'⟩ | ⟨s, s', hqueued, hqueued', halike, hdelivers⟩ :=
    h.aside.signals.enqueue receiver ⟨signal, sender, k.clock.stamp⟩ ⟨signal, sender, k'.clock.stamp⟩
  · rw [hrefused, hrefused']
    exact h
  · rw [hqueued, hqueued']
    have hqueue := (h.signal (halike (by rw [h.aside.clock]))).timed (congrArg Clock.read h.aside.clock)
    simp only [hdelivers signal]
    split
    · exact hqueue.interruptActive receiver
    · exact hqueue

theorem block (h : k.Alike id held held' k') (thread : ThreadId) (signal : Signal) :
    (k.block thread signal).1.Alike id held held' (k'.block thread signal).1 := by
  simp only [Kernel.block]
  obtain ⟨cause, hrefused, hrefused'⟩ | ⟨s, s', hblocked, hblocked', halike⟩ :=
    h.aside.signals.block thread signal
  · rw [hrefused, hrefused']
    exact h
  · rw [hblocked, hblocked']
    exact h.signal halike

theorem unblock (h : k.Alike id held held' k') (thread : ThreadId) (signal : Signal) :
    (k.unblock thread signal).Alike id held held' (k'.unblock thread signal) := by
  have halike := h.aside.signals.unblock thread signal
  simp only [Kernel.unblock]
  simp only [(halike thread).1]
  split
  · exact (h.signal halike).interruptActive thread
  · exact h.signal halike

/-- **What a thread does to both kernels, outside of queues, leaves them alike.** -/
theorem effect_of_aloof (h : k.Alike id held held' k') {op : Operation}
    (henroll : ∀ target interest waker, op ≠ .enroll target interest waker)
    (hdisenroll : ∀ target token, op ≠ .disenroll target token) :
    (op.effect k).Alike id held held' (op.effect k') := by
  cases op with
  | create blueprint =>
    exact h.replace (h.registry.create _)
  | act target action =>
    rw [Operation.effect_act, Operation.effect_act]
    exact h.act target action
  | enroll target interest waker => exact absurd rfl (henroll target interest waker)
  | disenroll target token => exact absurd rfl (hdisenroll target token)
  | deleteSemaphore number => exact h.remove .semaphore number _
  | deletePort number => exact h.remove .port number _
  | closeEndpoint number => exact h.remove .endpoint number _
  | exitThread number status => exact h.exitThread number status
  | reapThread number => exact h.reapThread number
  | send sender receiver signal => exact h.send sender receiver signal
  | block thread signal => exact h.block thread signal
  | unblock thread signal => exact h.unblock thread signal
  | take thread => exact h.signal (h.aside.signals.take thread)
  | clear thread => exact h.signal (h.aside.signals.clear thread)
  | cleanup thread => exact h.signal (h.aside.signals.cleanup thread)
  | register thread session =>
    exact h.signal (h.aside.signals.put thread (h.aside.signals thread).1 (h.aside.signals thread).2)
  | unregister thread =>
    exact h.signal (h.aside.signals.put thread (h.aside.signals thread).1 (h.aside.signals thread).2)
  | tell => exact h.timed (congrArg Clock.read h.aside.clock)
  | elapse nanos => exact h.timed (congrArg (Clock.elapse · nanos) h.aside.clock)

theorem effect_enroll (h : k.Alike id held held' k') (hlength : held.length = held'.length)
    (target : Target) (interest : Events) {waker : Waker} (hne : waker.session ≠ id) :
    let op := Operation.enroll target interest waker
    (op.effect k).Alike id (held ++ op.handsOut k) (held' ++ op.handsOut k') (op.effect k') ∧
      (op.handsOut k).map Prod.fst = (op.handsOut k').map Prod.fst := by
  intro op
  obtain ⟨hnone, hnone'⟩ | ⟨e, e', he, he', halike⟩ := h.registry.get?_cases target
  · simp only [op, Operation.effect, Operation.run, Operation.handsOut, Kernel.enroll, hnone, hnone',
      List.append_nil]
    exact ⟨h, trivial⟩
  · have heffect : op.effect k =
        { k with registry := k.registry.put target (e.enroll interest waker).1 } := by
      simp only [op, Operation.effect, Operation.run, Kernel.enroll, he]
    have heffect' : op.effect k' =
        { k' with registry := k'.registry.put target (e'.enroll interest waker).1 } := by
      simp only [op, Operation.effect, Operation.run, Kernel.enroll, he']
    have hreadiness : e.readiness = e'.readiness := congrArg Object.readiness halike.object
    rw [heffect, heffect', Operation.handsOut_enroll he, Operation.handsOut_enroll he', ← hreadiness]
    by_cases hready : e.readiness ∩ interest = ∅
    · have hqueue := Entity.queue_enroll_of_disjoint hready waker
      have hqueue' := Entity.queue_enroll_of_disjoint (hreadiness ▸ hready) waker
      rw [if_pos hready, if_pos hready]
      refine ⟨h.replace ((h.registry.append _ _).put he he' ⟨halike.number, halike.object, ?_⟩), rfl⟩
      refine halike.queue.enroll hlength hne ?_ ?_ (congrArg WaitQueue.entries hqueue)
        (congrArg WaitQueue.entries hqueue')
      · rfl
      · rfl
    · rw [if_neg hready, if_neg hready, List.append_nil, List.append_nil,
        Entity.enroll_of_ready hready, Entity.enroll_of_ready (hreadiness ▸ hready)]
      exact ⟨h.replace (h.registry.put he he' halike), rfl⟩

/-- **What another thread does to both kernels leaves them alike**, and it gets a ticket for the same
object in both or in neither. -/
theorem effect (h : k.Alike id held held' k') (hlength : held.length = held'.length)
    {op : Operation} (hbelow : op.Below id)
    (hdisenroll : ∀ target token, op ≠ .disenroll target token) :
    (op.effect k).Alike id (held ++ op.handsOut k) (held' ++ op.handsOut k') (op.effect k') ∧
      (op.handsOut k).map Prod.fst = (op.handsOut k').map Prod.fst := by
  by_cases henroll : ∃ target interest waker, op = .enroll target interest waker
  · obtain ⟨target, interest, waker, rfl⟩ := henroll
    exact h.effect_enroll hlength target interest (Nat.ne_of_lt hbelow)
  · have hnothing : ∀ k : Kernel, op.handsOut k = [] := by
      intro k
      obtain hnone | ⟨target, e, interest, waker, rfl, -⟩ := op.handsOut_cases k
      · exact hnone
      · exact absurd ⟨target, interest, waker, rfl⟩ henroll
    rw [hnothing, hnothing, List.append_nil, List.append_nil]
    exact ⟨h.effect_of_aloof (fun target interest waker heq =>
      henroll ⟨target, interest, waker, heq⟩) hdisenroll, rfl⟩

/-- **A ticket that is withdrawn from both kernels leaves them alike**, though it may carry different
tokens. -/
theorem withdraw (h : k.Alike id held held' k') (hunique : held.Nodup) (hunique' : held'.Nodup)
    (hfresh : ∀ target e, k.registry.get? target = some e → e.queue.Fresh)
    (hfresh' : ∀ target e, k'.registry.get? target = some e → e.queue.Fresh) {i : Nat}
    {target : Target} {token token' : Token} (hi : held[i]? = some (target, token))
    (hi' : held'[i]? = some (target, token')) :
    (k.disenroll target token).1.Alike id held held' (k'.disenroll target token').1 := by
  simp only [Kernel.disenroll]
  obtain ⟨hnone, hnone'⟩ | ⟨e, e', he, he', halike⟩ := h.registry.get?_cases target
  · rw [hnone, hnone']
    exact h
  · rw [he, he']
    refine h.replace (h.registry.put he he' ⟨halike.number, halike.object, ?_⟩)
    exact halike.queue.withdraw hunique hunique' hi hi' (hfresh target e he) (hfresh' target e' he')

end Alike

end Kernel

end KernelWait
