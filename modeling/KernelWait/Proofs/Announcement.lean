import KernelWait.Object.Entity
import KernelWait.Proofs.EventSets

/-!
# What an announcement does

An announcement goes over a queue once. Which entries stay is decided by the interest of each and by
whether its session is live, and live sessions stay live while others are woken, so the queue that
is left can be read off at once (`WaitQueue.sweep_entries`).

**A session sees an announcement as a row of latches**, one for each of its entries that are met
(`WaitQueue.get?_sweep`), and nothing else of it changes (`Notifier.phase_latchAll`).
-/

namespace KernelWait

/-! ## Latching -/

namespace Notifier

@[simp] theorem phase_wakeOwner (n : Notifier) : n.wakeOwner.phase = n.phase := by
  rw [wakeOwner]
  split <;> rfl

@[simp] theorem latched_wakeOwner (n : Notifier) : n.wakeOwner.latched = n.latched := by
  rw [wakeOwner]
  split <;> rfl

@[simp] theorem latchedSlots_wakeOwner (n : Notifier) :
    n.wakeOwner.latchedSlots = n.latchedSlots := by
  rw [wakeOwner]
  split <;> rfl

@[simp] theorem interrupted_wakeOwner (n : Notifier) :
    n.wakeOwner.interrupted = n.interrupted := by
  rw [wakeOwner]
  split <;> rfl

@[simp] theorem timedOut_wakeOwner (n : Notifier) : n.wakeOwner.timedOut = n.timedOut := by
  rw [wakeOwner]
  split <;> rfl

/-- A latch is refused, and then changes nothing, or it stores the events and wakes the owner. -/
theorem latch_cases (n : Notifier) (slot : Nat) (events : Events) :
    ((n.phase = .done ∨ events = ∅ ∨ n.latched[slot]? = none) ∧ (n.latch slot events).1 = n) ∨
    ∃ held, n.phase ≠ .done ∧ events ≠ ∅ ∧ n.latched[slot]? = some held ∧
      (n.latch slot events).1 = (n.store slot held events).wakeOwner := by
  rw [latch]
  by_cases hrefused : n.phase = .done ∨ events = ∅
  · rw [if_pos hrefused]
    rcases hrefused with hdone | hempty
    · exact .inl ⟨.inl hdone, rfl⟩
    · exact .inl ⟨.inr (.inl hempty), rfl⟩
  · rw [if_neg hrefused]
    rw [not_or] at hrefused
    rcases hslot : n.latched[slot]? with _ | held
    · exact .inl ⟨.inr (.inr rfl), rfl⟩
    · exact .inr ⟨held, hrefused.1, hrefused.2, rfl, rfl⟩

/-- A latch is accepted just when the session is not over, there are events, and the slot exists. -/
theorem latch_accepted_iff (n : Notifier) (slot : Nat) (events : Events) :
    (n.latch slot events).2 = true ↔
      n.phase ≠ .done ∧ events ≠ ∅ ∧ slot < n.latched.length := by
  rw [latch]
  by_cases hrefused : n.phase = .done ∨ events = ∅
  · rw [if_pos hrefused]
    refine iff_of_false Bool.false_ne_true ?_
    rintro ⟨hphase, hne, -⟩
    exact hrefused.elim hphase hne
  · rw [if_neg hrefused]
    rw [not_or] at hrefused
    rcases hslot : n.latched[slot]? with _ | held
    · refine iff_of_false Bool.false_ne_true ?_
      rintro ⟨-, -, hlt⟩
      exact Nat.not_lt.2 (List.getElem?_eq_none_iff.1 hslot) hlt
    · exact iff_of_true rfl ⟨hrefused.1, hrefused.2, (List.getElem?_eq_some_iff.1 hslot).1⟩

@[simp] theorem phase_latch (n : Notifier) (slot : Nat) (events : Events) :
    (n.latch slot events).1.phase = n.phase := by
  obtain ⟨-, h⟩ | ⟨held, -, -, -, h⟩ := n.latch_cases slot events
  · rw [h]
  · rw [h, phase_wakeOwner]
    rfl

@[simp] theorem interrupted_latch (n : Notifier) (slot : Nat) (events : Events) :
    (n.latch slot events).1.interrupted = n.interrupted := by
  obtain ⟨-, h⟩ | ⟨held, -, -, -, h⟩ := n.latch_cases slot events
  · rw [h]
  · rw [h, interrupted_wakeOwner]
    rfl

@[simp] theorem timedOut_latch (n : Notifier) (slot : Nat) (events : Events) :
    (n.latch slot events).1.timedOut = n.timedOut := by
  obtain ⟨-, h⟩ | ⟨held, -, -, -, h⟩ := n.latch_cases slot events
  · rw [h]
  · rw [h, timedOut_wakeOwner]
    rfl

/-- A latch adds to its own slot, while the session is not over. -/
theorem getElem?_latched_latch_self {n : Notifier} (hphase : n.phase ≠ .done) (slot : Nat)
    (events : Events) :
    (n.latch slot events).1.latched[slot]? = (n.latched[slot]?).map (· ∪ events) := by
  obtain ⟨hrefused, h⟩ | ⟨held, -, -, hslot, h⟩ := n.latch_cases slot events
  · rw [h]
    rcases hrefused with hdone | hempty | hnone
    · exact absurd hdone hphase
    · rw [hempty]
      rcases n.latched[slot]? with _ | held
      · rfl
      · rw [Option.map_some, Events.union_empty]
    · rw [hnone]
      rfl
  · have hlt : slot < n.latched.length := (List.getElem?_eq_some_iff.1 hslot).1
    rw [h, latched_wakeOwner, hslot, store, List.getElem?_set_self hlt]
    rfl

/-- A latch leaves the other slots alone. -/
theorem getElem?_latched_latch_ne {n : Notifier} {slot other : Nat} (hne : other ≠ slot)
    (events : Events) : (n.latch slot events).1.latched[other]? = n.latched[other]? := by
  obtain ⟨-, h⟩ | ⟨held, -, -, -, h⟩ := n.latch_cases slot events
  · rw [h]
  · rw [h, latched_wakeOwner, store, List.getElem?_set_ne hne.symm]

@[simp] theorem length_latched_latch (n : Notifier) (slot : Nat) (events : Events) :
    (n.latch slot events).1.latched.length = n.latched.length := by
  obtain ⟨-, h⟩ | ⟨held, -, -, -, h⟩ := n.latch_cases slot events
  · rw [h]
  · rw [h, latched_wakeOwner, store, List.length_set]

/-- The notifier of a session after an announcement: a latch for each of its entries that are
met. -/
def latchAll (id : SessionId) (events : Events) (entries : List QueueEntry) (n : Notifier) :
    Notifier :=
  entries.foldl
    (fun n entry =>
      if entry.waker.session = id ∧ entry.interest ∩ events ≠ ∅ then
        (n.latch entry.waker.slot (entry.interest ∩ events)).1
      else n)
    n

theorem latchAll_cons (id : SessionId) (events : Events) (entry : QueueEntry)
    (entries : List QueueEntry) (n : Notifier) :
    n.latchAll id events (entry :: entries) =
      (if entry.waker.session = id ∧ entry.interest ∩ events ≠ ∅ then
        (n.latch entry.waker.slot (entry.interest ∩ events)).1
      else n).latchAll id events entries := rfl

/-- An entry of another session, or one that is not met, latches nothing. -/
theorem latchAll_cons_of_not {id : SessionId} {events : Events} {entry : QueueEntry}
    (h : ¬(entry.waker.session = id ∧ entry.interest ∩ events ≠ ∅)) (entries : List QueueEntry) :
    latchAll id events (entry :: entries) = latchAll id events entries := by
  funext n
  rw [latchAll_cons, if_neg h]

/-- What every latch of an announcement keeps, the announcement keeps. -/
theorem latchAll_induction {motive : Notifier → Prop} {id : SessionId} {events : Events}
    {entries : List QueueEntry} {n : Notifier} (start : motive n)
    (latch : ∀ n, ∀ entry ∈ entries, entry.waker.session = id → motive n →
      motive (n.latch entry.waker.slot (entry.interest ∩ events)).1) :
    motive (n.latchAll id events entries) := by
  induction entries generalizing n with
  | nil => exact start
  | cons entry entries ih =>
    rw [latchAll_cons]
    refine ih ?_ fun n e he => latch n e (List.mem_cons_of_mem _ he)
    split
    · next h => exact latch n entry List.mem_cons_self h.1 start
    · exact start

@[simp] theorem phase_latchAll (n : Notifier) (id : SessionId) (events : Events)
    (entries : List QueueEntry) : (n.latchAll id events entries).phase = n.phase :=
  latchAll_induction (motive := fun m => m.phase = n.phase) rfl
    fun _ _ _ _ h => (phase_latch _ _ _).trans h

@[simp] theorem interrupted_latchAll (n : Notifier) (id : SessionId) (events : Events)
    (entries : List QueueEntry) : (n.latchAll id events entries).interrupted = n.interrupted :=
  latchAll_induction (motive := fun m => m.interrupted = n.interrupted) rfl
    fun _ _ _ _ h => (interrupted_latch _ _ _).trans h

@[simp] theorem timedOut_latchAll (n : Notifier) (id : SessionId) (events : Events)
    (entries : List QueueEntry) : (n.latchAll id events entries).timedOut = n.timedOut :=
  latchAll_induction (motive := fun m => m.timedOut = n.timedOut) rfl
    fun _ _ _ _ h => (timedOut_latch _ _ _).trans h

@[simp] theorem length_latched_latchAll (n : Notifier) (id : SessionId) (events : Events)
    (entries : List QueueEntry) :
    (n.latchAll id events entries).latched.length = n.latched.length :=
  latchAll_induction (motive := fun m => m.latched.length = n.latched.length) rfl
    fun _ _ _ _ h => (length_latched_latch _ _ _).trans h

end Notifier

/-! ## Waking and aborting -/

namespace SessionTable

theorem get?_abort_self (t : SessionTable) (id : SessionId) :
    (t.abort id).1.get? id = (t.get? id).map fun n => n.interrupt.1 := by
  rw [abort]
  rcases h : t.get? id with _ | n
  · exact h
  · exact get?_put_self h _

theorem get?_abort_ne {id other : SessionId} (hne : id ≠ other) (t : SessionTable) :
    (t.abort other).1.get? id = t.get? id := by
  rw [abort]
  rcases t.get? other with _ | n
  · rfl
  · exact get?_put_ne hne t _

theorem get?_wake_self (t : SessionTable) (w : Waker) (events : Events) :
    (t.wake w events).1.get? w.session =
      (t.get? w.session).map fun n => (n.latch w.slot events).1 := by
  rw [wake]
  rcases h : t.get? w.session with _ | n
  · simpa using h
  · exact get?_put_self h _

theorem get?_wake_ne {id : SessionId} {w : Waker} (hne : id ≠ w.session) (t : SessionTable)
    (events : Events) : (t.wake w events).1.get? id = t.get? id := by
  rw [wake]
  rcases t.get? w.session with _ | n
  · rfl
  · exact get?_put_ne hne t _

/-- Waking one ticket ends no session. -/
@[simp] theorem isLive_wake (t : SessionTable) (w other : Waker) (events : Events) :
    (t.wake w events).1.isLive other = t.isLive other := by
  simp only [isLive]
  by_cases hs : other.session = w.session
  · rw [hs, get?_wake_self]
    rcases t.get? w.session with _ | n
    · rfl
    · simp
  · rw [get?_wake_ne hs]

end SessionTable

/-! ## Sweeping a queue -/

namespace WaitQueue

/-- The entries that an announcement leaves behind: those it does not meet, of live sessions. -/
theorem sweep_entries (events : Events) (entries : List QueueEntry) (t : SessionTable) :
    (sweep events entries t).1 =
      entries.filter fun entry => entry.interest ∩ events = ∅ ∧ t.isLive entry.waker := by
  induction entries generalizing t with
  | nil => rfl
  | cons entry entries ih =>
    rw [sweep]
    by_cases hmet : entry.interest ∩ events = ∅
    · rw [if_pos hmet]
      simp only [ih, List.filter_cons, hmet, true_and]
      by_cases hlive : t.isLive entry.waker <;> simp [hlive]
    · rw [if_neg hmet]
      simp [ih, hmet]

/-- What a session sees of an announcement. -/
theorem get?_sweep (events : Events) (entries : List QueueEntry) (t : SessionTable)
    (id : SessionId) :
    (sweep events entries t).2.1.get? id =
      (t.get? id).map (Notifier.latchAll id events entries) := by
  induction entries generalizing t with
  | nil => exact Option.map_id'.symm
  | cons entry entries ih =>
    rw [sweep]
    by_cases hmet : entry.interest ∩ events = ∅
    · rw [if_pos hmet, Notifier.latchAll_cons_of_not fun h => h.2 hmet]
      exact ih t
    · rw [if_neg hmet]
      by_cases hid : entry.waker.session = id
      · subst hid
        have hhead : entry.waker.session = entry.waker.session ∧
            entry.interest ∩ events ≠ ∅ := ⟨rfl, hmet⟩
        simp only [ih, SessionTable.get?_wake_self, Option.map_map]
        refine congrArg (fun f => (t.get? entry.waker.session).map f) ?_
        funext n
        rw [Notifier.latchAll_cons, if_pos hhead]
        rfl
      · rw [Notifier.latchAll_cons_of_not fun h => hid h.1]
        simp only [ih, SessionTable.get?_wake_ne fun h => hid h.symm]

theorem notify_empty (q : WaitQueue) (t : SessionTable) : q.notify ∅ t = (q, t, 0) :=
  if_pos rfl

/-- The entries left after an announcement of some events. -/
theorem notify_entries {events : Events} (hne : events ≠ ∅) (q : WaitQueue) (t : SessionTable) :
    (q.notify events t).1.entries =
      q.entries.filter fun entry => entry.interest ∩ events = ∅ ∧ t.isLive entry.waker := by
  rw [notify, if_neg hne, ← sweep_entries]

/-- An announcement adds no entry. -/
theorem mem_of_mem_notify {events : Events} {q : WaitQueue} {t : SessionTable} {entry : QueueEntry}
    (h : entry ∈ (q.notify events t).1.entries) : entry ∈ q.entries := by
  by_cases hne : events = ∅
  · rw [hne, notify_empty] at h
    exact h
  · rw [notify_entries hne] at h
    exact (List.mem_filter.1 h).1

@[simp] theorem nextToken_notify (events : Events) (q : WaitQueue) (t : SessionTable) :
    (q.notify events t).1.nextToken = q.nextToken := by
  rw [notify]
  split <;> rfl

/-- What a session sees of an announcement, if there is anything to announce. -/
theorem get?_notify (events : Events) (q : WaitQueue) (t : SessionTable) (id : SessionId) :
    (q.notify events t).2.1.get? id =
      (t.get? id).map (Notifier.latchAll id events q.entries) := by
  by_cases hne : events = ∅
  · subst hne
    rw [notify_empty]
    have hsame : Notifier.latchAll id ∅ q.entries = fun n => n := by
      funext n
      refine Notifier.latchAll_induction (motive := fun m => m = n) rfl fun m entry _ _ hm => ?_
      rw [hm, Events.inter_empty]
      exact Notifier.latch_refused (by simp [Notifier.latch])
    rw [hsame]
    exact Option.map_id'.symm
  · rw [notify, if_neg hne]
    exact get?_sweep events q.entries t id

end WaitQueue

end KernelWait
