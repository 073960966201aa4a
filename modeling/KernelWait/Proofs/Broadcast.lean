import KernelWait.Proofs.Tickets

/-!
# Announcements are exact

An announcement goes over a queue once, filters it, and wakes tickets of sessions that may share
notifiers and even slots. Whether a ticket takes events depends on nothing that the announcement
changes (`SessionTable.accepts_wake`), so what it does can be said of the sessions as they were before:
which entries it reaches (`WaitQueue.reached`), and what each slot and each owner gets from those.

**An announcement keeps the live entries that it does not meet, wakes the tickets that it reaches, counts
them, and does nothing else** (`WaitQueue.announces_exactly`).
-/

namespace KernelWait

/-! ## Waking one ticket -/

namespace Notifier

/-- The notifier without its slots and its event. -/
def bare (n : Notifier) : Notifier := { n with latched := [], latchedSlots := 0, event := {} }

theorem bare_wakeOwner (n : Notifier) : n.wakeOwner.bare = n.bare := by
  rw [wakeOwner]
  split <;> rfl

theorem bare_latch (n : Notifier) (slot : Nat) (events : Events) :
    (n.latch slot events).1.bare = n.bare := by
  obtain ⟨-, h⟩ | ⟨held, -, -, -, h⟩ := n.latch_cases slot events
  · rw [h]
  · rw [h, bare_wakeOwner]
    rfl

/-- Whether the session takes events for a slot: it is not over, and the slot is there. -/
def accepts (n : Notifier) (slot : Nat) : Bool := n.phase != .done && decide (slot < n.latched.length)

theorem accepts_iff {n : Notifier} {slot : Nat} :
    n.accepts slot = true ↔ n.phase ≠ .done ∧ slot < n.latched.length := by
  rw [accepts, Bool.and_eq_true, bne_iff_ne, decide_eq_true_iff]

@[simp] theorem accepts_latch (n : Notifier) (slot : Nat) (events : Events) (other : Nat) :
    (n.latch slot events).1.accepts other = n.accepts other := by
  rw [accepts, accepts, phase_latch, length_latched_latch]

/-- A latch of something is accepted just when the session takes events for the slot. -/
theorem latch_accepted {events : Events} (hne : events ≠ ∅) (n : Notifier) (slot : Nat) :
    (n.latch slot events).2 = n.accepts slot := by
  rw [Bool.eq_iff_iff, accepts_iff, latch_accepted_iff, and_iff_right hne]

/-- What a latch of something leaves in the slots. -/
theorem getElem?_latched_latch {events : Events} (hne : events ≠ ∅) (n : Notifier) (slot other : Nat) :
    (n.latch slot events).1.latched[other]? =
      (n.latched[other]?).map fun held =>
        if other = slot ∧ n.accepts slot then held ∪ events else held := by
  by_cases hsame : other = slot
  · subst hsame
    by_cases haccepts : n.accepts other = true
    · simp only [haccepts, and_self, if_true]
      exact getElem?_latched_latch_self (accepts_iff.1 haccepts).1 other events
    · have hrefused : (n.latch other events).2 = false := by
        rw [latch_accepted hne, Bool.eq_false_iff]
        exact haccepts
      simp only [haccepts, Bool.false_eq_true, and_false, if_false]
      rw [latch_refused hrefused]
      exact Option.map_id'.symm
  · simp only [hsame, false_and, if_false]
    rw [getElem?_latched_latch_ne hsame]
    exact Option.map_id'.symm

/-- A latch of something leaves a signal for the owner if it may still go to sleep. -/
theorem signaled_latch_eq {events : Events} (hne : events ≠ ∅) (n : Notifier) (slot : Nat) :
    (n.latch slot events).1.event.signaled =
      (n.event.signaled || (n.phase.wakes && n.accepts slot)) := by
  obtain ⟨hrefused, h⟩ | ⟨held, hphase, -, hslot, h⟩ := n.latch_cases slot events
  · have hnot : n.accepts slot = false := by
      rw [Bool.eq_false_iff, ne_eq, accepts_iff]
      rintro ⟨hphase, hlt⟩
      rcases hrefused with hdone | hempty | hnone
      · exact hphase hdone
      · exact hne hempty
      · exact absurd hlt (Nat.not_lt.2 (List.getElem?_eq_none_iff.1 hnone))
    rw [h, hnot, Bool.and_false, Bool.or_false]
  · have haccepts : n.accepts slot = true :=
      accepts_iff.2 ⟨hphase, (List.getElem?_eq_some_iff.1 hslot).1⟩
    rw [h, haccepts, Bool.and_true, wakeOwner, show (n.store slot held events).phase = n.phase from rfl]
    by_cases hwakes : n.phase.wakes = true
    · rw [if_pos hwakes, hwakes, Bool.or_true]
      rfl
    · rw [if_neg hwakes, Bool.eq_false_iff.2 hwakes, Bool.or_false]
      rfl

end Notifier

namespace SessionTable

/-- Whether a ticket takes events: its session is there and not over, and so is its slot. -/
def accepts (t : SessionTable) (w : Waker) : Bool := (t.get? w.session).any (·.accepts w.slot)

/-- Whether the owner of a session is there and may still go to sleep. -/
def wakes (t : SessionTable) (id : SessionId) : Bool := (t.get? id).any (·.phase.wakes)

/-- What is latched for a ticket, if it has a slot. -/
def slot? (t : SessionTable) (w : Waker) : Option Events :=
  (t.get? w.session).bind fun n => n.latched[w.slot]?

/-- Whether there is a signal for the owner of a session, if it is there. -/
def signaled? (t : SessionTable) (id : SessionId) : Option Bool :=
  (t.get? id).map fun n => n.event.signaled

variable {events : Events} (t : SessionTable) (w : Waker)

theorem wake_accepted (hne : events ≠ ∅) : (t.wake w events).2 = t.accepts w := by
  rw [wake, accepts]
  rcases t.get? w.session with _ | n
  · rfl
  · exact Notifier.latch_accepted hne n w.slot

@[simp] theorem accepts_wake (other : Waker) :
    (t.wake w events).1.accepts other = t.accepts other := by
  rw [accepts, accepts]
  by_cases hs : other.session = w.session
  · rw [hs, get?_wake_self, Option.any_map]
    simp only [Notifier.accepts_latch]
  · rw [get?_wake_ne hs]

@[simp] theorem wakes_wake (id : SessionId) : (t.wake w events).1.wakes id = t.wakes id := by
  rw [wakes, wakes]
  by_cases hs : id = w.session
  · rw [hs, get?_wake_self, Option.any_map]
    simp only [Notifier.phase_latch]
  · rw [get?_wake_ne hs]

theorem slot?_wake (hne : events ≠ ∅) (other : Waker) :
    (t.wake w events).1.slot? other = (t.slot? other).map fun held =>
      if other = w ∧ t.accepts w then held ∪ events else held := by
  rw [slot?, slot?]
  by_cases hs : other.session = w.session
  · obtain ⟨session, slot⟩ := other
    obtain rfl : session = w.session := hs
    have hother : (⟨w.session, slot⟩ : Waker) = w ↔ slot = w.slot :=
      ⟨congrArg Waker.slot, fun h => h ▸ rfl⟩
    simp only [get?_wake_self, accepts, hother]
    rcases t.get? w.session with _ | n
    · rfl
    · exact Notifier.getElem?_latched_latch hne n w.slot slot
  · have hother : other ≠ w := fun h => hs (congrArg Waker.session h)
    simp only [hother, false_and, if_false]
    rw [get?_wake_ne hs]
    exact Option.map_id'.symm

theorem signaled?_wake (hne : events ≠ ∅) (id : SessionId) :
    (t.wake w events).1.signaled? id = (t.signaled? id).map fun signaled =>
      signaled || (t.wakes id && (t.accepts w && w.session == id)) := by
  rw [signaled?, signaled?]
  by_cases hs : id = w.session
  · subst hs
    rw [get?_wake_self, wakes, accepts, beq_self_eq_true, Bool.and_true]
    rcases t.get? w.session with _ | n
    · rfl
    · exact congrArg some (Notifier.signaled_latch_eq hne n w.slot)
  · have hother : (w.session == id) = false := beq_false_of_ne fun h => hs h.symm
    simp only [hother, Bool.and_false, Bool.or_false]
    rw [get?_wake_ne hs]
    exact Option.map_id'.symm

theorem bare_wake (id : SessionId) :
    ((t.wake w events).1.get? id).map Notifier.bare = (t.get? id).map Notifier.bare := by
  by_cases hs : id = w.session
  · subst hs
    rw [get?_wake_self, Option.map_map]
    exact congrArg (fun f => (t.get? w.session).map f) (funext fun n => n.bare_latch w.slot events)
  · rw [get?_wake_ne hs]

end SessionTable

/-! ## Waking a queue -/

namespace WaitQueue

/-- The entries that an announcement reaches: it meets them, and their tickets take events. -/
def reached (events : Events) (entries : List QueueEntry) (t : SessionTable) : List QueueEntry :=
  entries.filter fun entry => entry.interest ∩ events != ∅ && t.accepts entry.waker

theorem reached_cons_of_disjoint {events : Events} {entry : QueueEntry}
    (h : entry.interest ∩ events = ∅) (entries : List QueueEntry) (t : SessionTable) :
    reached events (entry :: entries) t = reached events entries t := by
  rw [reached, List.filter_cons, h, bne_self_eq_false, Bool.false_and, if_neg Bool.false_ne_true]
  rfl

theorem reached_cons_of_meets {events : Events} {entry : QueueEntry}
    (h : entry.interest ∩ events ≠ ∅) (entries : List QueueEntry) (t : SessionTable) :
    reached events (entry :: entries) t =
      if t.accepts entry.waker then entry :: reached events entries t
      else reached events entries t := by
  rw [reached, List.filter_cons, bne_iff_ne.2 h, Bool.true_and]
  rfl

@[simp] theorem reached_wake (events : Events) (entries : List QueueEntry) (t : SessionTable)
    (w : Waker) (fired : Events) :
    reached events entries (t.wake w fired).1 = reached events entries t := by
  simp only [reached, SessionTable.accepts_wake]

/-- What an announcement brings to a ticket, one set of events for each entry that it reaches. -/
def brought (events : Events) (entries : List QueueEntry) (t : SessionTable) (w : Waker) :
    List Events :=
  ((reached events entries t).filter (·.waker == w)).map (·.interest ∩ events)

theorem sweep_woken (events : Events) (entries : List QueueEntry) (t : SessionTable) :
    (sweep events entries t).2.2 = (reached events entries t).length := by
  induction entries generalizing t with
  | nil => rfl
  | cons entry entries ih =>
    rw [sweep]
    by_cases hmet : entry.interest ∩ events = ∅
    · rw [if_pos hmet, reached_cons_of_disjoint hmet]
      exact ih t
    · rw [if_neg hmet, reached_cons_of_meets hmet]
      simp only [ih, reached_wake, SessionTable.wake_accepted t entry.waker hmet]
      by_cases haccepts : t.accepts entry.waker = true
      · rw [if_pos haccepts, if_pos haccepts, List.length_cons]
      · rw [if_neg haccepts, if_neg haccepts]

theorem slot?_sweep (events : Events) (entries : List QueueEntry) (t : SessionTable) (w : Waker) :
    (sweep events entries t).2.1.slot? w =
      (t.slot? w).map fun held => (brought events entries t w).foldl (· ∪ ·) held := by
  induction entries generalizing t with
  | nil => exact Option.map_id'.symm
  | cons entry entries ih =>
    rw [sweep, brought]
    by_cases hmet : entry.interest ∩ events = ∅
    · rw [if_pos hmet, reached_cons_of_disjoint hmet]
      exact ih t
    · rw [if_neg hmet, reached_cons_of_meets hmet]
      simp only [ih, brought, reached_wake, SessionTable.slot?_wake t entry.waker hmet,
        Option.map_map]
      refine congrArg (fun f => (t.slot? w).map f) (funext fun held => ?_)
      by_cases haccepts : t.accepts entry.waker = true
      · by_cases hw : w = entry.waker
        · subst hw
          simp [haccepts]
        · have hother : (entry.waker == w) = false := beq_false_of_ne fun h => hw h.symm
          simp [haccepts, hw, hother]
      · simp [haccepts]

theorem signaled?_sweep (events : Events) (entries : List QueueEntry) (t : SessionTable)
    (id : SessionId) :
    (sweep events entries t).2.1.signaled? id = (t.signaled? id).map fun signaled =>
      signaled || (t.wakes id && (reached events entries t).any (·.waker.session == id)) := by
  induction entries generalizing t with
  | nil =>
    simp only [sweep, reached, List.filter_nil, List.any_nil, Bool.and_false, Bool.or_false]
    exact Option.map_id'.symm
  | cons entry entries ih =>
    rw [sweep]
    by_cases hmet : entry.interest ∩ events = ∅
    · rw [if_pos hmet, reached_cons_of_disjoint hmet]
      exact ih t
    · rw [if_neg hmet, reached_cons_of_meets hmet]
      simp only [ih, reached_wake, SessionTable.wakes_wake,
        SessionTable.signaled?_wake t entry.waker hmet, Option.map_map]
      refine congrArg (fun f => (t.signaled? id).map f) (funext fun signaled => ?_)
      by_cases haccepts : t.accepts entry.waker = true
      · simp [haccepts, Bool.and_or_distrib_left, Bool.or_assoc]
      · simp [haccepts]

theorem bare_sweep (events : Events) (entries : List QueueEntry) (t : SessionTable)
    (id : SessionId) :
    ((sweep events entries t).2.1.get? id).map Notifier.bare = (t.get? id).map Notifier.bare := by
  induction entries generalizing t with
  | nil => rfl
  | cons entry entries ih =>
    rw [sweep]
    split
    · exact ih t
    · exact (ih _).trans (t.bare_wake entry.waker id)

/-- What an announcement makes of a queue and of the sessions that wait in it, and what it answers. -/
structure Announced (events : Events) (q : WaitQueue) (t : SessionTable)
    (q' : WaitQueue) (t' : SessionTable) (woken : Nat) : Prop where
  /-- the entries that are not met stay, in order, as long as their sessions are live -/
  kept : q'.entries = q.entries.filter fun entry =>
    entry.interest ∩ events = ∅ ∧ t.isLive entry.waker
  /-- the next ticket gets the number that it would have got -/
  numbering : q'.nextToken = q.nextToken
  /-- the tickets that are reached are counted, once for each entry -/
  counted : woken = (reached events q.entries t).length
  /-- every slot of every session gets what is brought to it and nothing else -/
  slots : ∀ w, t'.slot? w =
    (t.slot? w).map fun held => (brought events q.entries t w).foldl (· ∪ ·) held
  /-- an owner that may still go to sleep is woken just when one of its tickets is reached -/
  signals : ∀ id, t'.signaled? id = (t.signaled? id).map fun signaled =>
    signaled || (t.wakes id && (reached events q.entries t).any (·.waker.session == id))
  /-- the counters of latched slots stay right -/
  counters : ∀ id n', t'.get? id = some n' → ∃ n, t.get? id = some n ∧ (n.Counted → n'.Counted)
  /-- nothing else of any session changes, and none comes or goes -/
  spared : ∀ id, (t'.get? id).map Notifier.bare = (t.get? id).map Notifier.bare

/-- **An announcement is exact**, whatever sessions wait in a queue and in whatever state they are. -/
theorem announces_exactly {events : Events} (hne : events ≠ ∅) (q : WaitQueue) (t : SessionTable) :
    Announced events q t (q.notify events t).1 (q.notify events t).2.1 (q.notify events t).2.2 ∧
      q.notify ∅ t = (q, t, 0) := by
  refine ⟨?_, q.notify_empty t⟩
  have hsessions : (q.notify events t).2.1 = (sweep events q.entries t).2.1 := by
    rw [notify, if_neg hne]
  have hwoken : (q.notify events t).2.2 = (sweep events q.entries t).2.2 := by
    rw [notify, if_neg hne]
  exact {
    kept := notify_entries hne q t
    numbering := nextToken_notify events q t
    counted := hwoken.trans (sweep_woken events q.entries t)
    slots := fun w => hsessions ▸ slot?_sweep events q.entries t w
    signals := fun id => hsessions ▸ signaled?_sweep events q.entries t id
    counters := by
      intro id n' hn'
      rw [get?_notify] at hn'
      obtain ⟨n, hn, rfl⟩ := Option.map_eq_some_iff.1 hn'
      exact ⟨n, hn, fun h => Notifier.latchAll_induction (motive := Notifier.Counted) h
        fun _ entry _ _ hm => hm.latch entry.waker.slot (entry.interest ∩ events)⟩
    spared := fun id => hsessions ▸ bare_sweep events q.entries t id }

/-- Four sessions wait in a queue: one that sleeps, with two entries for one slot, one for another and one
for a slot that is not there; one that is over; one that is gone; and one that drains. Three entries
are reached, the sleeper is woken and the drainer is not, and one entry stays. -/
theorem announces_exactly_mixed_sessions :
    let t : SessionTable :=
      { places := [some { phase := .blocked, latched := [∅, ∅] }, some { phase := .done, latched := [∅] },
          none, some { phase := .draining, latched := [.write] }] }
    let q : WaitQueue :=
      { entries := [⟨0, .read, ⟨0, 0⟩⟩, ⟨1, .write, ⟨0, 1⟩⟩, ⟨2, .error ∪ .write, ⟨0, 0⟩⟩,
          ⟨3, .write, ⟨1, 0⟩⟩, ⟨4, .write, ⟨2, 0⟩⟩, ⟨5, .read, ⟨0, 2⟩⟩, ⟨6, .read ∪ .error, ⟨3, 0⟩⟩]
        nextToken := 7 }
    let told := q.notify (.read ∪ .error) t
    Events.read ∪ .error ≠ ∅ ∧ told.1.entries = [⟨1, .write, ⟨0, 1⟩⟩] ∧ told.2.2 = 3 ∧
      told.2.1.slot? ⟨0, 0⟩ = some (.read ∪ .error) ∧
      told.2.1.slot? ⟨3, 0⟩ = some (.read ∪ .write ∪ .error) ∧
      told.2.1.signaled? 0 = some true ∧ told.2.1.signaled? 3 = some false := by
  intro t q told
  have hne : Events.read ∪ .error ≠ ∅ := by decide
  have h := (announces_exactly hne q t).1
  exact ⟨hne, h.kept, h.counted, h.slots ⟨0, 0⟩, h.slots ⟨3, 0⟩, h.signals 0, h.signals 3⟩

end WaitQueue

end KernelWait
