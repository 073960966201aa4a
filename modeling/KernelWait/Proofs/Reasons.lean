import KernelWait.Proofs.Bookkeeping

/-!
# Reasons to go on

The owner of a session goes on when something is latched for it, or its session is aborted or expired.
Until it drains its session, nothing that is done to the notifier takes such a reason away
(`Notifier.HasReason.touch`).

**Whoever gives the owner a reason to go on signals its event, and nobody else does**
(`Notifier.signaled_touch`), so that a pending signal means that there is a reason, and a reason can be told
from what was done (`Notifier.Tended`).
-/

namespace KernelWait

namespace Notifier

/-- There is a reason for the owner to go on. -/
def HasReason (n : Notifier) : Prop :=
  n.anyLatched = true ∨ n.interrupted = true ∨ n.timedOut = true

/-- A thread that looks finds a reason if there is one. -/
theorem verdict?_eq_none_iff (n : Notifier) : n.verdict? = none ↔ ¬n.HasReason := by
  rw [HasReason, verdict?]
  rcases n.anyLatched with _ | _
  · rcases n.interrupted with _ | _
    · rcases n.timedOut with _ | _
      · exact iff_of_true rfl (by decide)
      · exact iff_of_false (Option.some_ne_none _) (not_not.2 (.inr (.inr rfl)))
    · exact iff_of_false (Option.some_ne_none _) (not_not.2 (.inr (.inl rfl)))
  · exact iff_of_false (Option.some_ne_none _) (not_not.2 (.inl rfl))

theorem HasReason.verdict? {n : Notifier} (h : n.HasReason) : ∃ v, n.verdict? = some v := by
  rcases hverdict : n.verdict? with _ | v
  · exact absurd h (n.verdict?_eq_none_iff.1 hverdict)
  · exact ⟨v, rfl⟩

theorem HasReason.of_marked {n : Notifier} {m : Mark} (h : n.marked m = true) : n.HasReason := by
  cases m with
  | aborted => exact .inr (.inl h)
  | expired => exact .inr (.inr h)

namespace Touch

/-- Whether a touch leaves what is latched in its slot, and the session short of draining. -/
def early : Touch → Bool
  | .latch .. | .mark _ => true
  | .take _ => false
  | .advance phase => phase.wakes

/-- The touch latches something into one of so many slots. -/
def Fills (slots : Nat) (t : Touch) : Prop :=
  ∃ slot events, t = .latch slot events ∧ events ≠ ∅ ∧ slot < slots

end Touch

variable {n : Notifier} {t : Touch}

theorem wakes_touch (hearly : t.early = true) (hwakes : n.phase.wakes = true) :
    (n.touch t).phase.wakes = true := by
  rw [phase_touch]
  cases t with
  | advance phase => exact hearly
  | latch | mark | take => exact hwakes

/-- Something is latched once something was latched into a slot. -/
theorem anyLatched_touch_iff (hearly : t.early = true) (hwakes : n.phase.wakes = true)
    (hcounted : n.Counted) :
    (n.touch t).anyLatched = true ↔ n.anyLatched = true ∨ t.Fills n.latched.length := by
  cases t with
  | latch slot events =>
    have hfills : (Touch.latch slot events).Fills n.latched.length ↔
        events ≠ ∅ ∧ slot < n.latched.length := by
      constructor
      · rintro ⟨slot', events', heq, h⟩
        obtain ⟨rfl, rfl⟩ := Touch.latch.inj heq
        exact h
      · intro h
        exact ⟨slot, events, rfl, h⟩
    have haccepted := n.latch_accepted_iff slot events
    have hrunning : n.phase ≠ .done := by
      rintro hdone
      rw [hdone] at hwakes
      cases hwakes
    rw [hfills, touch]
    rcases hgranted : (n.latch slot events).2 with _ | _
    · rw [latch_refused hgranted]
      refine (or_iff_left ?_).symm
      intro hrest
      rw [haccepted.2 ⟨hrunning, hrest⟩] at hgranted
      cases hgranted
    · obtain ⟨-, hne, hslot⟩ := haccepted.1 hgranted
      refine iff_of_true ?_ (.inr ⟨hne, hslot⟩)
      refine (hcounted.latch slot events).anyLatched_iff.2 ⟨slot, ?_⟩
      rw [held_latch_self hslot hrunning]
      intro hempty
      exact hne (Events.union_eq_empty_iff.1 hempty).2
  | mark m =>
    rw [touch, anyLatched, (n.mark_keeps m).2.2, ← anyLatched]
    refine (or_iff_left ?_).symm
    rintro ⟨slot, events, heq, -⟩
    cases heq
  | advance phase =>
    refine (or_iff_left ?_).symm
    rintro ⟨slot, events, heq, -⟩
    cases heq
  | take slot => cases hearly

/-- What is done to a notifier before it drains takes no reason away. -/
theorem HasReason.touch (h : n.HasReason) (hearly : t.early = true) (hwakes : n.phase.wakes = true)
    (hcounted : n.Counted) : (n.touch t).HasReason := by
  obtain hlatched | haborted | hexpired := h
  · exact .inl ((anyLatched_touch_iff hearly hwakes hcounted).2 (.inl hlatched))
  · exact .of_marked ((n.marked_touch_iff t .aborted).2 (.inl haborted))
  · exact .of_marked ((n.marked_touch_iff t .expired).2 (.inl hexpired))

/-- Whatever gives the owner a reason to go on signals its event, and nothing else does. -/
theorem signaled_touch (hearly : t.early = true) (hwakes : n.phase.wakes = true)
    (hcounted : n.Counted) :
    ((n.touch t).event.signaled = true ∧ (n.touch t).HasReason) ∨
    ((n.touch t).event = n.event ∧ ((n.touch t).HasReason → n.HasReason)) := by
  rcases hgranted : n.grants t with _ | _
  · rw [refused_touch hgranted]
    exact .inr ⟨rfl, id⟩
  · cases t with
    | latch slot events =>
      obtain ⟨hphase, hne, hslot⟩ := (n.latch_accepted_iff slot events).1 hgranted
      refine .inl ⟨?_, .inl ?_⟩
      · obtain ⟨hrefused, -⟩ | ⟨held, -, -, -, heq⟩ := n.latch_cases slot events
        · rw [List.getElem?_eq_none_iff] at hrefused
          exact (hrefused.elim hphase fun h => h.elim hne (Nat.not_le_of_lt hslot)).elim
        · rw [touch, heq, wakeOwner,
            if_pos (show (n.store slot held events).phase.wakes = true from hwakes)]
          rfl
      · exact (anyLatched_touch_iff hearly hwakes hcounted).2 (.inr ⟨slot, events, rfl, hne, hslot⟩)
    | mark m =>
      obtain ⟨hrefused, -⟩ | ⟨-, hset, hsignaled, -⟩ := n.mark_cases m
      · cases hgranted.symm.trans hrefused
      · exact .inl ⟨hsignaled, .of_marked hset⟩
    | advance phase => exact .inr ⟨rfl, id⟩
    | take slot => cases hearly

/-- What holds of a notifier as long as its session does not drain. -/
structure Tended (slots : Nat) (deadline : Deadline) (now : Moment) (done : List Touch)
    (n : Notifier) : Prop where
  /-- the session has not begun to drain -/
  wakes : n.phase.wakes = true
  /-- there are as many slots as at first -/
  length : n.latched.length = slots
  /-- the counter is right -/
  counted : n.Counted
  /-- something is latched if something was latched into a slot -/
  latched : n.anyLatched = true ↔ ∃ t ∈ done, t.Fills slots
  /-- the session is aborted if somebody has aborted it -/
  aborted : n.interrupted = true ↔ .mark .aborted ∈ done
  /-- the session is expired if somebody has said so -/
  expired : .mark .expired ∈ done → n.timedOut = true
  /-- it expires of itself only at its deadline -/
  overdue : n.timedOut = true → .mark .expired ∈ done ∨ deadline.hasPassed now = true
  /-- a pending signal means that there is a reason to go on -/
  reason : n.event.signaled = true → n.HasReason

namespace Tended

variable {slots : Nat} {deadline : Deadline} {now : Moment} {done : List Touch}

theorem fresh (h : new? slots = .ok n) (deadline : Deadline) (now : Moment) :
    Tended slots deadline now [] n := by
  have hbooks := Books.fresh h
  rw [new?] at h
  split at h
  · obtain rfl := Except.ok.inj h
    refine ⟨rfl, hbooks.length, hbooks.counted, ?_, ?_, ?_, ?_, ?_⟩
    · refine iff_of_false Bool.false_ne_true ?_
      rintro ⟨t, ht, -⟩
      exact List.not_mem_nil ht
    · exact iff_of_false Bool.false_ne_true List.not_mem_nil
    · exact fun hmem => absurd hmem List.not_mem_nil
    · exact fun hset => absurd hset Bool.false_ne_true
    · exact fun hset => absurd hset Bool.false_ne_true
  · cases h

theorem touch (h : Tended slots deadline now done n) (hearly : t.early = true) :
    Tended slots deadline now (done ++ [t]) (n.touch t) where
  wakes := wakes_touch hearly h.wakes
  length := by
    rw [length_touch, h.length]
  counted := h.counted.touch t
  latched := by
    rw [anyLatched_touch_iff hearly h.wakes h.counted, h.latched, h.length]
    simp only [List.mem_append, List.mem_singleton, or_and_right, exists_or, exists_eq_left]
  aborted := by
    have hmarked := n.marked_touch_iff t .aborted
    rw [and_iff_left h.wakes] at hmarked
    rw [List.mem_append, List.mem_singleton, ← h.aborted, eq_comm (b := t)]
    exact hmarked
  expired hmem := by
    rw [List.mem_append, List.mem_singleton] at hmem
    apply (n.marked_touch_iff t .expired).2
    obtain hmem | rfl := hmem
    · exact .inl (h.expired hmem)
    · exact .inr ⟨rfl, h.wakes⟩
  overdue hset := by
    rw [List.mem_append, List.mem_singleton]
    obtain hbefore | ⟨rfl, -⟩ := (n.marked_touch_iff t .expired).1 hset
    · exact (h.overdue hbefore).imp_left .inl
    · exact .inl (.inr rfl)
  reason hsignaled := by
    obtain ⟨-, hreason⟩ | ⟨hsame, -⟩ := signaled_touch hearly h.wakes h.counted
    · exact hreason
    · rw [hsame] at hsignaled
      exact (h.reason hsignaled).touch hearly h.wakes h.counted

theorem touchAll (h : new? slots = .ok n) (hearly : ∀ t ∈ done, t.early = true)
    (deadline : Deadline) (now : Moment) : Tended slots deadline now done (n.touchAll done) := by
  induction done using List.reverseRecOn with
  | nil => exact fresh h deadline now
  | append_singleton done t ih =>
    rw [touchAll_concat]
    apply (ih fun t ht => hearly t (List.mem_append_left _ ht)).touch
    exact hearly t (List.mem_append_right _ (List.mem_singleton_self t))

/-- What was said of a session at one moment goes on to hold. -/
theorem later (h : Tended slots deadline now done n) {after : Moment} (hle : now ≤ after) :
    Tended slots deadline after done n :=
  { h with
    overdue := fun hset =>
      (h.overdue hset).imp_right fun hpassed => Deadline.hasPassed_mono hpassed hle }

/-- The owner goes to sleep. -/
theorem blocked (h : Tended slots deadline now done n) :
    Tended slots deadline now done (n.advance .blocked) :=
  ⟨rfl, h.length, h.counted, h.latched, h.aborted, h.expired, h.overdue, h.reason⟩

/-- The owner uses a signal up. -/
theorem woken (h : Tended slots deadline now done n) :
    Tended slots deadline now done { n with event := ⟨false⟩ } :=
  ⟨h.wakes, h.length, h.counted, h.latched, h.aborted, h.expired, h.overdue,
    fun hsignaled => absurd hsignaled Bool.false_ne_true⟩

/-- The owner finds that its deadline has passed. -/
theorem expire (h : Tended slots deadline now done n) (hpassed : deadline.hasPassed now = true) :
    Tended slots deadline now done n.expire.1 ∧ n.expire.1.timedOut = true := by
  have hset : n.expire.1.timedOut = true :=
    (n.marked_touch_iff (.mark .expired) .expired).2 (.inr ⟨rfl, h.wakes⟩)
  obtain ⟨hphase, hlatched, hslots⟩ := n.mark_keeps .expired
  have haborted : n.expire.1.interrupted = n.interrupted := by
    obtain heq | heq := n.expire_cases <;> rw [heq]
  refine ⟨⟨?_, ?_, ?_, ?_, ?_, fun _ => hset, fun _ => .inr hpassed, fun _ => .inr (.inr hset)⟩, hset⟩
  · exact hphase ▸ h.wakes
  · exact (congrArg List.length hlatched).trans h.length
  · exact h.counted.touch (.mark .expired)
  · rw [← h.latched, anyLatched, anyLatched]
    exact iff_of_eq (congrArg (fun k => decide (0 < k) = true) hslots)
  · rw [haborted, h.aborted]

end Tended

end Notifier

/-- When a verdict is right, of what was done to a session until a moment. -/
def Verdict.Fits (slots : Nat) (deadline : Deadline) (now : Moment) (done : List Notifier.Touch) :
    Verdict → Prop
  | .ready => ∃ t ∈ done, t.Fills slots
  | .interrupted => (¬∃ t ∈ done, t.Fills slots) ∧ .mark .aborted ∈ done
  | .timedOut => (¬∃ t ∈ done, t.Fills slots) ∧ .mark .aborted ∉ done ∧
      (.mark .expired ∈ done ∨ deadline.hasPassed now = true)

/-- The owner finds the right verdict. -/
theorem Notifier.Tended.fits {slots : Nat} {deadline : Deadline} {now : Moment} {n : Notifier}
    {done : List Touch} (h : n.Tended slots deadline now done) {v : Verdict}
    (hverdict : n.verdict? = some v) : v.Fits slots deadline now done := by
  rw [verdict?] at hverdict
  split at hverdict
  · next hlatched =>
    obtain rfl := Option.some.inj hverdict
    exact h.latched.1 hlatched
  · next hunlatched =>
    rw [h.latched] at hunlatched
    split at hverdict
    · next haborted =>
      obtain rfl := Option.some.inj hverdict
      exact ⟨hunlatched, h.aborted.1 haborted⟩
    · next hunaborted =>
      rw [h.aborted] at hunaborted
      split at hverdict
      · next hexpired =>
        obtain rfl := Option.some.inj hverdict
        exact ⟨hunlatched, hunaborted, h.overdue hexpired⟩
      · cases hverdict

end KernelWait
