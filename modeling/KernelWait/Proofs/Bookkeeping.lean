import Mathlib.Data.List.Induction
import KernelWait.Proofs.Tickets

/-!
# The books of a notifier

A notifier keeps a counter beside the slots that it counts, and two marks that are set once. It is
touched from all sides: threads latch events into slots and set marks, the owner takes the events out
again and moves its session on. What was done to a notifier is a history (`Notifier.touchAll`), and
what each touch was answered is its log (`Notifier.log`).

**The books are right after every history** (`Notifier.books_kept`): the counter counts the slots that
hold something, a slot holds what was accepted for it and not taken out since, and each mark is accepted
once.
-/

namespace KernelWait

namespace Notifier

/-- What makes the owner of a session stop waiting, other than events. -/
inductive Mark where
  /-- a signal has aborted the session -/
  | aborted
  /-- the timer has expired -/
  | expired
  deriving DecidableEq, Repr

/-- Whether a mark is set. -/
def marked (n : Notifier) : Mark → Bool
  | .aborted => n.interrupted
  | .expired => n.timedOut

/-- Sets a mark, and says whether that was accepted. -/
def mark (n : Notifier) : Mark → Notifier × Bool
  | .aborted => n.interrupt
  | .expired => n.expire

/-- One thing done to a notifier. -/
inductive Touch where
  /-- latch events into a slot -/
  | latch (slot : Nat) (events : Events)
  /-- take the events out of a slot -/
  | take (slot : Nat)
  /-- set a mark -/
  | mark (m : Mark)
  /-- move the session to a phase, in whatever direction -/
  | advance (phase : Phase)
  deriving DecidableEq, Repr

/-- The notifier after one thing done to it, accepted or not. -/
def touch (n : Notifier) : Touch → Notifier
  | .latch slot events => (n.latch slot events).1
  | .take slot => (n.take slot).1
  | .mark m => (n.mark m).1
  | .advance phase => n.advance phase

/-- Whether one thing done to the notifier is accepted. Only latches and marks are ever refused. -/
def grants (n : Notifier) : Touch → Bool
  | .latch slot events => (n.latch slot events).2
  | .mark m => (n.mark m).2
  | .take _ | .advance _ => true

/-- The notifier after a history of things done to it. -/
def touchAll (n : Notifier) (history : List Touch) : Notifier := history.foldl touch n

/-- The things done in a history, each with whether it was accepted. -/
def log (n : Notifier) : List Touch → List (Touch × Bool)
  | [] => []
  | t :: history => (t, n.grants t) :: log (n.touch t) history

theorem touchAll_concat (n : Notifier) (history : List Touch) (t : Touch) :
    n.touchAll (history ++ [t]) = (n.touchAll history).touch t :=
  List.foldl_append

theorem log_concat (n : Notifier) (history : List Touch) (t : Touch) :
    n.log (history ++ [t]) = n.log history ++ [(t, (n.touchAll history).grants t)] := by
  induction history generalizing n with
  | nil => rfl
  | cons first history ih =>
    rw [List.cons_append, log, log, ih]
    rfl

/-! ## What a history should amount to -/

/-- The phase that a touch leaves a session in. -/
def phaseThen (phase : Phase) : Touch → Phase
  | .advance next => next
  | _ => phase

/-- The phase that a history has moved a new session to. -/
def phaseAfter (history : List Touch) : Phase := history.foldl phaseThen .resolving

/-- What a touch makes of the events that are there to be taken out of a slot. A latch that is accepted
adds to them, and taking leaves none. -/
def leaves (slot : Nat) (events : Events) : Touch × Bool → Events
  | (.latch other more, true) => if other = slot then events ∪ more else events
  | (.take other, _) => if other = slot then ∅ else events
  | _ => events

/-- All events that were accepted for a slot since they were last taken out. -/
def untaken (slot : Nat) (log : List (Touch × Bool)) : Events := log.foldl (leaves slot) ∅

/-- A mark was tried while the session had not begun to drain. -/
def Tried (m : Mark) (history : List Touch) : Prop :=
  ∃ earlier later, history = earlier ++ .mark m :: later ∧ (phaseAfter earlier).wakes = true

theorem phaseAfter_concat (history : List Touch) (t : Touch) :
    phaseAfter (history ++ [t]) = phaseThen (phaseAfter history) t :=
  List.foldl_append

theorem untaken_concat (slot : Nat) (log : List (Touch × Bool)) (entry : Touch × Bool) :
    untaken slot (log ++ [entry]) = leaves slot (untaken slot log) entry :=
  List.foldl_append

/-- What was tried before stays tried, and one more touch tries a mark only if it is that mark and comes
in time. -/
theorem tried_concat_iff (m : Mark) (history : List Touch) (t : Touch) :
    Tried m (history ++ [t]) ↔
      Tried m history ∨ t = .mark m ∧ (phaseAfter history).wakes = true := by
  constructor
  · rintro ⟨earlier, later, hsplit, hwakes⟩
    rcases List.eq_nil_or_concat later with rfl | ⟨later, last, rfl⟩
    · obtain ⟨rfl, ht⟩ := List.append_inj' hsplit rfl
      exact .inr ⟨(List.cons.inj ht).1, hwakes⟩
    · rw [List.concat_eq_append, ← List.cons_append, ← List.append_assoc] at hsplit
      obtain ⟨rfl, -⟩ := List.append_inj' hsplit rfl
      exact .inl ⟨earlier, later, rfl, hwakes⟩
  · rintro (⟨earlier, later, rfl, hwakes⟩ | ⟨rfl, hwakes⟩)
    · refine ⟨earlier, later ++ [t], ?_, hwakes⟩
      rw [List.append_assoc, List.cons_append]
    · exact ⟨history, [], rfl, hwakes⟩

/-! ## What each touch does -/

/-- A mark is accepted just when the session has not begun to drain and the mark is not set. -/
theorem mark_accepted_iff (n : Notifier) (m : Mark) :
    (n.mark m).2 = true ↔ n.phase.wakes = true ∧ n.marked m = false := by
  cases m with
  | aborted =>
    rw [mark, interrupt, marked]
    split
    · next h => exact iff_of_true rfl h
    · next h => exact iff_of_false Bool.false_ne_true h
  | expired =>
    rw [mark, expire, marked]
    split
    · next h => exact iff_of_true rfl h
    · next h => exact iff_of_false Bool.false_ne_true h

/-- Setting a mark does nothing, or sets that mark and wakes the owner. -/
theorem mark_cases (n : Notifier) (m : Mark) :
    ((n.mark m).2 = false ∧ (n.mark m).1 = n) ∨
    ((n.mark m).2 = true ∧ (n.mark m).1.marked m = true ∧ (n.mark m).1.event.signaled = true ∧
      ∀ other, other ≠ m → (n.mark m).1.marked other = n.marked other) := by
  cases m with
  | aborted =>
    rw [mark, interrupt]
    split
    · refine .inr ⟨rfl, rfl, rfl, ?_⟩
      intro other hne
      cases other with
      | aborted => exact absurd rfl hne
      | expired => rfl
    · exact .inl ⟨rfl, rfl⟩
  | expired =>
    rw [mark, expire]
    split
    · refine .inr ⟨rfl, rfl, rfl, ?_⟩
      intro other hne
      cases other with
      | aborted => rfl
      | expired => exact absurd rfl hne
    · exact .inl ⟨rfl, rfl⟩

/-- Setting a mark has nothing to do with the phase or the slots. -/
theorem mark_keeps (n : Notifier) (m : Mark) :
    (n.mark m).1.phase = n.phase ∧ (n.mark m).1.latched = n.latched ∧
      (n.mark m).1.latchedSlots = n.latchedSlots := by
  cases m with
  | aborted => exact ⟨n.phase_interrupt, n.latched_interrupt, n.latchedSlots_interrupt⟩
  | expired =>
    rw [mark]
    obtain heq | heq := n.expire_cases <;> rw [heq] <;> exact ⟨rfl, rfl, rfl⟩

/-- Taking has nothing to do with the phase, the marks or the number of slots. -/
theorem take_keeps (n : Notifier) (slot : Nat) :
    (n.take slot).1.phase = n.phase ∧ (n.take slot).1.latched.length = n.latched.length ∧
      ∀ m, (n.take slot).1.marked m = n.marked m := by
  rw [take]
  rcases n.latched[slot]? with _ | events
  · exact ⟨rfl, rfl, fun _ => rfl⟩
  · refine ⟨rfl, List.length_set, ?_⟩
    intro m
    cases m <;> rfl

/-- Taking something out of a slot takes one off the counter, which is not zero then. -/
theorem Counted.latchedSlots_take {n : Notifier} (h : n.Counted) {slot : Nat}
    (hne : n.held slot ≠ ∅) : (n.take slot).1.latchedSlots + 1 = n.latchedSlots := by
  have hpos : 0 < n.latchedSlots := of_decide_eq_true (h.anyLatched_iff.2 ⟨slot, hne⟩)
  rw [take]
  rcases hslot : n.latched[slot]? with _ | events
  · exact absurd (held_of_none hslot) hne
  · rw [held_eq hslot] at hne
    simp only [if_neg hne]
    omega

/-- The counter of latched slots stays right when a slot is emptied. -/
theorem Counted.take {n : Notifier} (h : n.Counted) (slot : Nat) : (n.take slot).1.Counted := by
  rw [Notifier.take]
  rcases hslot : n.latched[slot]? with _ | events
  · exact h
  · obtain ⟨hlt, rfl⟩ := List.getElem?_eq_some_iff.1 hslot
    have hempty : decide ((∅ : Events) ≠ ∅) = false := rfl
    rw [Counted, List.countP_set hlt, ← h, hempty]
    by_cases hheld : n.latched[slot] = ∅
    · simp [hheld]
    · simp [hheld]

theorem refused_touch {n : Notifier} {t : Touch} (h : n.grants t = false) : n.touch t = n := by
  cases t with
  | latch slot events => exact latch_refused h
  | mark m =>
    obtain ⟨-, heq⟩ | ⟨haccepted, -⟩ := n.mark_cases m
    · exact heq
    · cases h.symm.trans haccepted
  | take slot | advance phase => cases h

/-- Only the owner moves its session on. -/
theorem phase_touch (n : Notifier) (t : Touch) : (n.touch t).phase = phaseThen n.phase t := by
  cases t with
  | latch slot events => exact n.phase_latch slot events
  | take slot => exact (n.take_keeps slot).1
  | mark m => exact (n.mark_keeps m).1
  | advance phase => rfl

/-- No touch makes slots or loses any. -/
theorem length_touch (n : Notifier) (t : Touch) : (n.touch t).latched.length = n.latched.length := by
  cases t with
  | latch slot events => exact n.length_latched_latch slot events
  | take slot => exact (n.take_keeps slot).2.1
  | mark m => exact congrArg List.length (n.mark_keeps m).2.1
  | advance phase => rfl

/-- The counter of latched slots stays right, whatever is done. -/
theorem Counted.touch {n : Notifier} (h : n.Counted) (t : Touch) : (n.touch t).Counted := by
  cases t with
  | latch slot events => exact h.latch slot events
  | take slot => exact h.take slot
  | mark m =>
    obtain ⟨-, hlatched, hslots⟩ := n.mark_keeps m
    rw [Notifier.touch, Counted, hlatched, hslots]
    exact h
  | advance phase => exact h

/-- What a slot holds after a touch can be told from the log. -/
theorem held_touch (n : Notifier) (t : Touch) (slot : Nat) :
    (n.touch t).held slot = leaves slot (n.held slot) (t, n.grants t) := by
  cases t with
  | latch other events =>
    rw [touch, grants]
    rcases haccepted : (n.latch other events).2 with _ | _
    · rw [latch_refused haccepted]
      rfl
    · obtain ⟨hphase, -, hslot⟩ := (n.latch_accepted_iff other events).1 haccepted
      simp only [leaves]
      by_cases hsame : other = slot
      · subst hsame
        rw [if_pos rfl, held_latch_self hslot hphase]
      · rw [if_neg hsame, held_latch_ne fun heq => hsame heq.symm]
  | take other =>
    rw [touch, leaves]
    by_cases hsame : other = slot
    · subst hsame
      rw [if_pos rfl, held_take_self]
    · rw [if_neg hsame, held_take_ne fun heq => hsame heq.symm]
  | mark m =>
    rw [touch, held, (n.mark_keeps m).2.1, ← held]
    rfl
  | advance phase => rfl

/-- A mark is set once it is tried while the session has not begun to drain, and stays set. -/
theorem marked_touch_iff (n : Notifier) (t : Touch) (m : Mark) :
    (n.touch t).marked m = true ↔ n.marked m = true ∨ t = .mark m ∧ n.phase.wakes = true := by
  cases t with
  | latch slot events =>
    have hsame : (n.latch slot events).1.marked m = n.marked m := by
      cases m with
      | aborted => exact n.interrupted_latch slot events
      | expired => exact n.timedOut_latch slot events
    rw [touch, hsame, or_iff_left fun htried => Touch.noConfusion htried.1]
  | take slot =>
    rw [touch, (n.take_keeps slot).2.2, or_iff_left fun htried => Touch.noConfusion htried.1]
  | mark other =>
    rw [touch]
    have haccepted := n.mark_accepted_iff other
    obtain ⟨hrefused, heq⟩ | ⟨htaken, hset, -, hothers⟩ := n.mark_cases other
    · -- a mark in time is refused only if it was set before
      rw [heq]
      refine (or_iff_left_of_imp ?_).symm
      rintro ⟨hmark, hwakes⟩
      obtain rfl := Touch.mark.inj hmark
      rw [hrefused] at haccepted
      by_contra hunset
      exact Bool.false_ne_true (haccepted.2 ⟨hwakes, Bool.eq_false_iff.2 hunset⟩)
    · by_cases hsame : m = other
      · subst hsame
        exact iff_of_true hset (.inr ⟨rfl, (haccepted.1 htaken).1⟩)
      · rw [hothers m hsame]
        refine (or_iff_left ?_).symm
        rintro ⟨hmark, -⟩
        exact hsame (Touch.mark.inj hmark).symm
  | advance phase =>
    have hsame : (n.advance phase).marked m = n.marked m := by
      cases m <;> rfl
    rw [touch, hsame, or_iff_left fun htried => Touch.noConfusion htried.1]

/-! ## Histories -/

/-- The books of a notifier that was new before a history. -/
structure Books (slots : Nat) (n₀ : Notifier) (history : List Touch) (n : Notifier) : Prop where
  /-- only the owner moves its session on -/
  phase : n.phase = phaseAfter history
  /-- there are as many slots as at first -/
  length : n.latched.length = slots
  /-- each slot holds what was accepted for it and not taken out since -/
  held : ∀ slot, n.held slot = untaken slot (n₀.log history)
  /-- the counter is right -/
  counted : n.Counted
  /-- a mark is set once it was tried in time -/
  marked : ∀ m, n.marked m = true ↔ Tried m history

theorem Books.fresh {slots : Nat} {n : Notifier} (h : new? slots = .ok n) : Books slots n [] n := by
  rw [new?] at h
  split at h
  · obtain rfl := Except.ok.inj h
    refine ⟨rfl, List.length_replicate, ?_, ?_, ?_⟩
    · intro slot
      rw [Notifier.held, List.getElem?_replicate]
      split <;> rfl
    · apply Eq.symm
      apply List.countP_eq_zero.2
      intro events hmem
      simp [List.eq_of_mem_replicate hmem]
    · intro m
      refine iff_of_false ?_ ?_
      · cases m <;> exact Bool.false_ne_true
      · rintro ⟨earlier, later, hsplit, -⟩
        exact List.append_ne_nil_of_right_ne_nil _ (List.cons_ne_nil _ _) hsplit.symm
  · cases h

/-- The slots can be told from the log, all at once. -/
theorem Books.latched_eq {slots : Nat} {n₀ n : Notifier} {history : List Touch}
    (h : Books slots n₀ history n) :
    n.latched = (List.range slots).map fun slot => untaken slot (n₀.log history) := by
  apply List.ext_getElem?
  intro slot
  rw [List.getElem?_map, ← h.length]
  rcases Nat.lt_or_ge slot n.latched.length with hlt | hge
  · rw [List.getElem?_range hlt, Option.map_some, ← h.held, held_eq (List.getElem?_eq_getElem hlt)]
    exact List.getElem?_eq_getElem hlt
  · have hnone : (List.range n.latched.length)[slot]? = none := by
      apply List.getElem?_eq_none
      rwa [List.length_range]
    rw [hnone]
    exact List.getElem?_eq_none hge

/-- Whatever is done to a notifier can be entered in its books. -/
theorem Books.touch {slots : Nat} {n₀ : Notifier} {history : List Touch}
    (h : Books slots n₀ history (n₀.touchAll history)) (t : Touch) :
    Books slots n₀ (history ++ [t]) (n₀.touchAll (history ++ [t])) := by
  rw [touchAll_concat]
  refine ⟨?_, ?_, ?_, h.counted.touch t, ?_⟩
  · rw [phase_touch, h.phase, phaseAfter_concat]
  · rw [length_touch, h.length]
  · intro slot
    rw [held_touch, h.held, log_concat, untaken_concat]
  · intro m
    rw [marked_touch_iff, h.marked, h.phase, tried_concat_iff]

/-- The books of a new notifier stay right. -/
theorem books_touchAll {slots : Nat} {n₀ : Notifier} (h : new? slots = .ok n₀)
    (history : List Touch) : Books slots n₀ history (n₀.touchAll history) := by
  induction history using List.reverseRecOn with
  | nil => exact .fresh h
  | append_singleton history t ih => exact ih.touch t

/-! ## The books are right -/

/-- What a notifier says and does after a history agrees with the history. -/
structure Bookkept (slots : Nat) (n₀ : Notifier) (history : List Touch) (n : Notifier) : Prop where
  /-- only the owner moves its session on -/
  phase : n.phase = phaseAfter history
  /-- each slot holds what was accepted for it and not taken out since -/
  held : n.latched = (List.range slots).map fun slot => untaken slot (n₀.log history)
  /-- the counter is the number of slots that hold something -/
  counted : n.latchedSlots = n.latched.countP (· ≠ ∅)
  /-- there is one to take off the counter when something is taken out of a slot -/
  covered : ∀ slot, n.held slot ≠ ∅ → (n.take slot).1.latchedSlots + 1 = n.latchedSlots
  /-- something is latched just when something was not taken out -/
  any : n.anyLatched = true ↔ ∃ slot, untaken slot (n₀.log history) ≠ ∅
  /-- a latch is accepted just when the session is not over, there are events, and the slot exists -/
  latch : ∀ slot events,
    (n.latch slot events).2 = true ↔ n.phase ≠ .done ∧ events ≠ ∅ ∧ slot < slots
  /-- the named events are taken out, of all that were accepted since -/
  take : ∀ slot, (n.take slot).2 = untaken slot (n₀.log history) ∩ .all
  /-- a mark is accepted just when it is the first to come in time -/
  mark : ∀ m, (n.mark m).2 = true ↔ n.phase.wakes = true ∧ ¬Tried m history
  /-- it is set from then on -/
  marked : ∀ m, n.marked m = true ↔ Tried m history
  /-- what is refused changes nothing -/
  refused : ∀ t, n.grants t = false → n.touch t = n
  /-- whoever has a handle of the session sets the mark of an abort through it -/
  handled : ∀ (t : SessionTable) (id : SessionId), t.get? id = some n →
    (t.abort id).2 = (n.mark .aborted).2 ∧ (t.abort id).1.get? id = some (n.mark .aborted).1

/-- **The books of a notifier are right**, for every number of slots and whatever was done to it since it
was new. -/
theorem books_kept {slots : Nat} {n₀ : Notifier} (h : new? slots = .ok n₀) (history : List Touch) :
    Bookkept slots n₀ history (n₀.touchAll history) := by
  have hbooks := books_touchAll h history
  refine ⟨hbooks.phase, hbooks.latched_eq, hbooks.counted, ?_, ?_, ?_, ?_, ?_, hbooks.marked, ?_, ?_⟩
  · intro slot
    exact hbooks.counted.latchedSlots_take
  · rw [hbooks.counted.anyLatched_iff]
    simp only [hbooks.held]
  · intro slot events
    rw [latch_accepted_iff, hbooks.length]
  · intro slot
    rw [take_events, hbooks.held]
    rfl
  · intro m
    rw [mark_accepted_iff, ← hbooks.marked, Bool.not_eq_true]
  · intro t
    exact refused_touch
  · intro t id hget
    constructor
    · rw [SessionTable.abort, hget]
      rfl
    · rw [SessionTable.get?_abort_self, hget]
      rfl

/-- Events without a name come and go, and there are refused latches and marks. -/
theorem books_kept_unnamed_events :
    let n₀ : Notifier := { latched := [∅, ∅] }
    let history : List Touch :=
      [.latch 0 ⟨0x2000⟩, .latch 5 .read, .latch 0 ∅, .advance .blocked, .mark .aborted,
        .latch 1 .write, .take 1, .latch 1 ⟨0x0801⟩, .mark .aborted, .advance .draining,
        .mark .expired, .latch 0 .error]
    let n := n₀.touchAll history
    new? 2 = .ok n₀ ∧ n.latchedSlots = 2 ∧ (n.take 0).2 = .error ∧ (n.take 1).2 = .read ∧
      (n.take 1).1.latchedSlots + 1 = 2 ∧ n.marked .aborted = true ∧ (n.mark .expired).2 = false := by
  intro n₀ history n
  have hnew : new? 2 = .ok n₀ := rfl
  have h : Bookkept 2 n₀ history n := books_kept hnew history
  have hfirst : untaken 0 (n₀.log history) = ⟨0x2004⟩ := by decide +kernel
  have hsecond : untaken 1 (n₀.log history) = ⟨0x0801⟩ := by decide +kernel
  have hslots : n.latchedSlots = 2 := by
    have hheld : n.latched = [untaken 0 (n₀.log history), untaken 1 (n₀.log history)] := h.held
    rw [h.counted, hheld, hfirst, hsecond]
    rfl
  refine ⟨hnew, hslots, ?_, ?_, ?_, ?_, ?_⟩
  · rw [h.take, hfirst]
    rfl
  · rw [h.take, hsecond]
    rfl
  · rw [h.covered 1 (by decide +kernel), hslots]
  · apply (h.marked .aborted).2
    exact ⟨history.take 4, history.drop 5, rfl, rfl⟩
  · apply Bool.eq_false_iff.2
    intro haccepted
    have hwakes := ((h.mark .expired).1 haccepted).1
    rw [h.phase] at hwakes
    exact Bool.false_ne_true hwakes

end Notifier

end KernelWait
