import KernelWait.Proofs.Tokens
import Mathlib.Data.List.Induction
import Mathlib.Data.List.Nodup

/-!
# The tenure of an entry

An entry comes into a queue with a token of its own, and stays until it is withdrawn by that token, until
an announcement meets it, or until one finds its session over. Which entries still stand after a
history can therefore be told from the history alone: those that nothing has touched since they came
(`WaitQueue.standing`), and the queue holds them and no others, up to order.

**As long as fewer than 2⁶⁴ tokens were given out, none is given out twice and each withdraws its own entry
or nothing** (`WaitQueue.tokens_never_alias`).
-/

namespace KernelWait.WaitQueue

/-! ## Histories of a queue -/

/-- One thing done to a queue. An announcement finds the sessions of the waiting tickets in some state,
which is any state, as other threads act on them too. -/
inductive Event where
  /-- let a ticket join, unless the object is ready for it -/
  | enroll (readiness interest : Events) (waker : Waker)
  /-- withdraw a token -/
  | remove (token : Token)
  /-- announce what the object is ready for -/
  | notify (events : Events) (sessions : SessionTable)

/-- The queue after one thing done to it, successful or not. -/
def happen (q : WaitQueue) : Event → WaitQueue
  | .enroll readiness interest waker => (q.enroll readiness interest waker).1
  | .remove token => (q.remove token).1
  | .notify events sessions => (q.notify events sessions).1

/-- The queue after a history of things done to it. -/
def after (q : WaitQueue) (history : List Event) : WaitQueue := history.foldl happen q

theorem after_append (q : WaitQueue) (history later : List Event) :
    q.after (history ++ later) = (q.after history).after later := List.foldl_append

/-- The entry that comes into the queue, if one does, with the token that was given out for it. -/
def admits (q : WaitQueue) : Event → List QueueEntry
  | .enroll readiness interest waker =>
    match (q.enroll readiness interest waker).2 with
    | .enrolled token => [⟨token, interest, waker⟩]
    | .ready _ => []
  | .remove _ => []
  | .notify _ _ => []

/-- Whether an entry that was in the queue before is there afterwards: it is not withdrawn, and nothing is
announced, or only what it does not wait for while its session is live. -/
def Event.spares (entry : QueueEntry) : Event → Bool
  | .enroll _ _ _ => true
  | .remove token => entry.token != token
  | .notify events sessions =>
    events = ∅ || (entry.interest ∩ events = ∅ && sessions.isLive entry.waker)

/-- The entries that came into the queue along a history, in order. -/
def issued : WaitQueue → List Event → List QueueEntry
  | _, [] => []
  | q, event :: history => q.admits event ++ issued (q.happen event) history

/-- The entries that came into the queue along a history and were spared by all that came after. -/
def standing : WaitQueue → List Event → List QueueEntry
  | _, [] => []
  | q, event :: history =>
    (q.admits event).filter (fun entry => history.all (·.spares entry)) ++
      standing (q.happen event) history

theorem issued_append (q : WaitQueue) (history later : List Event) :
    q.issued (history ++ later) = q.issued history ++ (q.after history).issued later := by
  induction history generalizing q with
  | nil => rfl
  | cons event history ih =>
    rw [List.cons_append, issued, ih, issued, List.append_assoc]
    rfl

theorem standing_append (q : WaitQueue) (history later : List Event) :
    q.standing (history ++ later) =
      (q.standing history).filter (fun entry => later.all (·.spares entry)) ++
        (q.after history).standing later := by
  induction history generalizing q with
  | nil => rfl
  | cons event history ih =>
    rw [List.cons_append, standing, ih, standing, List.filter_append, List.filter_filter,
      List.append_assoc]
    simp only [List.all_append, Bool.and_comm]
    rfl

/-- What stands has come. -/
theorem mem_issued_of_standing {history : List Event} {q : WaitQueue} {entry : QueueEntry}
    (h : entry ∈ q.standing history) : entry ∈ q.issued history := by
  induction history generalizing q with
  | nil => exact h
  | cons event history ih =>
    rcases List.mem_append.1 h with hnew | hold
    · exact List.mem_append_left _ (List.mem_filter.1 hnew).1
    · exact List.mem_append_right _ (ih hold)

/-! ## The books of a queue -/

/-- What is in a queue agrees with what has come and with what still stands. -/
structure Kept (q : WaitQueue) (came stands : List QueueEntry) : Prop where
  /-- the tokens in the queue are pairwise different, and older than the next one -/
  fresh : q.Fresh
  /-- tokens were given out in order, from zero on -/
  numbered : came.map (·.token.toNat) = List.range came.length
  /-- and the next one is the next in order -/
  next : q.nextToken.toNat = came.length
  /-- the queue holds what still stands -/
  present : q.entries.Perm stands

theorem Kept.empty : Kept {} [] [] where
  fresh := fresh_empty
  numbered := rfl
  next := rfl
  present := .refl _

variable {q : WaitQueue} {came stands : List QueueEntry}

/-- Tokens that were given out in order are pairwise different. -/
theorem Kept.unique (h : Kept q came stands) : (came.map QueueEntry.token).Nodup := by
  have hrange : (came.map (·.token.toNat)).Nodup := h.numbered ▸ List.nodup_range
  rw [show came.map (·.token.toNat) = (came.map QueueEntry.token).map UInt64.toNat by
    rw [List.map_map]; rfl] at hrange
  exact hrange.of_map _

theorem Kept.enroll (h : Kept q came stands) (readiness interest : Events) (waker : Waker)
    (hroom : (came ++ q.admits (.enroll readiness interest waker)).length < UInt64.size) :
    Kept (q.enroll readiness interest waker).1 (came ++ q.admits (.enroll readiness interest waker))
      (stands ++ q.admits (.enroll readiness interest waker)) := by
  by_cases hready : readiness ∩ interest = ∅
  · have hnew : q.admits (.enroll readiness interest waker) = [⟨q.nextToken, interest, waker⟩] := by
      simp only [admits, WaitQueue.enroll, if_pos hready]
    rw [hnew, List.length_append, List.length_singleton] at hroom
    have hmore : q.nextToken.toNat + 1 < UInt64.size := by
      rw [h.next]
      exact hroom
    have hqueue : (q.enroll readiness interest waker).1 =
        { entries := q.entries ++ [⟨q.nextToken, interest, waker⟩], nextToken := q.nextToken + 1 } := by
      simp only [WaitQueue.enroll, if_pos hready]
    refine ⟨h.fresh.enroll hmore readiness interest waker, ?_, ?_, ?_⟩
    · rw [hnew, List.map_append, List.length_append, List.length_singleton, List.range_succ, h.numbered,
        List.map_singleton, h.next]
    · rw [hqueue, hnew, UInt64.toNat_add, List.length_append, List.length_singleton, ← h.next]
      exact Nat.mod_eq_of_lt hmore
    · rw [hqueue, hnew]
      exact h.present.append_right _
  · have hnone : q.admits (.enroll readiness interest waker) = [] := by
      simp only [admits, WaitQueue.enroll, if_neg hready]
    have hsame : (q.enroll readiness interest waker).1 = q := by
      simp only [WaitQueue.enroll, if_neg hready]
    rw [hnone, hsame, List.append_nil, List.append_nil]
    exact h

theorem Kept.remove (h : Kept q came stands) (token : Token) :
    Kept (q.remove token).1 came (stands.filter (·.token != token)) where
  fresh := h.fresh.remove token
  numbered := h.numbered
  next := by rw [nextToken_remove, h.next]
  present := (remove_entries_perm h.fresh token).trans (h.present.filter _)

theorem Kept.notify (h : Kept q came stands) (events : Events) (sessions : SessionTable) :
    Kept (q.notify events sessions).1 came
      (stands.filter fun entry => (Event.notify events sessions).spares entry) where
  fresh := h.fresh.notify events sessions
  numbered := h.numbered
  next := by rw [nextToken_notify, h.next]
  present := by
    by_cases hne : events = ∅
    · subst hne
      rw [notify_empty, List.filter_eq_self.2 fun entry _ => by simp [Event.spares]]
      exact h.present
    · rw [notify_entries hne]
      refine (h.present.filter _).trans (.of_eq (List.filter_congr fun entry _ => ?_))
      simp [Event.spares, hne]

/-- The books stay in order, whatever is done to the queue, as long as there are tokens enough. -/
theorem Kept.happen (h : Kept q came stands) (event : Event)
    (hroom : (came ++ q.admits event).length < UInt64.size) :
    Kept (q.happen event) (came ++ q.admits event)
      (stands.filter (fun entry => event.spares entry) ++ q.admits event) := by
  cases event with
  | enroll readiness interest waker =>
    have hall : stands.filter (fun entry =>
        (Event.enroll readiness interest waker).spares entry) = stands :=
      List.filter_eq_self.2 fun _ _ => rfl
    rw [hall]
    exact h.enroll readiness interest waker hroom
  | remove token =>
    simp only [admits, List.append_nil]
    exact h.remove token
  | notify events sessions =>
    simp only [admits, List.append_nil]
    exact h.notify events sessions

/-- **The books of a queue are in order after every history.** -/
theorem kept_after (history : List Event) (hroom : (issued {} history).length < UInt64.size) :
    Kept (after {} history) (issued {} history) (standing {} history) := by
  -- the entry that comes last is spared by all that came after it, as nothing did
  induction history using List.reverseRecOn with
  | nil => exact .empty
  | append_singleton history event ih =>
    rw [issued_append] at hroom ⊢
    have hone : issued (after {} history) [event] = (after {} history).admits event :=
      List.append_nil _
    have hstands : standing (after {} history) [event] = (after {} history).admits event := by
      simp [standing]
    rw [standing_append, after_append, hstands, hone]
    rw [hone] at hroom
    have hbefore : (issued {} history).length < UInt64.size := by
      rw [List.length_append] at hroom
      exact Nat.lt_of_le_of_lt (Nat.le_add_right _ _) hroom
    have hspared : ∀ entry : QueueEntry, [event].all (·.spares entry) = event.spares entry :=
      fun _ => Bool.and_true _
    simp only [hspared]
    exact (ih hbefore).happen event hroom

/-! ## Withdrawing -/

/-- A token is carried by no entry, and then nothing changes, or one entry that carries it is taken out. -/
theorem remove_cases (q : WaitQueue) (token : Token) :
    (q.remove token = (q, false) ∧ ∀ entry ∈ q.entries, entry.token ≠ token) ∨
    ∃ entry ∈ q.entries, entry.token = token ∧ (q.remove token).2 = true ∧
      q.entries.Perm (entry :: (q.remove token).1.entries) := by
  rcases hfind : q.entries.findIdx? (·.token == token) with _ | i
  · refine .inl ⟨?_, fun entry hentry htoken => ?_⟩
    · rw [remove, hfind]
    · have hne := List.findIdx?_eq_none_iff.1 hfind entry hentry
      rw [htoken, beq_self_eq_true] at hne
      cases hne
  · obtain ⟨hi, hcarried, -⟩ := List.findIdx?_eq_some_iff_getElem.1 hfind
    refine .inr ⟨q.entries[i], List.getElem_mem hi, beq_iff_eq.1 hcarried, ?_, ?_⟩ <;>
      rw [remove, hfind]
    exact (removeAt_perm hi).symm

/-- A token is found just when an entry carries it. -/
theorem remove_found_iff (q : WaitQueue) (token : Token) :
    (q.remove token).2 = true ↔ ∃ entry ∈ q.entries, entry.token = token := by
  obtain ⟨hsame, hnone⟩ | ⟨entry, hentry, htoken, hfound, -⟩ := q.remove_cases token
  · rw [hsame]
    exact iff_of_false Bool.false_ne_true fun ⟨entry, hentry, htoken⟩ => hnone entry hentry htoken
  · exact iff_of_true hfound ⟨entry, hentry, htoken⟩

/-- A token that is not found changes nothing. -/
theorem remove_of_not_found {q : WaitQueue} {token : Token} (h : (q.remove token).2 = false) :
    q.remove token = (q, false) := by
  obtain ⟨hsame, -⟩ | ⟨entry, -, -, hfound, -⟩ := q.remove_cases token
  · exact hsame
  · cases h.symm.trans hfound

/-- A token is found just when its entry still stands. -/
theorem Kept.found_iff (h : Kept q came stands) (token : Token) :
    (q.remove token).2 = true ↔ ∃ entry ∈ stands, entry.token = token := by
  rw [remove_found_iff]
  simp only [h.present.mem_iff]

/-- What came before and stands no more never stands again under its token. -/
theorem not_standing_append {history later : List Event} {q : WaitQueue} {token : Token}
    (hunique : ((q.issued (history ++ later)).map QueueEntry.token).Nodup)
    (hcame : token ∈ (q.issued history).map QueueEntry.token)
    (hgone : ∀ entry ∈ q.standing history, entry.token ≠ token) :
    ∀ entry ∈ q.standing (history ++ later), entry.token ≠ token := by
  rw [issued_append, List.map_append, List.nodup_append] at hunique
  intro entry hentry
  rw [standing_append] at hentry
  rcases List.mem_append.1 hentry with hold | hnew
  · exact hgone entry (List.mem_filter.1 hold).1
  · exact (hunique.2.2 token hcame entry.token
      (List.mem_map_of_mem (mem_issued_of_standing hnew))).symm

/-- The tokens of a queue after a history that began with none. -/
structure TokensKept (history : List Event) (q : WaitQueue) : Prop where
  /-- no two entries in the queue carry the same token -/
  distinct : (q.entries.map QueueEntry.token).Nodup
  /-- no token was given out twice -/
  unique : ((issued {} history).map QueueEntry.token).Nodup
  /-- the queue holds the entries that were neither withdrawn, nor fired, nor pruned -/
  present : q.entries.Perm (standing {} history)
  /-- a token is found just when the entry that it was given out for is still there -/
  found : ∀ entry ∈ issued {} history,
    ((q.remove entry.token).2 = true ↔ entry ∈ standing {} history)
  /-- a token that is found takes out that entry and leaves all others -/
  taken : ∀ entry ∈ standing {} history,
    q.entries.Perm (entry :: (q.remove entry.token).1.entries) ∧
      (q.remove entry.token).1.nextToken = q.nextToken
  /-- a token that is not found changes nothing -/
  missed : ∀ token, (q.remove token).2 = false → (q.remove token).1 = q
  /-- once its entry is gone, a token is never found again and changes nothing, whoever joins later -/
  stale : ∀ entry ∈ issued {} history, entry ∉ standing {} history → ∀ later,
    (issued {} (history ++ later)).length < UInt64.size →
      (after {} (history ++ later)).remove entry.token = (after {} (history ++ later), false)
  /-- nor is one that is withdrawn now, found or not -/
  twice : ∀ entry ∈ issued {} history, ∀ later,
    (issued {} (history ++ .remove entry.token :: later)).length < UInt64.size →
      let q' := after {} (history ++ .remove entry.token :: later)
      q'.remove entry.token = (q', false)

/-- An entry that has come stands just when its token does. -/
theorem mem_standing_iff {history : List Event} {q : WaitQueue} {entry : QueueEntry}
    (hunique : ((q.issued history).map QueueEntry.token).Nodup) (hcame : entry ∈ q.issued history) :
    entry ∈ q.standing history ↔ ∃ other ∈ q.standing history, other.token = entry.token := by
  refine ⟨fun h => ⟨entry, h, rfl⟩, fun ⟨other, hother, htoken⟩ => ?_⟩
  have hsame : other = entry :=
    List.inj_on_of_nodup_map hunique (mem_issued_of_standing hother) hcame htoken
  exact hsame ▸ hother

/-- A token whose entry is gone is not found after any later history. -/
theorem remove_stale {history later : List Event} {token : Token}
    (hroom : (issued {} (history ++ later)).length < UInt64.size)
    (hcame : token ∈ (issued {} history).map QueueEntry.token)
    (hgone : ∀ entry ∈ standing {} history, entry.token ≠ token) :
    (after {} (history ++ later)).remove token = (after {} (history ++ later), false) := by
  have hkept := kept_after (history ++ later) hroom
  apply remove_of_not_found
  rw [Bool.eq_false_iff, ne_eq, hkept.found_iff]
  rintro ⟨entry, hentry, htoken⟩
  exact not_standing_append hkept.unique hcame hgone entry hentry htoken

/-- **Tokens never alias**, whatever is done to a queue and in whatever order, as long as fewer than 2⁶⁴
tickets have joined it. -/
theorem tokens_never_alias (history : List Event)
    (hroom : (issued {} history).length < UInt64.size) :
    TokensKept history (after {} history) := by
  have hkept := kept_after history hroom
  exact {
    distinct := hkept.fresh.distinct
    unique := hkept.unique
    present := hkept.present
    found := fun entry hcame => by
      rw [hkept.found_iff, mem_standing_iff hkept.unique hcame]
    taken := fun entry hstands => by
      refine ⟨?_, nextToken_remove _ _⟩
      obtain ⟨-, hnone⟩ | ⟨other, hother, htoken, -, hperm⟩ :=
        (after {} history).remove_cases entry.token
      · exact absurd rfl (hnone entry (hkept.present.mem_iff.2 hstands))
      · obtain rfl : other = entry := List.inj_on_of_nodup_map hkept.unique
          (mem_issued_of_standing (hkept.present.mem_iff.1 hother))
          (mem_issued_of_standing hstands) htoken
        exact hperm
    missed := fun token h => congrArg Prod.fst (remove_of_not_found h)
    stale := fun entry hcame hgone later hlater =>
      remove_stale hlater (List.mem_map_of_mem hcame) fun other hother htoken =>
        hgone ((mem_standing_iff hkept.unique hcame).2 ⟨other, hother, htoken⟩)
    twice := fun entry hcame later hlater => by
      have hsplit : history ++ .remove entry.token :: later =
          (history ++ [.remove entry.token]) ++ later := by simp
      rw [hsplit] at hlater ⊢
      refine remove_stale hlater ?_ fun other hother htoken => ?_
      · rw [issued_append, List.map_append]
        exact List.mem_append_left _ (List.mem_map_of_mem hcame)
      · -- nothing that carries the token is spared
        rw [standing_append] at hother
        simp [standing, admits, Event.spares, htoken] at hother }

/-- Of three entries the first is withdrawn, so that the last takes its place, and the second fires. A fourth
joins. The tokens of the first two find nothing, now or later; that of the third finds its own
entry, where the first one was. -/
theorem tokens_never_alias_swapped :
    let t : SessionTable := { places := [some { phase := .blocked, latched := [∅, ∅, ∅] }] }
    let history : List Event :=
      [.enroll ∅ .read ⟨0, 0⟩, .enroll .write .read ⟨0, 1⟩, .enroll .read .error ⟨0, 2⟩,
        .enroll .read .read ⟨0, 2⟩, .remove 0, .notify (.read ∪ .write) t, .enroll ∅ .read ⟨0, 0⟩]
    let q := after {} history
    (issued {} history).length < UInt64.size ∧
      q.entries.Perm [⟨2, .error, ⟨0, 2⟩⟩, ⟨3, .read, ⟨0, 0⟩⟩] ∧
      ¬(q.remove 1).2 = true ∧
      (after {} (history ++ [.enroll ∅ .write ⟨0, 1⟩])).remove 1 =
        (after {} (history ++ [.enroll ∅ .write ⟨0, 1⟩]), false) ∧
      (after {} (history ++ [.remove 2, .enroll ∅ .write ⟨0, 1⟩])).remove 2 =
        (after {} (history ++ [.remove 2, .enroll ∅ .write ⟨0, 1⟩]), false) ∧
      q.entries.Perm (⟨2, .error, ⟨0, 2⟩⟩ :: (q.remove 2).1.entries) := by
  intro t history q
  have hroom : (issued {} history).length < UInt64.size := by decide
  have h := tokens_never_alias history hroom
  exact ⟨hroom, h.present, mt (h.found ⟨1, .read, ⟨0, 1⟩⟩ (by decide)).1 (by decide),
    h.stale ⟨1, .read, ⟨0, 1⟩⟩ (by decide) (by decide) _ (by decide),
    h.twice ⟨2, .error, ⟨0, 2⟩⟩ (by decide) _ (by decide),
    (h.taken ⟨2, .error, ⟨0, 2⟩⟩ (by decide)).1⟩

end KernelWait.WaitQueue
