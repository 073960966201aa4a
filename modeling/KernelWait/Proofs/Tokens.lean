import KernelWait.Proofs.Readiness

/-!
# Tokens of a queue

A queue numbers its entries by a counter of 64 bits. As long as the counter has not come around, the
tokens of the waiting entries are pairwise different and older than the next one (`WaitQueue.Fresh`).

**Withdrawing a token then takes out exactly the entries that carry it**, up to order
(`WaitQueue.remove_entries_perm`): a token that has fired or was withdrawn before is carried by none.
-/

namespace KernelWait.WaitQueue

/-- Tokens are pairwise different, and older than the one that is given out next. -/
structure Fresh (q : WaitQueue) : Prop where
  /-- no two entries carry the same token -/
  distinct : (q.entries.map QueueEntry.token).Nodup
  /-- every token was given out before -/
  older : ∀ entry ∈ q.entries, entry.token.toNat < q.nextToken.toNat

theorem fresh_empty : Fresh {} := ⟨List.nodup_nil, fun _ h => absurd h List.not_mem_nil⟩

/-- What an announcement leaves is fresh. -/
theorem Fresh.notify {q : WaitQueue} (h : q.Fresh) (events : Events) (t : SessionTable) :
    (q.notify events t).1.Fresh := by
  refine ⟨?_, fun entry hentry => ?_⟩
  · by_cases hne : events = ∅
    · rw [hne, notify_empty]
      exact h.distinct
    · rw [notify_entries hne]
      exact h.distinct.sublist (List.filter_sublist.map _)
  · rw [nextToken_notify]
    exact h.older entry (mem_of_mem_notify hentry)

@[simp] theorem nextToken_remove (token : Token) (q : WaitQueue) :
    (q.remove token).1.nextToken = q.nextToken := by
  rw [remove]
  split <;> rfl

/-- Withdrawing a token takes out the entries that carry it and no other. -/
theorem remove_entries_perm {q : WaitQueue} (h : q.Fresh) (token : Token) :
    (q.remove token).1.entries.Perm (q.entries.filter (·.token != token)) := by
  rcases hfind : q.entries.findIdx? (·.token == token) with _ | i
  · have hkeep : q.entries.filter (·.token != token) = q.entries := by
      rw [List.filter_eq_self]
      intro entry hentry
      rw [List.findIdx?_eq_none_iff] at hfind
      rw [bne, hfind entry hentry]
      rfl
    rw [remove, hfind, hkeep]
  · obtain ⟨hi, hcarried, -⟩ := List.findIdx?_eq_some_iff_getElem.1 hfind
    have hperm := removeAt_perm hi
    have htoken : q.entries[i].token = token := beq_iff_eq.1 hcarried
    rw [remove, hfind]
    -- the entry taken out is the only one with its token, so filtering what is left keeps all of it
    have hdistinct := (hperm.map QueueEntry.token).nodup_iff.2 h.distinct
    rw [List.map_cons, List.nodup_cons] at hdistinct
    have hleft : (removeAt q.entries i).filter (·.token != token) = removeAt q.entries i := by
      rw [List.filter_eq_self]
      intro entry hentry
      refine bne_iff_ne.2 fun heq => hdistinct.1 ?_
      rw [htoken, ← heq]
      exact List.mem_map_of_mem hentry
    have hfiltered := hperm.filter (·.token != token)
    rw [List.filter_cons_of_neg (by rw [htoken]; simp), hleft] at hfiltered
    exact hfiltered

theorem Fresh.remove {q : WaitQueue} (h : q.Fresh) (token : Token) : (q.remove token).1.Fresh := by
  refine ⟨?_, fun entry hentry => ?_⟩
  · have hperm := (remove_entries_perm h token).map QueueEntry.token
    rw [hperm.nodup_iff]
    exact h.distinct.sublist (List.filter_sublist.map _)
  · rw [nextToken_remove]
    exact h.older entry (mem_of_mem_remove hentry)

/-- A token given out before the counter comes around is new. -/
theorem Fresh.enroll {q : WaitQueue} (h : q.Fresh) (hroom : q.nextToken.toNat + 1 < UInt64.size)
    (readiness interest : Events) (waker : Waker) : (q.enroll readiness interest waker).1.Fresh := by
  rw [WaitQueue.enroll]
  by_cases hready : readiness ∩ interest = ∅
  · rw [if_pos hready]
    have hnext : (q.nextToken + 1).toNat = q.nextToken.toNat + 1 := by
      rw [UInt64.toNat_add]
      exact Nat.mod_eq_of_lt hroom
    refine ⟨?_, fun entry hentry => ?_⟩
    · rw [List.map_append, List.nodup_append]
      refine ⟨h.distinct, List.pairwise_singleton _ _, fun token htoken other hother => ?_⟩
      obtain ⟨entry, hentry, rfl⟩ := List.mem_map.1 htoken
      rw [List.map_singleton, List.mem_singleton] at hother
      rintro rfl
      exact Nat.ne_of_lt (h.older entry hentry) (congrArg UInt64.toNat hother)
    · rw [hnext]
      rcases List.mem_append.1 hentry with hold | hnew
      · exact Nat.lt_succ_of_lt (h.older entry hold)
      · obtain rfl := List.mem_singleton.1 hnew
        exact Nat.lt_succ_self _
  · rw [if_neg hready]
    exact h

end KernelWait.WaitQueue
