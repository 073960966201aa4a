import KernelWait.Proofs.Alarms

/-!
# Signal queues

Every signal that is accepted is put at the end of its receiver's queue. It leaves the queue when it is
taken, in a stable partition by what the receiver blocks at that time, or when the queue is thrown away.
The table is looked at as one heap of mail, each piece with its receiver on it (`SignalTable.mail`), and
what a history sends, takes and throws away is written down beside it (`Operation.history`).

**Signal queues lose, duplicate and reorder nothing** (`Operation.signals_accounted`).
-/

namespace KernelWait

/-! ## All that is pending -/

/-- The pending signals of a thread, each with the thread on it. -/
def ThreadSignals.letters (thread : ThreadId) (s : ThreadSignals) :
    List (ThreadId × PendingSignal) :=
  s.pending.map fun p => (thread, p)

namespace SignalTable

variable {t : SignalTable} {thread : ThreadId}

/-- All pending signals, each with the thread it is for. -/
def mail (t : SignalTable) : List (ThreadId × PendingSignal) :=
  t.threads.flatMap fun entry => entry.2.letters entry.1

/-- No thread has two entries. -/
def Distinct (t : SignalTable) : Prop := (t.threads.map Prod.fst).Nodup

theorem length_mail (t : SignalTable) : t.mail.length = t.pendingTotal := by
  have hfold : ∀ (threads : List (ThreadId × ThreadSignals)) (total : Nat),
      threads.foldl (fun total p => total + p.2.pending.length) total =
        total + (threads.map fun entry => entry.2.pending.length).sum := by
    intro threads
    induction threads with
    | nil => exact fun _ => rfl
    | cons entry threads ih =>
      intro total
      rw [List.foldl_cons, ih, List.map_cons, List.sum_cons, Nat.add_assoc]
  rw [mail, pendingTotal, hfold, Nat.zero_add, List.length_flatMap]
  simp only [ThreadSignals.letters, List.length_map]

/-- The mail of a table with one entry changed. -/
theorem mail_put (t : SignalTable) (thread : ThreadId) (s : ThreadSignals) :
    (t.put thread s).mail = s.letters thread ++ (t.forget thread).mail :=
  List.flatMap_cons

theorem Distinct.forget (h : t.Distinct) (thread : ThreadId) : (t.forget thread).Distinct :=
  h.sublist (List.filter_sublist.map _)

theorem Distinct.put (h : t.Distinct) (thread : ThreadId) (s : ThreadSignals) :
    (t.put thread s).Distinct := by
  refine List.nodup_cons.2 ⟨?_, h.forget thread⟩
  intro hmem
  obtain ⟨entry, hentry, heq⟩ := List.mem_map.1 hmem
  exact bne_iff_ne.1 (List.mem_filter.1 hentry).2 heq

/-- A list of threads, taken apart at one of them. -/
theorem letters_perm {threads : List (ThreadId × ThreadSignals)}
    (h : (threads.map Prod.fst).Nodup) (thread : ThreadId) :
    (threads.flatMap fun entry => entry.2.letters entry.1).Perm
      (((threads.lookup thread).getD {}).letters thread ++
        (threads.filter (·.1 != thread)).flatMap fun entry => entry.2.letters entry.1) := by
  induction threads with
  | nil => exact List.Perm.refl _
  | cons entry threads ih =>
    obtain ⟨name, s⟩ := entry
    rw [List.map_cons, List.nodup_cons] at h
    by_cases hname : name = thread
    · -- its entry comes first, and there is no other
      subst hname
      have hothers : threads.filter (·.1 != name) = threads := by
        apply List.filter_eq_self.2
        intro entry hentry
        apply bne_iff_ne.2
        intro hsame
        exact h.1 (List.mem_map.2 ⟨entry, hentry, hsame⟩)
      have hskip : ((name, s) :: threads).filter (·.1 != name) = threads := by
        rw [List.filter_cons_of_neg (by simp), hothers]
      rw [hskip, List.lookup_cons_self]
      exact List.Perm.refl _
    · have hother : (thread == name) = false := beq_eq_false_iff_ne.2 fun hsame => hname hsame.symm
      have hkeep : ((name, s) :: threads).filter (·.1 != thread) =
          (name, s) :: threads.filter (·.1 != thread) :=
        List.filter_cons_of_pos (bne_iff_ne.2 hname)
      rw [hkeep, List.lookup_cons, hother, List.flatMap_cons, List.flatMap_cons]
      apply ((ih h.2).append_left _).trans
      rw [← List.append_assoc, ← List.append_assoc]
      exact List.perm_append_comm.append_right _

/-- The mail of one thread and that of all others. -/
theorem Distinct.mail_perm (h : t.Distinct) (thread : ThreadId) :
    t.mail.Perm ((t.get thread).letters thread ++ (t.forget thread).mail) :=
  letters_perm h thread

/-- The mail with the name of a thread on it is that thread's queue. -/
theorem Distinct.mail_addressed (h : t.Distinct) (thread : ThreadId) :
    ((t.mail.filter (·.1 == thread)).map Prod.snd).Perm (t.get thread).pending := by
  have hown : ((t.get thread).letters thread).filter (·.1 == thread) =
      (t.get thread).letters thread := by
    apply List.filter_eq_self.2
    intro letter hletter
    obtain ⟨p, -, rfl⟩ := List.mem_map.1 hletter
    exact beq_self_eq_true _
  have hothers : (t.forget thread).mail.filter (·.1 == thread) = [] := by
    apply List.filter_eq_nil_iff.2
    intro letter hletter hsame
    obtain ⟨entry, hentry, hmem⟩ := List.mem_flatMap.1 hletter
    obtain ⟨p, -, rfl⟩ := List.mem_map.1 hmem
    exact bne_iff_ne.1 (List.mem_filter.1 hentry).2 (beq_iff_eq.1 hsame)
  apply ((h.mail_perm thread).filter _ |>.map _).trans
  rw [List.filter_append, hown, hothers, List.append_nil, ThreadSignals.letters, List.map_map]
  exact List.Perm.of_eq (List.map_id _)

end SignalTable

/-! ## What an operation does to the queues -/

namespace SignalTable

/-- The table with one signal more for a thread. -/
def queue (t : SignalTable) (thread : ThreadId) (p : PendingSignal) : SignalTable :=
  { t.put thread { t.get thread with pending := (t.get thread).pending ++ [p] } with
    sent := t.sent + 1 }

variable {t : SignalTable} {thread : ThreadId}

theorem enqueue_of_room (h : (t.get thread).pending.length < Limits.maxPendingSignals)
    (p : PendingSignal) : t.enqueue thread p = .ok (t.queue thread p) := by
  rw [enqueue, if_neg (Nat.not_le.2 h)]
  rfl

theorem enqueue_of_full (h : Limits.maxPendingSignals ≤ (t.get thread).pending.length)
    (p : PendingSignal) : t.enqueue thread p = .error (.queueFull thread) := by
  rw [enqueue, if_pos h]

end SignalTable

namespace Kernel

theorem signals_interruptActive (k : Kernel) (thread : ThreadId) :
    ∃ n, (k.interruptActive thread).signals = { k.signals with interrupted := n } := by
  rw [interruptActive]
  rcases (k.signals.get thread).activeWait with _ | session
  · exact ⟨_, rfl⟩
  · simp only [interrupt]
    split <;> exact ⟨_, rfl⟩

variable {k : Kernel} {receiver : ThreadId}

/-- A signal is accepted where there is room for it. -/
theorem send_of_room (h : (k.signals.get receiver).pending.length < Limits.maxPendingSignals)
    (sender : ThreadId) (signal : Signal) :
    (k.send sender receiver signal).2 = .ok () ∧
      ∃ n, (k.send sender receiver signal).1.signals =
        { k.signals.queue receiver ⟨signal, sender, k.clock.stamp⟩ with interrupted := n } := by
  rw [send, SignalTable.enqueue_of_room h]
  simp only
  split
  · exact ⟨rfl, signals_interruptActive _ receiver⟩
  · exact ⟨rfl, _, rfl⟩

/-- A signal that is refused changes nothing. -/
theorem send_of_full (h : Limits.maxPendingSignals ≤ (k.signals.get receiver).pending.length)
    (sender : ThreadId) (signal : Signal) :
    k.send sender receiver signal = (k, .error (.queueFull receiver)) := by
  rw [send, SignalTable.enqueue_of_full h]

end Kernel

namespace Operation

/-- The signals that an operation sends, if it is not refused. -/
def sends (k : Kernel) : Operation → List (ThreadId × PendingSignal)
  | send sender receiver signal =>
    match (k.send sender receiver signal).2 with
    | .ok _ => [(receiver, ⟨signal, sender, k.clock.stamp⟩)]
    | .error _ => []
  | _ => []

/-- The signals that an operation takes. -/
def takes (k : Kernel) : Operation → List (ThreadId × PendingSignal)
  | take thread => (k.signals.take thread).2.map fun p => (thread, p)
  | _ => []

/-- The signals that an operation throws away. -/
def throws (k : Kernel) : Operation → List (ThreadId × PendingSignal)
  | clear thread | cleanup thread => (k.signals.get thread).letters thread
  | _ => []

/-- How many signals an operation says that it has thrown away. -/
def discards (k : Kernel) (op : Operation) : Nat :=
  match (op.run k).2 with
  | .discarded count => count
  | _ => 0

/-- What can be done to a table: the signals that come in, those that are taken, those that are thrown
away, and the table afterwards. -/
inductive Filing (t : SignalTable) :
    List (ThreadId × PendingSignal) → List (ThreadId × PendingSignal) →
      List (ThreadId × PendingSignal) → SignalTable → Prop where
  /-- nothing -/
  | kept : Filing t [] [] [] t
  /-- a thread blocks other signals, or another wait is its active one -/
  | masked (thread : ThreadId) (s : ThreadSignals) (hpending : s.pending = (t.get thread).pending)
      (hblocked : ∀ signal ∈ s.blocked, signal ∈ (t.get thread).blocked ∨ signal.canCatch = true) :
      Filing t [] [] [] (t.put thread s)
  /-- a signal is queued where there is room -/
  | queued (thread : ThreadId) (p : PendingSignal)
      (hroom : (t.get thread).pending.length < Limits.maxPendingSignals) :
      Filing t [(thread, p)] [] [] (t.queue thread p)
  /-- the deliverable signals of a thread are taken -/
  | taken (thread : ThreadId) :
      Filing t [] ((t.take thread).2.map fun p => (thread, p)) [] (t.take thread).1
  /-- the pending signals of a thread are thrown away -/
  | cleared (thread : ThreadId) :
      Filing t [] [] ((t.get thread).letters thread) (t.clear thread).1
  /-- a thread is forgotten -/
  | forgotten (thread : ThreadId) :
      Filing t [] [] ((t.get thread).letters thread) (t.cleanup thread).1

theorem mem_blocked_block {s : ThreadSignals} {signal other : Signal} (hcatch : signal.canCatch = true)
    (h : other ∈ (s.block signal).blocked) : other ∈ s.blocked ∨ other.canCatch = true := by
  rw [ThreadSignals.block] at h
  split at h
  · exact .inl h
  · rcases List.mem_append.1 h with hold | hnew
    · exact .inl hold
    · rw [List.mem_singleton.1 hnew]
      exact .inr hcatch

/-- **Every operation does one of these**, and may count an aborted wait besides. -/
theorem filing_effect (op : Operation) (k : Kernel) :
    ∃ t n, Filing k.signals (op.sends k) (op.takes k) (op.throws k) t ∧
      (op.effect k).signals = { t with interrupted := n } := by
  cases op with
  | send sender receiver signal =>
    rcases Nat.lt_or_ge (k.signals.get receiver).pending.length Limits.maxPendingSignals
      with hroom | hfull
    · obtain ⟨hok, n, hn⟩ := Kernel.send_of_room hroom sender signal
      simp only [sends, hok]
      exact ⟨_, n, .queued receiver _ hroom, hn⟩
    · simp only [effect, run, sends, Kernel.send_of_full hfull]
      exact ⟨_, _, .kept, rfl⟩
  | block thread signal =>
    simp only [effect, run, Kernel.block, SignalTable.block]
    by_cases hcatch : signal.canCatch = true
    · simp only [if_pos hcatch]
      refine ⟨_, _, .masked thread _ ?_ (fun _ => mem_blocked_block hcatch), rfl⟩
      rw [ThreadSignals.block]
      split <;> rfl
    · simp only [if_neg hcatch]
      exact ⟨_, _, .kept, rfl⟩
  | unblock thread signal =>
    have hless : ∀ other ∈ ((k.signals.get thread).unblock signal).blocked,
        other ∈ (k.signals.get thread).blocked ∨ other.canCatch = true := by
      intro other hother
      exact .inl (List.mem_filter.1 hother).1
    simp only [effect, run, Kernel.unblock]
    split
    · obtain ⟨n, hn⟩ :=
        Kernel.signals_interruptActive { k with signals := k.signals.unblock thread signal } thread
      exact ⟨_, n, .masked thread ((k.signals.get thread).unblock signal) rfl hless, hn⟩
    · exact ⟨_, _, .masked thread ((k.signals.get thread).unblock signal) rfl hless, rfl⟩
  | take thread => exact ⟨_, _, .taken thread, rfl⟩
  | clear thread => exact ⟨_, _, .cleared thread, rfl⟩
  | cleanup thread => exact ⟨_, _, .forgotten thread, rfl⟩
  | register thread session =>
    exact ⟨_, _, .masked thread { k.signals.get thread with activeWait := some session } rfl
      (fun _ => .inl), rfl⟩
  | unregister thread =>
    exact ⟨_, _, .masked thread { k.signals.get thread with activeWait := none } rfl
      (fun _ => .inl), rfl⟩
  | act target action => exact ⟨_, _, .kept, by rw [effect_act, k.signals_act]⟩
  | enroll target interest waker =>
    refine ⟨_, k.signals.interrupted, .kept, ?_⟩
    simp only [effect, run, Kernel.enroll]
    rcases k.registry.get? target with _ | e <;> rfl
  | disenroll target token =>
    refine ⟨_, k.signals.interrupted, .kept, ?_⟩
    simp only [effect, run, Kernel.disenroll]
    rcases k.registry.get? target with _ | e <;> rfl
  | deleteSemaphore id | deletePort id | closeEndpoint id =>
    exact ⟨_, _, .kept, k.signals_remove _ id _⟩
  | exitThread id status => exact ⟨_, _, .kept, k.signals_exitThread id status⟩
  | reapThread id => exact ⟨_, _, .kept, k.signals_reapThread id⟩
  | create blueprint | tell | elapse nanos => exact ⟨_, _, .kept, rfl⟩

/-- The signals of a log that are for one thread. -/
def addressed (thread : ThreadId) (log : List (ThreadId × PendingSignal)) : List PendingSignal :=
  (log.filter (·.1 == thread)).map Prod.snd

theorem addressed_append (thread : ThreadId) (log later : List (ThreadId × PendingSignal)) :
    addressed thread (log ++ later) = addressed thread log ++ addressed thread later := by
  rw [addressed, List.filter_append, List.map_append]
  rfl

theorem addressed_self (thread : ThreadId) (p : PendingSignal) :
    addressed thread [(thread, p)] = [p] := by
  simp [addressed]

namespace Filing

variable {t t' : SignalTable} {sent taken thrown : List (ThreadId × PendingSignal)}

theorem distinct (h : Filing t sent taken thrown t') (hdistinct : t.Distinct) : t'.Distinct := by
  cases h with
  | kept => exact hdistinct
  | masked thread | queued thread | taken thread | cleared thread => exact hdistinct.put thread _
  | forgotten thread => exact hdistinct.forget thread

/-- **Every signal comes in, is taken or is thrown away once**, and is pending in between. -/
theorem mail_perm (h : Filing t sent taken thrown t') (hdistinct : t.Distinct) :
    (t.mail ++ sent).Perm (taken ++ thrown ++ t'.mail) := by
  cases h with
  | kept => rw [List.append_nil]; exact List.Perm.refl _
  | masked thread s hpending =>
    have hletters : s.letters thread = (t.get thread).letters thread := by
      rw [ThreadSignals.letters, hpending, ThreadSignals.letters]
    rw [List.append_nil, SignalTable.mail_put, hletters]
    exact hdistinct.mail_perm thread
  | queued thread p =>
    have hmail : (t.queue thread p).mail =
        (t.get thread).letters thread ++ [(thread, p)] ++ (t.forget thread).mail := by
      apply (t.mail_put thread _).trans
      rw [ThreadSignals.letters, List.map_append]
      rfl
    rw [hmail]
    apply ((hdistinct.mail_perm thread).append_right _).trans
    rw [List.append_assoc, List.nil_append, List.nil_append, List.append_assoc]
    exact List.perm_append_comm.append_left _
  | taken thread =>
    have hparts : (((t.get thread).pending.filter fun p => (t.get thread).delivers p.signal) ++
        (t.get thread).pending.filter fun p => !(t.get thread).delivers p.signal).Perm
          (t.get thread).pending :=
      List.filter_append_perm _ _
    have hmail : (t.take thread).1.mail =
        (t.get thread).takeDeliverable.1.letters thread ++ (t.forget thread).mail :=
      t.mail_put thread _
    rw [hmail, List.append_nil, List.append_nil, ← List.append_assoc]
    apply (hdistinct.mail_perm thread).trans
    apply List.Perm.append_right
    rw [ThreadSignals.letters, ThreadSignals.letters]
    apply (hparts.symm.map _).trans
    rw [List.map_append]
    exact List.Perm.refl _
  | cleared thread =>
    have hmail : (t.clear thread).1.mail = (t.forget thread).mail := t.mail_put thread _
    rw [hmail, List.append_nil]
    exact hdistinct.mail_perm thread
  | forgotten thread =>
    rw [List.append_nil]
    exact hdistinct.mail_perm thread

end Filing

/-! ## One thread -/

/-- What can become of a thread's signals when some come in: they come last and only as far as there is
room, and the thread blocks nothing more that cannot be caught. -/
structure Leads (s : ThreadSignals) (incoming : List PendingSignal) (s' : ThreadSignals) : Prop where
  /-- what is pending was pending or comes in, in this order -/
  ordered : s'.pending.Sublist (s.pending ++ incoming)
  /-- no more is pending than before, or than there is room for -/
  limited : s'.pending.length ≤ max s.pending.length Limits.maxPendingSignals
  /-- what is blocked was blocked or can be caught -/
  catchable : ∀ signal ∈ s'.blocked, signal ∈ s.blocked ∨ signal.canCatch = true

theorem Leads.refl (s : ThreadSignals) (incoming : List PendingSignal) : Leads s incoming s where
  ordered := List.sublist_append_left _ _
  limited := Nat.le_max_left _ _
  catchable _ := .inl

/-- A thread that loses pending signals. -/
theorem Leads.of_sublist {s s' : ThreadSignals} (hpending : s'.pending.Sublist s.pending)
    (hblocked : ∀ signal ∈ s'.blocked, signal ∈ s.blocked ∨ signal.canCatch = true)
    (incoming : List PendingSignal) : Leads s incoming s' where
  ordered := hpending.trans (List.sublist_append_left _ _)
  limited := hpending.length_le.trans (Nat.le_max_left _ _)
  catchable := hblocked

variable {t t' : SignalTable} {sent taken thrown : List (ThreadId × PendingSignal)}

theorem Leads.put {other : ThreadId} {s' : ThreadSignals}
    (h : Leads (t.get other) (addressed other sent) s') (thread : ThreadId) :
    Leads (t.get thread) (addressed thread sent) ((t.put other s').get thread) := by
  by_cases hto : thread = other
  · subst hto
    rw [SignalTable.get_put_self]
    exact h
  · rw [SignalTable.get_put_ne hto]
    exact .refl _ _

theorem Leads.forget (other thread : ThreadId) :
    Leads (t.get thread) (addressed thread sent) ((t.forget other).get thread) := by
  by_cases hto : thread = other
  · subst hto
    rw [SignalTable.get_forget_self]
    exact .of_sublist (List.nil_sublist _) (fun _ hmem => absurd hmem List.not_mem_nil) _
  · rw [SignalTable.get_forget_ne hto]
    exact .refl _ _

/-- What becomes of each thread's signals. -/
theorem Filing.leads (h : Filing t sent taken thrown t') (thread : ThreadId) :
    Leads (t.get thread) (addressed thread sent) (t'.get thread) := by
  cases h with
  | kept => exact .refl _ _
  | masked other s hpending hblocked =>
    have hsublist : s.pending.Sublist (t.get other).pending := hpending ▸ List.Sublist.refl _
    exact Leads.put (.of_sublist hsublist hblocked _) thread
  | queued other p hroom =>
    have hone : Leads (t.get other) (addressed other [(other, p)])
        { t.get other with pending := (t.get other).pending ++ [p] } := by
      refine ⟨?_, ?_, fun _ => .inl⟩
      · rw [addressed_self]
      · rw [List.length_append]
        exact (Nat.succ_le_of_lt hroom).trans (Nat.le_max_right _ _)
    exact hone.put thread
  | taken other =>
    have hone : Leads (t.get other) (addressed other []) (t.get other).takeDeliverable.1 := by
      apply Leads.of_sublist
      · exact List.filter_sublist
      · exact fun _ => .inl
    exact hone.put thread
  | cleared other =>
    have hone : Leads (t.get other) (addressed other []) { t.get other with pending := [] } := by
      apply Leads.of_sublist
      · exact List.nil_sublist _
      · exact fun _ => .inl
    exact hone.put thread
  | forgotten other => exact Leads.forget other thread

/-! ## Whole histories -/

/-- A log that is kept along a history. -/
def history {α : Type} (f : Kernel → Operation → List α) : Kernel → List Operation → List α
  | _, [] => []
  | k, op :: ops => f k op ++ history f (op.effect k) ops

theorem history_append {α : Type} (f : Kernel → Operation → List α) (k : Kernel)
    (ops later : List Operation) :
    history f k (ops ++ later) = history f k ops ++ history f (runAll k ops) later := by
  induction ops generalizing k with
  | nil => rfl
  | cons first ops ih =>
    rw [List.cons_append, history, ih, history, List.append_assoc]
    rfl

theorem history_concat {α : Type} (f : Kernel → Operation → List α) (k : Kernel)
    (ops : List Operation) (op : Operation) :
    history f k (ops ++ [op]) = history f k ops ++ f (runAll k ops) op := by
  rw [history_append, history, history, List.append_nil]

/-- The books of a table agree with what has come in, was taken and was thrown away so far. -/
structure Booked (sent taken thrown : List (ThreadId × PendingSignal)) (t : SignalTable) : Prop where
  /-- no thread is entered twice -/
  distinct : t.Distinct
  /-- every signal was taken, thrown away, or is pending -/
  whole : sent.Perm (taken ++ thrown ++ t.mail)
  /-- what is pending stands in the order in which it came in -/
  ordered : ∀ thread, (t.get thread).pending.Sublist (addressed thread sent)
  /-- no queue is too long -/
  limited : ∀ thread, (t.get thread).pending.length ≤ Limits.maxPendingSignals
  /-- nothing is blocked that cannot be caught -/
  catchable : ∀ thread, ∀ signal ∈ (t.get thread).blocked, signal.canCatch = true
  /-- what comes in is counted -/
  sentCount : t.sent = UInt64.ofNat sent.length
  /-- what is taken is counted -/
  takenCount : t.delivered = UInt64.ofNat taken.length

theorem Filing.counts (h : Filing t sent taken thrown t') :
    t'.sent = t.sent + UInt64.ofNat sent.length ∧
      t'.delivered = t.delivered + UInt64.ofNat taken.length := by
  cases h with
  | kept | masked thread s | cleared thread | forgotten thread =>
    exact ⟨(UInt64.add_zero _).symm, (UInt64.add_zero _).symm⟩
  | queued thread p => exact ⟨rfl, (UInt64.add_zero _).symm⟩
  | taken thread =>
    rw [List.length_map]
    exact ⟨(UInt64.add_zero _).symm, rfl⟩

variable {s a d : List (ThreadId × PendingSignal)}

/-- The books stay in order when something is done to the table and written down. -/
theorem Booked.filed (h : Booked s a d t) (hfiling : Filing t sent taken thrown t') :
    Booked (s ++ sent) (a ++ taken) (d ++ thrown) t' where
  distinct := hfiling.distinct h.distinct
  whole := by
    calc (s ++ sent).Perm (a ++ d ++ t.mail ++ sent) := h.whole.append_right _
      _ = a ++ d ++ (t.mail ++ sent) := List.append_assoc _ _ _
      (a ++ d ++ (t.mail ++ sent)).Perm (a ++ d ++ (taken ++ thrown ++ t'.mail)) :=
        (hfiling.mail_perm h.distinct).append_left _
      _ = a ++ (d ++ taken) ++ (thrown ++ t'.mail) := by simp only [List.append_assoc]
      (a ++ (d ++ taken) ++ (thrown ++ t'.mail)).Perm (a ++ (taken ++ d) ++ (thrown ++ t'.mail)) :=
        (List.perm_append_comm.append_left _).append_right _
      _ = a ++ taken ++ (d ++ thrown) ++ t'.mail := by simp only [List.append_assoc]
  ordered thread := by
    rw [addressed_append]
    exact (hfiling.leads thread).ordered.trans ((h.ordered thread).append_right _)
  limited thread :=
    (hfiling.leads thread).limited.trans (Nat.max_le.2 ⟨h.limited thread, Nat.le_refl _⟩)
  catchable thread signal hsignal := by
    rcases (hfiling.leads thread).catchable signal hsignal with hold | hcatch
    · exact h.catchable thread signal hold
    · exact hcatch
  sentCount := by rw [hfiling.counts.1, h.sentCount, List.length_append, UInt64.ofNat_add]
  takenCount := by rw [hfiling.counts.2, h.takenCount, List.length_append, UInt64.ofNat_add]

/-- The number of aborted waits is no matter of the books. -/
theorem Booked.interrupted (h : Booked s a d t) (n : UInt64) :
    Booked s a d { t with interrupted := n } where
  distinct := h.distinct
  whole := h.whole
  ordered := h.ordered
  limited := h.limited
  catchable := h.catchable
  sentCount := h.sentCount
  takenCount := h.takenCount

theorem Booked.empty : Booked [] [] [] {} where
  distinct := List.nodup_nil
  whole := List.Perm.refl _
  ordered _ := List.Sublist.refl _
  limited _ := Nat.zero_le _
  catchable _ _ h := absurd h List.not_mem_nil
  sentCount := rfl
  takenCount := rfl

/-- **The books are in order after every history.** -/
theorem booked_runAll {k : Kernel} (hfresh : k.signals = {}) (ops : List Operation) :
    Booked (history sends k ops) (history takes k ops) (history throws k ops)
      (runAll k ops).signals := by
  induction ops using List.reverseRecOn with
  | nil => exact hfresh ▸ Booked.empty
  | append_singleton ops op ih =>
    obtain ⟨t, n, hfiling, hsignals⟩ := op.filing_effect (runAll k ops)
    rw [history_concat, history_concat, history_concat, runAll_append, runAll_cons, runAll_nil,
      hsignals]
    exact (ih.filed hfiling).interrupted n

/-- An operation throws away as many signals as it says. -/
theorem length_throws (op : Operation) (k : Kernel) : (op.throws k).length = op.discards k := by
  cases op with
  | clear thread | cleanup thread =>
    rw [throws, ThreadSignals.letters, List.length_map]
    rfl
  | act target action =>
    simp only [discards, run]
    rcases k.act target action with ⟨k', _ | answer⟩ <;> rfl
  | enroll target interest waker =>
    simp only [discards, run]
    rcases k.enroll target interest waker with ⟨k', _ | enrollment⟩ <;> rfl
  | send sender receiver signal =>
    simp only [discards, run]
    rcases (k.send sender receiver signal).2 with cause | _ <;> rfl
  | block thread signal =>
    simp only [discards, run]
    rcases (k.block thread signal).2 with cause | _ <;> rfl
  | reapThread id =>
    simp only [discards, run]
    rcases (k.reapThread id).2 with cause | status <;> rfl
  | _ => rfl

/-- How many signals were thrown away along a history, by the answers to its operations. -/
def discarded : Kernel → List Operation → Nat
  | _, [] => 0
  | k, op :: ops => op.discards k + discarded (op.effect k) ops

theorem length_history_throws (k : Kernel) (ops : List Operation) :
    (history throws k ops).length = discarded k ops := by
  induction ops generalizing k with
  | nil => rfl
  | cons op ops ih => rw [history, List.length_append, length_throws, ih, discarded]

/-- The signals of a kernel, after a history that began without any. -/
structure SignalsAccounted (k₀ : Kernel) (ops : List Operation) (k : Kernel) : Prop where
  /-- no queue is too long -/
  limited : ∀ thread, (k.signals.get thread).pending.length ≤ Limits.maxPendingSignals
  /-- a signal that is refused changes nothing -/
  refused : ∀ sender receiver signal cause,
    (k.send sender receiver signal).2 = .error cause → (k.send sender receiver signal).1 = k
  /-- what cannot be caught is not blocked -/
  unblockable : ∀ thread, k.isBlocked thread .kill = false ∧ k.isBlocked thread .stop = false
  /-- a thread has a signal to take just when taking gives one -/
  foretold : ∀ thread, k.hasPending thread = true ↔ (k.signals.take thread).2 ≠ []
  /-- what is deliverable is taken, and nothing else -/
  taken : ∀ thread, (k.signals.take thread).2 =
    (k.signals.get thread).pending.filter fun p => (k.signals.get thread).delivers p.signal
  /-- what is not deliverable stays pending -/
  kept : ∀ thread, ((k.signals.take thread).1.get thread).pending =
    (k.signals.get thread).pending.filter fun p => !(k.signals.get thread).delivers p.signal
  /-- nobody else's signals are touched -/
  spared : ∀ thread other, other ≠ thread →
    (k.signals.take thread).1.get other = k.signals.get other
  /-- what is pending stands in the order in which it was sent -/
  ordered : ∀ thread,
    (k.signals.get thread).pending.Sublist (addressed thread (history sends k₀ ops))
  /-- what was sent was taken once, thrown away once, or is pending -/
  once : ∀ thread, (addressed thread (history sends k₀ ops)).Perm
    (addressed thread (history takes k₀ ops) ++ addressed thread (history throws k₀ ops) ++
      (k.signals.get thread).pending)
  /-- every signal that was sent is counted -/
  counted : k.signals.sent = UInt64.ofNat (history sends k₀ ops).length
  /-- the counters balance -/
  balanced : k.signals.sent =
    k.signals.delivered + UInt64.ofNat (discarded k₀ ops) + UInt64.ofNat k.signals.pendingTotal

theorem Booked.isBlocked_eq_false {k : Kernel} (h : Booked s a d k.signals) (thread : ThreadId)
    {signal : Signal} (hcatch : signal.canCatch = false) : k.isBlocked thread signal = false := by
  rw [Kernel.isBlocked, Bool.eq_false_iff]
  intro hblocked
  have hcaught := h.catchable thread signal (List.contains_iff_mem.1 hblocked)
  rw [hcatch] at hcaught
  cases hcaught

theorem hasPending_iff_take (k : Kernel) (thread : ThreadId) :
    k.hasPending thread = true ↔ (k.signals.take thread).2 ≠ [] := by
  have htaken : (k.signals.take thread).2 =
      (k.signals.get thread).pending.filter fun p => (k.signals.get thread).delivers p.signal := rfl
  rw [htaken, Kernel.hasPending, ThreadSignals.hasDeliverable_iff, ne_eq, List.filter_eq_nil_iff]
  simp only [not_forall, not_not, exists_prop]

/-- **Signal queues lose, duplicate and reorder nothing**, whatever is done, by and to whichever threads,
from the start on. -/
theorem signals_accounted (registry : Registry) (sessions : SessionTable) (clock : Clock)
    (ops : List Operation) :
    let k₀ : Kernel := { registry := registry, sessions := sessions, clock := clock }
    SignalsAccounted k₀ ops (runAll k₀ ops) := by
  intro k₀
  have hbooked : Booked _ _ _ (runAll k₀ ops).signals := booked_runAll (k := k₀) rfl ops
  exact {
    limited := hbooked.limited
    refused := by
      intro sender receiver signal cause hrefused
      rcases Nat.lt_or_ge ((runAll k₀ ops).signals.get receiver).pending.length
        Limits.maxPendingSignals with hroom | hfull
      · rw [(Kernel.send_of_room hroom sender signal).1] at hrefused
        cases hrefused
      · rw [Kernel.send_of_full hfull]
    unblockable := fun thread =>
      ⟨hbooked.isBlocked_eq_false thread rfl, hbooked.isBlocked_eq_false thread rfl⟩
    foretold := hasPending_iff_take _
    taken := fun thread => rfl
    kept := fun thread => congrArg ThreadSignals.pending (SignalTable.get_put_self _ thread _)
    spared := fun thread other hne => SignalTable.get_put_ne hne _ _
    ordered := hbooked.ordered
    once := by
      intro thread
      apply ((hbooked.whole.filter (·.1 == thread)).map Prod.snd).trans
      rw [List.filter_append, List.filter_append, List.map_append, List.map_append]
      exact (hbooked.distinct.mail_addressed thread).append_left _
    counted := hbooked.sentCount
    balanced := by
      rw [hbooked.sentCount, hbooked.takenCount, hbooked.whole.length_eq, List.length_append,
        List.length_append, UInt64.ofNat_add, UInt64.ofNat_add, length_history_throws,
        SignalTable.length_mail] }

end Operation

end KernelWait
