import KernelWait.Proofs.Readiness

/-!
# What readiness promises

What an object is ready for and what its operations do are decided in different places, from the same
fields: a count, a fill level, and the flags for an end, a hang-up and an error. They agree in every
combination of these. A bit is set just when the operation that it stands for succeeds, and an object
that is gone is invalid and nothing else, for good.

**Readiness tells the truth about the next operation**, whatever was done to the object since it was
created (`Entity.truthful_after`).
-/

namespace KernelWait

/-! ## Endpoints -/

namespace Endpoint

/-- What an open endpoint is ready for, by its four conditions. -/
def openEvents (empty roomy failed hungUp : Bool) : Events :=
  (if empty then ∅ else .read) ∪ (if !hungUp && roomy then .write else ∅) ∪
    (if failed then .error else ∅) ∪ (if hungUp then .disconnected else ∅)

theorem read_subset_openEvents : ∀ empty roomy failed hungUp : Bool,
    .read ⊆ openEvents empty roomy failed hungUp ↔ empty = false := by
  decide

theorem write_subset_openEvents : ∀ empty roomy failed hungUp : Bool,
    .write ⊆ openEvents empty roomy failed hungUp ↔ hungUp = false ∧ roomy = true := by
  decide

theorem not_invalid_subset_openEvents : ∀ empty roomy failed hungUp : Bool,
    ¬ .invalid ⊆ openEvents empty roomy failed hungUp := by
  decide

variable {e : Endpoint}

theorem readiness_of_open (h : e.closed = false) :
    e.readiness =
      openEvents e.buffer.isEmpty (decide (e.buffer.length < e.capacity)) e.failed e.hungUp := by
  rw [readiness, h]
  rfl

theorem readiness_of_closed (h : e.closed = true) : e.readiness = .invalid := by
  rw [readiness, if_pos h]

theorem read_subset_readiness_iff :
    .read ⊆ e.readiness ↔ e.closed = false ∧ e.buffer.isEmpty = false := by
  rcases hclosed : e.closed with _ | _
  · rw [readiness_of_open hclosed, read_subset_openEvents]
    exact (and_iff_right rfl).symm
  · rw [readiness_of_closed hclosed]
    exact iff_of_false (by decide) fun h => Bool.noConfusion h.1

theorem write_subset_readiness_iff :
    .write ⊆ e.readiness ↔
      e.closed = false ∧ e.hungUp = false ∧ e.buffer.length < e.capacity := by
  rcases hclosed : e.closed with _ | _
  · rw [readiness_of_open hclosed, write_subset_openEvents, decide_eq_true_iff]
    exact (and_iff_right rfl).symm
  · rw [readiness_of_closed hclosed]
    exact iff_of_false (by decide) fun h => Bool.noConfusion h.1

theorem invalid_subset_readiness_iff : .invalid ⊆ e.readiness ↔ e.closed = true := by
  rcases hclosed : e.closed with _ | _
  · rw [readiness_of_open hclosed]
    exact iff_of_false (not_invalid_subset_openEvents _ _ _ _) Bool.false_ne_true
  · rw [readiness_of_closed hclosed]
    exact iff_of_true (by decide) rfl

/-- Reading gives bytes just when the endpoint is readable. -/
theorem read_answers_iff {limit : Nat} (hlimit : 1 ≤ limit) :
    (∃ bytes, bytes ≠ [] ∧ (e.perform (.read limit)).answer = .bytes bytes) ↔
      .read ⊆ e.readiness := by
  rw [read_subset_readiness_iff]
  simp only [perform, read]
  rcases hclosed : e.closed with _ | _
  · rcases hbuffer : e.buffer with _ | ⟨byte, buffer⟩
    · -- an empty buffer is refused, or it is the end of the stream
      rcases e.hungUp with _ | _ <;> simp [Reaction.refuse, Reaction.quiet]
    · obtain ⟨limit, rfl⟩ : ∃ l, limit = l + 1 := ⟨limit - 1, by omega⟩
      simp [Reaction.announce]
  · simp [Reaction.refuse]

/-- Writing something accepts something just when the endpoint is writable. -/
theorem write_answers_iff {bytes : List UInt8} (hbytes : bytes ≠ []) :
    (∃ n, 1 ≤ n ∧ (e.perform (.write bytes)).answer = .count n) ↔ .write ⊆ e.readiness := by
  rw [write_subset_readiness_iff]
  have hsome : 0 < bytes.length := List.length_pos_iff.2 hbytes
  simp only [perform, write]
  rcases e.closed with _ | _
  · rcases e.hungUp with _ | _
    · rcases Nat.eq_zero_or_pos e.room with hfull | hroom
      · have hlevel : ¬ e.buffer.length < e.capacity := by
          simp only [room] at hfull
          omega
        simp [hfull, hlevel, Reaction.refuse]
      · have hlevel : e.buffer.length < e.capacity := by
          simp only [room] at hroom
          omega
        have hne : e.room ≠ 0 := Nat.ne_of_gt hroom
        simp only [Bool.or_self, if_neg Bool.false_ne_true, if_neg hne, Reaction.announce, hlevel,
          true_and, iff_true]
        exact ⟨_, by rw [List.length_take]; omega, rfl⟩
    · simp [Reaction.refuse]
  · simp [Reaction.refuse]

/-- Nothing can be written to or read from an endpoint that is closed. -/
theorem answer_of_closed (h : e.closed = true) (bytes : List UInt8) (limit : Nat) :
    (e.perform (.write bytes)).answer = .refused .closed ∧
      (e.perform (.read limit)).answer = .refused .closed := by
  rw [perform, perform, write, read, h]
  exact ⟨rfl, rfl⟩

theorem closed_of_write {bytes : List UInt8} {n : Nat} {e' : Endpoint}
    (h : e.write bytes = .ok (n, e')) : e'.closed = e.closed := by
  rw [write] at h
  split at h
  · cases h
  · split at h
    · cases h
    · cases h
      rfl

theorem closed_of_read {limit : Nat} {bytes : List UInt8} {e' : Endpoint}
    (h : e.read limit = .ok (bytes, e')) : e'.closed = e.closed := by
  rw [read] at h
  split at h
  · cases h
  · split at h
    · cases h
    · cases h
      rfl

/-- Closing is what closes an endpoint, and nothing opens it again. -/
theorem closed_perform_iff (a : Action) :
    (e.perform a).object.closed = true ↔ e.closed = true ∨ a = .close := by
  cases a with
  | write bytes =>
    rcases h : e.write bytes with cause | ⟨n, e'⟩
    · simp [perform, h, Reaction.refuse]
    · simp [perform, h, Reaction.announce, closed_of_write h]
  | read limit =>
    rcases h : e.read limit with cause | ⟨bytes, e'⟩
    · simp [perform, h, Reaction.refuse]
    · simp only [perform, h]
      split <;> simp [Reaction.quiet, Reaction.announce, closed_of_read h]
  | fail => simp [perform, Reaction.announce]
  | hangUp =>
    rw [perform]
    split <;> simp [Reaction.announce, Reaction.quiet]
  | close =>
    rcases h : e.closed with _ | _ <;> simp [perform, h, Reaction.announce, Reaction.quiet]

end Endpoint

/-! ## Ports -/

namespace Port

variable {p : Port}

/-- What an open port is ready for, by its two conditions. -/
def openEvents (empty roomy : Bool) : Events :=
  (if empty then ∅ else .read) ∪ (if roomy then .write else ∅)

theorem read_subset_openEvents : ∀ empty roomy : Bool,
    .read ⊆ openEvents empty roomy ↔ empty = false := by
  decide

theorem write_subset_openEvents : ∀ empty roomy : Bool,
    .write ⊆ openEvents empty roomy ↔ roomy = true := by
  decide

theorem not_invalid_subset_openEvents : ∀ empty roomy : Bool,
    ¬ .invalid ⊆ openEvents empty roomy := by
  decide

theorem readiness_of_open (h : p.closed = false) :
    p.readiness = openEvents p.queue.isEmpty (decide (p.queue.length < p.capacity)) := by
  rw [readiness, h, openEvents]
  simp only [decide_eq_true_eq]
  rfl

theorem readiness_of_closed (h : p.closed = true) : p.readiness = .invalid := by
  rw [readiness, if_pos h]

theorem invalid_subset_readiness_iff : .invalid ⊆ p.readiness ↔ p.closed = true := by
  rcases hclosed : p.closed with _ | _
  · rw [readiness_of_open hclosed]
    exact iff_of_false (not_invalid_subset_openEvents _ _) Bool.false_ne_true
  · rw [readiness_of_closed hclosed]
    exact iff_of_true (by decide) rfl

/-- A message can be taken just when the port is readable. -/
theorem receive_answers_iff :
    (∃ message, (p.perform .receive).answer = .message message) ↔ .read ⊆ p.readiness := by
  rw [perform, receive]
  rcases hclosed : p.closed with _ | _
  · rw [readiness_of_open hclosed, read_subset_openEvents]
    rcases p.queue with _ | ⟨message, rest⟩ <;> simp [Reaction.refuse, Reaction.announce]
  · rw [readiness_of_closed hclosed]
    exact iff_of_false (by rintro ⟨_, ⟨⟩⟩) (by decide)

/-- A message can be queued just when the port is writable. -/
theorem send_answers_iff (message : Message) :
    (p.perform (.send message)).answer = .done ↔ .write ⊆ p.readiness := by
  rw [perform, send]
  rcases hclosed : p.closed with _ | _
  · rw [readiness_of_open hclosed, write_subset_openEvents, decide_eq_true_iff]
    rcases Nat.lt_or_ge p.queue.length p.capacity with hroom | hfull
    · rw [if_neg Bool.false_ne_true, if_neg (Nat.not_le.2 hroom)]
      exact iff_of_true rfl hroom
    · rw [if_neg Bool.false_ne_true, if_pos hfull]
      exact iff_of_false (by rintro ⟨⟩) (Nat.not_lt.2 hfull)
  · rw [readiness_of_closed hclosed]
    exact iff_of_false (by rintro ⟨⟩) (by decide)

/-- Nothing can be queued at or taken from a port that is closed. -/
theorem answer_of_closed (h : p.closed = true) (message : Message) :
    (p.perform (.send message)).answer = .refused .closed ∧
      (p.perform .receive).answer = .refused .closed := by
  rw [perform, perform, send, receive, h]
  exact ⟨rfl, rfl⟩

theorem closed_of_send {message : Message} {p' : Port} (h : p.send message = .ok p') :
    p'.closed = p.closed := by
  rw [send] at h
  split at h
  · cases h
  · split at h
    · cases h
    · cases h
      rfl

theorem closed_of_receive {message : Message} {p' : Port}
    (h : p.receive = .ok (message, p')) : p'.closed = p.closed := by
  rw [receive] at h
  split at h
  · cases h
  · split at h
    · cases h
    · cases h
      rfl

/-- Closing is what closes a port, and nothing opens it again. -/
theorem closed_perform_iff (a : Action) :
    (p.perform a).object.closed = true ↔ p.closed = true ∨ a = .close := by
  cases a with
  | send message =>
    rcases h : p.send message with cause | p'
    · simp [perform, h, Reaction.refuse]
    · simp [perform, h, Reaction.announce, closed_of_send h]
  | receive =>
    rcases h : p.receive with cause | ⟨message, p'⟩
    · simp [perform, h, Reaction.refuse]
    · simp [perform, h, Reaction.announce, closed_of_receive h]
  | close =>
    rcases h : p.closed with _ | _ <;> simp [perform, h, Reaction.announce, Reaction.quiet]

end Port

/-! ## Semaphores -/

namespace Semaphore

variable {s : Semaphore}

theorem readiness_of_deleted (h : s.deleted = true) : s.readiness = .invalid := by
  rw [readiness, if_pos h]

/-- What a semaphore that is still there is ready for, by its count. -/
theorem readiness_of_present (h : s.deleted = false) :
    s.readiness = if 0 < s.count then .read else ∅ := by
  rw [readiness, h, if_neg Bool.false_ne_true]

theorem invalid_subset_readiness_iff : .invalid ⊆ s.readiness ↔ s.deleted = true := by
  rcases h : s.deleted with _ | _
  · rw [readiness_of_present h]
    refine iff_of_false ?_ Bool.false_ne_true
    split <;> decide
  · rw [readiness_of_deleted h]
    exact iff_of_true (by decide) rfl

/-- One can be acquired just when the semaphore is readable. -/
theorem acquire_answers_iff : (s.perform (.acquire 1)).answer = .done ↔ .read ⊆ s.readiness := by
  have hone : ¬ (1 : Int32) ≤ 0 := by decide
  rw [perform, acquire, refusal?, if_neg hone]
  rcases hdeleted : s.deleted with _ | _
  · rw [readiness_of_present hdeleted]
    -- the count may be negative, but there is nothing between none and one
    have hlevel : s.count < 1 ↔ ¬ 0 < s.count := by
      have h₁ : (1 : Int32).toInt = 1 := rfl
      have h₀ : (0 : Int32).toInt = 0 := rfl
      rw [Int32.lt_iff_toInt_lt, Int32.lt_iff_toInt_lt]
      omega
    simp only [Bool.false_eq_true, if_false, hlevel]
    by_cases hpos : 0 < s.count
    · rw [if_neg (not_not_intro hpos), if_pos hpos]
      exact iff_of_true rfl (by decide)
    · rw [if_pos hpos, if_neg hpos]
      exact iff_of_false (by rintro ⟨⟩) (by decide)
  · rw [readiness_of_deleted hdeleted]
    exact iff_of_false (by rintro ⟨⟩) (by decide)

/-- A semaphore that is deleted refuses every count that could be released or acquired. -/
theorem answer_of_deleted (h : s.deleted = true) {n : Int32} (hn : 0 < n) :
    (s.perform (.release n)).answer = .refused .closed ∧
      (s.perform (.acquire n)).answer = .refused .closed := by
  have hpos : ¬ n ≤ 0 := Int32.not_le.2 hn
  rw [perform, perform, release, acquire, refusal?, refusal?, if_neg hpos, if_neg hpos, h]
  exact ⟨rfl, rfl⟩

theorem deleted_of_release {n : Int32} {s' : Semaphore} (h : s.release n = .ok s') :
    s'.deleted = s.deleted := by
  rw [release] at h
  split at h
  · cases h
  · cases h
    rfl

/-- Deletion is what deletes a semaphore, and nothing brings it back. -/
theorem deleted_perform_iff (a : Action) :
    (s.perform a).object.deleted = true ↔ s.deleted = true ∨ a = .delete := by
  cases a with
  | release n =>
    rcases h : s.release n with cause | s'
    · simp [perform, h, Reaction.refuse]
    · simp [perform, h, Reaction.announce, deleted_of_release h]
  | acquire n =>
    rcases h : s.acquire n with cause | s'
    · simp [perform, h, Reaction.refuse]
    · simp [perform, h, Reaction.quiet, (pos_of_acquire h).2]
  | delete =>
    rcases h : s.deleted with _ | _ <;> simp [perform, h, Reaction.announce, Reaction.quiet]

end Semaphore

/-! ## Threads -/

namespace Thread

variable {t : Thread}

theorem readiness_of_exited (h : t.isAlive = false) : t.readiness = .invalid := by
  rw [readiness, h, if_neg Bool.false_ne_true]

theorem invalid_subset_readiness_iff : .invalid ⊆ t.readiness ↔ t.isAlive = false := by
  rw [readiness]
  rcases t.isAlive with _ | _
  · exact iff_of_true (by decide) rfl
  · exact iff_of_false (by decide) Bool.noConfusion

/-- A thread that has exited does not exit again. -/
theorem answer_of_exited (h : t.isAlive = false) (status : Int32) :
    (t.perform (.exit status)).answer = .flag false := by
  rw [perform, h]
  rfl

/-- Whatever is done to a thread ends it. -/
theorem exited_perform (a : Action) : (t.perform a).object.isAlive = false := by
  obtain ⟨status⟩ := a
  rcases h : t.isAlive with _ | _
  · rw [perform, h]
    exact h
  · rw [perform, h]
    rfl

end Thread

/-! ## Objects of any kind -/

namespace Object

namespace Action

/-- The kind of the objects that an action is for. -/
def kind : Action → Kind
  | endpoint _ => .endpoint
  | semaphore _ => .semaphore
  | port _ => .port
  | thread _ => .thread

/-- Whether the action deletes, closes or ends an object. -/
def ends : Action → Bool
  | endpoint .close | semaphore .delete | port .close | thread (.exit _) => true
  | _ => false

/-- Whether the action is refused by an object that is gone. A semaphore looks at the count first, so
only a positive one counts. -/
def needsLife : Action → Bool
  | endpoint (.write _) | endpoint (.read _) | port (.send _) | port .receive => true
  | semaphore (.release n) | semaphore (.acquire n) => decide (0 < n)
  | _ => false

end Action

/-- Whether the object is deleted, closed or has exited. -/
def isGone : Object → Bool
  | endpoint e => e.closed
  | semaphore s => s.deleted
  | port p => p.closed
  | thread t => !t.isAlive

variable {o : Object} {a : Action} {r : Reaction Object}

theorem invalid_subset_readiness_iff : .invalid ⊆ o.readiness ↔ o.isGone = true := by
  cases o with
  | endpoint e => exact Endpoint.invalid_subset_readiness_iff
  | semaphore s => exact Semaphore.invalid_subset_readiness_iff
  | port p => exact Port.invalid_subset_readiness_iff
  | thread t =>
    apply Thread.invalid_subset_readiness_iff.trans
    rw [isGone, Bool.not_eq_true']

/-- An object that is gone is invalid and nothing else. -/
theorem readiness_of_gone (h : o.isGone = true) : o.readiness = .invalid := by
  cases o with
  | endpoint e => exact Endpoint.readiness_of_closed h
  | semaphore s => exact Semaphore.readiness_of_deleted h
  | port p => exact Port.readiness_of_closed h
  | thread t => exact Thread.readiness_of_exited ((Bool.not_eq_true' _).mp h)

/-- Only actions for its kind do anything to an object. -/
theorem kind_of_perform (h : o.perform a = some r) : a.kind = o.kind := by
  cases o <;> cases a <;> first | rfl | cases h

theorem perform_of_kind (h : a.kind = o.kind) : ∃ r, o.perform a = some r := by
  cases o <;> cases a <;> first | exact ⟨_, rfl⟩ | cases h

/-- What ends an object makes it gone, and nothing brings it back. -/
theorem isGone_perform_iff (h : o.perform a = some r) :
    r.object.isGone = true ↔ o.isGone = true ∨ a.ends = true := by
  cases o with
  | endpoint e =>
    cases a with
    | endpoint a =>
      cases h
      apply (Endpoint.closed_perform_iff a).trans
      cases a <;> simp [isGone, Action.ends]
    | _ => cases h
  | semaphore s =>
    cases a with
    | semaphore a =>
      cases h
      apply (Semaphore.deleted_perform_iff a).trans
      cases a <;> simp [isGone, Action.ends]
    | _ => cases h
  | port p =>
    cases a with
    | port a =>
      cases h
      apply (Port.closed_perform_iff a).trans
      cases a <;> simp [isGone, Action.ends]
    | _ => cases h
  | thread t =>
    cases a with
    | thread a =>
      cases h
      have hexited : (!(t.perform a).object.isAlive) = true := by rw [Thread.exited_perform]; rfl
      obtain ⟨status⟩ := a
      exact iff_of_true hexited (.inr rfl)
    | _ => cases h

/-- An object that is gone refuses whatever takes a live one. -/
theorem answer_of_gone (h : o.perform a = some r) (hgone : o.isGone = true)
    (hneeds : a.needsLife = true) : r.answer = .refused .closed := by
  cases o with
  | endpoint e =>
    cases a with
    | endpoint a =>
      cases h
      cases a with
      | write bytes => exact (Endpoint.answer_of_closed hgone bytes 0).1
      | read limit => exact (Endpoint.answer_of_closed hgone [] limit).2
      | _ => cases hneeds
    | _ => cases h
  | semaphore s =>
    cases a with
    | semaphore a =>
      cases h
      cases a with
      | release n => exact (Semaphore.answer_of_deleted hgone (of_decide_eq_true hneeds)).1
      | acquire n => exact (Semaphore.answer_of_deleted hgone (of_decide_eq_true hneeds)).2
      | delete => cases hneeds
    | _ => cases h
  | port p =>
    cases a with
    | port a =>
      cases h
      cases a with
      | send message => exact (Port.answer_of_closed hgone message).1
      | receive => exact (Port.answer_of_closed hgone ⟨0, []⟩).2
      | close => cases hneeds
    | _ => cases h
  | thread t =>
    cases a with
    | thread a => cases hneeds
    | _ => cases h

end Object

/-! ## Histories -/

namespace Entity

/-- Whether a thing done to an object of a kind is its end. -/
def Event.ends (kind : Kind) : Event → Bool
  | .act a _ => a.kind == kind && a.ends
  | .enroll _ _ => false
  | .disenroll _ => false

/-- The answer to an action is the object's. -/
theorem answer_act (e : Entity) (a : Object.Action) (t : SessionTable) :
    (e.act a t).2.2 = (e.object.perform a).map Reaction.answer := by
  rw [act]
  rcases e.object.perform a with _ | r <;> rfl

/-- What becomes of the object is its own affair, whoever waits for it. -/
theorem object_act {e : Entity} {a : Object.Action} {r : Reaction Object}
    (h : e.object.perform a = some r) (t : SessionTable) : (e.act a t).1.object = r.object := by
  simp only [act, h, settle]
  split <;> rfl

theorem kind_happen (e : Entity) (event : Event) : (e.happen event).kind = e.kind := by
  cases event with
  | act a sessions => exact e.kind_act a sessions
  | enroll interest waker => rfl
  | disenroll token => rfl

theorem isGone_happen_iff (e : Entity) (event : Event) :
    (e.happen event).object.isGone = true ↔
      e.object.isGone = true ∨ event.ends e.kind = true := by
  cases event with
  | act a sessions =>
    rw [happen, Event.ends, Bool.and_eq_true, beq_iff_eq]
    rcases h : e.object.perform a with _ | r
    · have hkind : ¬ a.kind = e.kind := by
        intro hsame
        obtain ⟨r, hr⟩ := Object.perform_of_kind hsame
        cases h.symm.trans hr
      have hsame : (e.act a sessions).1 = e := by rw [act, h]
      rw [hsame]
      exact (or_iff_left fun hends => hkind hends.1).symm
    · rw [object_act h, Object.isGone_perform_iff h]
      exact or_congr_right (and_iff_right (Object.kind_of_perform h)).symm
  | enroll interest waker | disenroll token => exact (or_iff_left Bool.false_ne_true).symm

/-- **An object is gone just when something in its history has ended it.** -/
theorem isGone_after_iff (history : List Event) (e : Entity) :
    (e.after history).object.isGone = true ↔
      e.object.isGone = true ∨ ∃ event ∈ history, event.ends e.kind = true := by
  -- what has ended the object stays in the history, and the kind that it is for stays the same
  induction history generalizing e with
  | nil => simp [after]
  | cons event history ih =>
    have hafter : e.after (event :: history) = (e.happen event).after history := rfl
    rw [hafter, ih, isGone_happen_iff, kind_happen, or_assoc]
    simp only [List.mem_cons, exists_eq_or_imp]

/-- Readiness says what the operations of an object would answer right now, whatever sessions they
find. -/
structure Truthful (e : Entity) (t : SessionTable) : Prop where
  /-- a semaphore is readable just when one can be acquired -/
  acquirable : e.kind = .semaphore →
    (.read ⊆ e.readiness ↔ (e.act (.semaphore (.acquire 1)) t).2.2 = some .done)
  /-- a port is readable just when a message can be taken -/
  receivable : e.kind = .port →
    (.read ⊆ e.readiness ↔ ∃ message, (e.act (.port .receive) t).2.2 = some (.message message))
  /-- a port is writable just when a message can be queued -/
  sendable : e.kind = .port → ∀ message,
    (.write ⊆ e.readiness ↔ (e.act (.port (.send message)) t).2.2 = some .done)
  /-- an endpoint is readable just when reading gives a byte -/
  readable : e.kind = .endpoint → ∀ limit, 1 ≤ limit →
    (.read ⊆ e.readiness ↔
      ∃ bytes, bytes ≠ [] ∧ (e.act (.endpoint (.read limit)) t).2.2 = some (.bytes bytes))
  /-- an endpoint is writable just when writing something takes a byte -/
  writable : e.kind = .endpoint → ∀ bytes, bytes ≠ [] →
    (.write ⊆ e.readiness ↔
      ∃ n, 1 ≤ n ∧ (e.act (.endpoint (.write bytes)) t).2.2 = some (.count n))
  /-- what is invalid is nothing else -/
  alone : .invalid ⊆ e.readiness → e.readiness = .invalid
  /-- what is invalid is closed for everything that takes a live object -/
  closed : .invalid ⊆ e.readiness → ∀ a : Object.Action, a.kind = e.kind → a.needsLife = true →
    (e.act a t).2.2 = some (.refused .closed)
  /-- a thread that has exited does not exit again -/
  exited : .invalid ⊆ e.readiness → e.kind = .thread → ∀ status,
    (e.act (.thread (.exit status)) t).2.2 = some (.flag false)

theorem truthful (e : Entity) (t : SessionTable) : e.Truthful t where
  acquirable hkind := by
    obtain ⟨id, ⟨e⟩ | ⟨s⟩ | ⟨p⟩ | ⟨th⟩, queue⟩ := e <;> cases hkind
    simp only [answer_act, Object.perform, Option.map_some, Option.some.injEq]
    exact Semaphore.acquire_answers_iff.symm
  receivable hkind := by
    obtain ⟨id, ⟨e⟩ | ⟨s⟩ | ⟨p⟩ | ⟨th⟩, queue⟩ := e <;> cases hkind
    simp only [answer_act, Object.perform, Option.map_some, Option.some.injEq]
    exact Port.receive_answers_iff.symm
  sendable hkind message := by
    obtain ⟨id, ⟨e⟩ | ⟨s⟩ | ⟨p⟩ | ⟨th⟩, queue⟩ := e <;> cases hkind
    simp only [answer_act, Object.perform, Option.map_some, Option.some.injEq]
    exact (Port.send_answers_iff message).symm
  readable hkind limit hlimit := by
    obtain ⟨id, ⟨e⟩ | ⟨s⟩ | ⟨p⟩ | ⟨th⟩, queue⟩ := e <;> cases hkind
    simp only [answer_act, Object.perform, Option.map_some, Option.some.injEq]
    exact (Endpoint.read_answers_iff hlimit).symm
  writable hkind bytes hbytes := by
    obtain ⟨id, ⟨e⟩ | ⟨s⟩ | ⟨p⟩ | ⟨th⟩, queue⟩ := e <;> cases hkind
    simp only [answer_act, Object.perform, Option.map_some, Option.some.injEq]
    exact (Endpoint.write_answers_iff hbytes).symm
  alone hinvalid := Object.readiness_of_gone (Object.invalid_subset_readiness_iff.1 hinvalid)
  closed hinvalid a hkind hneeds := by
    obtain ⟨r, hr⟩ := Object.perform_of_kind hkind
    rw [answer_act, hr]
    exact congrArg some
      (Object.answer_of_gone hr (Object.invalid_subset_readiness_iff.1 hinvalid) hneeds)
  exited hinvalid hkind status := by
    obtain ⟨id, ⟨e⟩ | ⟨s⟩ | ⟨p⟩ | ⟨th⟩, queue⟩ := e <;> cases hkind
    rw [answer_act]
    exact congrArg some
      (Thread.answer_of_exited (Thread.invalid_subset_readiness_iff.1 hinvalid) status)

/-- **Readiness tells the truth about the next operation**, in every state that an object of any kind,
count or capacity gets to. It is invalid just when something has ended it, and then for good. -/
theorem truthful_after (blueprint : Object.Blueprint) (id : ObjectId) (history : List Event)
    (t : SessionTable) :
    let e := after { id := id, object := .ofBlueprint blueprint } history
    e.Truthful t ∧
      (.invalid ⊆ e.readiness ↔
        ∃ event ∈ history, event.ends (Object.ofBlueprint blueprint).kind = true) ∧
      (.invalid ⊆ e.readiness → ∀ later, (e.after later).readiness = .invalid) := by
  intro e
  refine ⟨truthful e t, ?_, ?_⟩
  · have hfresh : ¬ (Object.ofBlueprint blueprint).isGone = true := by
      cases blueprint <;> exact Bool.false_ne_true
    rw [readiness, Object.invalid_subset_readiness_iff, isGone_after_iff]
    exact or_iff_right hfresh
  · intro hinvalid later
    have hgone : e.object.isGone = true := Object.invalid_subset_readiness_iff.1 hinvalid
    exact Object.readiness_of_gone ((isGone_after_iff later e).2 (.inl hgone))

end Entity

end KernelWait
