import Mathlib.Data.List.Induction
import KernelWait.Proofs.Truthfulness

/-!
# Transcripts of objects

What is done to an object, and what each action is answered, is its transcript (`Entity.transcript`).
The tickets that come and go in between have no part in it.

**What every answered action keeps holds after every history** (`Entity.transcript_induction`), and
nothing is changed by an action that is refused (`Entity.act_refused`).
-/

namespace KernelWait

/-! ## What the actions do -/

/-- A refusal can be told from its answer. -/
theorem Reaction.refuse_of_answer {α : Type} {object : α} {r : Reaction α} {cause cause' : ObjectError}
    (hrefuse : r = .refuse object cause') (h : r.answer = .refused cause) :
    r = .refuse object cause := by
  subst hrefuse
  rw [← ObjectAnswer.refused.inj h]

namespace Endpoint

variable (e : Endpoint)

/-- A write is refused, or the bytes that there is room for are appended and counted. -/
theorem write_cases (bytes : List UInt8) :
    (∃ cause, e.perform (.write bytes) = .refuse e cause) ∨
    e.closed = false ∧
      e.perform (.write bytes) =
        .announce { e with buffer := e.buffer ++ bytes.take e.room }
          (.count (min e.room bytes.length)) := by
  simp only [perform, write]
  rcases e.closed with _ | _
  · rcases e.hungUp with _ | _
    · by_cases hfull : e.room = 0
      · rw [Bool.or_self, if_neg Bool.false_ne_true, if_pos hfull]
        exact .inl ⟨_, rfl⟩
      · rw [Bool.or_self, if_neg Bool.false_ne_true, if_neg hfull, ← List.length_take]
        exact .inr ⟨rfl, rfl⟩
    · exact .inl ⟨_, rfl⟩
  · exact .inl ⟨_, rfl⟩

/-- A read is refused, or as many bytes are taken out as asked for and there. -/
theorem read_cases (limit : Nat) :
    (∃ cause, e.perform (.read limit) = .refuse e cause) ∨
    e.closed = false ∧
      (e.perform (.read limit)).answer = .bytes (e.buffer.take limit) ∧
      (e.perform (.read limit)).object = { e with buffer := e.buffer.drop limit } := by
  obtain ⟨capacity, buffer, failed, hungUp, closed⟩ := e
  simp only [perform, read]
  cases closed with
  | true => exact .inl ⟨_, rfl⟩
  | false =>
    cases buffer with
    | nil =>
      cases hungUp with
      | false => exact .inl ⟨_, rfl⟩
      | true =>
        refine .inr ⟨rfl, ?_, ?_⟩
        · rw [List.take_nil]
          rfl
        · rw [List.drop_nil]
          rfl
    | cons byte buffer => exact .inr ⟨rfl, rfl, rfl⟩

theorem refused_perform {a : Action} {cause : ObjectError}
    (h : (e.perform a).answer = .refused cause) : e.perform a = .refuse e cause := by
  cases a with
  | write bytes =>
    obtain ⟨cause', heq⟩ | ⟨-, heq⟩ := e.write_cases bytes
    · exact Reaction.refuse_of_answer heq h
    · rw [heq] at h
      cases h
  | read limit =>
    obtain ⟨cause', heq⟩ | ⟨-, hanswer, -⟩ := e.read_cases limit
    · exact Reaction.refuse_of_answer heq h
    · cases hanswer.symm.trans h
  | fail => cases h
  | hangUp | close =>
    rw [perform] at h
    split at h <;> cases h

end Endpoint

namespace Port

variable (p : Port)

/-- Sending is refused, or the message is queued behind the others. -/
theorem send_cases (message : Message) :
    (∃ cause, p.perform (.send message) = .refuse p cause) ∨
    p.closed = false ∧ p.queue.length < p.capacity ∧
      p.perform (.send message) = .announce { p with queue := p.queue ++ [message] } .done := by
  simp only [perform, send]
  rcases p.closed with _ | _
  · by_cases hfull : p.capacity ≤ p.queue.length
    · rw [if_neg Bool.false_ne_true, if_pos hfull]
      exact .inl ⟨_, rfl⟩
    · rw [if_neg Bool.false_ne_true, if_neg hfull]
      exact .inr ⟨rfl, Nat.lt_of_not_le hfull, rfl⟩
  · exact .inl ⟨_, rfl⟩

/-- Receiving is refused, or the first message is taken out. -/
theorem receive_cases :
    (∃ cause, p.perform .receive = .refuse p cause) ∨
    ∃ message rest, p.closed = false ∧ p.queue = message :: rest ∧
      p.perform .receive = .announce { p with queue := rest } (.message message) := by
  simp only [perform, receive]
  rcases p.closed with _ | _
  · rcases p.queue with _ | ⟨message, rest⟩
    · exact .inl ⟨_, rfl⟩
    · exact .inr ⟨message, rest, rfl, rfl, rfl⟩
  · exact .inl ⟨_, rfl⟩

theorem refused_perform {a : Action} {cause : ObjectError}
    (h : (p.perform a).answer = .refused cause) : p.perform a = .refuse p cause := by
  cases a with
  | send message =>
    obtain ⟨cause', heq⟩ | ⟨-, -, heq⟩ := p.send_cases message
    · exact Reaction.refuse_of_answer heq h
    · rw [heq] at h
      cases h
  | receive =>
    obtain ⟨cause', heq⟩ | ⟨message, rest, -, -, heq⟩ := p.receive_cases
    · exact Reaction.refuse_of_answer heq h
    · rw [heq] at h
      cases h
  | close =>
    rw [perform] at h
    split at h <;> cases h

end Port

namespace Semaphore

variable (s : Semaphore) (n : Int32)

/-- What a count and a semaphore have to be like for the count to be released or acquired. -/
theorem refusal?_eq_none_iff (what : String) :
    s.refusal? what n = none ↔ 0 < n ∧ s.deleted = false := by
  rw [refusal?, ← Int32.not_le]
  split
  · next hn => exact iff_of_false (Option.some_ne_none _) fun h => h.1 hn
  · next hn =>
    rcases s.deleted with _ | _
    · exact iff_of_true rfl ⟨hn, rfl⟩
    · exact iff_of_false (Option.some_ne_none _) fun h => Bool.noConfusion h.2

/-- A release is refused, or adds to the count. -/
theorem release_cases :
    (∃ cause, s.perform (.release n) = .refuse s cause) ∨
    0 < n ∧ s.deleted = false ∧
      s.perform (.release n) = .announce { s with count := saturatingAdd s.count n } .done := by
  simp only [perform, release]
  rcases hrefusal : s.refusal? "release" n with _ | cause
  · obtain ⟨hn, hpresent⟩ := (s.refusal?_eq_none_iff n _).1 hrefusal
    exact .inr ⟨hn, hpresent, rfl⟩
  · exact .inl ⟨cause, rfl⟩

/-- An acquisition is refused, or takes from the count, which suffices. -/
theorem acquire_cases :
    (∃ cause, s.perform (.acquire n) = .refuse s cause) ∨
    0 < n ∧ s.deleted = false ∧ n ≤ s.count ∧
      s.perform (.acquire n) = .quiet { s with count := s.count - n } .done := by
  simp only [perform, acquire]
  rcases hrefusal : s.refusal? "acquire" n with _ | cause
  · obtain ⟨hn, hpresent⟩ := (s.refusal?_eq_none_iff n _).1 hrefusal
    by_cases hshort : s.count < n
    · rw [if_pos hshort]
      exact .inl ⟨_, rfl⟩
    · rw [if_neg hshort]
      exact .inr ⟨hn, hpresent, Int32.not_lt.1 hshort, rfl⟩
  · exact .inl ⟨cause, rfl⟩

theorem refused_perform {a : Action} {cause : ObjectError}
    (h : (s.perform a).answer = .refused cause) : s.perform a = .refuse s cause := by
  cases a with
  | release n =>
    obtain ⟨cause', heq⟩ | ⟨-, -, heq⟩ := s.release_cases n
    · exact Reaction.refuse_of_answer heq h
    · rw [heq] at h
      cases h
  | acquire n =>
    obtain ⟨cause', heq⟩ | ⟨-, -, -, heq⟩ := s.acquire_cases n
    · exact Reaction.refuse_of_answer heq h
    · rw [heq] at h
      cases h
  | delete =>
    rw [perform] at h
    split at h <;> cases h

end Semaphore

/-- An object that refuses an action stays as it is, and tells nobody. -/
theorem Object.refused_perform {o : Object} {a : Action} {r : Reaction Object}
    (h : o.perform a = some r) {cause : ObjectError} (hrefused : r.answer = .refused cause) :
    r = .refuse o cause := by
  cases o with
  | endpoint e =>
    cases a with
    | endpoint a =>
      cases h
      exact congrArg (Reaction.map endpoint) (e.refused_perform hrefused)
    | _ => cases h
  | semaphore s =>
    cases a with
    | semaphore a =>
      cases h
      exact congrArg (Reaction.map semaphore) (s.refused_perform hrefused)
    | _ => cases h
  | port p =>
    cases a with
    | port a =>
      cases h
      exact congrArg (Reaction.map port) (p.refused_perform hrefused)
    | _ => cases h
  | thread t =>
    cases a with
    | thread a =>
      cases h
      obtain ⟨status⟩ := a
      rw [Reaction.answer_map, Thread.perform] at hrefused
      split at hrefused <;> cases hrefused
    | _ => cases h

/-! ## Transcripts -/

namespace Entity

/-- An action and its answer; there is none to an action of another kind. -/
def exchange? (e : Entity) : Event → Option (Object.Action × ObjectAnswer)
  | .act a sessions => (e.act a sessions).2.2.map fun answer => (a, answer)
  | .enroll _ _ | .disenroll _ => none

/-- The actions in a history, each with its answer. -/
def transcript (e : Entity) : List Event → List (Object.Action × ObjectAnswer)
  | [] => []
  | event :: history => (e.exchange? event).toList ++ transcript (e.happen event) history

theorem transcript_concat (e : Entity) (history : List Event) (event : Event) :
    e.transcript (history ++ [event]) =
      e.transcript history ++ ((e.after history).exchange? event).toList := by
  induction history generalizing e with
  | nil => exact List.append_nil _
  | cons first history ih =>
    rw [List.cons_append, transcript, transcript, ih, List.append_assoc]
    rfl

theorem after_concat (e : Entity) (history : List Event) (event : Event) :
    e.after (history ++ [event]) = (e.after history).happen event :=
  List.foldl_append

/-- A thing done to an object is an answered action, or leaves the object alone. -/
theorem exchange?_cases (e : Entity) (event : Event) :
    (e.exchange? event = none ∧ (e.happen event).object = e.object) ∨
    ∃ a r, e.object.perform a = some r ∧ e.exchange? event = some (a, r.answer) ∧
      (e.happen event).object = r.object := by
  cases event with
  | act a sessions =>
    rw [exchange?, answer_act, happen]
    rcases h : e.object.perform a with _ | r
    · refine .inl ⟨rfl, ?_⟩
      rw [act, h]
    · exact .inr ⟨a, r, h, rfl, object_act h sessions⟩
  | enroll interest waker | disenroll token => exact .inl ⟨rfl, rfl⟩

/-- **What every answered action keeps holds after every history.** -/
theorem transcript_induction {motive : List (Object.Action × ObjectAnswer) → Object → Prop}
    (e : Entity) (start : motive [] e.object)
    (step : ∀ log o a r, motive log o → o.perform a = some r →
      motive (log ++ [(a, r.answer)]) r.object)
    (history : List Event) : motive (e.transcript history) (e.after history).object := by
  induction history using List.reverseRecOn with
  | nil => exact start
  | append_singleton history event ih =>
    rw [transcript_concat, after_concat]
    obtain ⟨hnone, hsame⟩ | ⟨a, r, hperform, hsome, hobject⟩ := (e.after history).exchange?_cases event
    · rw [hnone, hsame]
      rw [Option.toList_none, List.append_nil]
      exact ih
    · rw [hsome, hobject]
      exact step _ _ a r ih hperform

/-- An action that is refused changes nothing: not the object, nor who waits for it, nor any session. -/
theorem act_refused {e : Entity} {a : Object.Action} {t : SessionTable} {cause : ObjectError}
    (h : (e.act a t).2.2 = some (.refused cause)) : e.act a t = (e, t, some (.refused cause)) := by
  rw [answer_act, Option.map_eq_some_iff] at h
  obtain ⟨r, hperform, hrefused⟩ := h
  obtain rfl := Object.refused_perform hperform hrefused
  rw [act, hperform]
  rfl

end Entity

end KernelWait
