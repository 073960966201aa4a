import KernelWait.Proofs.Transcript

/-!
# Endpoints and ports as channels

Bytes go through an endpoint and messages through a port, and what goes in comes out in the same order.
What an object has accepted and given can be told from its transcript (`Object.accepted`,
`Object.given`), and what is in between is queued.

**Nothing is lost, doubled or reordered until the end of a channel**, which throws away what is queued
(`Entity.channels`).
-/

namespace KernelWait

/-- What goes through a channel. -/
inductive Parcel where
  /-- a byte -/
  | byte (b : UInt8)
  /-- a message -/
  | message (m : Message)
  deriving DecidableEq, Repr

namespace Object

/-- What an object holds between the one who gave it and the one who will take it. -/
def queued : Object → List Parcel
  | .endpoint e => e.buffer.map .byte
  | .port p => p.queue.map .message
  | .semaphore _ | .thread _ => []

/-- How much an object can hold. -/
def capacity : Object → Nat
  | .endpoint e => e.capacity
  | .port p => p.capacity
  | .semaphore _ | .thread _ => 0

/-- What was accepted by an action. Of a write these are as many bytes as the answer says. -/
def accepted : Action × ObjectAnswer → List Parcel
  | (.endpoint (.write bytes), .count n) => (bytes.take n).map .byte
  | (.port (.send message), .done) => [.message message]
  | _ => []

/-- What was given out with an answer. -/
def given : ObjectAnswer → List Parcel
  | .bytes bytes => bytes.map .byte
  | .message message => [.message message]
  | _ => []

/-- All that was accepted in a transcript. -/
def acceptedIn (log : List (Action × ObjectAnswer)) : List Parcel := log.flatMap accepted

/-- All that was given out in a transcript. -/
def givenIn (log : List (Action × ObjectAnswer)) : List Parcel := log.flatMap fun entry => given entry.2

theorem acceptedIn_concat (log : List (Action × ObjectAnswer)) (entry : Action × ObjectAnswer) :
    acceptedIn (log ++ [entry]) = acceptedIn log ++ accepted entry := by
  rw [acceptedIn, List.flatMap_append, List.flatMap_singleton]
  rfl

theorem givenIn_concat (log : List (Action × ObjectAnswer)) (entry : Action × ObjectAnswer) :
    givenIn (log ++ [entry]) = givenIn log ++ given entry.2 := by
  rw [givenIn, List.flatMap_append, List.flatMap_singleton]
  rfl

/-- What one action does to a channel. -/
structure Passes (o : Object) (a : Action) (r : Reaction Object) : Prop where
  /-- the capacity stays -/
  capacity : r.object.capacity = o.capacity
  /-- no more is queued than there is room for -/
  bounded : o.queued.length ≤ o.capacity → r.object.queued.length ≤ o.capacity
  /-- what was queued or is accepted is given out or queued -/
  conserved : r.object.isGone = false →
    o.queued ++ accepted (a, r.answer) = given r.answer ++ r.object.queued
  /-- an action that ends the object empties it -/
  emptied : (o.isGone = true → o.queued = []) → r.object.isGone = true → r.object.queued = []

/-- An action that moves nothing and leaves the channel as it was. -/
theorem Passes.still {o o' : Object} {a : Action} {answer : ObjectAnswer} {announces : Bool}
    (hqueued : o'.queued = o.queued) (hcapacity : o'.capacity = o.capacity)
    (hgone : o'.isGone = o.isGone) (haccepted : accepted (a, answer) = []) (hgiven : given answer = []) :
    Passes o a ⟨answer, o', announces⟩ where
  capacity := hcapacity
  bounded hle := hqueued ▸ hle
  conserved _ := by
    rw [haccepted, hgiven, hqueued, List.append_nil, List.nil_append]
  emptied hempty h := by
    rw [hqueued]
    exact hempty (hgone ▸ h)

theorem Passes.refuse (o : Object) (a : Action) (cause : ObjectError) :
    Passes o a (.refuse o cause) := by
  refine .still rfl rfl rfl ?_ rfl
  rcases a with ⟨_ | _ | _ | _ | _⟩ | _ | ⟨_ | _ | _⟩ | _ <;> rfl

/-- An action that empties the object and ends it. -/
theorem Passes.close {o : Object} {a : Action} {answer : ObjectAnswer} {o' : Object} {announces : Bool}
    (hqueued : o'.queued = []) (hcapacity : o'.capacity = o.capacity) (hgone : o'.isGone = true) :
    Passes o a ⟨answer, o', announces⟩ where
  capacity := hcapacity
  bounded _ := by
    rw [hqueued]
    exact Nat.zero_le _
  conserved hopen := by cases hgone.symm.trans hopen
  emptied _ _ := hqueued

theorem passes_endpoint (e : Endpoint) (a : Endpoint.Action) :
    Passes (.endpoint e) (.endpoint a) ((e.perform a).map .endpoint) := by
  cases a with
  | write bytes =>
    obtain ⟨cause, heq⟩ | ⟨hopen, heq⟩ := e.write_cases bytes
    · rw [heq]
      exact .refuse _ _ cause
    · rw [heq]
      refine ⟨rfl, ?_, ?_, ?_⟩
      · intro hle
        have hfits := List.length_take_le e.room bytes
        change (e.buffer.map Parcel.byte).length ≤ e.capacity at hle
        change ((e.buffer ++ bytes.take e.room).map Parcel.byte).length ≤ e.capacity
        rw [List.length_map] at hle
        rw [Endpoint.room] at hfits
        rw [List.length_map, List.length_append, Endpoint.room]
        omega
      · intro _
        have htaken : bytes.take (min e.room bytes.length) = bytes.take e.room := by
          rw [List.take_eq_take_iff]
          omega
        change e.buffer.map Parcel.byte ++ (bytes.take (min e.room bytes.length)).map Parcel.byte =
          (e.buffer ++ bytes.take e.room).map Parcel.byte
        rw [htaken, List.map_append]
      · intro _ hgone
        cases hopen.symm.trans hgone
  | read limit =>
    obtain ⟨cause, heq⟩ | ⟨hopen, hanswer, hobject⟩ := e.read_cases limit
    · rw [heq]
      exact .refuse _ _ cause
    · have hafter : ((e.perform (.read limit)).map endpoint).object =
          .endpoint { e with buffer := e.buffer.drop limit } := congrArg endpoint hobject
      refine ⟨?_, ?_, ?_, ?_⟩
      · rw [hafter]
        rfl
      · intro hle
        rw [hafter]
        change (e.buffer.map Parcel.byte).length ≤ e.capacity at hle
        change ((e.buffer.drop limit).map Parcel.byte).length ≤ e.capacity
        rw [List.length_map] at hle ⊢
        rw [List.length_drop]
        omega
      · intro _
        rw [hafter, Reaction.answer_map, hanswer]
        change e.buffer.map Parcel.byte ++ [] =
          (e.buffer.take limit).map Parcel.byte ++ (e.buffer.drop limit).map Parcel.byte
        rw [List.append_nil, ← List.map_append, List.take_append_drop]
      · intro _ hgone
        rw [hafter] at hgone
        cases hopen.symm.trans hgone
  | fail => exact .still rfl rfl rfl rfl rfl
  | hangUp =>
    rw [Endpoint.perform]
    split <;> exact .still rfl rfl rfl rfl rfl
  | close =>
    rw [Endpoint.perform]
    split
    · exact .still rfl rfl rfl rfl rfl
    · exact .close rfl rfl rfl

theorem passes_port (p : Port) (a : Port.Action) :
    Passes (.port p) (.port a) ((p.perform a).map .port) := by
  cases a with
  | send message =>
    obtain ⟨cause, heq⟩ | ⟨hopen, hroom, heq⟩ := p.send_cases message
    · rw [heq]
      exact .refuse _ _ cause
    · rw [heq]
      refine ⟨rfl, ?_, ?_, ?_⟩
      · intro _
        change ((p.queue ++ [message]).map Parcel.message).length ≤ p.capacity
        rw [List.length_map, List.length_append]
        exact hroom
      · intro _
        change p.queue.map Parcel.message ++ [Parcel.message message] =
          (p.queue ++ [message]).map Parcel.message
        rw [List.map_append]
        rfl
      · intro _ hgone
        cases hopen.symm.trans hgone
  | receive =>
    obtain ⟨cause, heq⟩ | ⟨message, rest, hopen, hqueue, heq⟩ := p.receive_cases
    · rw [heq]
      exact .refuse _ _ cause
    · rw [heq]
      refine ⟨rfl, ?_, ?_, ?_⟩
      · intro hle
        change (p.queue.map Parcel.message).length ≤ p.capacity at hle
        change (rest.map Parcel.message).length ≤ p.capacity
        rw [List.length_map] at hle ⊢
        rw [hqueue] at hle
        exact Nat.le_of_succ_le hle
      · intro _
        change p.queue.map Parcel.message ++ [] = Parcel.message message :: rest.map Parcel.message
        rw [hqueue, List.append_nil, List.map_cons]
      · intro _ hgone
        cases hopen.symm.trans hgone
  | close =>
    rw [Port.perform]
    split
    · exact .still rfl rfl rfl rfl rfl
    · exact .close rfl rfl rfl

/-- Nothing goes through a semaphore or a thread. -/
theorem Passes.empty {o o' : Object} {a : Action} {answer : ObjectAnswer} {announces : Bool}
    (hbefore : o.queued = []) (hafter : o'.queued = []) (hcapacity : o'.capacity = o.capacity)
    (haccepted : accepted (a, answer) = []) (hgiven : given answer = []) :
    Passes o a ⟨answer, o', announces⟩ where
  capacity := hcapacity
  bounded _ := by
    rw [hafter]
    exact Nat.zero_le _
  conserved _ := by
    rw [haccepted, hgiven, hbefore, hafter]
  emptied _ _ := hafter

theorem given_semaphore (s : Semaphore) (a : Semaphore.Action) : given (s.perform a).answer = [] := by
  cases a with
  | release n =>
    obtain ⟨cause, heq⟩ | ⟨-, -, heq⟩ := s.release_cases n <;> rw [heq] <;> rfl
  | acquire n =>
    obtain ⟨cause, heq⟩ | ⟨-, -, -, heq⟩ := s.acquire_cases n <;> rw [heq] <;> rfl
  | delete =>
    rw [Semaphore.perform]
    split <;> rfl

theorem given_thread (t : Thread) (a : Thread.Action) : given (t.perform a).answer = [] := by
  obtain ⟨status⟩ := a
  rw [Thread.perform]
  split <;> rfl

/-- **What is accepted is given out in the same order**, by any action on any object. -/
theorem passes_perform {o : Object} {a : Action} {r : Reaction Object} (h : o.perform a = some r) :
    Passes o a r := by
  cases o with
  | endpoint e =>
    cases a with
    | endpoint a =>
      cases h
      exact passes_endpoint e a
    | _ => cases h
  | port p =>
    cases a with
    | port a =>
      cases h
      exact passes_port p a
    | _ => cases h
  | semaphore s =>
    cases a with
    | semaphore a =>
      cases h
      exact .empty rfl rfl rfl rfl (given_semaphore s a)
    | _ => cases h
  | thread t =>
    cases a with
    | thread a =>
      cases h
      exact .empty rfl rfl rfl rfl (given_thread t a)
    | _ => cases h

/-- Nothing goes into or comes out of an object that is gone. -/
theorem nothing_of_gone {o : Object} {a : Action} {r : Reaction Object} (h : o.perform a = some r)
    (hgone : o.isGone = true) : accepted (a, r.answer) = [] ∧ given r.answer = [] := by
  cases o with
  | endpoint e =>
    cases a with
    | endpoint a =>
      cases h
      rw [Reaction.answer_map]
      cases a with
      | write bytes =>
        rw [(Endpoint.answer_of_closed hgone bytes 0).1]
        exact ⟨rfl, rfl⟩
      | read limit =>
        rw [(Endpoint.answer_of_closed hgone [] limit).2]
        exact ⟨rfl, rfl⟩
      | fail => exact ⟨rfl, rfl⟩
      | hangUp | close =>
        rw [Endpoint.perform]
        split <;> exact ⟨rfl, rfl⟩
    | _ => cases h
  | port p =>
    cases a with
    | port a =>
      cases h
      rw [Reaction.answer_map]
      cases a with
      | send message =>
        rw [(Port.answer_of_closed hgone message).1]
        exact ⟨rfl, rfl⟩
      | receive =>
        rw [(Port.answer_of_closed hgone ⟨0, []⟩).2]
        exact ⟨rfl, rfl⟩
      | close =>
        rw [Port.perform]
        split <;> exact ⟨rfl, rfl⟩
    | _ => cases h
  | semaphore s =>
    cases a with
    | semaphore a =>
      cases h
      exact ⟨rfl, given_semaphore s a⟩
    | _ => cases h
  | thread t =>
    cases a with
    | thread a =>
      cases h
      exact ⟨rfl, given_thread t a⟩
    | _ => cases h

/-- What a channel has come to after a transcript. -/
structure Carries (capacity : Nat) (log : List (Action × ObjectAnswer)) (o : Object) : Prop where
  /-- the capacity is as at first -/
  fixed : o.capacity = capacity
  /-- no more is queued than there is room for -/
  bounded : o.queued.length ≤ capacity
  /-- what was accepted was given out or is queued -/
  conserved : o.isGone = false → acceptedIn log = givenIn log ++ o.queued
  /-- nothing is queued once the channel is gone -/
  emptied : o.isGone = true → o.queued = []

theorem Carries.step {capacity : Nat} {log : List (Action × ObjectAnswer)} {o : Object}
    (h : Carries capacity log o) {a : Action} {r : Reaction Object} (hperform : o.perform a = some r) :
    Carries capacity (log ++ [(a, r.answer)]) r.object := by
  have hpasses := passes_perform hperform
  refine ⟨hpasses.capacity.trans h.fixed, ?_, ?_, hpasses.emptied h.emptied⟩
  · have hbounded := hpasses.bounded
    rw [h.fixed] at hbounded
    exact hbounded h.bounded
  · intro hopen
    have hbefore : o.isGone = false := by
      rw [← Bool.not_eq_true] at hopen ⊢
      intro hgone
      exact hopen ((isGone_perform_iff hperform).2 (.inl hgone))
    calc acceptedIn (log ++ [(a, r.answer)])
        = givenIn log ++ (o.queued ++ accepted (a, r.answer)) := by
          rw [acceptedIn_concat, h.conserved hbefore, List.append_assoc]
      _ = givenIn (log ++ [(a, r.answer)]) ++ r.object.queued := by
          rw [hpasses.conserved hopen, givenIn_concat, List.append_assoc]

end Object

namespace Entity

open Object

/-- What holds of a channel after a history, that was new and empty before. -/
structure Channelled (capacity : Nat) (e₀ : Entity) (history : List Event) (e : Entity) : Prop where
  /-- the channel is gone once something has closed it -/
  closed : e.object.isGone = true ↔ ∃ event ∈ history, event.ends e₀.kind = true
  /-- what was accepted was given out, in the same order, or is queued -/
  conserved : e.object.isGone = false →
    acceptedIn (e₀.transcript history) = givenIn (e₀.transcript history) ++ e.object.queued
  /-- the capacity is as at first -/
  fixed : e.object.capacity = capacity
  /-- no more is queued than there is room for -/
  bounded : e.object.queued.length ≤ capacity
  /-- a write that is not refused takes the bytes that there is room for -/
  written : ∀ bytes n t, (e.act (.endpoint (.write bytes)) t).2.2 = some (.count n) →
    n = min (capacity - e.object.queued.length) bytes.length
  /-- a read that is not refused gives as many bytes as asked for and there -/
  taken : ∀ limit bytes t, (e.act (.endpoint (.read limit)) t).2.2 = some (.bytes bytes) →
    bytes.length = min limit e.object.queued.length
  /-- what is refused changes nothing -/
  refused : ∀ a t cause, (e.act a t).2.2 = some (.refused cause) →
    e.act a t = (e, t, some (.refused cause))
  /-- closing throws away what is queued -/
  emptied : ∀ a t, a.kind = e.kind → a.ends = true →
    (e.act a t).1.object.isGone = true ∧ (e.act a t).1.object.queued = []
  /-- nothing is accepted or given out from then on -/
  silent : e.object.isGone = true → ∀ later,
    acceptedIn (e.transcript later) = [] ∧ givenIn (e.transcript later) = [] ∧
      (e.after later).object.queued = []
  /-- whatever would do so is refused -/
  deaf : e.object.isGone = true → ∀ a t, a.kind = e.kind → a.needsLife = true →
    (e.act a t).2.2 = some (.refused .closed)

theorem written_of_act {e : Entity} {bytes : List UInt8} {n : Nat} {t : SessionTable}
    (h : (e.act (.endpoint (.write bytes)) t).2.2 = some (.count n)) :
    n = min (e.object.capacity - e.object.queued.length) bytes.length := by
  rw [answer_act] at h
  obtain ⟨id, ⟨e⟩ | ⟨s⟩ | ⟨p⟩ | ⟨th⟩, queue⟩ := e
  case endpoint =>
    have hanswer := Option.some.inj h
    obtain ⟨cause, heq⟩ | ⟨-, heq⟩ := e.write_cases bytes
    · rw [Reaction.answer_map, heq] at hanswer
      cases hanswer
    · rw [Reaction.answer_map, heq] at hanswer
      rw [← ObjectAnswer.count.inj hanswer, queued, List.length_map]
      rfl
  all_goals cases h

theorem taken_of_act {e : Entity} {limit : Nat} {bytes : List UInt8} {t : SessionTable}
    (h : (e.act (.endpoint (.read limit)) t).2.2 = some (.bytes bytes)) :
    bytes.length = min limit e.object.queued.length := by
  rw [answer_act] at h
  obtain ⟨id, ⟨e⟩ | ⟨s⟩ | ⟨p⟩ | ⟨th⟩, queue⟩ := e
  case endpoint =>
    have hanswer := Option.some.inj h
    obtain ⟨cause, heq⟩ | ⟨-, hbytes, -⟩ := e.read_cases limit
    · rw [Reaction.answer_map, heq] at hanswer
      cases hanswer
    · rw [Reaction.answer_map, hbytes] at hanswer
      rw [← ObjectAnswer.bytes.inj hanswer, List.length_take, queued, List.length_map]
  all_goals cases h

/-- Nothing goes through an object that is gone, whatever is done to it. -/
theorem silent_of_gone {e : Entity} (hgone : e.object.isGone = true) (hempty : e.object.queued = [])
    (later : List Event) :
    acceptedIn (e.transcript later) = [] ∧ givenIn (e.transcript later) = [] ∧
      (e.after later).object.queued = [] := by
  have h := transcript_induction
    (motive := fun log o => o.isGone = true ∧ o.queued = [] ∧ acceptedIn log = [] ∧ givenIn log = [])
    e ⟨hgone, hempty, rfl, rfl⟩ ?_ later
  · exact ⟨h.2.2.1, h.2.2.2, h.2.1⟩
  · rintro log o a r ⟨hgone, hempty, haccepted, hgiven⟩ hperform
    have hstays := (isGone_perform_iff hperform).2 (.inl hgone)
    obtain ⟨hin, hout⟩ := nothing_of_gone hperform hgone
    refine ⟨hstays, (passes_perform hperform).emptied (fun _ => hempty) hstays, ?_, ?_⟩
    · rw [acceptedIn_concat, haccepted, hin, List.append_nil]
    · rw [givenIn_concat, hgiven, hout, List.append_nil]

/-- What is new and empty is a channel. -/
theorem channelled {e₀ : Entity} (hopen : e₀.object.isGone = false) (hempty : e₀.object.queued = [])
    (history : List Event) : Channelled e₀.object.capacity e₀ history (e₀.after history) := by
  have hstart : Carries e₀.object.capacity [] e₀.object := by
    refine ⟨rfl, ?_, fun _ => hempty.symm, fun _ => hempty⟩
    rw [hempty]
    exact Nat.zero_le _
  have hcarries : Carries e₀.object.capacity (e₀.transcript history) (e₀.after history).object :=
    transcript_induction e₀ hstart (fun _ _ _ _ h => h.step) history
  have hcapacity := hcarries.fixed
  refine ⟨?_, hcarries.conserved, hcapacity, hcarries.bounded, ?_, ?_, ?_, ?_, ?_, ?_⟩
  · rw [isGone_after_iff, hopen]
    exact or_iff_right Bool.false_ne_true
  · intro bytes n t h
    rw [← hcapacity]
    exact written_of_act h
  · intro limit bytes t
    exact taken_of_act
  · intro a t cause
    exact act_refused
  · intro a t hkind hends
    obtain ⟨r, hperform⟩ := perform_of_kind hkind
    have hgone := (isGone_perform_iff hperform).2 (.inr hends)
    rw [object_act hperform]
    exact ⟨hgone, (passes_perform hperform).emptied hcarries.emptied hgone⟩
  · intro hgone
    exact silent_of_gone hgone (hcarries.emptied hgone)
  · intro hgone a t hkind hneeds
    obtain ⟨r, hperform⟩ := perform_of_kind hkind
    rw [answer_act, hperform]
    exact congrArg some (answer_of_gone hperform hgone hneeds)

/-- **Endpoints and ports are bounded channels** of every capacity, whatever is done to them. They have
room for one byte or message at least. -/
theorem channels (capacity : Nat) (id : ObjectId) (history : List Event) :
    let endpoint : Entity := { id := id, object := .ofBlueprint (.endpoint capacity) }
    let port : Entity := { id := id, object := .ofBlueprint (.port capacity) }
    Channelled (max capacity 1) endpoint history (endpoint.after history) ∧
      Channelled (max capacity 1) port history (port.after history) := by
  intro endpoint port
  have hendpoint : endpoint.object.isGone = false := rfl
  have hport : port.object.isGone = false := rfl
  exact ⟨channelled hendpoint rfl history, channelled hport rfl history⟩

-- a write takes the bytes that there is room for, and a read gets the first of them
example :
    transcript { id := 1, object := .ofBlueprint (.endpoint 2) }
        [.act (.endpoint (.write [7, 8, 9])) {}, .act (.endpoint (.read 1)) {}] =
      [(.endpoint (.write [7, 8, 9]), .count 2), (.endpoint (.read 1), .bytes [7])] := by
  decide

end Entity

end KernelWait
