import KernelWait.Proofs.Marks
import KernelWait.Proofs.Rejection

/-!
# The raw form of a wait

A raw call leaves the entries of unknown kind aside, makes the typed call over the others, and writes what
it gets back to the entries. Which watch of the typed reply belongs to an entry is told by the number of
entries of known kind before it (`RawEntry.own?`).

**A raw call is the typed call over its known entries**, step by step and with the same effect on the
kernel, and every entry gets the result of its own watch (`RawRequest.simulates_typed`).
-/

namespace KernelWait

/-! ## Calls do not look at counters -/

/-- What is counted first does not matter. -/
theorem Statistics.record_comm (s : Statistics) (tally other : Tally) :
    (s.record tally).record other = (s.record other).record tally := by
  cases tally <;> cases other <;> rfl

theorem Statistics.record_recordMany (s : Statistics) (tally other : Tally) (n : Nat) :
    (s.recordMany tally n).record other = (s.record other).recordMany tally n := by
  induction n generalizing s with
  | zero => rfl
  | succ n ih => rw [recordMany, ih, record_comm, recordMany]

namespace System

/-- The system with one thing more counted, so many times. -/
def tallied (s : System) (tally : Tally) (n : Nat) : System :=
  { s with stats := s.stats.recordMany tally n }

variable (s : System) (tally : Tally) (n : Nat)

theorem record_tallied (other : Tally) :
    (s.tallied tally n).record other = (s.record other).tallied tally n := by
  simp only [record, tallied, Statistics.record_recordMany]

end System

namespace Call

variable (s : System) (tally : Tally) (n : Nat) (c : Call)

theorem resolve_tallied :
    c.resolve (s.tallied tally n) = ((c.resolve s).1.tallied tally n, (c.resolve s).2) := by
  obtain ⟨thread, interruptible, singleShot, poll, session, passed, ahead, immediate, stage⟩ := c
  cases ahead with
  | nil =>
    simp only [resolve, System.record_tallied]
    split
    · rfl
    · split <;> rfl
  | cons slot rest =>
    simp only [resolve, System.record_tallied]
    have hkernel : (s.tallied tally n).kernel = s.kernel := rfl
    rw [hkernel]
    rcases s.kernel.registry.lookup? slot.watch.reset.kind slot.watch.reset.id <;> rfl

theorem pollNext_tallied :
    c.pollNext (s.tallied tally n) = ((c.pollNext s).1.tallied tally n, (c.pollNext s).2) := by
  obtain ⟨thread, interruptible, singleShot, poll, session, passed, ahead, immediate, stage⟩ := c
  cases ahead with
  | nil =>
    simp only [pollNext, conclude, System.record_tallied]
    split
    · rfl
    · split <;> rfl
  | cons slot rest =>
    rcases htarget : slot.target with _ | target <;> simp only [pollNext, htarget]
    have hkernel : (s.tallied tally n).kernel = s.kernel := rfl
    rw [hkernel]
    split
    · rfl
    · split
      · rfl
      · split <;> rfl

theorem enrollNext_tallied :
    c.enrollNext (s.tallied tally n) = ((c.enrollNext s).1.tallied tally n, (c.enrollNext s).2) := by
  obtain ⟨thread, interruptible, singleShot, poll, session, passed, ahead, immediate, stage⟩ := c
  cases ahead with
  | nil => rfl
  | cons slot rest =>
    rcases htarget : slot.target with _ | target <;> simp only [enrollNext, htarget]
    have hkernel : (s.tallied tally n).kernel = s.kernel := rfl
    rw [hkernel]
    rcases session.enroll s.kernel passed.length target slot.watch.reportable with
      cause | ⟨kernel, joined, enrollment⟩
    · rfl
    · rcases enrollment with _ | _ | _ <;> rfl

/-- **A step does the same whatever was counted before.** -/
theorem step_tallied :
    c.step (s.tallied tally n) = ((c.step s).1.tallied tally n, (c.step s).2) := by
  rw [step, step]
  rcases c.stage with _ | _ | _ | _ | _ | b | _ | answer
  · exact c.resolve_tallied s tally n
  · rfl
  · rfl
  · exact c.pollNext_tallied s tally n
  · exact c.enrollNext_tallied s tally n
  · cases b <;> rfl
  · have hkernel : (s.tallied tally n).kernel = s.kernel := rfl
    simp only [drain_eq, hkernel]
    exact congrArg (Prod.mk · _)
      (System.record_tallied { s with kernel := (c.session.drain s.kernel).1 } tally n _)
  · rfl

end Call

namespace System

variable (s : System) (tally : Tally) (n : Nat)

theorem begin_tallied (r : Request) :
    (s.tallied tally n).begin r = ((s.begin r).1.tallied tally n, (s.begin r).2) := by
  have hrefusal : (s.tallied tally n).refusal? r = s.refusal? r := rfl
  have hkernel : (s.tallied tally n).kernel = s.kernel := rfl
  simp only [System.begin, hrefusal, hkernel, record_tallied]
  rcases s.refusal? r with _ | cause
  · simp only
    rcases Session.new (s.kernel.arm r.timeout).1 r.watches.length (s.kernel.arm r.timeout).2 with
      cause | ⟨_, _⟩
    · rfl
    · rfl
  · rfl

theorem enter_tallied (thread : ThreadId) (watches : List Watch) (flags : Flags) (value : Int64) :
    (s.tallied tally n).enter thread watches flags value =
      ((s.enter thread watches flags value).1.tallied tally n,
        (s.enter thread watches flags value).2) := by
  simp only [System.enter]
  rcases Request.ofFlags thread watches flags value with cause | r
  · rfl
  · exact s.begin_tallied tally n r

theorem turn_tallied (p : Progress) (t : Turn Operation) :
    turn (s.tallied tally n, p) t = ((turn (s, p) t).1.tallied tally n, (turn (s, p) t).2) := by
  rcases p with c | reply
  · cases t with
    | other op => rfl
    | own => exact c.step_tallied s tally n
  · cases t <;> rfl

theorem play_tallied (p : Progress) (schedule : List (Turn Operation)) :
    play (s.tallied tally n, p) schedule =
      ((play (s, p) schedule).1.tallied tally n, (play (s, p) schedule).2) := by
  induction schedule using List.reverseRecOn with
  | nil => rfl
  | append_singleton schedule t ih => rw [play_concat, ih, turn_tallied, ← play_concat]

end System

/-! ## The watch of an entry -/

namespace RawEntry

/-- The watch that belongs to the entry at a place: as many watches come before it as there are entries
of known kind before the entry. -/
def own? (entries : List RawEntry) (watches : List Watch) (i : Nat) : Option Watch :=
  (entries[i]?).bind fun e =>
    e.known?.bind fun _ => watches[((entries.take i).filterMap known?).length]?

variable {e : RawEntry} {entries : List RawEntry} {w : Watch} {watches : List Watch}

theorem own?_zero : own? (e :: entries) watches 0 = e.known?.bind fun _ => watches[0]? := rfl

/-- An entry of unknown kind takes no watch. -/
theorem own?_succ_of_none (h : e.known? = none) (i : Nat) :
    own? (e :: entries) watches (i + 1) = own? entries watches i := by
  simp only [own?, List.getElem?_cons_succ, List.take_succ_cons, List.filterMap_cons, h]

/-- An entry of known kind takes one. -/
theorem own?_succ_of_some (h : e.known? = some w) (first : Watch) (i : Nat) :
    own? (e :: entries) (first :: watches) (i + 1) = own? entries watches i := by
  simp only [own?, List.getElem?_cons_succ, List.take_succ_cons, List.filterMap_cons, h,
    List.length_cons]

/-- The watch of an entry is read off the watches that the entries stand for. -/
theorem getElem?_known {i : Nat} (he : entries[i]? = some e) (hw : e.known? = some w) :
    (entries.filterMap known?)[((entries.take i).filterMap known?).length]? = some w := by
  induction entries generalizing i with
  | nil => cases he
  | cons first entries ih =>
    cases i with
    | zero =>
      obtain rfl := Option.some.inj he
      rw [List.filterMap_cons_some hw]
      rfl
    | succ i =>
      rw [List.getElem?_cons_succ] at he
      rw [List.take_succ_cons]
      rcases hfirst : first.known? with _ | w₁
      · rw [List.filterMap_cons_none hfirst, List.filterMap_cons_none hfirst]
        exact ih he
      · rw [List.filterMap_cons_some hfirst, List.filterMap_cons_some hfirst, List.length_cons,
          List.getElem?_cons_succ]
        exact ih he

/-- The entry once it is written back. -/
def settledBy (e : RawEntry) : Option Watch → RawEntry
  | none => e.markInvalid
  | some w => e.store w

/-- **Writing back gives every entry the result of its own watch**, and marks those that have none. -/
theorem getElem?_writeBack (hlength : watches.length = (entries.filterMap known?).length) (i : Nat) :
    (writeBack entries (entries.map known?) watches)[i]? =
      (entries[i]?).map fun e => e.settledBy (own? entries watches i) := by
  induction entries generalizing watches i with
  | nil => rfl
  | cons e entries ih =>
    rcases he : e.known? with _ | w
    · rw [List.filterMap_cons_none he] at hlength
      rw [List.map_cons, he, writeBack]
      cases i with
      | zero =>
        rw [own?_zero, he]
        rfl
      | succ i =>
        rw [List.getElem?_cons_succ, List.getElem?_cons_succ, own?_succ_of_none he]
        exact ih hlength i
    · rw [List.filterMap_cons_some he, List.length_cons] at hlength
      obtain ⟨first, rest, rfl⟩ := List.exists_cons_of_length_eq_add_one hlength
      rw [List.map_cons, he, writeBack]
      cases i with
      | zero =>
        rw [own?_zero, he]
        rfl
      | succ i =>
        rw [List.getElem?_cons_succ, List.getElem?_cons_succ, own?_succ_of_some he]
        exact ih (Nat.succ.inj hlength) i

/-- Every watch belongs to one entry, so that counting over the entries counts the watches. -/
theorem countP_own? (hlength : watches.length = (entries.filterMap known?).length)
    (p : Watch → Bool) :
    (List.range entries.length).countP (fun i => (own? entries watches i).any p) =
      watches.countP p := by
  induction entries generalizing watches with
  | nil =>
    rw [List.eq_nil_of_length_eq_zero hlength]
    rfl
  | cons e entries ih =>
    rw [List.length_cons, List.range_succ_eq_map, List.countP_cons, List.countP_map]
    rcases he : e.known? with _ | w
    · rw [List.filterMap_cons_none he] at hlength
      have hlater : (fun i => (own? (e :: entries) watches i).any p) ∘ Nat.succ =
          fun i => (own? entries watches i).any p :=
        funext fun i => congrArg (Option.any p) (own?_succ_of_none he i)
      rw [hlater, ih hlength, own?_zero, he]
      rfl
    · rw [List.filterMap_cons_some he, List.length_cons] at hlength
      obtain ⟨first, rest, rfl⟩ := List.exists_cons_of_length_eq_add_one hlength
      have hlater : (fun i => (own? (e :: entries) (first :: rest) i).any p) ∘ Nat.succ =
          fun i => (own? entries rest i).any p :=
        funext fun i => congrArg (Option.any p) (own?_succ_of_some he first i)
      rw [hlater, ih (Nat.succ.inj hlength), List.countP_cons, own?_zero, he]
      rfl

/-- Writing back touches no more than there are entries. -/
theorem writeBack_eq (hlength : watches.length = (entries.filterMap known?).length) :
    writeBack entries (entries.map known?) watches =
      entries.mapIdx fun i e => e.settledBy (own? entries watches i) := by
  refine List.ext_getElem? fun i => ?_
  rw [getElem?_writeBack hlength, List.getElem?_mapIdx]

/-- Without any watch every entry is marked. -/
theorem writeBack_nil (entries : List RawEntry) :
    writeBack entries (entries.map known?) [] = entries.map markInvalid := by
  induction entries with
  | nil => rfl
  | cons e entries ih =>
    rw [List.map_cons, List.map_cons, ← ih]
    rcases e.known? with _ | w <;> rfl

theorem mem_of_own? {i : Nat} (h : own? entries watches i = some w) : w ∈ watches := by
  rw [own?, Option.bind_eq_some_iff] at h
  obtain ⟨e, -, hown⟩ := h
  rw [Option.bind_eq_some_iff] at hown
  obtain ⟨_, -, hget⟩ := hown
  exact List.mem_of_getElem? hget

/-- A watch that was read from an entry holds nothing yet. -/
theorem reset_of_known? (h : e.known? = some w) : w.reset = w := by
  rw [known?] at h
  split at h
  · cases h
  · obtain rfl := Option.some.inj h
    rfl

end RawEntry

/-! ## Replies in both forms -/

/-- Only what is ready is told by a positive number. -/
theorem ready_of_returnCode_pos {answer : Except WaitError Outcome} (h : 0 < returnCode answer) :
    ∃ m : Nat, answer = .ok (.ready m) ∧ returnCode answer = m := by
  rcases answer with cause | m | _
  · cases cause <;> simp [returnCode, WaitError.errno] at h
  · exact ⟨m, rfl, rfl⟩
  · cases h

theorem hopeless_of_returnCode {answer : Except WaitError Outcome} (h : returnCode answer = -9) :
    ∃ m, answer = .error (.noValidTargets m) := by
  rcases answer with cause | outcome
  · cases cause with
    | noValidTargets m => exact ⟨m, rfl⟩
    | invalidArgument | interrupted | resourceExhausted =>
      simp [returnCode, WaitError.errno] at h
  · have hcount : (outcome.readyCount : Int) = -9 := h
    omega

/-- What a raw reply says of its entries, beside the reply to the typed call over those of known kind. -/
structure RawReply.Renders (r : RawRequest) (reply : Reply) (raw : RawReply) : Prop where
  /-- the number stands for the answer -/
  code : raw.code =
    match reply.answer with
    | .ok (.ready n) => (n : Int)
    | .ok .timedOut => 0
    | .error .interrupted => -4
    | .error (.noValidTargets _) => -9
    | .error (.resourceExhausted _) => -12
    | .error (.invalidArgument _) => -22
  /-- there are as many entries -/
  length : raw.entries.length = r.entries.length
  /-- an entry of unknown kind is marked, and names what it named before -/
  unknown : ∀ (i : Nat) (e : RawEntry), r.entries[i]? = some e → e.known? = none →
    raw.entries[i]? = some { e with events := Events.invalid.bits }
  /-- any other entry is marked if its own watch is, and otherwise gets the events of that watch -/
  own : ∀ (i : Nat) (e : RawEntry) (w : Watch), r.entries[i]? = some e → e.known? = some w →
    ∃ w', RawEntry.own? r.entries reply.watches i = some w' ∧ w'.reset = w ∧
      raw.entries[i]? = some { e with
        events := if w'.status = .invalidObject then Events.invalid.bits else w'.result.bits }
  /-- a positive number counts the entries with an object for which something fired -/
  counted : 0 < raw.code → raw.code = (List.range r.entries.length).countP fun i =>
    (RawEntry.own? r.entries reply.watches i).any (·.status != .invalidObject) &&
      (raw.entries[i]?).any (·.events != 0)
  /-- if there was nothing to wait for, every entry is marked -/
  hopeless : raw.code = -9 → ∀ e ∈ raw.entries, e.events = Events.invalid.bits

namespace RawReply

variable {r : RawRequest} {request : Request} {reply : Reply}

/-- Writing a marked reply back renders it. -/
theorem renders_of (hwatches : request.watches = r.known) (h : reply.Marked request) :
    Renders r reply (.of r.entries (r.entries.map RawEntry.known?) reply) := by
  have hsame := h.same
  rw [hwatches] at hsame
  have hlength : reply.watches.length = (r.entries.filterMap RawEntry.known?).length := by
    have hmapped := congrArg List.length hsame
    rwa [List.length_map, List.length_map] at hmapped
  have hwritten := RawEntry.getElem?_writeBack hlength
  have hlengths := congrArg List.length (RawEntry.writeBack_eq hlength)
  rw [List.length_mapIdx] at hlengths
  refine ⟨?_, hlengths, fun i e he hunknown => ?_, fun i e w he hw => ?_, fun hpos => ?_,
    fun hcode e he => ?_⟩
  · rcases hanswer : reply.answer with (_ | _ | _ | _) | (_ | _) <;>
      simp only [RawReply.of, hanswer] <;> rfl
  · simp only [RawReply.of]
    rw [hwritten, he, Option.map_some, RawEntry.own?, he, Option.bind_some, hunknown]
    rfl
  · -- the watch at the place of the entry is the one that was asked for there
    have hasked := congrArg (·[((r.entries.take i).filterMap RawEntry.known?).length]?) hsame
    simp only [List.getElem?_map, RawRequest.known, RawEntry.getElem?_known he hw, Option.map_some,
      RawEntry.reset_of_known? hw] at hasked
    obtain ⟨w', hw', hreset⟩ := Option.map_eq_some_iff.1 hasked
    have hown : RawEntry.own? r.entries reply.watches i = some w' := by
      rw [RawEntry.own?, he, Option.bind_some, hw, Option.bind_some, hw']
    refine ⟨w', hown, hreset, ?_⟩
    simp only [RawReply.of]
    rw [hwritten, he, Option.map_some, hown, RawEntry.settledBy, RawEntry.store]
    split <;> rfl
  · obtain ⟨m, hanswer, hcode⟩ := ready_of_returnCode_pos hpos
    rw [show (RawReply.of r.entries (r.entries.map RawEntry.known?) reply).code = m from hcode,
      ← h.counted m hanswer, ← RawEntry.countP_own? hlength]
    refine congrArg Nat.cast (List.countP_congr fun i hi => ?_)
    have he := List.getElem?_eq_getElem (List.mem_range.1 hi)
    simp only [RawReply.of]
    rw [hwritten, he, Option.map_some]
    rcases hown : RawEntry.own? r.entries reply.watches i with _ | w
    · exact Iff.rfl
    · by_cases hinvalid : w.status = .invalidObject
      · -- a marked watch reports nothing, so neither side counts it
        have hempty := h.absent w (RawEntry.mem_of_own? hown) hinvalid
        simp [Watch.isReady, hinvalid, hempty]
      · simp [Watch.isReady, RawEntry.settledBy, RawEntry.store, hinvalid, Events.eq_empty_iff]
  · obtain ⟨m, hanswer⟩ := hopeless_of_returnCode hcode
    obtain ⟨i, hi⟩ := List.getElem?_of_mem he
    simp only [RawReply.of] at hi
    rw [hwritten, Option.map_eq_some_iff] at hi
    obtain ⟨old, -, rfl⟩ := hi
    rcases hown : RawEntry.own? r.entries reply.watches i with _ | w
    · rfl
    · have hinvalid := h.hopeless m hanswer w (RawEntry.mem_of_own? hown)
      rw [RawEntry.settledBy, RawEntry.store, if_pos hinvalid]
      rfl

end RawReply

/-- Where a raw wait is, beside the typed wait over its entries of known kind. -/
inductive RawRequest.Follows (r : RawRequest) : Wait → Wait → Prop where
  /-- both are at the same point -/
  | running (c : Call) (decoded : List (Option Watch)) :
    Follows r (.typed (.running c)) (.raw (.running ⟨r.entries, decoded, c⟩))
  /-- both are over, and the raw reply renders the typed one -/
  | returned {reply : Reply} {raw : RawReply} (h : raw.Renders r reply) :
    Follows r (.typed (.returned reply)) (.raw (.returned raw))

namespace RawRequest

variable {s : System} {r : RawRequest}

theorem reset_of_mem_known {w : Watch} (h : w ∈ r.known) : w.reset = w := by
  obtain ⟨e, -, he⟩ := List.mem_filterMap.1 h
  exact RawEntry.reset_of_known? he

/-- A call for which there is no room has written nothing, so its reply is marked, too. -/
theorem marked_of_begin {request : Request} {reply : Reply} (hwatches : request.watches = r.known)
    (hvalid : ¬(Invocation.multiplexer request).Invalid s.config)
    (h : (s.begin request).2 = .returned reply) : reply.Marked request := by
  obtain ⟨hsame, ⟨hinvalid, -⟩ | ⟨-, text, hanswer⟩⟩ := System.returned_of_begin h
  · exact absurd hinvalid hvalid
  refine ⟨by rw [hsame], fun w hw hinvalid => ?_, fun m hready => ?_, fun m hhopeless => ?_⟩
  · rw [hsame, hwatches] at hw
    rw [← reset_of_mem_known hw]
    rfl
  · cases hanswer.symm.trans hready
  · cases hanswer.symm.trans hhopeless

/-- **A raw call is the typed call over its entries of known kind**, at every moment and with the same
effect, but that the other entries are counted as invalid; without an entry of known kind it is over at
once, as a call with nothing to wait for. -/
theorem simulates_typed (hvalid : ¬(Invocation.raw r).Invalid s.config)
    (schedule : List (Turn Operation)) :
    (r.known = [] → ∃ raw : RawReply,
      (Invocation.raw r).begin s =
        (((s.tallied .invalidEntries r.entries.length).record .calls).record .noValidTargets,
          .raw (.returned raw)) ∧
      raw.Renders r ⟨.error (.noValidTargets r.entries.length), []⟩) ∧
    (r.known ≠ [] →
      let typed := Invocation.typed r.thread r.known ⟨r.flags⟩ r.timeout
      (Wait.play ((Invocation.raw r).begin s) schedule).1 =
        (Wait.play (typed.begin s) schedule).1.tallied .invalidEntries
          (r.entries.length - r.known.length) ∧
      r.Follows (Wait.play (typed.begin s) schedule).2
        (Wait.play ((Invocation.raw r).begin s) schedule).2) := by
  obtain ⟨hinvalid, -⟩ | ⟨-, hnone, henter⟩ | ⟨-, hsome, htyped, henter⟩ := s.enterRaw_cases r
  · exact absurd hinvalid hvalid
  · refine ⟨fun _ => ?_, fun hsome => absurd hnone hsome⟩
    have hmarked : Reply.Marked { thread := r.thread, watches := r.known, flags := ∅, timeout := .poll }
        ⟨.error (.noValidTargets r.entries.length), []⟩ := by
      refine ⟨by rw [hnone], fun w hw => absurd hw List.not_mem_nil, ?_, fun m _ w hw => absurd hw
        List.not_mem_nil⟩
      rintro m ⟨⟩
    refine ⟨_, ?_, RawReply.renders_of rfl hmarked⟩
    simp only [Invocation.begin, henter]
    rw [RawRequest.counted, hnone, List.length_nil, Nat.sub_zero]
    exact congrArg (fun entries => (_, Wait.raw (.returned ⟨-9, entries⟩)))
      (RawEntry.writeBack_nil r.entries).symm
  · refine ⟨fun hnone => absurd hnone hsome, fun _ => ?_⟩
    obtain ⟨hinvalid, -⟩ | ⟨-, request, hbegin, hwatches, hrequest⟩ :=
      s.enter_cases r.thread r.known ⟨r.flags⟩ r.timeout
    · exact absurd hinvalid htyped
    have hcounted : (r.counted s).enter r.thread r.known ⟨r.flags⟩ r.timeout =
        ((s.begin request).1.tallied .invalidEntries (r.entries.length - r.known.length),
          (s.begin request).2) := by
      rw [← hbegin]
      exact s.enter_tallied .invalidEntries _ r.thread r.known ⟨r.flags⟩ r.timeout
    simp only [Invocation.begin, henter, hcounted, hbegin]
    rw [Wait.play_typed, Wait.play_raw, System.play_tallied]
    refine ⟨rfl, ?_⟩
    rcases hplay : System.play (s.begin request) schedule with ⟨s', c | reply⟩
    · exact .running c _
    · refine .returned (RawReply.renders_of hwatches ?_)
      obtain hreturned | hmarked := System.marked_of_returned hplay
      · exact marked_of_begin hwatches hrequest hreturned
      · exact hmarked

/-- Entries of unknown kind around one for a semaphore that is released meanwhile and one for a port that
does not exist: the release is written to the entry of the semaphore, and all others are marked. -/
theorem simulates_typed_interleaved :
    let s : System :=
      { kernel := Operation.effect { clock := { now := 0, horizon := 1000 } } (.create (.semaphore 0))
        config := .standard }
    let r : RawRequest :=
      { thread := 7
        entries := [⟨5, 77, 1⟩, ⟨1, 1, 1⟩, ⟨6, 99, 0⟩, ⟨9, 2, 1⟩]
        flags := 0x0001
        timeout := 0 }
    let typed := Invocation.typed r.thread r.known ⟨r.flags⟩ r.timeout
    let schedule : List (Turn Operation) :=
      List.replicate 10 .own ++ [.other (.act 0 (.semaphore (.release 1)))] ++ List.replicate 6 .own
    (Wait.play ((Invocation.raw r).begin s) schedule).2.response? =
      some (.raw ⟨1, [⟨5, 77, 0x1000⟩, ⟨1, 1, 1⟩, ⟨6, 99, 0x1000⟩, ⟨9, 2, 0x1000⟩]⟩) ∧
    r.Follows (Wait.play (typed.begin s) schedule).2
      (Wait.play ((Invocation.raw r).begin s) schedule).2 := by
  intro s r typed schedule
  have hvalid : ¬(Invocation.raw r).Invalid s.config := by decide
  exact ⟨by cbv, ((simulates_typed hvalid schedule).2 (by decide)).2⟩

end RawRequest

end KernelWait
