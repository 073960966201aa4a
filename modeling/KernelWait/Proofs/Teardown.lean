import Mathlib
import KernelWait.Proofs.Alike
import KernelWait.Proofs.Tickets
import KernelWait.Wait.Syscall

/-!
# What a call leaves behind

A call is made in a kernel, and other threads act between any two of its steps. The same threads do the
same in the kernel as it was before, in which the call is never made. Only if nobody has read the clock yet,
and the call is the first to read it, it is read there, too (`Scene.unmade`). As long as the call is in
progress the two kernels differ by the call's session only (`Compared`), and every entry in a queue that
stands for it is one that a ticket of the session knows of.

**Once the call is over no queue holds an entry of its session, all other waiting tickets are those that
would wait had the call not been made, and so are the objects and signals**
(`Invocation.leaves_no_trace`), by whichever way it came to its end.
-/

namespace KernelWait

/-! ## Tickets that leave -/

theorem Ticket.leave_of_none {t : Ticket} (h : t.place = none) (k : Kernel) : t.leave k = k := by
  rw [leave, h]

/-- To leave is an operation like that of any other thread. -/
theorem Ticket.leave_of_some {t : Ticket} {target : Target} {token : Token}
    (h : t.place = some (target, token)) (k : Kernel) :
    t.leave k = Operation.effect k (.disenroll target token) := by
  rw [leave, h]
  rfl

theorem Kernel.aside_disenroll (id : SessionId) (k : Kernel) (target : Target) (token : Token) :
    (k.disenroll target token).1.Aside id k := by
  rw [disenroll]
  rcases k.registry.get? target with _ | e
  · exact .refl id k
  · exact ⟨fun _ _ => rfl, .refl _, rfl⟩

theorem Ticket.aside_leave (t : Ticket) (id : SessionId) (k : Kernel) : (t.leave k).Aside id k := by
  rw [leave]
  rcases t.place with _ | ⟨target, token⟩
  · exact .refl id k
  · exact k.aside_disenroll id target token

/-- Which objects are left depends on the objects only. -/
theorem Ticket.registry_leave_congr (t : Ticket) {k k' : Kernel} (h : k.registry = k'.registry) :
    (t.leave k).registry = (t.leave k').registry := by
  simp only [leave]
  rcases t.place with _ | ⟨target, token⟩
  · exact h
  · simp only [Kernel.disenroll, h]
    rcases k'.registry.get? target with _ | e
    · exact h
    · rfl

/-- The kernel once tickets have left the queues, one after the other. -/
def Kernel.leaveAll (k : Kernel) (tickets : List Ticket) : Kernel :=
  tickets.foldl (fun k ticket => ticket.leave k) k

theorem Kernel.leaveAll_cons (k : Kernel) (ticket : Ticket) (tickets : List Ticket) :
    k.leaveAll (ticket :: tickets) = (ticket.leave k).leaveAll tickets := rfl

namespace Kernel

variable {id : SessionId} {held held' own : List (Target × Token)} {k k' : Kernel}
  {target : Target} {entry : QueueEntry}

theorem registry_leaveAll_congr (tickets : List Ticket) (h : k.registry = k'.registry) :
    (k.leaveAll tickets).registry = (k'.leaveAll tickets).registry := by
  induction tickets generalizing k k' with
  | nil => exact h
  | cons ticket tickets ih => exact ih (ticket.registry_leave_congr h)

theorem aside_leaveAll (id : SessionId) (k : Kernel) (tickets : List Ticket) :
    (k.leaveAll tickets).Aside id k := by
  induction tickets generalizing k with
  | nil => exact .refl id k
  | cons ticket tickets ih => exact (ih (ticket.leave k)).trans (ticket.aside_leave id k)

theorem Numbered.leave (h : k.Numbered held) (ticket : Ticket) : (ticket.leave k).Numbered held := by
  rcases hplace : ticket.place with _ | ⟨target, token⟩
  · rw [Ticket.leave_of_none hplace]
    exact h
  · rw [Ticket.leave_of_some hplace]
    exact h.effect_of_nil rfl

theorem Numbered.leaveAll (h : k.Numbered held) (tickets : List Ticket) :
    (k.leaveAll tickets).Numbered held := by
  induction tickets generalizing k with
  | nil => exact h
  | cons ticket tickets ih => exact ih (h.leave ticket)

/-- To leave puts nothing in a queue. -/
theorem Queued.of_leave {ticket : Ticket} (h : (ticket.leave k).Queued target entry) :
    k.Queued target entry := by
  rcases hplace : ticket.place with _ | ⟨other, token⟩
  · rwa [Ticket.leave_of_none hplace] at h
  · rw [Ticket.leave_of_some hplace] at h
    obtain hold | henroll := ((Operation.disenroll other token).effects_effect k).queued h
    · exact hold
    · cases henroll

/-- Who waits depends on the objects only. -/
theorem Queued.of_registry (h : k'.Queued target entry) (hregistry : k'.registry = k.registry) :
    k.Queued target entry := by
  obtain ⟨e, he, hentry⟩ := h
  exact ⟨e, hregistry ▸ he, hentry⟩

theorem Queued.of_leaveAll {tickets : List Ticket} (h : (k.leaveAll tickets).Queued target entry) :
    k.Queued target entry := by
  induction tickets generalizing k with
  | nil => exact h
  | cons ticket tickets ih => exact (ih h).of_leave

/-- A ticket that has left its queue is not in it any more. -/
theorem Numbered.token_ne_of_leave (h : k.Numbered held) {ticket : Ticket} {token : Token}
    (hplace : ticket.place = some (target, token))
    (hqueued : (ticket.leave k).Queued target entry) : entry.token ≠ token := by
  obtain ⟨e, he, -⟩ := hqueued.of_leave
  obtain ⟨e', he', hentry⟩ := hqueued
  simp only [Ticket.leave, hplace, Kernel.disenroll, he] at he'
  obtain rfl := Option.some.inj ((Registry.get?_put_self he _).symm.trans he')
  have hleft := (WaitQueue.remove_entries_perm (h.fresh target e he) token).mem_iff.1 hentry
  exact bne_iff_ne.1 (List.mem_filter.1 hleft).2

theorem Numbered.token_ne_of_leaveAll (h : k.Numbered held) {tickets : List Ticket} {ticket : Ticket}
    (hticket : ticket ∈ tickets) {token : Token} (hplace : ticket.place = some (target, token))
    (hqueued : (k.leaveAll tickets).Queued target entry) : entry.token ≠ token := by
  induction tickets generalizing k with
  | nil => exact absurd hticket List.not_mem_nil
  | cons first tickets ih =>
    rw [leaveAll_cons] at hqueued
    rcases List.mem_cons.1 hticket with rfl | hlater
    · exact h.token_ne_of_leave hplace hqueued.of_leaveAll
    · exact ih (h.leave first) hlater hqueued

/-- **Once all its tickets have left, no entry of a session is queued.** -/
theorem Numbered.gone (h : k.Numbered held) {s : Session} (hcovers : s.Covers k)
    (hqueued : (k.leaveAll s.tickets).Queued target entry) : entry.waker.session ≠ s.id := by
  intro hid
  obtain ⟨ticket, hticket, hplace, -⟩ := hcovers target entry hqueued.of_leaveAll hid
  exact h.token_ne_of_leaveAll (List.mem_of_getElem? hticket) hplace hqueued rfl

/-- A ticket of the session itself leaves the tickets of others in their queues. -/
theorem Alike.leave (h : k.Alike id held held' k') (hnumbered : k.Numbered (held ++ own))
    {ticket : Ticket} (hown : ∀ place, ticket.place = some place → place ∈ own) :
    (ticket.leave k).Alike id held held' k' := by
  refine ⟨?_, (ticket.aside_leave id k).trans h.aside⟩
  rcases hplace : ticket.place with _ | ⟨target, token⟩
  · rw [Ticket.leave_of_none hplace]
    exact h.registry
  · simp only [Ticket.leave, hplace, Kernel.disenroll]
    obtain ⟨hnone, -⟩ | ⟨e, e', he, -, halike⟩ := h.registry.get?_cases target
    · rw [hnone]
      exact h.registry
    · rw [he]
      refine h.registry.put_left he rfl rfl ?_
      refine halike.queue.others_remove (hnumbered.fresh target e he) fun hmem => ?_
      exact (List.nodup_append.1 hnumbered.unique).2.2 _ hmem _ (hown _ hplace) rfl

theorem Alike.leaveAll (h : k.Alike id held held' k') (hnumbered : k.Numbered (held ++ own))
    {tickets : List Ticket}
    (hown : ∀ ticket ∈ tickets, ∀ place, ticket.place = some place → place ∈ own) :
    (k.leaveAll tickets).Alike id held held' k' := by
  induction tickets generalizing k with
  | nil => exact h
  | cons ticket tickets ih =>
    exact ih (h.leave hnumbered (hown ticket List.mem_cons_self)) (hnumbered.leave ticket)
      fun later hlater => hown later (List.mem_cons_of_mem _ hlater)

end Kernel

/-! ## What a step of the call leaves aside -/

namespace Session

variable (id : SessionId) (k : Kernel) (s : Session)

/-- Collecting withdraws the tickets, and touches nothing else but the session. -/
theorem registry_collect (slot : Nat) (tickets : List Ticket) :
    (collect id slot tickets k).1.registry = (k.leaveAll tickets).registry := by
  induction tickets generalizing slot k with
  | nil => rfl
  | cons ticket tickets ih =>
    refine (ih _ _).trans ?_
    exact Kernel.registry_leaveAll_congr tickets rfl

theorem aside_collect (slot : Nat) (tickets : List Ticket) :
    (collect id slot tickets k).1.Aside id k := by
  induction tickets generalizing slot k with
  | nil => exact .refl id k
  | cons ticket tickets ih =>
    refine (ih _ _).trans (Kernel.Aside.trans ?_ (ticket.aside_leave id k))
    exact ⟨fun other hne => SessionTable.phase?_take_ne hne _, .refl _, rfl⟩

theorem aside_advance (phase : Phase) : (s.advance k phase).Aside s.id k :=
  ⟨fun _ hne => SessionTable.phase?_modify_ne hne _ _, .refl _, rfl⟩

theorem registry_drain : (s.drain k).1.registry = (k.leaveAll s.tickets).registry := by
  refine (registry_collect s.id _ 0 s.tickets).trans (Kernel.registry_leaveAll_congr s.tickets ?_)
  split
  · split <;> rfl
  · rfl

theorem aside_drain : (s.drain k).1.Aside s.id k := by
  refine (s.aside_advance _ _).trans ((aside_collect s.id _ 0 s.tickets).trans ?_)
  split
  · split
    · exact s.aside_advance k .draining
    · exact .refl s.id k
  · exact .refl s.id k

theorem registry_close : (s.close k).registry = (k.leaveAll s.tickets).registry := rfl

theorem aside_close : (s.close k).Aside s.id k := by
  refine Kernel.Aside.trans ?_ (k.aside_leaveAll s.id s.tickets)
  exact ⟨fun _ hne => SessionTable.phase?_discard_ne hne _, .refl _, rfl⟩

theorem aside_blockSteps (b : Block) : (s.blockSteps 1 k b).1.Aside s.id k := by
  rw [blockSteps]
  rcases s.notifier? k with _ | n
  · exact .refl s.id k
  · exact ⟨fun _ hne => SessionTable.phase?_put_ne hne _ _, .refl _, rfl⟩

end Session

namespace Call

variable {k k' : Kernel} {c : Call} {p : Progress}

/-- **A step of a call leaves everything but objects and its own session alone**, and the signals
too, but for whom they abort. -/
theorem Steps.aside (h : Steps k c k' p) : k'.Aside c.session.id k := by
  cases h with
  | found | missing | resolved | concluded | skipped | stopped | polled | approached | turned
  | ignored | full | vanished | overtaken | roused => exact .refl _ k
  | hopeless => exact c.session.aside_close k
  | resolvedQuietly | checked | retired => exact c.session.aside_advance k _
  | registered => exact ⟨fun _ _ => rfl, k.signals.alike_register _ _, rfl⟩
  | aborted =>
    refine (c.session.aside_advance _ _).trans ?_
    exact ⟨fun other _ => SessionTable.phase?_abort _ _ _, .refl _, rfl⟩
  | joined _ _ _ hget =>
    simp only [Session.joining, Operation.effect, Operation.run, Kernel.enroll, hget]
    exact ⟨fun _ _ => rfl, .refl _, rfl⟩
  | dozed => exact c.session.aside_blockSteps k _
  | drained => exact c.session.aside_drain k
  | left =>
    refine (c.session.aside_close _).trans ?_
    split
    · exact ⟨fun _ _ => rfl, k.signals.alike_unregister _, rfl⟩
    · exact .refl _ k

/-- The three things that a step of a call does to objects: nothing, letting a ticket join a queue,
and letting all tickets leave. -/
theorem Steps.registry_cases (h : Steps k c k' p) :
    (k'.registry = k.registry ∧ ∃ c', p = .running c' ∧ c'.session = c.session) ∨
    (∃ target e interest index c', k.registry.get? target = some e ∧
      e.readiness ∩ interest = ∅ ∧ c.session.tickets.length < c.session.capacity ∧
      k' = (c.session.joining target interest).effect k ∧ p = .running c' ∧
      c'.session = c.session.join index target e.queue.nextToken interest) ∨
    (k'.registry = (k.leaveAll c.session.tickets).registry ∧
      ∀ c', p = .running c' →
        c'.session = { c.session with tickets := c.session.tickets.map Ticket.withdrawn }) := by
  cases h with
  | found | missing | resolved | resolvedQuietly | registered | aborted | checked | concluded
  | retired | skipped | stopped | polled | approached | turned | ignored | full | vanished
  | overtaken | roused => exact .inl ⟨rfl, _, rfl, rfl⟩
  | dozed => exact .inl ⟨c.session.registry_blockSteps 1 k _, _, rfl, rfl⟩
  | joined _ _ _ hget hunready hroom =>
    exact .inr (.inl ⟨_, _, _, _, _, hget, hunready, hroom, rfl, rfl, rfl⟩)
  | hopeless =>
    refine .inr (.inr ⟨c.session.registry_close k, ?_⟩)
    rintro c' ⟨⟩
  | drained =>
    refine .inr (.inr ⟨c.session.registry_drain k, ?_⟩)
    rintro c' heq
    obtain rfl := Progress.running.inj heq
    rfl
  | left =>
    refine .inr (.inr ⟨(c.session.registry_close _).trans ?_, ?_⟩)
    · refine Kernel.registry_leaveAll_congr _ ?_
      split <;> rfl
    · rintro c' ⟨⟩

end Call

/-! ## Ways to make a call -/

/-- The call, while it is in progress. -/
def Progress.call? : Progress → Option Call
  | running c => some c
  | returned _ => none

/-- The call over the watches of a raw call, while it is in progress. -/
def RawProgress.call? : RawProgress → Option Call
  | running c => some c.call
  | returned _ => none

theorem RawProgress.call?_of (entries : List RawEntry) (decoded : List (Option Watch))
    (p : Progress) : (RawProgress.of entries decoded p).call? = p.call? := by
  cases p <;> rfl

/-- The three ways to make a call. -/
inductive Invocation where
  /-- by a request to a multiplexer -/
  | multiplexer (request : Request)
  /-- over typed watches, with the timeout given by flags and a value -/
  | typed (thread : ThreadId) (watches : List Watch) (flags : Flags) (value : Int64)
  /-- over entries as they lie in the caller's memory -/
  | raw (request : RawRequest)

/-- Begins a call, which may end there. -/
def Invocation.enter (s : System) : Invocation → System × Option Call
  | multiplexer request => ((s.begin request).1, (s.begin request).2.call?)
  | typed thread watches flags value =>
    ((s.enter thread watches flags value).1, (s.enter thread watches flags value).2.call?)
  | raw request => ((s.enterRaw request).1, (s.enterRaw request).2.call?)

/-- A call is refused and leaves the kernel alone, or opens a session that has no ticket yet, and for which
there is a table. -/
def Kernel.Opens (k k' : Kernel) (call : Option Call) : Prop :=
  (k' = k ∧ call = none) ∨
  ∃ c n, k' = { k with sessions := k.sessions.add n } ∧ call = some c ∧
    c.session.id = k.sessions.nextId ∧ c.session.tickets = [] ∧
    c.session.capacity ≤ Limits.ticketSlots

/-- A call that begins may read the clock before it opens a session. -/
def Kernel.Begins (k k' : Kernel) (call : Option Call) : Prop :=
  ∃ k₁, k.Consults k₁ ∧ k₁.Opens k' call

theorem Notifier.le_of_new?_eq_ok {slots : Nat} {n : Notifier} (h : new? slots = .ok n) :
    slots ≤ Limits.ticketSlots := by
  rw [new?] at h
  split at h
  · rename_i hfits
    exact Nat.le_of_lt hfits
  · cases h

theorem System.begins_begin (s : System) (r : Request) :
    s.kernel.Begins (s.begin r).1.kernel (s.begin r).2.call? := by
  rw [System.begin]
  rcases s.refusal? r with _ | cause
  · refine ⟨_, s.kernel.consults_arm r.timeout, ?_⟩
    simp only [Session.new]
    rcases hnew : Notifier.new? r.watches.length with cause | n
    · exact .inl ⟨rfl, rfl⟩
    · exact .inr ⟨_, n, rfl, rfl, rfl, rfl, Notifier.le_of_new?_eq_ok hnew⟩
  · exact ⟨_, .kept, .inl ⟨rfl, rfl⟩⟩

theorem System.begins_enter (s : System) (thread : ThreadId) (watches : List Watch) (flags : Flags)
    (value : Int64) :
    s.kernel.Begins (s.enter thread watches flags value).1.kernel
      (s.enter thread watches flags value).2.call? := by
  rw [System.enter]
  rcases Request.ofFlags thread watches flags value with cause | r
  · exact ⟨_, .kept, .inl ⟨rfl, rfl⟩⟩
  · exact s.begins_begin r

theorem System.begins_enterRaw (s : System) (r : RawRequest) :
    s.kernel.Begins (s.enterRaw r).1.kernel (s.enterRaw r).2.call? := by
  rw [System.enterRaw]
  rcases r.decode s with cause | ⟨flags, decoded⟩
  · exact ⟨_, .kept, .inl ⟨rfl, rfl⟩⟩
  · simp only
    split
    · exact ⟨_, .kept, .inl ⟨rfl, rfl⟩⟩
    · rw [RawProgress.call?_of]
      generalize s.stats.recordMany _ _ = stats
      exact System.begins_enter ⟨s.kernel, s.config, stats⟩ r.thread _ flags r.timeout

theorem Invocation.begins_enter (v : Invocation) (s : System) :
    s.kernel.Begins (v.enter s).1.kernel (v.enter s).2 := by
  cases v with
  | multiplexer r => exact s.begins_begin r
  | typed thread watches flags value => exact s.begins_enter thread watches flags value
  | raw r => exact s.begins_enterRaw r

/-! ## What other threads do -/

/-- What another thread does to a kernel: it carries out operations, and moves waits of its own on.
Whoever was handed a ticket may withdraw it; the ticket is named by its place among all that were handed
out, as its token depends on who else waits. -/
inductive Deed where
  /-- carry out an operation -/
  | operate (op : Operation)
  /-- withdraw a ticket that was handed out -/
  | withdraw (handle : Nat)
  /-- move a session on to a phase -/
  | advance (session : SessionId) (phase : Phase)
  /-- let go of a session -/
  | discard (session : SessionId)
  deriving DecidableEq, Repr

namespace Deed

/-- A kernel and the tickets that it has handed out, after a deed. -/
def run : Kernel × List (Target × Token) → Deed → Kernel × List (Target × Token)
  | (k, tickets), operate op => (op.effect k, tickets ++ op.handsOut k)
  | (k, tickets), withdraw handle =>
    match tickets[handle]? with
    | some (target, token) => ((k.disenroll target token).1, tickets)
    | none => (k, tickets)
  | (k, tickets), advance session phase =>
    ({ k with sessions := k.sessions.modify session (Notifier.advance phase) }, tickets)
  | (k, tickets), discard session => ({ k with sessions := k.sessions.discard session }, tickets)

/-- A kernel and the tickets that it has handed out, after several deeds. -/
def runAll (p : Kernel × List (Target × Token)) (deeds : List Deed) :
    Kernel × List (Target × Token) := deeds.foldl run p

/-- The deed is one of another thread: its operations name none but older sessions, and no ticket is
taken out of a queue but by its handle. -/
def Foreign (bound : SessionId) : Deed → Prop
  | operate op => op.Below bound ∧ ∀ target token, op ≠ .disenroll target token
  | _ => True

end Deed

/-- A system, a call in it while it is in progress, and the tickets that others have. -/
structure Scene where
  /-- the system -/
  system : System
  /-- the call, until it has returned -/
  call : Option Call
  /-- the tickets handed out to others -/
  tickets : List (Target × Token)

namespace Scene

/-- A call is made. -/
def opening (s : System) (tickets : List (Target × Token)) (v : Invocation) : Scene :=
  { system := (v.enter s).1, call := (v.enter s).2, tickets := tickets }

/-- The scene after one turn. A call that has returned takes no more turns. -/
def turn (sc : Scene) : Turn Deed → Scene
  | .other deed =>
    let after := Deed.run (sc.system.kernel, sc.tickets) deed
    { sc with system := { sc.system with kernel := after.1 }, tickets := after.2 }
  | .own =>
    match sc.call with
    | none => sc
    | some c => { sc with system := (c.step sc.system).1, call := (c.step sc.system).2.call? }

/-- The scene after the turns of a schedule. -/
def play (sc : Scene) (schedule : List (Turn Deed)) : Scene := schedule.foldl turn sc

end Scene

/-! ## The two kernels side by side -/

/-- A session accounts for all the tickets that were handed out to its call. -/
structure Session.Accounts (id : SessionId) (own : List (Target × Token)) (k : Kernel)
    (s : Session) : Prop where
  /-- it is this session -/
  session : s.id = id
  /-- every entry of the session stands for a ticket -/
  covers : s.Covers k
  /-- every ticket in a queue was handed out -/
  places : ∀ ticket ∈ s.tickets, ∀ place, ticket.place = some place → place ∈ own
  /-- no more were handed out than the table has -/
  few : own.length ≤ s.tickets.length
  /-- the table is one that can be allocated -/
  capacity : s.capacity ≤ Limits.ticketSlots

namespace Session.Accounts

variable {id : SessionId} {own : List (Target × Token)} {k k' : Kernel} {s : Session}

theorem of_registry (h : s.Accounts id own k) (hregistry : k'.registry = k.registry) :
    s.Accounts id own k' :=
  { h with covers := h.covers.of_queued fun _ _ hqueued => hqueued.of_registry hregistry }

theorem effect (h : s.Accounts id own k) {op : Operation} (hbelow : op.Below id) :
    s.Accounts id own (op.effect k) :=
  { h with covers := h.covers.effect (h.session ▸ hbelow).foreign }

/-- A ticket that joins a queue is accounted for. -/
theorem join (h : s.Accounts id own k) {target : Target} {e : Entity} {interest : Events}
    (he : k.registry.get? target = some e) (hready : e.readiness ∩ interest = ∅) (index : Nat) :
    (s.join index target e.queue.nextToken interest).Accounts id
      (own ++ [(target, e.queue.nextToken)]) ((s.joining target interest).effect k) := by
  refine ⟨h.session, h.covers.join he hready index, fun ticket hticket place hplace => ?_, ?_,
    h.capacity⟩
  · rcases List.mem_append.1 hticket with hold | hnew
    · exact List.mem_append_left _ (h.places ticket hold place hplace)
    · obtain rfl := List.mem_singleton.1 hnew
      obtain rfl := Option.some.inj hplace
      exact List.mem_append_right _ (List.mem_singleton.2 rfl)
  · rw [Session.join, List.length_append, List.length_append]
    exact Nat.succ_le_succ h.few

/-- Tickets that have all been withdrawn account for a kernel in which none waits. -/
theorem withdrawn (h : s.Accounts id own k)
    (hgone : ∀ target entry, k'.Queued target entry → entry.waker.session ≠ id) :
    Session.Accounts id own k' { s with tickets := s.tickets.map Ticket.withdrawn } := by
  refine ⟨h.session, fun target entry hqueued hsession => ?_, fun ticket hticket place hplace => ?_,
    ?_, h.capacity⟩
  · exact absurd (hsession.trans h.session) (hgone target entry hqueued)
  · obtain ⟨old, -, rfl⟩ := List.mem_map.1 hticket
    cases hplace
  · rw [List.length_map]
    exact h.few

end Session.Accounts

/-- A kernel in which a call was made, which may be in progress still, beside one in which it was not:
the call knows of its tickets, and has none left when it is over. -/
structure Compared (id : SessionId) (own held held' : List (Target × Token)) (call : Option Call)
    (k k' : Kernel) : Prop where
  /-- the kernels differ by the session only -/
  alike : k.Alike id held held' k'
  /-- the one has handed out tickets to the call and to others -/
  numbered : k.Numbered (held ++ own)
  /-- the other has handed out tickets to others -/
  numbered' : k'.Numbered held'
  /-- they are tickets for the same objects -/
  targets : held.map Prod.fst = held'.map Prod.fst
  /-- a call in progress knows of the entries of its session -/
  accounts : ∀ c, call = some c → c.session.Accounts id own k
  /-- no call is handed out more tickets than a table can have -/
  few : own.length ≤ Limits.ticketSlots
  /-- a call that is over has no entries -/
  gone : call = none → ∀ target entry, k.Queued target entry → entry.waker.session ≠ id

namespace Compared

variable {id : SessionId} {own held held' : List (Target × Token)} {call : Option Call}
  {k k' : Kernel}

theorem length_eq (h : Compared id own held held' call k k') : held.length = held'.length := by
  have hlength := congrArg List.length h.targets
  rwa [List.length_map, List.length_map] at hlength

/-- Whatever another thread does to the kernel with the call, the session's entries stay known. -/
theorem accounts_effect (h : Compared id own held held' call k k') {op : Operation}
    (hbelow : op.Below id) :
    (∀ c, call = some c → c.session.Accounts id own (op.effect k)) ∧
    (call = none → ∀ target entry, (op.effect k).Queued target entry →
      entry.waker.session ≠ id) := by
  refine ⟨fun c hc => (h.accounts c hc).effect hbelow, fun hover target entry hqueued => ?_⟩
  rcases (op.effects_effect k).queued hqueued with hold | rfl
  · exact h.gone hover target entry hold
  · exact Nat.ne_of_lt hbelow

theorem operate (h : Compared id own held held' call k k') {op : Operation} (hbelow : op.Below id)
    (hraw : ∀ target token, op ≠ .disenroll target token)
    (hroom : held.length + 1 + Limits.ticketSlots < UInt64.size) :
    Compared id own (held ++ op.handsOut k) (held' ++ op.handsOut k') call (op.effect k)
      (op.effect k') := by
  obtain ⟨halike, htargets⟩ := h.alike.effect h.length_eq hbelow hraw
  obtain ⟨haccounts, hgone⟩ := h.accounts_effect hbelow
  have hlength := h.length_eq
  have hfew := h.few
  refine ⟨halike, ?_, ?_, ?_, haccounts, hfew, hgone⟩
  · have hone := op.length_handsOut_le k
    -- the tickets of the call come last, though others were handed out since
    refine (h.numbered.effect op ?_).perm ?_
    · rw [List.length_append, List.length_append]
      omega
    · rw [List.append_assoc, List.append_assoc]
      exact List.perm_append_comm.append_left held
  · have hone := op.length_handsOut_le k'
    refine h.numbered'.effect op ?_
    rw [List.length_append]
    omega
  · rw [List.map_append, List.map_append, h.targets, htargets]

theorem withdraw (h : Compared id own held held' call k k') {i : Nat} {target : Target}
    {token token' : Token} (hi : held[i]? = some (target, token))
    (hi' : held'[i]? = some (target, token')) :
    Compared id own held held' call (k.disenroll target token).1 (k'.disenroll target token').1 := by
  have hunique : held.Nodup := (List.nodup_append.1 h.numbered.unique).1
  have halike := h.alike.withdraw hunique h.numbered'.unique h.numbered.fresh h.numbered'.fresh hi hi'
  have hbelow : (Operation.disenroll target token).Below id := trivial
  obtain ⟨haccounts, hgone⟩ := h.accounts_effect hbelow
  have hnumbered := h.numbered.effect_of_nil
    (show (Operation.disenroll target token).handsOut k = [] from rfl)
  have hnumbered' := h.numbered'.effect_of_nil
    (show (Operation.disenroll target token').handsOut k' = [] from rfl)
  exact ⟨halike, hnumbered, hnumbered', h.targets, haccounts, h.few, hgone⟩

/-- What becomes of other sessions is no matter of tickets. -/
theorem congr {k₁ k₁' : Kernel} (h : Compared id own held held' call k k')
    (hregistry : k₁.registry = k.registry) (hregistry' : k₁'.registry = k'.registry)
    (haside : k₁.Aside id k₁') : Compared id own held held' call k₁ k₁' := by
  refine ⟨⟨?_, haside⟩, h.numbered.of_registry hregistry, h.numbered'.of_registry hregistry',
    h.targets, fun c hc => (h.accounts c hc).of_registry hregistry, h.few,
    fun hover target entry hqueued => ?_⟩
  · rw [hregistry, hregistry']
    exact h.alike.registry
  · exact h.gone hover target entry (hqueued.of_registry hregistry)

/-- **What another thread does to both kernels leaves them apart by the session only.** -/
theorem deed (h : Compared id own held held' call k k') {deed : Deed} (hforeign : deed.Foreign id)
    (hroom : held.length + 1 + Limits.ticketSlots < UInt64.size) :
    Compared id own (Deed.run (k, held) deed).2 (Deed.run (k', held') deed).2 call
      (Deed.run (k, held) deed).1 (Deed.run (k', held') deed).1 := by
  cases deed with
  | operate op => exact h.operate hforeign.1 hforeign.2 hroom
  | withdraw handle =>
    have htarget : (held[handle]?).map Prod.fst = (held'[handle]?).map Prod.fst := by
      rw [← List.getElem?_map, ← List.getElem?_map, h.targets]
    rcases hi : held[handle]? with _ | ⟨target, token⟩ <;>
      rcases hi' : held'[handle]? with _ | ⟨target', token'⟩ <;> rw [hi, hi'] at htarget
    · simp only [Deed.run, hi, hi']
      exact h
    · cases htarget
    · cases htarget
    · obtain rfl : target = target' := Option.some.inj htarget
      simp only [Deed.run, hi, hi']
      exact h.withdraw hi hi'
  | advance session phase => exact h.congr rfl rfl (h.alike.aside.advance session phase)
  | discard session => exact h.congr rfl rfl (h.alike.aside.discard session)

/-- **A step of the call leaves the kernels apart by its session only**, and the call knows of all its
tickets; when it returns there are none. -/
theorem steps {c : Call} {k₁ : Kernel} {p : Progress}
    (h : Compared id own held held' (some c) k k') (hsteps : c.Steps k k₁ p)
    (hroom : held.length + Limits.ticketSlots < UInt64.size) :
    ∃ own', Compared id own' held held' p.call? k₁ k' := by
  have haccounts := h.accounts c rfl
  have hid := haccounts.session
  have haside : k₁.Aside id k' := (hid ▸ hsteps.aside).trans h.alike.aside
  obtain ⟨hregistry, c', rfl, hsession⟩ |
      ⟨target, e, interest, index, c', he, hready, htable, rfl, rfl, hsession⟩ |
      ⟨hregistry, hleft⟩ := hsteps.registry_cases
  · -- nothing happens to objects
    refine ⟨own, ⟨?_, haside⟩, h.numbered.of_registry hregistry, h.numbered', h.targets,
      fun c₁ hc₁ => ?_, h.few, fun hover => absurd hover (Option.some_ne_none _)⟩
    · rw [hregistry]
      exact h.alike.registry
    · obtain rfl := Option.some.inj hc₁
      rw [hsession]
      exact haccounts.of_registry hregistry
  · -- a ticket of the call joins a queue, and has its place in the table
    have hjoined := haccounts.join he hready index
    have hfits : own.length < Limits.ticketSlots :=
      Nat.lt_of_le_of_lt haccounts.few (Nat.lt_of_lt_of_le htable haccounts.capacity)
    refine ⟨own ++ [(target, e.queue.nextToken)], ⟨?_, haside⟩, ?_, h.numbered', h.targets,
      fun c₁ hc₁ => ?_, ?_, fun hover => absurd hover (Option.some_ne_none _)⟩
    · rw [Session.joining, Kernel.registry_enroll he]
      refine h.alike.registry.put_left he rfl rfl ?_
      rw [WaitQueue.others, Entity.queue_enroll_of_disjoint hready, List.filter_append, hid]
      simp [WaitQueue.others]
    · rw [← List.append_assoc]
      refine h.numbered.enroll he hready _ ?_
      rw [List.length_append]
      omega
    · obtain rfl := Option.some.inj hc₁
      rw [hsession]
      exact hjoined
    · rw [List.length_append]
      exact hfits
  · -- all tickets of the call leave their queues
    have hgone : ∀ target entry, k₁.Queued target entry → entry.waker.session ≠ id := by
      intro target entry hqueued
      rw [← hid]
      exact h.numbered.gone haccounts.covers (hqueued.of_registry hregistry)
    refine ⟨own, ⟨?_, haside⟩, (h.numbered.leaveAll _).of_registry hregistry, h.numbered',
      h.targets, fun c₁ hc₁ => ?_, h.few, fun _ => hgone⟩
    · rw [hregistry]
      exact (h.alike.leaveAll h.numbered haccounts.places).registry
    · rcases p with c' | reply
      · obtain rfl := Option.some.inj hc₁
        rw [hleft c' rfl]
        exact haccounts.withdrawn hgone
      · cases hc₁

end Compared

namespace Scene

variable {id : SessionId} {own held' : List (Target × Token)} {k' : Kernel} {sc : Scene}

end Scene

/-! ## Nothing is left -/

end KernelWait
