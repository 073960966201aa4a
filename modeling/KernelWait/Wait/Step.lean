import KernelWait.Wait.Call

/-!
# The steps of a wait call

A call resolves the names in its watches, registers for signals if it may be interrupted, polls each
object and joins the queue of each that is not ready, blocks unless something was ready or the
deadline has passed, drains its session and leaves.

**Every step is atomic**, and other threads may act between any two of them (`Call.step`). A call
that sleeps goes on when its event has a signal pending or its deadline has passed (`Call.asleep`).
-/

namespace KernelWait

namespace Call

/-- Lets the session know that the names are resolved, and starts to poll. -/
def startPolling (s : System) (c : Call) : System × Call :=
  ({ s with kernel := c.session.advance s.kernel .enrolling }, { c with stage := .polling })

/-- Looks the next name up. Once all are looked up, a call without a live object returns. -/
def resolve (s : System) (c : Call) : System × Progress :=
  match c.ahead with
  | slot :: _ =>
    let watch := slot.watch.reset
    match s.kernel.registry.lookup? watch.kind watch.id with
    | some target => (s, .running (c.pass ⟨{ watch with status := .ok }, some target⟩))
    | none =>
      (s.record .invalidEntries, .running (c.pass ⟨{ watch with status := .invalidObject }, none⟩))
  | [] =>
    if c.slots.all (·.target.isNone) then
      ({ s.record .noValidTargets with kernel := c.session.close s.kernel },
        .returned ⟨.error (.noValidTargets c.slots.length), c.watches⟩)
    else if c.interruptible then (s, .running (c.rewind .registering))
    else
      let (s', c') := startPolling s (c.rewind .polling)
      (s', .running c')

/-- Makes the session the one that signals to the thread abort. -/
def register (s : System) (c : Call) : System × Progress :=
  ({ s with
      kernel := { s.kernel with signals := s.kernel.signals.register c.thread c.session.id } },
    .running { c with stage := .checking })

/-- Aborts the call if a signal is pending already, and starts to poll. -/
def check (s : System) (c : Call) : System × Progress :=
  let checked :=
    if s.kernel.hasPending c.thread then
      { s.kernel with sessions := (s.kernel.sessions.abort c.session.id).1 }
    else s.kernel
  let (s', c') := startPolling { s with kernel := checked } c
  (s', .running c')

/-- Decides what follows when all objects are polled: a call with something to report, or one that
does not wait, drains its session, and any other blocks. -/
def conclude (s : System) (c : Call) : System × Progress :=
  if c.immediate then (s.record .immediate, .running { c with stage := .draining })
  else if c.poll then (s, .running { c with stage := .draining })
  else
    ({ s.record .blocked with kernel := c.session.advance s.kernel .blocked },
      .running { c with stage := .blocked .looking })

/-- Polls the next object. The object's queue is joined only if nothing was ready so far and the
call waits; a single-shot call stops at the first object that is ready. -/
def pollNext (s : System) (c : Call) : System × Progress :=
  match c.ahead with
  | [] => c.conclude s
  | slot :: _ =>
    match slot.target with
    | none => (s, .running (c.pass slot))
    | some target =>
      if c.immediate && c.singleShot then
        (s, .running { c with passed := c.slots, ahead := [] })
      else
        let ready := s.kernel.readiness target ∩ slot.watch.reportable
        if ready ≠ ∅ then (s, .running (c.passReady slot ready))
        else if c.immediate || c.poll then (s, .running (c.pass slot))
        else (s, .running { c with stage := .enrolling })

/-- Joins the queue of the object just polled, unless it has become ready. -/
def enrollNext (s : System) (c : Call) : System × Progress :=
  match c.ahead with
  | [] => (s, .running { c with stage := .polling })
  | slot :: _ =>
    let polled := { c with stage := .polling }
    match slot.target with
    | none => (s, .running (polled.pass slot))
    | some target =>
      match c.session.enroll s.kernel c.passed.length target slot.watch.reportable with
      | .error cause => (s, .running { c with stage := .leaving (.error cause) })
      | .ok (kernel, session, enrollment) =>
        let joined := { polled with session := session }
        match enrollment with
        | some (.ready events) => ({ s with kernel := kernel }, .running (joined.passReady slot events))
        | _ => ({ s with kernel := kernel }, .running (joined.pass slot))

/-- One step of the blocked phase. -/
def blockNext (s : System) (c : Call) (b : Block) : System × Progress :=
  match b with
  | .finished _ => (s, .running { c with stage := .draining })
  | _ =>
    let (kernel, b') := c.session.blockSteps 1 s.kernel b
    ({ s with kernel := kernel }, .running { c with stage := .blocked b' })

/-- Adds what fired to the watches that it belongs to. -/
def fire (slots : List Slot) (fired : List (Nat × Events)) : List Slot :=
  fired.foldl
    (fun slots f => slots.modify f.1 fun slot => { slot with watch := slot.watch.fire f.2 }) slots

/-- Withdraws all tickets, writes down what fired, and settles the answer: something is ready, or a
signal has aborted the call, or its time is up. -/
def drain (s : System) (c : Call) : System × Progress :=
  let interrupted := (c.session.notifier? s.kernel).any (·.interrupted)
  let (kernel, session, fired) := c.session.drain s.kernel
  let drained := { s with kernel := kernel }
  let slots := fire c.slots fired
  let watches := slots.map Slot.watch
  let kept := if c.singleShot then Watch.keepFirst watches else watches
  let written := slots.zipWith (fun slot w => { slot with watch := w }) kept
  let ready := kept.countP Watch.isReady
  let leave (tally : Tally) (answer : Except WaitError Outcome) : System × Progress :=
    (drained.record tally,
      .running { c with session := session, passed := written, ahead := [], stage := .leaving answer })
  if 0 < ready then leave .ready (.ok (.ready ready))
  else if interrupted then leave .interrupts (.error .interrupted)
  else leave .timeouts (.ok .timedOut)

/-- Lets go of signals and of the session, and returns. -/
def leave (s : System) (c : Call) (answer : Except WaitError Outcome) : System × Progress :=
  let freed :=
    if c.interruptible then
      { s.kernel with signals := s.kernel.signals.unregister c.thread }
    else s.kernel
  ({ s with kernel := c.session.close freed }, .returned ⟨answer, c.watches⟩)

/-- One step of a call. -/
def step (s : System) (c : Call) : System × Progress :=
  match c.stage with
  | .resolving => c.resolve s
  | .registering => c.register s
  | .checking => c.check s
  | .polling => c.pollNext s
  | .enrolling => c.enrollNext s
  | .blocked b => c.blockNext s b
  | .draining => c.drain s
  | .leaving answer => c.leave s answer

/-- Whether a call sleeps: it is parked, no signal is pending on its event, and its deadline has
not passed. -/
def asleep (s : System) (c : Call) : Bool :=
  match c.stage, c.session.notifier? s.kernel with
  | .blocked .parked, some n => (n.event.poll c.session.deadline s.kernel.clock.now).isNone
  | .blocked .parked, none => true
  | _, _ => false

/-- A moment at which a call turns to the directory or to the signals of its thread. -/
inductive Contact where
  /-- it is about to look up the name at a position -/
  | resolve (index : Nat)
  /-- it has registered for signals -/
  | registered
  /-- it is about to look for a pending signal -/
  | check
  /-- it is about to let go of signals -/
  | unregister
  deriving DecidableEq, Repr

/-- The contacts that a call makes right before its next step, in order. -/
def contacts (c : Call) : List Contact :=
  match c.stage with
  | .resolving => if c.ahead.isEmpty then [] else [.resolve c.passed.length]
  | .checking => [.registered, .check]
  | .leaving _ => if c.interruptible then [.unregister] else []
  | _ => []

end Call

end KernelWait
