import KernelWait.Object.Endpoint
import KernelWait.Object.Kind
import KernelWait.Object.Port
import KernelWait.Object.Semaphore
import KernelWait.Object.Thread
import KernelWait.WaitQueue

/-!
# Objects with their queues

An object of any kind, and an object together with its number and the queue of tickets that wait
for it. An action on the object and the announcement of its readiness are one step, as are the
check of its readiness and the joining of its queue.

**Every action keeps the object's kind, number and capacity of being waited for**
(`Entity.kind_act`, `Entity.id_act`).
-/

namespace KernelWait

/-- An object of any kind. -/
inductive Object where
  /-- an endpoint of a byte stream -/
  | endpoint (e : Endpoint)
  /-- a semaphore -/
  | semaphore (s : Semaphore)
  /-- a message port -/
  | port (p : Port)
  /-- a thread -/
  | thread (t : Thread)
  deriving DecidableEq, Repr

namespace Object

/-- An object as it is when it is created. -/
inductive Blueprint where
  /-- an empty endpoint that buffers so many bytes -/
  | endpoint (capacity : Nat)
  /-- a semaphore with a count -/
  | semaphore (count : Int32)
  /-- an empty port that holds so many messages -/
  | port (capacity : Nat)
  /-- a running thread with a name -/
  | thread (name : String)
  deriving DecidableEq, Repr

/-- The object that a blueprint describes. -/
def ofBlueprint : Blueprint → Object
  | .endpoint capacity => endpoint (Endpoint.new capacity)
  | .semaphore count => semaphore { count := count }
  | .port capacity => port (Port.new capacity)
  | .thread name => thread { name := name }

/-- What can be done to an object, by its kind. -/
inductive Action where
  /-- to an endpoint -/
  | endpoint (a : Endpoint.Action)
  /-- to a semaphore -/
  | semaphore (a : Semaphore.Action)
  /-- to a message port -/
  | port (a : Port.Action)
  /-- to a thread -/
  | thread (a : Thread.Action)
  deriving DecidableEq, Repr

/-- The kind of an object. -/
def kind : Object → Kind
  | endpoint _ => .endpoint
  | semaphore _ => .semaphore
  | port _ => .port
  | thread _ => .thread

/-- What an object is ready for. -/
def readiness : Object → Events
  | endpoint e => e.readiness
  | semaphore s => s.readiness
  | port p => p.readiness
  | thread t => t.readiness

/-- Performs an action; there is no reaction to an action of another kind. -/
def perform : Object → Action → Option (Reaction Object)
  | endpoint e, .endpoint a => some ((e.perform a).map endpoint)
  | semaphore s, .semaphore a => some ((s.perform a).map semaphore)
  | port p, .port a => some ((p.perform a).map port)
  | thread t, .thread a => some ((t.perform a).map thread)
  | _, _ => none

/-- No action changes the kind of an object. -/
theorem kind_perform {o : Object} {a : Action} {r : Reaction Object} (h : o.perform a = some r) :
    r.object.kind = o.kind := by
  cases o <;> cases a <;> simp [perform] at h <;> subst h <;> rfl

end Object

/-- An object with its number and its queue. -/
structure Entity where
  /-- the object's number within its kind -/
  id : ObjectId
  /-- the object itself -/
  object : Object
  /-- the tickets that wait for it -/
  queue : WaitQueue := {}
  deriving DecidableEq, Repr

namespace Entity

/-- The kind of the object. -/
def kind (e : Entity) : Kind := e.object.kind

/-- What the object is ready for. -/
def readiness (e : Entity) : Events := e.object.readiness

/-- The entity with another object, after the tickets that wait for it were told if need be. -/
def settle (e : Entity) (r : Reaction Object) (t : SessionTable) : Entity × SessionTable :=
  if r.announces then
    let (queue, t', _) := e.queue.notify r.object.readiness t
    ({ e with object := r.object, queue := queue }, t')
  else ({ e with object := r.object }, t)

/-- Performs an action and announces what came of it. -/
def act (e : Entity) (a : Object.Action) (t : SessionTable) :
    Entity × SessionTable × Option ObjectAnswer :=
  match e.object.perform a with
  | none => (e, t, none)
  | some r =>
    let (e', t') := e.settle r t
    (e', t', some r.answer)

/-- Lets a ticket join the queue, unless the object is ready for it. -/
def enroll (e : Entity) (interest : Events) (waker : Waker) : Entity × Enrollment :=
  let (queue, enrollment) := e.queue.enroll e.readiness interest waker
  ({ e with queue := queue }, enrollment)

/-- Withdraws a ticket from the queue, and says whether it was there. -/
def disenroll (e : Entity) (token : Token) : Entity × Bool :=
  let (queue, found) := e.queue.remove token
  ({ e with queue := queue }, found)

/-- An entity for a reader of diagnostics. -/
def describe (e : Entity) : String :=
  "WaitTarget(" ++ e.kind.name ++ " " ++ Text.intText e.id.toInt ++ ")"

/-- An action keeps the object's number. -/
theorem id_act (e : Entity) (a : Object.Action) (t : SessionTable) : (e.act a t).1.id = e.id := by
  unfold act
  split
  · rfl
  · simp only [settle]; split <;> rfl

/-- An action keeps the object's kind. -/
theorem kind_act (e : Entity) (a : Object.Action) (t : SessionTable) :
    (e.act a t).1.kind = e.kind := by
  unfold act
  split
  · rfl
  · next r h =>
    have := Object.kind_perform h
    simp only [settle]; split <;> exact this

end Entity

end KernelWait
