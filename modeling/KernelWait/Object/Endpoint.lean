import KernelWait.Events
import KernelWait.Limits
import KernelWait.Object.Reaction

/-!
# Endpoints of byte streams

The object behind a descriptor number: a buffer of bytes with a fixed capacity. It is readable
while bytes are buffered and writable while there is room and the peer has not hung up; errors and
a hang-up are latched, and a closed endpoint is invalid and nothing else.

**Bytes leave in the order in which they came, and none is dropped**: a write takes as many as
there is room for and says how many (`Endpoint.write`, `Endpoint.read`).
-/

namespace KernelWait

/-- An endpoint of a byte stream. -/
structure Endpoint where
  /-- how many bytes it buffers -/
  capacity : Nat
  /-- the buffered bytes, oldest first -/
  buffer : List UInt8 := []
  /-- an error has occurred -/
  failed : Bool := false
  /-- the peer has hung up -/
  hungUp : Bool := false
  /-- the endpoint is gone -/
  closed : Bool := false
  deriving DecidableEq, Repr

namespace Endpoint

/-- What can be done to an endpoint. -/
inductive Action where
  /-- append bytes -/
  | write (bytes : List UInt8)
  /-- take so many bytes at most -/
  | read (limit : Nat)
  /-- latch an error -/
  | fail
  /-- latch a hang-up of the peer -/
  | hangUp
  /-- mark it as gone -/
  | close
  deriving DecidableEq, Repr

/-- An empty endpoint. Every endpoint has room for one byte at least. -/
def new (capacity : Nat) : Endpoint := { capacity := max capacity 1 }

/-- The room that is left in the buffer. -/
def room (e : Endpoint) : Nat := e.capacity - e.buffer.length

/-- What an endpoint is ready for. -/
def readiness (e : Endpoint) : Events :=
  if e.closed then .invalid
  else
    (if e.buffer.isEmpty then ∅ else .read) ∪
      (if !e.hungUp && e.buffer.length < e.capacity then .write else ∅) ∪
      (if e.failed then .error else ∅) ∪ (if e.hungUp then .disconnected else ∅)

/-- Appends the bytes that fit, and says how many they are. -/
def write (bytes : List UInt8) (e : Endpoint) : Except ObjectError (Nat × Endpoint) :=
  if e.closed || e.hungUp then .error .closed
  else if e.room = 0 then .error .wouldBlock
  else
    let accepted := bytes.take e.room
    .ok (accepted.length, { e with buffer := e.buffer ++ accepted })

/-- Takes the oldest bytes, as many as asked for and there. An empty buffer is the end of the
stream once the peer has hung up. -/
def read (limit : Nat) (e : Endpoint) : Except ObjectError (List UInt8 × Endpoint) :=
  if e.closed then .error .closed
  else if e.buffer.isEmpty && !e.hungUp then .error .wouldBlock
  else .ok (e.buffer.take limit, { e with buffer := e.buffer.drop limit })

/-- Performs an action. Taking nothing out of an empty buffer tells nobody; every other action that
is not refused or repeated does. -/
def perform (e : Endpoint) : Action → Reaction Endpoint
  | .write bytes =>
    match e.write bytes with
    | .error cause => .refuse e cause
    | .ok (n, e') => .announce e' (.count n)
  | .read limit =>
    match e.read limit with
    | .error cause => .refuse e cause
    | .ok (bytes, e') =>
      if e.buffer.isEmpty then .quiet e (.bytes []) else .announce e' (.bytes bytes)
  | .fail => .announce { e with failed := true } .done
  | .hangUp => if e.hungUp then .quiet e .done else .announce { e with hungUp := true } .done
  | .close =>
    if e.closed then .quiet e .done else .announce { e with closed := true, buffer := [] } .done

end Endpoint

end KernelWait
