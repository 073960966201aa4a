import KernelWait.Wait.Entry
import KernelWait.Wait.Run

/-!
# The wait system call

The two forms in which threads call a multiplexed wait: one over typed watches, and one over entries
as they lie in the caller's memory, which answers with a single number. Both take the timeout as
flags and a value.

**A raw call is the typed call over its known entries**, with the results written back by position
(`System.waitRaw`).
-/

namespace KernelWait

/-! ## The typed form -/

/-- The request for a wait whose timeout is given by flags and a value. -/
def Request.ofFlags (thread : ThreadId) (watches : List Watch) (flags : Flags) (value : Int64) :
    Except WaitError Request :=
  match Timeout.ofFlags flags value with
  | .error cause => .error cause
  | .ok timeout =>
    .ok { thread := thread, watches := watches, flags := flags \ .timeoutKinds, timeout := timeout }

/-- Begins a typed call. -/
def System.enter (s : System) (thread : ThreadId) (watches : List Watch) (flags : Flags)
    (value : Int64) : System × Progress :=
  match Request.ofFlags thread watches flags value with
  | .error cause => (s, .returned ⟨.error cause, watches⟩)
  | .ok request => s.begin request

/-- Makes a typed call until it sleeps or returns. -/
def System.wait (s : System) (thread : ThreadId) (watches : List Watch) (flags : Flags)
    (value : Int64) : System × Progress :=
  match s.enter thread watches flags value with
  | (s', .running c) => s'.resume c
  | returned => returned

/-! ## The raw form -/

/-- What a raw caller asks for. -/
structure RawRequest where
  /-- the calling thread -/
  thread : ThreadId
  /-- the entries -/
  entries : List RawEntry
  /-- the flags, as a word -/
  flags : UInt32
  /-- the timeout value -/
  timeout : Int64
  deriving DecidableEq, Repr

/-- What a raw caller gets back. -/
structure RawReply where
  /-- the number of ready entries, or a negative number for a refusal -/
  code : Int
  /-- the entries with their results -/
  entries : List RawEntry
  deriving DecidableEq, Repr

/-- A raw call in progress. -/
structure RawCall where
  /-- the caller's entries -/
  entries : List RawEntry
  /-- the watches they stand for -/
  decoded : List (Option Watch)
  /-- the call over those watches -/
  call : Call

/-- How far a raw call has come. -/
inductive RawProgress where
  /-- it is still in progress -/
  | running (call : RawCall)
  /-- it has returned -/
  | returned (reply : RawReply)

/-- The number that a system call returns for an answer. -/
def returnCode : Except WaitError Outcome → Int
  | .ok outcome => outcome.readyCount
  | .error cause => cause.errno

namespace RawRequest

/-- The flags and the watches of a raw request. The flags are looked at first, then the timeout, the
number of entries, and the entries. -/
def decode (s : System) (r : RawRequest) : Except WaitError (Flags × List (Option Watch)) :=
  match Flags.decode r.flags with
  | .error cause => .error cause
  | .ok flags =>
    match Timeout.ofFlags flags r.timeout with
    | .error cause => .error cause
    | .ok _ =>
      match s.countRefusal? r.entries.length with
      | some cause => .error cause
      | none =>
        match decodeEntries r.entries with
        | .error cause => .error cause
        | .ok decoded => .ok (flags, decoded)

end RawRequest

/-- The reply to a raw call, from the reply to the call over its watches. -/
def RawReply.of (entries : List RawEntry) (decoded : List (Option Watch)) (reply : Reply) :
    RawReply :=
  { code := returnCode reply.answer, entries := writeBack entries decoded reply.watches }

/-- The progress of a raw call, from that of the call over its watches. -/
def RawProgress.of (entries : List RawEntry) (decoded : List (Option Watch)) :
    Progress → RawProgress
  | .running call => .running ⟨entries, decoded, call⟩
  | .returned reply => .returned (.of entries decoded reply)

namespace System

/-- Begins a raw call. Entries of unknown kind are counted as invalid; if there are no others the call
ends there. -/
def enterRaw (s : System) (r : RawRequest) : System × RawProgress :=
  match r.decode s with
  | .error cause => (s, .returned ⟨cause.errno, r.entries⟩)
  | .ok (flags, decoded) =>
    let watches := decoded.filterMap id
    let unknown := decoded.length - watches.length
    let counted := { s with stats := s.stats.recordMany .invalidEntries unknown }
    if watches.isEmpty then
      ((counted.record .calls).record .noValidTargets,
        .returned ⟨(WaitError.noValidTargets r.entries.length).errno,
          r.entries.map RawEntry.markInvalid⟩)
    else
      let (s', progress) := counted.enter r.thread watches flags r.timeout
      (s', .of r.entries decoded progress)

/-- Lets a sleeping raw call go on, until it sleeps again or returns. -/
def resumeRaw (s : System) (c : RawCall) : System × RawProgress :=
  let (s', progress) := s.resume c.call
  (s', .of c.entries c.decoded progress)

/-- Makes a raw call until it sleeps or returns. -/
def waitRaw (s : System) (r : RawRequest) : System × RawProgress :=
  match s.enterRaw r with
  | (s', .running c) => s'.resumeRaw c
  | returned => returned

/-- Lets a raw call that nobody disturbs any more run to its end, if it has one. -/
def finishRaw (s : System) : RawProgress → System × RawProgress
  | .returned reply => (s, .returned reply)
  | .running c =>
    let (s', progress) := s.finish (.running c.call)
    (s', .of c.entries c.decoded progress)

end System

end KernelWait
