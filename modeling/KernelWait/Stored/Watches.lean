import KernelWait.Statistics
import KernelWait.Stored.Basic
import KernelWait.Wait.Entry

/-!
# Stored watches, entries and counters

The stored forms of what goes into a wait call and what comes out of it. Sets of events and of
flags are stored as text; raw entries are stored as the words they are.
-/

namespace KernelWait

instance : Stored Kind := .byName Kind.name Kind.ofName?

instance : Stored Status := .byName Status.name Status.ofName?

instance : Stored Events where
  toJson e := .text (String.ofList e.text)
  ofJson? j := j.text?.bind fun text => Events.ofText? text.toList

instance : Stored Flags where
  toJson f := .text (String.ofList f.text)
  ofJson? j := j.text?.bind fun text => Flags.ofText? text.toList

instance : Stored Watch where
  toJson w := .record
    [("object_type", Stored.toJson w.kind), ("object_id", Stored.toJson w.id),
      ("requested_events", Stored.toJson w.requested), ("result_events", Stored.toJson w.result),
      ("status", Stored.toJson w.status)]
  ofJson? j := do
    let [kind, id, requested, result, status] ← j.fields?
      ["object_type", "object_id", "requested_events", "result_events", "status"] | none
    return ⟨← Stored.ofJson? kind, ← Stored.ofJson? id, ← Stored.ofJson? requested,
      ← Stored.ofJson? result, ← Stored.ofJson? status⟩

instance : Stored Outcome where
  toJson
    | .ready count => .tag "outcome" "count" "ready" (Stored.toJson count)
    | .timedOut => .tag "outcome" "count" "timed_out" none
  ofJson? j :=
    match j.tagged? "outcome" "count" with
    | some ("ready", content) => Stored.filled? Outcome.ready content
    | some ("timed_out", content) => Stored.bare? .timedOut content
    | _ => none

instance : Stored RawEntry where
  toJson e := .record
    [("object", Stored.toJson e.object), ("object_type", Stored.toJson e.kindCode),
      ("events", Stored.toJson e.events)]
  ofJson? j := do
    let [object, code, events] ← j.fields? ["object", "object_type", "events"] | none
    return ⟨← Stored.ofJson? object, ← Stored.ofJson? code, ← Stored.ofJson? events⟩

instance : Stored Statistics where
  toJson s := .record
    [("calls", Stored.toJson s.calls), ("immediate", Stored.toJson s.immediate),
      ("blocked", Stored.toJson s.blocked), ("ready", Stored.toJson s.ready),
      ("timeouts", Stored.toJson s.timeouts), ("interrupts", Stored.toJson s.interrupts),
      ("invalid_descriptors", Stored.toJson s.invalidEntries),
      ("no_valid_targets", Stored.toJson s.noValidTargets)]
  ofJson? j := do
    let [calls, immediate, blocked, ready, timeouts, interrupts, invalid, noValid] ← j.fields?
      ["calls", "immediate", "blocked", "ready", "timeouts", "interrupts", "invalid_descriptors",
        "no_valid_targets"] | none
    return ⟨← Stored.ofJson? calls, ← Stored.ofJson? immediate, ← Stored.ofJson? blocked,
      ← Stored.ofJson? ready, ← Stored.ofJson? timeouts, ← Stored.ofJson? interrupts,
      ← Stored.ofJson? invalid, ← Stored.ofJson? noValid⟩

end KernelWait
