import KernelWait.Object.Reaction
import KernelWait.Signal.Basic
import KernelWait.Stored.Basic

/-!
# Stored signals and messages

The stored forms of what threads send each other. A signal is stored by its name.
-/

namespace KernelWait

instance : Stored Signal := .byName Signal.name Signal.ofName?

instance : Stored PendingSignal where
  toJson p := .record
    [("signal", Stored.toJson p.signal), ("sender", Stored.toJson p.sender),
      ("timestamp", Stored.toJson p.timestamp)]
  ofJson? j := do
    let [signal, sender, timestamp] ← j.fields? ["signal", "sender", "timestamp"] | none
    return ⟨← Stored.ofJson? signal, ← Stored.ofJson? sender, ← Stored.ofJson? timestamp⟩

instance : Stored SignalStats where
  toJson s := .record
    [("total_signals_sent", Stored.toJson s.sent),
      ("total_signals_delivered", Stored.toJson s.delivered),
      ("waits_interrupted", Stored.toJson s.interrupted),
      ("pending_signals", Stored.toJson s.pending)]
  ofJson? j := do
    let [sent, delivered, interrupted, pending] ← j.fields?
      ["total_signals_sent", "total_signals_delivered", "waits_interrupted", "pending_signals"]
      | none
    return ⟨← Stored.ofJson? sent, ← Stored.ofJson? delivered, ← Stored.ofJson? interrupted,
      ← Stored.ofJson? pending⟩

instance : Stored Message where
  toJson m := .record [("code", Stored.toJson m.code), ("data", Stored.toJson m.data)]
  ofJson? j := do
    let [code, data] ← j.fields? ["code", "data"] | none
    return ⟨← Stored.ofJson? code, ← Stored.ofJson? data⟩

end KernelWait
