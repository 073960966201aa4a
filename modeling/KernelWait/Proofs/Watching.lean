import KernelWait.Proofs.Delivery
import KernelWait.Proofs.Glimpse
import KernelWait.Proofs.Notice

/-!
# Calls that wait for what comes

A call that found nothing ready has a ticket for each watch whose name stands for an object. Since then the
objects have been ready for one thing after the other, and what each watch would report if the call
drained now is a matter of the watch and of that alone (`Registry.report`).

**A call that waits reports for each watch the first overlap** with what its object has been ready for
(`Call.Awaits.kept_eq`), and has something to report just when some watch has (`Call.Awaits.anyLatched_iff`).
-/

namespace KernelWait

/-! ## Reports and records -/

namespace Registry

/-- A watch with what it reports if the objects have been ready for these events, one after the other. -/
def report (r : Registry) (seen : Target → List Events) (w : Watch) : Watch :=
  match r.lookup? w.kind w.id with
  | some target => { w with result := w.reportable.firstOverlap (seen target), status := .ok }
  | none => { w with result := ∅, status := .invalidObject }

/-- The record of the ticket for the watch at an index, if the name stands for an object. -/
def record? (r : Registry) (seen : Target → List Events) (p : Watch × Nat) : Option Session.Record :=
  (r.lookup? p.1.kind p.1.id).map fun target =>
    { index := p.2, target := target, interest := p.1.reportable, seen := seen target }

/-- The records of the tickets for the watches, in order. -/
def records (r : Registry) (seen : Target → List Events) (ws : List Watch) : List Session.Record :=
  ws.zipIdx.filterMap (r.record? seen)

variable {r : Registry} {seen : Target → List Events} {w : Watch} {ws : List Watch} {target : Target}

theorem report_of_some (h : r.lookup? w.kind w.id = some target) :
    r.report seen w =
      { w with result := w.reportable.firstOverlap (seen target), status := .ok } := by
  simp only [report, h]

theorem report_of_none (h : r.lookup? w.kind w.id = none) :
    r.report seen w = { w with result := ∅, status := .invalidObject } := by
  simp only [report, h]

/-- A report is the watch as it was looked up, with what has fired. -/
theorem fire_looked (r : Registry) (seen : Target → List Events) (w : Watch) :
    (r.looked w).watch.fire (r.report seen w).result = r.report seen w := by
  rcases hlookup : r.lookup? w.kind w.id with _ | target
  · rw [looked_of_none hlookup, report_of_none hlookup, Watch.fire, Events.union_empty]
    rfl
  · rw [looked_of_some hlookup, report_of_some hlookup, Watch.fire]
    simp only [Watch.reset, Events.empty_union]

/-- While no object has been ready for anything, there is nothing to report. -/
theorem report_nil (r : Registry) (w : Watch) : r.report (fun _ => []) w = (r.looked w).watch := by
  rcases hlookup : r.lookup? w.kind w.id with _ | target
  · rw [looked_of_none hlookup, report_of_none hlookup]
    rfl
  · rw [looked_of_some hlookup, report_of_some hlookup, Events.firstOverlap_nil]
    rfl

theorem isReady_report_iff : (r.report seen w).isReady = true ↔
    ∃ target, r.lookup? w.kind w.id = some target ∧ w.reportable.firstOverlap (seen target) ≠ ∅ := by
  rcases hlookup : r.lookup? w.kind w.id with _ | target
  · rw [report_of_none hlookup]
    simp [Watch.isReady]
  · rw [report_of_some hlookup]
    simp [Watch.isReady]

theorem records_concat_of_some (h : r.lookup? w.kind w.id = some target) (ws : List Watch) :
    r.records seen (ws ++ [w]) = r.records seen ws ++
      [{ index := ws.length, target := target, interest := w.reportable, seen := seen target }] := by
  simp only [records, List.zipIdx_append, List.filterMap_append, List.zipIdx_singleton, record?,
    List.filterMap_cons, List.filterMap_nil, h, Option.map_some, Nat.zero_add]

theorem records_concat_of_none (h : r.lookup? w.kind w.id = none) (ws : List Watch) :
    r.records seen (ws ++ [w]) = r.records seen ws := by
  simp only [records, List.zipIdx_append, List.filterMap_append, List.zipIdx_singleton, record?,
    List.filterMap_cons, List.filterMap_nil, h, Option.map_none, List.append_nil]

theorem length_records_le (r : Registry) (seen : Target → List Events) (ws : List Watch) :
    (r.records seen ws).length ≤ ws.length := by
  have hle := List.length_filterMap_le (r.record? seen) ws.zipIdx
  rwa [List.length_zipIdx] at hle

/-- After one more operation every record has seen what the objects are ready for then. -/
theorem map_see_records (k : Kernel) (ws : List Watch) :
    (r.records seen ws).map (·.see k) =
      r.records (fun target => seen target ++ [k.readiness target]) ws := by
  rw [records, records, List.map_filterMap]
  refine List.filterMap_congr fun p _ => ?_
  rw [record?, record?, Option.map_map]
  rfl

/-- A record is that of a watch whose name stands for an object. -/
theorem exists_mem_records_iff (holds : Target → Events → List Events → Prop) :
    (∃ rec ∈ r.records seen ws, holds rec.target rec.interest rec.seen) ↔
      ∃ w ∈ ws, ∃ target, r.lookup? w.kind w.id = some target ∧
        holds target w.reportable (seen target) := by
  constructor
  · rintro ⟨rec, hrec, hholds⟩
    obtain ⟨⟨w, i⟩, hmem, hsome⟩ := List.mem_filterMap.1 hrec
    obtain ⟨target, hlookup, rfl⟩ := Option.map_eq_some_iff.1 hsome
    exact ⟨w, List.fst_mem_of_mem_zipIdx hmem, target, hlookup, hholds⟩
  · rintro ⟨w, hw, target, hlookup, hholds⟩
    obtain ⟨i, hi⟩ := List.getElem?_of_mem hw
    have hrecord : r.record? seen (w, i) =
        some { index := i, target := target, interest := w.reportable, seen := seen target } := by
      rw [record?, hlookup, Option.map_some]
    exact ⟨_, List.mem_filterMap.2 ⟨(w, i), List.mk_mem_zipIdx_iff_getElem?.2 hi, hrecord⟩, hholds⟩

/-- As long as nothing has come, no ticket has fired. -/
theorem fired_of_mem_records {rec : Session.Record} (h : rec ∈ r.records (fun _ => []) ws) :
    rec.fired = ∅ := by
  obtain ⟨p, -, hsome⟩ := List.mem_filterMap.1 h
  obtain ⟨target, -, rfl⟩ := Option.map_eq_some_iff.1 hsome
  rfl

/-- What is delivered on behalf of an index comes from the record of that index. -/
theorem gathered_deliveries_cons (w : Watch) (ws : List Watch) (n i : Nat) :
    Session.gathered i
      ((((w :: ws).zipIdx n).filterMap (r.record? seen)).filterMap Session.Record.delivery?) =
        (if n = i then (r.report seen w).result else ∅) ∪ Session.gathered i
          (((ws.zipIdx (n + 1)).filterMap (r.record? seen)).filterMap Session.Record.delivery?) := by
  rw [List.zipIdx_cons, List.filterMap_cons]
  rcases hlookup : r.lookup? w.kind w.id with _ | target
  · rw [report_of_none hlookup, ite_self, Events.empty_union]
    simp only [record?, hlookup, Option.map_none]
  · have hrecord : r.record? seen (w, n) =
        some { index := n, target := target, interest := w.reportable, seen := seen target } := by
      rw [record?, hlookup, Option.map_some]
    simp only [report_of_some hlookup, hrecord, List.filterMap_cons]
    rcases hdelivery : Session.Record.delivery?
        { index := n, target := target, interest := w.reportable, seen := seen target } with _ | delivered
    · have hempty : w.reportable.firstOverlap (seen target) = ∅ := by
        rw [Session.Record.delivery?] at hdelivery
        split at hdelivery
        · next hempty => exact hempty
        · cases hdelivery
      rw [hempty, ite_self, Events.empty_union]
    · have hpair : (n, w.reportable.firstOverlap (seen target)) = delivered := by
        rw [Session.Record.delivery?] at hdelivery
        split at hdelivery
        · cases hdelivery
        · exact Option.some.inj hdelivery
      rw [Session.gathered, ← hpair]

theorem gathered_deliveries_of_lt {i n : Nat} (h : i < n) (ws : List Watch) :
    Session.gathered i
      (((ws.zipIdx n).filterMap (r.record? seen)).filterMap Session.Record.delivery?) = ∅ := by
  -- the indices begin at a larger one and grow from there
  induction ws generalizing n with
  | nil => rfl
  | cons w ws ih =>
    rw [gathered_deliveries_cons, if_neg (Nat.ne_of_gt h), Events.empty_union]
    exact ih (Nat.lt_succ_of_lt h)

/-- **What is delivered on behalf of a watch is what it reports.** -/
theorem gathered_deliveries {i : Nat} (hw : ws[i]? = some w) (n : Nat) :
    Session.gathered (n + i)
      (((ws.zipIdx n).filterMap (r.record? seen)).filterMap Session.Record.delivery?) =
        (r.report seen w).result := by
  -- no other watch has the same index, so nothing else is delivered on behalf of it
  induction ws generalizing i n with
  | nil => cases hw
  | cons first ws ih =>
    rw [gathered_deliveries_cons]
    cases i with
    | zero =>
      obtain rfl := Option.some.inj hw
      rw [Nat.add_zero, if_pos rfl, gathered_deliveries_of_lt (Nat.lt_succ_self n), Events.union_empty]
    | succ i =>
      rw [List.getElem?_cons_succ] at hw
      have hne : n ≠ n + (i + 1) := by omega
      have hplace : n + (i + 1) = n + 1 + i := by omega
      rw [if_neg hne, Events.empty_union, hplace]
      exact ih hw (n + 1)

end Registry

/-! ## Tickets that wait -/

/-- What waits for an object is what its queue holds. -/
theorem Kernel.mem_waiting_iff {id : SessionId} {k : Kernel} {target : Target} {p : Nat × Events} :
    p ∈ k.waiting id target ↔ ∃ entry, k.Queued target entry ∧ entry.waker.session = id ∧
      p = (entry.waker.slot, entry.interest) := by
  rcases he : k.registry.get? target with _ | e
  · rw [waiting_of_none he]
    refine ⟨fun h => absurd h List.not_mem_nil, ?_⟩
    rintro ⟨entry, ⟨e, hget, -⟩, -⟩
    cases he.symm.trans hget
  · rw [waiting_of_get? he, WaitQueue.waiting]
    constructor
    · intro h
      obtain ⟨entry, hentry, rfl⟩ := List.mem_map.1 h
      obtain ⟨hmem, hid⟩ := List.mem_filter.1 hentry
      exact ⟨entry, ⟨e, he, hmem⟩, beq_iff_eq.1 hid, rfl⟩
    · rintro ⟨entry, ⟨e', he', hmem⟩, hid, rfl⟩
      obtain rfl := Option.some.inj (he.symm.trans he')
      exact List.mem_map.2 ⟨entry, List.mem_filter.2 ⟨hmem, beq_iff_eq.2 hid⟩, rfl⟩

namespace Session.Traced

variable {log : List Record} {k : Kernel} {s : Session} {n : Notifier} (h : Traced log k s n)

include h

/-- What waits for an object has a slot, and a record that has not fired. -/
theorem record_of_waiting {target : Target} {p : Nat × Events} (hp : p ∈ k.waiting s.id target) :
    p.1 < n.latched.length ∧ ∃ rec ∈ log, rec.target = target ∧ rec.interest = p.2 ∧ rec.fired = ∅ := by
  obtain ⟨entry, hqueued, hid, rfl⟩ := Kernel.mem_waiting_iff.1 hp
  obtain ⟨ticket, hticket, hplace, hinterest⟩ := h.covers target entry hqueued hid
  have hslot := (List.getElem?_eq_some_iff.1 hticket).1
  have hrec : entry.waker.slot < log.length := h.length_eq ▸ hslot
  obtain ⟨token, hticket', htracks⟩ := h.tracks _ _ (List.getElem?_eq_getElem hrec)
  obtain rfl := Option.some.inj (hticket'.symm.trans hticket)
  refine ⟨?_, _, List.getElem_mem hrec, (Prod.mk.inj (Option.some.inj hplace)).1, hinterest, ?_⟩
  · rw [h.room]
    exact Nat.lt_of_lt_of_le hslot h.fits
  · -- a ticket that has fired is gone
    apply Decidable.byContradiction
    intro hfired
    apply htracks.gone hfired target entry hqueued
    rw [← hid]

/-- A record that has not fired is that of a ticket that waits. -/
theorem waiting_of_record {rec : Record} (hrec : rec ∈ log) (hfired : rec.fired = ∅) :
    ∃ slot, (slot, rec.interest) ∈ k.waiting s.id rec.target := by
  obtain ⟨j, hj⟩ := List.getElem?_of_mem hrec
  obtain ⟨token, -, htracks⟩ := h.tracks j rec hj
  obtain ⟨hqueued, -⟩ := htracks.waits hfired
  exact ⟨j, Kernel.mem_waiting_iff.2 ⟨_, hqueued, rfl, rfl⟩⟩

/-- An announcement meets the session if it overlaps with what some ticket still waits for. -/
theorem meets_iff (target : Target) (events : Events) :
    k.meets s.id target events = true ↔
      ∃ rec ∈ log, rec.target = target ∧ rec.fired = ∅ ∧ rec.interest ∩ events ≠ ∅ := by
  rw [Kernel.meets, List.any_eq_true]
  constructor
  · rintro ⟨p, hp, hmet⟩
    obtain ⟨-, rec, hrec, htarget, hinterest, hfired⟩ := h.record_of_waiting hp
    refine ⟨rec, hrec, htarget, hfired, ?_⟩
    rw [hinterest]
    exact bne_iff_ne.1 hmet
  · rintro ⟨rec, hrec, rfl, hfired, hmet⟩
    obtain ⟨slot, hp⟩ := h.waiting_of_record hrec hfired
    exact ⟨_, hp, bne_iff_ne.2 hmet⟩

/-- Something is latched just when some ticket has fired. -/
theorem anyLatched_iff : n.anyLatched = true ↔ ∃ rec ∈ log, rec.fired ≠ ∅ := by
  rw [h.serves.counted.anyLatched_iff]
  constructor
  · rintro ⟨slot, hheld⟩
    obtain ⟨ticket, hticket, -⟩ := h.serves.awaited slot hheld
    have hslot : slot < log.length := h.length_eq ▸ (List.getElem?_eq_some_iff.1 hticket).1
    obtain ⟨token, -, htracks⟩ := h.tracks slot _ (List.getElem?_eq_getElem hslot)
    refine ⟨_, List.getElem_mem hslot, ?_⟩
    rw [← htracks.held]
    exact hheld
  · rintro ⟨rec, hrec, hfired⟩
    obtain ⟨j, hj⟩ := List.getElem?_of_mem hrec
    obtain ⟨token, -, htracks⟩ := h.tracks j rec hj
    refine ⟨j, ?_⟩
    rw [htracks.held]
    exact hfired

/-- A step of the blocked phase leaves the tickets as they are. -/
theorem doze (b : Block) :
    Traced log (s.blockSteps 1 k b).1 s (Block.step s.deadline k.clock.now n b).1 := by
  obtain ⟨hphase, hlatched, hslots⟩ := Block.step_keeps s.deadline k.clock.now n b
  rw [Session.blockSteps_one h.notifier]
  refine h.congr rfl (SessionTable.get?_put_self h.notifier _) ?_ hlatched hslots
  rw [hphase]
  exact h.serves.running

end Session.Traced

/-! ## Calls that wait -/

namespace Call

/-- A call has a ticket for each of its watches whose name stands for an object, and the objects have
been ready for these events since. -/
structure Awaits (reg : Registry) (ws : List Watch) (seen : Target → List Events) (k : Kernel)
    (c : Call) (n : Notifier) : Prop where
  /-- all names are looked up, and nothing else is written -/
  passed : c.passed = ws.map reg.looked
  /-- there is nothing left to look at -/
  ahead : c.ahead = []
  /-- everything that is ready will be reported -/
  collects : c.singleShot = false
  /-- its tickets are those of its watches -/
  traced : Session.Traced (reg.records seen ws) k c.session n

namespace Awaits

variable {reg : Registry} {ws : List Watch} {seen : Target → List Events} {k : Kernel} {c c' : Call}
  {n : Notifier} (h : c.Awaits reg ws seen k n)

include h

theorem anyLatched_iff : n.anyLatched = true ↔ ∃ w ∈ ws, (reg.report seen w).isReady = true := by
  rw [h.traced.anyLatched_iff]
  refine (Registry.exists_mem_records_iff fun _ interest row => interest.firstOverlap row ≠ ∅).trans ?_
  simp only [Registry.isReady_report_iff]

theorem meets_iff (target : Target) (events : Events) :
    k.meets c.session.id target events = true ↔
      ∃ w ∈ ws, reg.lookup? w.kind w.id = some target ∧ w.reportable.firstOverlap (seen target) = ∅ ∧
        w.reportable ∩ events ≠ ∅ := by
  rw [h.traced.meets_iff]
  refine (Registry.exists_mem_records_iff fun target' interest row =>
    target' = target ∧ interest.firstOverlap row = ∅ ∧ interest ∩ events ≠ ∅).trans ?_
  constructor
  · rintro ⟨w, hw, other, hlookup, rfl, hrest⟩
    exact ⟨w, hw, hlookup, hrest⟩
  · rintro ⟨w, hw, hlookup, hrest⟩
    exact ⟨w, hw, target, hlookup, rfl, hrest⟩

/-- **A call that waits reports for each watch what has come for it**, once it drains. -/
theorem kept_eq : c.kept k = ws.map (reg.report seen) := by
  rw [kept, h.collects, if_neg Bool.false_ne_true]
  apply List.ext_getElem?
  intro i
  rw [List.getElem?_map, List.getElem?_map, getElem?_collected, h.traced.drain_fired, slots, h.ahead,
    List.append_nil, h.passed, List.getElem?_map]
  rcases hw : ws[i]? with _ | w
  · rfl
  · have hgathered : Session.gathered (0 + i)
        ((reg.records seen ws).filterMap Session.Record.delivery?) = (reg.report seen w).result :=
      Registry.gathered_deliveries hw 0
    rw [Nat.zero_add] at hgathered
    simp only [Option.map_some, hgathered, Registry.fire_looked]

theorem outcome_eq : c.outcome k =
    if 0 < (ws.map (reg.report seen)).countP Watch.isReady then
      .ok (.ready ((ws.map (reg.report seen)).countP Watch.isReady))
    else if n.interrupted then .error .interrupted
    else .ok .timedOut := by
  rw [outcome, h.kept_eq, h.traced.notifier]
  rfl

/-- Where the call stands makes no difference. -/
theorem move (hpassed : c'.passed = c.passed) (hahead : c'.ahead = c.ahead)
    (hcollects : c'.singleShot = c.singleShot) (hsession : c'.session = c.session) :
    c'.Awaits reg ws seen k n :=
  ⟨hpassed.trans h.passed, hahead.trans h.ahead, hcollects.trans h.collects, hsession ▸ h.traced⟩

/-- Other threads go on, and the objects come to be ready for more. -/
theorem effect {op : Operation} (hbelow : op.Below c.session.id)
    (hspares : ∀ ticket ∈ c.session.tickets, ∀ target token, ticket.place = some (target, token) →
      op ≠ .disenroll target token) :
    ∃ n', c.Awaits reg ws (fun target => seen target ++ [(op.effect k).readiness target])
      (op.effect k) n' := by
  obtain ⟨n', hn'⟩ := h.traced.effect hbelow.foreign hspares
  rw [Registry.map_see_records] at hn'
  exact ⟨n', h.passed, h.ahead, h.collects, hn'⟩

end Awaits

end Call

end KernelWait
