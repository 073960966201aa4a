import KernelWait.Proofs.Reached
import KernelWait.Wait.Step

/-!
# What a session has fired with

Draining withdraws a session's tickets one after the other and takes what each slot holds. Withdrawal
touches no session and taking touches no other slot, so all that is collected can be read off the
notifier before the first ticket leaves (`Session.drain_fired`).

**A watch is written with what its own ticket held**: the events it may fire with are those of the one
ticket that carries its index, and none if there is no such ticket (`Session.gathered_harvest`,
`Session.gathered_harvest_of_not_mem`).
-/

namespace KernelWait

/-! ## Taking from slots -/

namespace Notifier

/-- What a slot holds; there is nothing in a slot that is not there. -/
def held (n : Notifier) (slot : Nat) : Events := (n.latched[slot]?).getD ∅

theorem held_eq {n : Notifier} {slot : Nat} {events : Events} (h : n.latched[slot]? = some events) :
    n.held slot = events := by
  rw [held, h, Option.getD_some]

theorem held_of_none {n : Notifier} {slot : Nat} (h : n.latched[slot]? = none) :
    n.held slot = ∅ := by
  rw [held, h, Option.getD_none]

theorem take_events (n : Notifier) (slot : Nat) : (n.take slot).2 = (n.held slot).truncate := by
  rw [take]
  rcases h : n.latched[slot]? with _ | events
  · rw [held_of_none h]
    rfl
  · rw [held_eq h]

theorem held_take_self (n : Notifier) (slot : Nat) : (n.take slot).1.held slot = ∅ := by
  rw [take]
  rcases h : n.latched[slot]? with _ | events
  · exact held_of_none h
  · have hlt := (List.getElem?_eq_some_iff.1 h).1
    exact held_eq (List.getElem?_set_self hlt)

/-- Taking leaves the other slots alone. -/
theorem held_take_ne {n : Notifier} {slot other : Nat} (hne : other ≠ slot) :
    (n.take slot).1.held other = n.held other := by
  rw [take]
  rcases n.latched[slot]? with _ | events
  · rfl
  · rw [held, held, List.getElem?_set_ne hne.symm]

end Notifier

theorem SessionTable.get?_take_self {t : SessionTable} {w : Waker} {n : Notifier}
    (h : t.get? w.session = some n) :
    (t.take w).1.get? w.session = some (n.take w.slot).1 ∧ (t.take w).2 = (n.take w.slot).2 := by
  rw [take]
  rw [h]
  exact ⟨get?_put_self h _, rfl⟩

/-- Withdrawal touches no session. -/
theorem Ticket.sessions_leave (t : Ticket) (k : Kernel) : (t.leave k).sessions = k.sessions := by
  rw [leave]
  rcases t.place with _ | ⟨target, token⟩
  · rfl
  · simp only [Kernel.disenroll]
    rcases k.registry.get? target with _ | e <;> rfl

/-! ## Collecting -/

namespace Session

/-- What tickets have fired with, from a slot on, by the indices that they carry. -/
def harvest (n : Notifier) : Nat → List Ticket → List (Nat × Events)
  | _, [] => []
  | slot, ticket :: tickets =>
    if (n.held slot).truncate ∩ ticket.interest = ∅ then harvest n (slot + 1) tickets
    else
      (ticket.index, (n.held slot).truncate ∩ ticket.interest) :: harvest n (slot + 1) tickets

/-- What is collected depends on the slots from the first one on. -/
theorem harvest_congr {n n' : Notifier} {slot : Nat} {tickets : List Ticket}
    (h : ∀ j, slot ≤ j → n.held j = n'.held j) : harvest n slot tickets = harvest n' slot tickets := by
  induction tickets generalizing slot with
  | nil => rfl
  | cons ticket tickets ih =>
    simp only [harvest]
    rw [h slot (Nat.le_refl _), ih fun j hj => h j (Nat.le_of_succ_le hj)]

/-- Tickets of slots that hold nothing have fired with nothing. -/
theorem harvest_of_empty {n : Notifier} (h : ∀ slot, n.held slot = ∅) (slot : Nat)
    (tickets : List Ticket) : harvest n slot tickets = [] := by
  induction tickets generalizing slot with
  | nil => rfl
  | cons ticket tickets ih =>
    have hnothing : (n.held slot).truncate ∩ ticket.interest = ∅ := by
      rw [h slot]
      exact Events.empty_inter _
    rw [harvest, if_pos hnothing]
    exact ih (slot + 1)

/-- Collecting yields what the slots held at the start. -/
theorem collect_fired {id : SessionId} {slot : Nat} {tickets : List Ticket} {k : Kernel}
    {n : Notifier} (h : k.sessions.get? id = some n) :
    (collect id slot tickets k).2 = harvest n slot tickets := by
  induction tickets generalizing slot k n with
  | nil => rfl
  | cons ticket tickets ih =>
    have hleft : (ticket.leave k).sessions.get? id = some n := by
      rw [ticket.sessions_leave, h]
    obtain ⟨htaken, hevents⟩ := SessionTable.get?_take_self (w := ⟨id, slot⟩) hleft
    have hrest : harvest (n.take slot).1 (slot + 1) tickets = harvest n (slot + 1) tickets :=
      harvest_congr fun j hj => Notifier.held_take_ne (Nat.ne_of_gt hj)
    simp only [collect]
    rw [ih htaken, hevents, Notifier.take_events, hrest]
    rfl

/-- Moving a session on changes its phase and nothing else. -/
theorem get?_advance {k : Kernel} {s : Session} {n : Notifier} (h : s.notifier? k = some n)
    (phase : Phase) : s.notifier? (s.advance k phase) = some (n.advance phase) := by
  rw [notifier?] at h ⊢
  rw [advance, SessionTable.get?_modify_self, h]
  rfl

/-- A session that its owner aborts is aborted as by any other thread. -/
theorem get?_abort {k : Kernel} {s : Session} {n : Notifier} (h : s.notifier? k = some n) :
    s.notifier? { k with sessions := (k.sessions.abort s.id).1 } = some n.interrupt.1 := by
  rw [notifier?] at h ⊢
  rw [SessionTable.get?_abort_self, h]
  rfl

/-- **Draining yields what the slots held when it began.** -/
theorem drain_fired {k : Kernel} {s : Session} {n : Notifier} (h : s.notifier? k = some n) :
    (s.drain k).2.2 = harvest n 0 s.tickets := by
  simp only [drain, h]
  by_cases hwakes : n.phase.wakes = true
  · rw [if_pos hwakes, collect_fired (get?_advance h .draining)]
    exact harvest_congr fun _ _ => rfl
  · rw [if_neg hwakes, collect_fired h]

/-! ## What a watch gathers -/

/-- All events that were fired on behalf of an index. -/
def gathered (index : Nat) : List (Nat × Events) → Events
  | [] => ∅
  | f :: fired => (if f.1 = index then f.2 else ∅) ∪ gathered index fired

/-- An index that no ticket carries gathers nothing. -/
theorem gathered_harvest_of_not_mem {n : Notifier} {slot index : Nat} {tickets : List Ticket}
    (h : ∀ ticket ∈ tickets, ticket.index ≠ index) :
    gathered index (harvest n slot tickets) = ∅ := by
  induction tickets generalizing slot with
  | nil => rfl
  | cons ticket tickets ih =>
    have hrest : gathered index (harvest n (slot + 1) tickets) = ∅ :=
      ih fun t ht => h t (List.mem_cons_of_mem _ ht)
    rw [harvest]
    split
    · exact hrest
    · rw [gathered, hrest, if_neg (h ticket List.mem_cons_self), Events.union_empty]

/-- An index that one ticket carries gathers what that ticket's slot held. -/
theorem gathered_harvest {n : Notifier} {slot j : Nat} {tickets : List Ticket} {ticket : Ticket}
    (hdistinct : (tickets.map Ticket.index).Nodup) (hj : tickets[j]? = some ticket) :
    gathered ticket.index (harvest n slot tickets) =
      (n.held (slot + j)).truncate ∩ ticket.interest := by
  induction tickets generalizing slot j with
  | nil => cases hj
  | cons first tickets ih =>
    rw [List.map_cons, List.nodup_cons] at hdistinct
    cases j with
    | zero =>
      obtain rfl := Option.some.inj hj
      -- no later ticket carries the same index
      have hrest : gathered first.index (harvest n (slot + 1) tickets) = ∅ :=
        gathered_harvest_of_not_mem fun t ht heq =>
          hdistinct.1 (heq ▸ List.mem_map_of_mem ht)
      rw [harvest]
      by_cases hempty : (n.held slot).truncate ∩ first.interest = ∅
      · rw [if_pos hempty, hrest, Nat.add_zero, hempty]
      · rw [if_neg hempty, gathered, if_pos rfl, hrest, Events.union_empty, Nat.add_zero]
    | succ j =>
      rw [List.getElem?_cons_succ] at hj
      have hne : first.index ≠ ticket.index := fun heq =>
        hdistinct.1 (heq ▸ List.mem_map_of_mem (List.mem_of_getElem? hj))
      have hrest : gathered ticket.index (harvest n (slot + 1) tickets) =
          (n.held (slot + 1 + j)).truncate ∩ ticket.interest := ih hdistinct.2 hj
      have hplace : slot + (j + 1) = slot + 1 + j := by omega
      rw [hplace]
      rw [harvest]
      split
      · exact hrest
      · rw [gathered, if_neg hne, Events.empty_union, hrest]

end Session

namespace Call

/-- Writing down what fired adds to each watch what was fired on its behalf. -/
theorem getElem?_fire (slots : List Slot) (fired : List (Nat × Events)) (i : Nat) :
    (fire slots fired)[i]? = (slots[i]?).map fun slot =>
      { slot with watch := slot.watch.fire (Session.gathered i fired) } := by
  induction fired generalizing slots with
  | nil =>
    have hsame : (fun slot : Slot => { slot with watch := slot.watch.fire ∅ }) = id := by
      funext slot
      rw [Watch.fire, Events.union_empty]
      rfl
    rw [Session.gathered, hsame, Option.map_id]
    rfl
  | cons f fired ih =>
    have hcons : fire slots (f :: fired) =
        fire (slots.modify f.1 fun slot => { slot with watch := slot.watch.fire f.2 }) fired := rfl
    rw [hcons, ih, List.getElem?_modify]
    rcases slots[i]? with _ | slot
    · rfl
    · by_cases hi : f.1 = i
      · simp only [Session.gathered, if_pos hi, Option.map_eq_map, Option.map_some, Watch.fire,
          Events.union_assoc]
      · simp only [Session.gathered, if_neg hi, Option.map_eq_map, Option.map_some, Watch.fire,
          Events.empty_union]

@[simp] theorem length_fire (slots : List Slot) (fired : List (Nat × Events)) :
    (fire slots fired).length = slots.length := by
  induction fired generalizing slots with
  | nil => rfl
  | cons f fired ih => exact (ih _).trans (List.length_modify _ _ _)

end Call

/-! ## Keeping the first -/

namespace Watch

@[simp] theorem length_keepFirst (ws : List Watch) : (keepFirst ws).length = ws.length := by
  induction ws with
  | nil => rfl
  | cons w ws ih =>
    rw [keepFirst]
    split
    · rw [List.length_cons, List.length_map, List.length_cons]
    · rw [List.length_cons, ih, List.length_cons]

/-- Each watch stays as it is or is cleared. -/
theorem getElem?_keepFirst {ws : List Watch} {i : Nat} {w : Watch} (h : ws[i]? = some w) :
    (keepFirst ws)[i]? = some w ∨ (keepFirst ws)[i]? = some w.clear := by
  induction ws generalizing i with
  | nil => cases h
  | cons first ws ih =>
    rw [keepFirst]
    cases i with
    | zero =>
      obtain rfl := Option.some.inj h
      split
      · exact .inl rfl
      · exact .inl rfl
    | succ i =>
      rw [List.getElem?_cons_succ] at h
      split
      · rw [List.getElem?_cons_succ, List.getElem?_map, h]
        exact .inr rfl
      · rw [List.getElem?_cons_succ]
        exact ih h

/-- What is ready at first is kept. -/
theorem exists_ready_keepFirst {ws : List Watch} (h : ∃ w ∈ ws, w.isReady = true) :
    ∃ w ∈ keepFirst ws, w.isReady = true := by
  induction ws with
  | nil => exact absurd h.choose_spec.1 List.not_mem_nil
  | cons first ws ih =>
    rw [keepFirst]
    by_cases hready : first.isReady = true
    · rw [if_pos hready]
      exact ⟨first, List.mem_cons_self, hready⟩
    · rw [if_neg hready]
      obtain ⟨w, hw, hwready⟩ := h
      rcases List.mem_cons.1 hw with rfl | hlater
      · exact absurd hwready hready
      · obtain ⟨kept, hkept, hkeptready⟩ := ih ⟨w, hlater, hwready⟩
        exact ⟨kept, List.mem_cons_of_mem _ hkept, hkeptready⟩

end Watch

end KernelWait
