import KernelWait.Proofs.SignalQueues
import KernelWait.Proofs.Truthfulness

/-!
# The directory

An object is listed when it is created, under its kind and a number of its own, and the entry is taken out
once, by deleting, closing or reaping it. What was created and what was taken out is written down along
a history (`Operation.creates`, `Operation.removes`), and the directory is what is left of the one after the
other.

**The directory accounts for every object**, as long as fewer than 2³² of each kind were created: an object
is found under its own number until it is taken out, and is invalid from then on
(`Operation.directory_accounted`).
-/

namespace KernelWait

/-! ## Names -/

namespace Entity

/-- What an object is listed under. -/
def name (e : Entity) : Kind × ObjectId := (e.kind, e.id)

@[simp] theorem name_happen (e : Entity) (event : Event) : (e.happen event).name = e.name := by
  cases event with
  | act a sessions => exact Prod.ext (e.kind_act a sessions) (e.id_act a sessions)
  | enroll interest waker => rfl
  | disenroll token => rfl

end Entity

namespace Registry

variable {r : Registry}

/-- Numbers are given out by counting, and do not come around before the count does. -/
theorem number_injective (kind : Kind) {m n : Nat} (hm : m < UInt32.size) (hn : n < UInt32.size)
    (h : firstId kind + Int32.ofNat m = firstId kind + Int32.ofNat n) : m = n := by
  rw [Int32.add_right_inj, ← Int32.toBitVec_inj] at h
  have hnat : (BitVec.ofNat 32 m).toNat = (BitVec.ofNat 32 n).toNat := congrArg BitVec.toNat h
  rwa [BitVec.toNat_ofNat, BitVec.toNat_ofNat, Nat.mod_eq_of_lt hm, Nat.mod_eq_of_lt hn] at hnat

/-- In a directory that names nothing twice, what is listed is found. -/
theorem lookup?_iff (h : (r.directory.map Prod.fst).Nodup) (kind : Kind) (id : ObjectId)
    (target : Target) : r.lookup? kind id = some target ↔ ((kind, id), target) ∈ r.directory := by
  rw [lookup?, List.lookup_eq_some_iff]
  constructor
  · rintro ⟨before, after, hsplit, -⟩
    rw [hsplit]
    exact List.mem_append_right _ List.mem_cons_self
  · intro hmem
    obtain ⟨before, after, hsplit⟩ := List.append_of_mem hmem
    rw [hsplit, List.map_append, List.map_cons, List.nodup_append] at h
    exact ⟨before, after, hsplit, fun p hp => bne_iff_ne.2
      (h.2.2 p.1 (List.mem_map_of_mem hp) (kind, id) List.mem_cons_self).symm⟩

theorem resolve_iff (kind : Kind) (id : ObjectId) (target : Target) :
    r.resolve kind id = .ok target ↔ r.lookup? kind id = some target := by
  rw [resolve]
  cases r.lookup? kind id with
  | none =>
    constructor
    · intro h
      cases h
    · intro h
      cases h
  | some found => simp only [Except.ok.injEq, Option.some.injEq]

theorem directory_unlist (r : Registry) (kind : Kind) (id : ObjectId) :
    (r.unlist kind id).directory.map Prod.fst =
      (r.directory.map Prod.fst).filter (· != (kind, id)) := by
  rw [List.filter_map]
  rfl

/-! ## What can be done to a registry -/

/-- What can be done to a registry: what is created, what is taken out of the directory, and the registry
afterwards. -/
inductive Edit (r : Registry) :
    List ((Kind × ObjectId) × Target) → List (Kind × ObjectId) → Registry → Prop where
  /-- nothing -/
  | kept : Edit r [] [] r
  /-- something happens to an object or to its queue -/
  | changed (target : Target) (e : Entity) (event : Entity.Event) (he : r.get? target = some e) :
    Edit r [] [] (r.put target (e.happen event))
  /-- an object is created -/
  | created (o : Object) :
    Edit r [((o.kind, r.nextId o.kind), r.entities.length)] [] (r.create o).1
  /-- an object is taken out and ended -/
  | ended (kind : Kind) (id : ObjectId) (target : Target) (e : Entity) (event : Entity.Event)
      (hlisted : r.lookup? kind id = some target) (he : r.get? target = some e)
      (hends : event.ends e.kind = true) :
    Edit r [] [(kind, id)] ((r.unlist kind id).put target (e.happen event))
  /-- an object that has ended is taken out -/
  | reaped (kind : Kind) (id : ObjectId) (target : Target) (e : Entity)
      (hlisted : r.lookup? kind id = some target) (he : r.get? target = some e)
      (hgone : e.object.isGone = true) :
    Edit r [] [(kind, id)] (r.unlist kind id)

/-- The directory lists objects of the kinds that it says. -/
def Sorted (r : Registry) : Prop :=
  ∀ kind id target, r.lookup? kind id = some target → ∃ e, r.get? target = some e ∧ e.kind = kind

end Registry

namespace Kernel

theorem registry_act {k : Kernel} {target : Target} {e : Entity}
    (he : k.registry.get? target = some e) (a : Object.Action) :
    (k.act target a).1.registry = k.registry.put target (e.happen (.act a k.sessions)) := by
  rw [act, he]
  rfl

/-- A listed object is taken out and ended, and an unknown one is refused. -/
theorem remove_cases {k : Kernel} (hsorted : k.registry.Sorted) (kind : Kind)
    (last : Object.Action) (hends : last.ends = true) (hkind : last.kind = kind) (id : ObjectId) :
    k.remove kind id last = (k, .refused (.notFound id)) ∨
    (k.remove kind id last).2 = .done ∧
      k.registry.Edit [] [(kind, id)] (k.remove kind id last).1.registry := by
  rcases hlookup : k.registry.lookup? kind id with _ | target
  · refine .inl ?_
    rw [remove, Registry.resolve, hlookup]
  · obtain ⟨e, he, hsame⟩ := hsorted kind id target hlookup
    refine .inr ?_
    rw [remove, (Registry.resolve_iff kind id target).2 hlookup]
    refine ⟨rfl, ?_⟩
    have hend : (Entity.Event.act last k.sessions).ends e.kind = true := by
      rw [Entity.Event.ends, hsame, hkind, beq_self_eq_true, hends]
      rfl
    have hact := registry_act (k := { k with registry := k.registry.unlist kind id }) he last
    exact hact ▸ .ended kind id target e (.act last k.sessions) hlookup he hend

/-- A thread that has exited is taken out, and any other is refused. -/
theorem reapThread_cases (k : Kernel) (hsorted : k.registry.Sorted) (id : ObjectId) :
    (∃ cause, k.reapThread id = (k, .error cause)) ∨
    ∃ status, (k.reapThread id).2 = .ok status ∧
      k.registry.Edit [] [(.thread, id)] (k.reapThread id).1.registry := by
  rw [reapThread]
  rcases hlookup : k.registry.lookup? .thread id with _ | target
  · rw [Registry.resolve, hlookup]
    exact .inl ⟨_, rfl⟩
  · rw [(Registry.resolve_iff .thread id target).2 hlookup]
    obtain ⟨⟨number, object, queue⟩, he, hkind⟩ := hsorted .thread id target hlookup
    cases object with
    | thread t =>
      have hstatus : k.exitStatus? target = t.exitStatus := by rw [exitStatus?, he]
      simp only [hstatus]
      rcases hexit : t.exitStatus with _ | status
      · exact .inl ⟨_, rfl⟩
      · refine .inr ⟨status, rfl, .reaped .thread id target _ hlookup he ?_⟩
        simp [Object.isGone, Thread.isAlive, hexit]
    | _ => cases hkind

end Kernel

namespace Operation

/-- What an operation creates: the kind with the number that is answered, and the place. -/
def creates (k : Kernel) : Operation → List ((Kind × ObjectId) × Target)
  | create blueprint =>
    [(((Object.ofBlueprint blueprint).kind, (k.create blueprint).2), k.registry.entities.length)]
  | _ => []

/-- What an operation takes out of the directory, if it is not refused. -/
def removes (k : Kernel) (op : Operation) : List (Kind × ObjectId) :=
  match op, (op.run k).2 with
  | deleteSemaphore id, .object .done => [(.semaphore, id)]
  | deletePort id, .object .done => [(.port, id)]
  | closeEndpoint id, .object .done => [(.endpoint, id)]
  | reapThread id, .status _ => [(.thread, id)]
  | _, _ => []

/-- **Every operation does one of these to the registry.** -/
theorem edit_effect (op : Operation) {k : Kernel} (hsorted : k.registry.Sorted) :
    k.registry.Edit (op.creates k) (op.removes k) (op.effect k).registry := by
  cases op with
  | create blueprint => exact .created (.ofBlueprint blueprint)
  | act target action =>
    simp only [effect_act, creates, removes]
    rcases he : k.registry.get? target with _ | e
    · rw [Kernel.act, he]
      exact .kept
    · rw [Kernel.registry_act he]
      exact .changed target e _ he
  | enroll target interest waker =>
    simp only [effect, run, Kernel.enroll, creates, removes]
    rcases he : k.registry.get? target with _ | e
    · exact .kept
    · exact .changed target e (.enroll interest waker) he
  | disenroll target token =>
    simp only [effect, run, Kernel.disenroll, creates, removes]
    rcases he : k.registry.get? target with _ | e
    · exact .kept
    · exact .changed target e (.disenroll token) he
  | deleteSemaphore id =>
    simp only [effect, run, Kernel.deleteSemaphore, creates, removes]
    obtain hsame | ⟨hdone, hedit⟩ := Kernel.remove_cases hsorted .semaphore (.semaphore .delete) rfl rfl id
    · rw [hsame]
      exact .kept
    · rw [hdone]
      exact hedit
  | deletePort id =>
    simp only [effect, run, Kernel.deletePort, creates, removes]
    obtain hsame | ⟨hdone, hedit⟩ := Kernel.remove_cases hsorted .port (.port .close) rfl rfl id
    · rw [hsame]
      exact .kept
    · rw [hdone]
      exact hedit
  | closeEndpoint id =>
    simp only [effect, run, Kernel.closeEndpoint, creates, removes]
    obtain hsame | ⟨hdone, hedit⟩ := Kernel.remove_cases hsorted .endpoint (.endpoint .close) rfl rfl id
    · rw [hsame]
      exact .kept
    · rw [hdone]
      exact hedit
  | exitThread id status =>
    have heffect : (effect k (.exitThread id status)).registry =
        (k.exitThread id status).1.registry := rfl
    simp only [heffect, Kernel.kernel_exitThread, creates, removes]
    rcases k.registry.resolve .thread id with cause | target
    · exact .kept
    · rcases he : k.registry.get? target with _ | e
      · simp only [Kernel.act, he]
        exact .kept
      · simp only [Kernel.registry_act he]
        exact .changed target e _ he
  | reapThread id =>
    simp only [effect, run, creates, removes]
    obtain ⟨cause, hsame⟩ | ⟨status, hdone, hedit⟩ := k.reapThread_cases hsorted id
    · rw [hsame]
      exact .kept
    · rw [hdone]
      exact hedit
  | send sender receiver signal =>
    have heffect : (effect k (.send sender receiver signal)).registry = k.registry :=
      k.registry_send sender receiver signal
    rw [heffect]
    exact .kept
  | block thread signal =>
    have heffect : (effect k (.block thread signal)).registry = k.registry :=
      k.registry_block thread signal
    rw [heffect]
    exact .kept
  | unblock thread signal =>
    have heffect : (effect k (.unblock thread signal)).registry = k.registry :=
      k.registry_unblock thread signal
    rw [heffect]
    exact .kept
  | take thread | clear thread | cleanup thread | register thread session | unregister thread
  | tell | elapse nanos => exact .kept

end Operation

/-! ## The books of a registry -/

namespace Registry

/-- A registry agrees with what was created and what was taken out so far. -/
structure Books (created : List ((Kind × ObjectId) × Target)) (removed : List (Kind × ObjectId))
    (r : Registry) : Prop where
  /-- the objects stand in the order of their creation, each under its own name -/
  names : r.entities.map Entity.name = created.map Prod.fst
  /-- and the place of each is how many there were before it -/
  places : created.map Prod.snd = List.range created.length
  /-- numbers were given out by counting the objects of a kind -/
  numbered : ∀ p ∈ created, ∃ n, n < created.countP (·.1.1 == p.1.1) ∧
    p.1.2 = firstId p.1.1 + Int32.ofNat n
  /-- no name was given out twice -/
  distinct : (created.map Prod.fst).Nodup
  /-- what is listed was created -/
  listed : ∀ p ∈ r.directory, p ∈ created
  /-- what was created is listed or was taken out, once -/
  whole : (created.map Prod.fst).Perm (r.directory.map Prod.fst ++ removed)
  /-- what was taken out has ended -/
  gone : ∀ p ∈ created, p.1 ∈ removed → ∃ e, r.get? p.2 = some e ∧ e.object.isGone = true
  /-- nobody waits for what an object is ready for -/
  settled : ∀ target e, r.get? target = some e → e.queue.DisjointFrom e.readiness

variable {created : List ((Kind × ObjectId) × Target)} {removed : List (Kind × ObjectId)}

theorem Books.empty : Books [] [] {} where
  names := rfl
  places := rfl
  numbered _ h := nomatch h
  distinct := List.nodup_nil
  listed _ h := nomatch h
  whole := .refl _
  gone _ h := nomatch h
  settled _ _ h := nomatch h

namespace Books

variable (h : Books created removed r)

include h

theorem nodup : (r.directory.map Prod.fst ++ removed).Nodup := h.whole.nodup_iff.1 h.distinct

theorem lookup_iff (kind : Kind) (id : ObjectId) (target : Target) :
    r.lookup? kind id = some target ↔ ((kind, id), target) ∈ r.directory :=
  lookup?_iff (List.nodup_append.1 h.nodup).1 kind id target

/-- What was created is listed until it is taken out. -/
theorem mem_directory_iff (p : (Kind × ObjectId) × Target) :
    p ∈ r.directory ↔ p ∈ created ∧ p.1 ∉ removed := by
  obtain ⟨-, -, hapart⟩ := List.nodup_append.1 h.nodup
  constructor
  · intro hp
    exact ⟨h.listed p hp, fun hgone => hapart p.1 (List.mem_map_of_mem hp) p.1 hgone rfl⟩
  · rintro ⟨hp, hkept⟩
    have hname : p.1 ∈ r.directory.map Prod.fst ++ removed :=
      h.whole.mem_iff.1 (List.mem_map_of_mem hp)
    obtain ⟨q, hq, hsame⟩ := List.mem_map.1 ((List.mem_append.1 hname).resolve_right hkept)
    have hqp : q = p := List.inj_on_of_nodup_map h.distinct (h.listed q hq) hp hsame
    exact hqp ▸ hq

/-- What was created is at its place, under its name. -/
theorem get?_of_created {p : (Kind × ObjectId) × Target} (hp : p ∈ created) :
    ∃ e, r.get? p.2 = some e ∧ e.name = p.1 := by
  obtain ⟨i, hi, hget⟩ := List.getElem_of_mem hp
  have hplace : p.2 = i := by
    have hmap : (created.map Prod.snd)[i]? = some p.2 := by
      rw [List.getElem?_map, List.getElem?_eq_getElem hi, hget]
      rfl
    rw [h.places, List.getElem?_range hi] at hmap
    exact (Option.some.inj hmap).symm
  have hname : (r.entities.map Entity.name)[i]? = some p.1 := by
    rw [h.names, List.getElem?_map, List.getElem?_eq_getElem hi, hget]
    rfl
  rw [List.getElem?_map, Option.map_eq_some_iff] at hname
  exact hplace ▸ hname

theorem sorted : r.Sorted := by
  intro kind id target hlookup
  obtain ⟨e, he, hname⟩ := h.get?_of_created (h.listed _ ((h.lookup_iff kind id target).1 hlookup))
  exact ⟨e, he, congrArg Prod.fst hname⟩

/-- Only the counts of objects decide the next number. -/
theorem countP_created (kind : Kind) :
    r.entities.countP (·.kind == kind) = created.countP (·.1.1 == kind) := by
  have hentities := List.countP_map (p := fun name : Kind × ObjectId => name.1 == kind)
    (f := Entity.name) (l := r.entities)
  have hcreated := List.countP_map (p := fun name : Kind × ObjectId => name.1 == kind)
    (f := Prod.fst) (l := created)
  rw [h.names] at hentities
  exact hentities.symm.trans hcreated

theorem length_entities : r.entities.length = created.length := by
  rw [← List.length_map (f := Entity.name), h.names, List.length_map]

/-- The next number of a kind counts what was created of it. -/
theorem nextId_eq (kind : Kind) :
    r.nextId kind = firstId kind + Int32.ofNat (created.countP (·.1.1 == kind)) := by
  rw [nextId, h.countP_created]

/-- What was taken out was created. -/
theorem mem_created_of_removed {name : Kind × ObjectId} (hname : name ∈ removed) :
    name ∈ created.map Prod.fst :=
  h.whole.mem_iff.2 (List.mem_append_right _ hname)

/-- As long as there are numbers enough, the next one is new. -/
theorem fresh_name {kind : Kind} (hroom : created.countP (·.1.1 == kind) < UInt32.size) :
    (kind, r.nextId kind) ∉ created.map Prod.fst := by
  intro hmem
  obtain ⟨p, hp, hname⟩ := List.mem_map.1 hmem
  obtain ⟨n, hless, hnumber⟩ := h.numbered p hp
  have hkind : p.1.1 = kind := congrArg Prod.fst hname
  have hid : p.1.2 = r.nextId kind := congrArg Prod.snd hname
  rw [hkind] at hless hnumber
  rw [hid, h.nextId_eq] at hnumber
  exact Nat.ne_of_gt hless (number_injective kind hroom (Nat.lt_trans hless hroom) hnumber)

/-- Something that happens to an object leaves the books in order. -/
theorem put {target : Target} {e : Entity} (he : r.get? target = some e) (event : Entity.Event) :
    Books created removed (r.put target (e.happen event)) where
  names := by
    obtain ⟨hlt, hget⟩ := List.getElem?_eq_some_iff.1 he
    have hplace : target < (r.entities.map Entity.name).length := by rwa [List.length_map]
    have hname : (r.entities.map Entity.name)[target] = e.name := by
      rw [List.getElem_map, hget]
    rw [Registry.put, List.map_set, Entity.name_happen, ← hname, List.set_getElem_self]
    exact h.names
  places := h.places
  numbered := h.numbered
  distinct := h.distinct
  listed := h.listed
  whole := h.whole
  gone p hp hremoved := by
    obtain ⟨e', he', hgone⟩ := h.gone p hp hremoved
    by_cases hsame : p.2 = target
    · rw [hsame] at he' ⊢
      obtain rfl := Option.some.inj (he.symm.trans he')
      exact ⟨_, get?_put_self he _, (Entity.isGone_happen_iff e event).2 (.inl hgone)⟩
    · exact ⟨e', (get?_put_ne hsame r _).trans he', hgone⟩
  settled other e' he' := by
    by_cases hsame : other = target
    · subst hsame
      rw [get?_put_self he] at he'
      obtain rfl := Option.some.inj he'
      exact Entity.disjointFrom_happen (h.settled other e he) event
    · exact h.settled other e' ((get?_put_ne hsame r _).symm.trans he')

/-- An object that has ended is taken out. -/
theorem unlist {kind : Kind} {id : ObjectId} {target : Target} {e : Entity}
    (hlisted : r.lookup? kind id = some target) (he : r.get? target = some e)
    (hgone : e.object.isGone = true) :
    Books created (removed ++ [(kind, id)]) (r.unlist kind id) where
  names := h.names
  places := h.places
  numbered := h.numbered
  distinct := h.distinct
  listed p hp := h.listed p (List.mem_filter.1 hp).1
  whole := by
    have hmem : (kind, id) ∈ r.directory.map Prod.fst :=
      List.mem_map_of_mem ((h.lookup_iff kind id target).1 hlisted)
    have hleft : ((kind, id) :: (r.unlist kind id).directory.map Prod.fst).Perm
        (r.directory.map Prod.fst) := by
      rw [directory_unlist, ← (List.nodup_append.1 h.nodup).1.erase_eq_filter]
      exact (List.perm_cons_erase hmem).symm
    calc (created.map Prod.fst).Perm (r.directory.map Prod.fst ++ removed) := h.whole
      (r.directory.map Prod.fst ++ removed).Perm
          ((kind, id) :: (r.unlist kind id).directory.map Prod.fst ++ removed) :=
        hleft.symm.append_right _
      ((kind, id) :: (r.unlist kind id).directory.map Prod.fst ++ removed).Perm
          ((r.unlist kind id).directory.map Prod.fst ++ removed ++ [(kind, id)]) :=
        (List.perm_append_singleton _ _).symm
      _ = (r.unlist kind id).directory.map Prod.fst ++ (removed ++ [(kind, id)]) :=
        List.append_assoc _ _ _
  gone p hp hremoved := by
    rcases List.mem_append.1 hremoved with hold | hnew
    · exact h.gone p hp hold
    · have hlast : ((kind, id), target) ∈ created :=
        h.listed _ ((h.lookup_iff kind id target).1 hlisted)
      obtain rfl := List.inj_on_of_nodup_map h.distinct hp hlast (List.mem_singleton.1 hnew)
      exact ⟨e, he, hgone⟩
  settled := h.settled

/-- A new object displaces nothing. -/
theorem directory_create (o : Object) (hroom : created.countP (·.1.1 == o.kind) < UInt32.size) :
    (r.create o).1.directory = ((o.kind, r.nextId o.kind), r.entities.length) :: r.directory := by
  have hkeep : r.directory.filter (·.1 != (o.kind, r.nextId o.kind)) = r.directory := by
    refine List.filter_eq_self.2 fun p hp => bne_iff_ne.2 fun hname => ?_
    exact h.fresh_name hroom (hname ▸ List.mem_map_of_mem (h.listed p hp))
  exact congrArg (((o.kind, r.nextId o.kind), r.entities.length) :: ·) hkeep

/-- An object is created. -/
theorem create (o : Object) (hroom : created.countP (·.1.1 == o.kind) < UInt32.size) :
    Books (created ++ [((o.kind, r.nextId o.kind), r.entities.length)]) removed (r.create o).1 where
  names := by
    rw [List.map_append, ← h.names]
    exact List.map_append
  places := by
    rw [List.map_append, List.map_singleton, h.places, h.length_entities, List.length_append,
      List.length_singleton, List.range_succ]
  numbered p hp := by
    rw [List.countP_append]
    rcases List.mem_append.1 hp with hold | hnew
    · obtain ⟨n, hless, hnumber⟩ := h.numbered p hold
      exact ⟨n, Nat.lt_of_lt_of_le hless (Nat.le_add_right _ _), hnumber⟩
    · have hkind : p.1.1 = o.kind := by rw [List.mem_singleton.1 hnew]
      have hid : p.1.2 = r.nextId o.kind := by rw [List.mem_singleton.1 hnew]
      rw [hkind, hid, List.countP_singleton, beq_self_eq_true, if_pos rfl]
      exact ⟨_, Nat.lt_succ_self _, h.nextId_eq o.kind⟩
  distinct := by
    rw [List.map_append, List.nodup_append]
    refine ⟨h.distinct, List.nodup_singleton _, fun name hname new hnew => ?_⟩
    obtain rfl := List.mem_singleton.1 hnew
    rintro rfl
    exact h.fresh_name hroom hname
  listed p hp := by
    rw [h.directory_create o hroom] at hp
    rcases List.mem_cons.1 hp with rfl | hold
    · exact List.mem_append_right _ (List.mem_singleton.2 rfl)
    · exact List.mem_append_left _ (h.listed p hold)
  whole := by
    rw [h.directory_create o hroom, List.map_append]
    exact (List.perm_append_singleton _ _).trans (h.whole.cons _)
  gone p hp hremoved := by
    rcases List.mem_append.1 hp with hold | hnew
    · obtain ⟨e, he, hgone⟩ := h.gone p hold hremoved
      exact ⟨e, get?_append rfl he, hgone⟩
    · obtain rfl := List.mem_singleton.1 hnew
      exact absurd (h.mem_created_of_removed hremoved) (h.fresh_name hroom)
  settled target e he := by
    rcases get?_append_cases rfl he with hold | ⟨-, rfl⟩
    · exact h.settled target e hold
    · exact fun _ hentry => absurd hentry List.not_mem_nil

/-- **The books stay in order**, whatever is done to the registry, as long as there are numbers enough. -/
theorem edit {new : List ((Kind × ObjectId) × Target)} {taken : List (Kind × ObjectId)}
    {r' : Registry} (hedit : r.Edit new taken r')
    (hroom : ∀ kind, (created ++ new).countP (·.1.1 == kind) < UInt32.size) :
    Books (created ++ new) (removed ++ taken) r' := by
  cases hedit with
  | kept =>
    rw [List.append_nil, List.append_nil]
    exact h
  | changed target e event he =>
    rw [List.append_nil, List.append_nil]
    exact h.put he event
  | created o =>
    rw [List.append_nil]
    refine h.create o (Nat.lt_of_le_of_lt ?_ (hroom o.kind))
    rw [List.countP_append]
    exact Nat.le_add_right _ _
  | ended kind id target e event hlisted he hends =>
    rw [List.append_nil]
    have hstays : (r.put target (e.happen event)).lookup? kind id = some target := hlisted
    exact (h.put he event).unlist hstays (get?_put_self he _)
      ((Entity.isGone_happen_iff e event).2 (.inr hends))
  | reaped kind id target e hlisted he hgone =>
    rw [List.append_nil]
    exact h.unlist hlisted he hgone

end Books

end Registry

/-! ## Whole histories -/

namespace Operation

/-- **The books of the registry are in order after every history.** -/
theorem booked_registry {k : Kernel} (hfresh : k.registry = {}) (ops : List Operation)
    (hroom : ∀ kind, (history creates k ops).countP (·.1.1 == kind) < UInt32.size) :
    (runAll k ops).registry.Books (history creates k ops) (history removes k ops) := by
  induction ops using List.reverseRecOn with
  | nil => exact hfresh ▸ Registry.Books.empty
  | append_singleton ops op ih =>
    rw [history_concat] at hroom
    have hbefore : (runAll k ops).registry.Books (history creates k ops) (history removes k ops) :=
      ih fun kind => by
        have hall := hroom kind
        rw [List.countP_append] at hall
        exact Nat.lt_of_le_of_lt (Nat.le_add_right _ _) hall
    rw [history_concat, history_concat, runAll_append, runAll_cons, runAll_nil]
    exact hbefore.edit (op.edit_effect hbefore.sorted) hroom

/-- The directory of a kernel, after a history that began without any object. -/
structure DirectoryAccounted (k₀ : Kernel) (ops : List Operation) (k : Kernel) : Prop where
  /-- no number of a kind is given out twice -/
  distinct : ((history creates k₀ ops).map Prod.fst).Nodup
  /-- what is listed is an object under its own kind and number -/
  own : ∀ kind id target, ((kind, id), target) ∈ k.registry.directory →
    ∃ e, k.registry.get? target = some e ∧ e.kind = kind ∧ e.id = id
  /-- creating an object displaces none that is listed -/
  spared : ∀ earlier blueprint later, ops = earlier ++ .create blueprint :: later →
    (runAll k₀ (earlier ++ [.create blueprint])).registry.directory =
      creates (runAll k₀ earlier) (.create blueprint) ++ (runAll k₀ earlier).registry.directory
  /-- a name is resolved just when an object was created under it and was not taken out, and to that
  object -/
  found : ∀ kind id target, k.registry.resolve kind id = .ok target ↔
    ((kind, id), target) ∈ history creates k₀ ops ∧ (kind, id) ∉ history removes k₀ ops
  /-- any other name is not found -/
  refused : ∀ kind id cause, k.registry.resolve kind id = .error cause → cause = .notFound id
  /-- what is deleted, closed or reaped was created, and no object is so twice -/
  once : (history removes k₀ ops).Nodup ∧
    ∀ name ∈ history removes k₀ ops, name ∈ (history creates k₀ ops).map Prod.fst
  /-- an object that is not listed any more is invalid and nothing else, and nobody waits for that -/
  gone : ∀ kind id target, ((kind, id), target) ∈ history creates k₀ ops →
    k.registry.resolve kind id ≠ .ok target →
      ∃ e, k.registry.get? target = some e ∧ e.readiness = .invalid ∧
        e.queue.DisjointFrom .invalid
  /-- what is listed and what was taken out make up what was created -/
  counted : k.registry.count + (history removes k₀ ops).length = (history creates k₀ ops).length

/-- **The directory accounts for every object**, whatever is done, by and to whichever objects, from the
start on, as long as fewer than 2³² of each kind are created. -/
theorem directory_accounted (signals : SignalTable) (sessions : SessionTable) (clock : Clock)
    (ops : List Operation)
    (hroom : ∀ kind, (history creates { signals := signals, sessions := sessions, clock := clock }
      ops).countP (·.1.1 == kind) < UInt32.size) :
    let k₀ : Kernel := { signals := signals, sessions := sessions, clock := clock }
    DirectoryAccounted k₀ ops (runAll k₀ ops) := by
  intro k₀
  have hbooks := booked_registry (k := k₀) rfl ops hroom
  have hfound : ∀ kind id target, (runAll k₀ ops).registry.resolve kind id = .ok target ↔
      ((kind, id), target) ∈ history creates k₀ ops ∧ (kind, id) ∉ history removes k₀ ops := by
    intro kind id target
    rw [Registry.resolve_iff, hbooks.lookup_iff, hbooks.mem_directory_iff]
  exact {
    distinct := hbooks.distinct
    own := fun kind id target hlisted => by
      obtain ⟨e, he, hname⟩ := hbooks.get?_of_created (hbooks.listed _ hlisted)
      exact ⟨e, he, congrArg Prod.fst hname, congrArg Prod.snd hname⟩
    spared := fun earlier blueprint later hops => by
      subst hops
      have hbefore : ∀ kind, (history creates k₀ earlier).countP (·.1.1 == kind) < UInt32.size := by
        intro kind
        refine Nat.lt_of_le_of_lt ?_ (hroom kind)
        rw [history_append, List.countP_append]
        exact Nat.le_add_right _ _
      rw [runAll_append, runAll_cons, runAll_nil]
      exact (booked_registry (k := k₀) rfl earlier hbefore).directory_create
        (.ofBlueprint blueprint) (hbefore _)
    found := hfound
    refused := fun kind id cause h => by
      rw [Registry.resolve] at h
      split at h
      · cases h
      · exact (Except.error.inj h).symm
    once := ⟨(List.nodup_append.1 hbooks.nodup).2.1, fun _ => hbooks.mem_created_of_removed⟩
    gone := fun kind id target hcreated hlost => by
      rw [ne_eq, hfound, not_and, not_not] at hlost
      obtain ⟨e, he, hgone⟩ := hbooks.gone _ hcreated (hlost hcreated)
      have hinvalid : e.readiness = .invalid := Object.readiness_of_gone hgone
      exact ⟨e, he, hinvalid, hinvalid ▸ hbooks.settled target e he⟩
    counted := by
      have hlength := hbooks.whole.length_eq
      rw [List.length_map, List.length_append, List.length_map] at hlength
      exact hlength.symm }

/-- The first semaphore is marked as gone behind the back of the directory and is found all the same, until it
is deleted, which happens once. The thread is reaped once it has exited, and then no more. A waiter at the
endpoint waits for nothing any more when that is closed, and numbers go on where they were. -/
theorem directory_accounted_mixed :
    let clock : Clock := { now := 0, horizon := 1000 }
    let k₀ : Kernel := { signals := {}, sessions := {}, clock := clock }
    let opening : List Operation :=
      [.create (.semaphore 1), .create (.port 2), .create (.thread "worker"), .create (.endpoint 4),
        .act 0 (.semaphore .delete), .enroll 3 (.read ∪ .invalid) ⟨0, 0⟩]
    let ops := opening ++
      [.deleteSemaphore 1, .deleteSemaphore 1, .reapThread 1, .exitThread 1 7, .reapThread 1,
        .reapThread 1, .closeEndpoint 3, .create (.semaphore 0)]
    (∀ kind, (history creates k₀ ops).countP (·.1.1 == kind) < UInt32.size) ∧
      (runAll k₀ opening).registry.resolve .semaphore 1 = .ok 0 ∧
      history removes k₀ ops = [(.semaphore, 1), (.thread, 1), (.endpoint, 3)] ∧
      (runAll k₀ ops).registry.resolve .semaphore 1 ≠ .ok 0 ∧
      (runAll k₀ ops).registry.resolve .semaphore 2 = .ok 4 ∧
      (∃ e, (runAll k₀ ops).registry.get? 3 = some e ∧ e.readiness = .invalid ∧
        e.queue.DisjointFrom .invalid) ∧
      (runAll k₀ ops).registry.count = 2 := by
  intro clock k₀ opening ops
  have hroom : ∀ kind, (history creates k₀ ops).countP (·.1.1 == kind) < UInt32.size := by
    intro kind
    cases kind <;> decide
  have hbegun : ∀ kind, (history creates k₀ opening).countP (·.1.1 == kind) < UInt32.size := by
    intro kind
    cases kind <;> decide
  have hopening := directory_accounted {} {} clock opening hbegun
  have h := directory_accounted {} {} clock ops hroom
  have hremoved : history removes k₀ ops = [(.semaphore, 1), (.thread, 1), (.endpoint, 3)] := by decide
  have hlost : ∀ kind id target, (kind, id) ∈ history removes k₀ ops →
      (runAll k₀ ops).registry.resolve kind id ≠ .ok target :=
    fun kind id target hgone hfound => ((h.found kind id target).1 hfound).2 hgone
  exact ⟨hroom, (hopening.found .semaphore 1 0).2 (by decide), hremoved,
    hlost .semaphore 1 0 (by decide), (h.found .semaphore 2 4).2 (by decide),
    h.gone .endpoint 3 3 (by decide) (hlost .endpoint 3 3 (by decide)),
    Nat.add_right_cancel (hremoved ▸ h.counted)⟩

end Operation

end KernelWait
