import Mathlib
import KernelWait.Proofs.Transcript

/-!
# The permits of a semaphore

Releases add permits to a semaphore and acquisitions take them away. How many were added and taken can be
told from the transcript (`Object.released`, `Object.acquired`), as integers without bounds; the count
itself is a 32-bit integer that saturates.

**No more is ever acquired than there was at first and was released since** (`Entity.permits_accounted`).
-/

namespace KernelWait

namespace Semaphore

/-- The count saturates instead of wrapping round. -/
theorem toInt_saturatingAdd {a b : Int32} (hb : 0 < b) :
    (saturatingAdd a b).toInt = min (a.toInt + b.toInt) (2 ^ 31 - 1) := by
  have hpos : 0 < b.toInt := Int32.lt_iff_toInt_lt.1 hb
  have hlow := a.le_toInt
  have hhigh := b.toInt_lt
  rw [saturatingAdd, Int32.toInt_maxValue]
  apply Int32.toInt_ofInt_of_le <;> omega

/-- Taking no more than there is does not wrap round. -/
theorem toInt_sub {a b : Int32} (hb : 0 < b) (hle : b ≤ a) : (a - b).toInt = a.toInt - b.toInt := by
  have hpos : 0 < b.toInt := Int32.lt_iff_toInt_lt.1 hb
  have henough : b.toInt ≤ a.toInt := Int32.le_iff_toInt_le.1 hle
  have hhigh := a.toInt_lt
  rw [Int32.toInt_sub]
  apply Int.bmod_eq_of_le <;> omega

end Semaphore

namespace Object

/-- How many permits a semaphore has. -/
def permits : Object → Int
  | .semaphore s => s.count.toInt
  | .endpoint _ | .port _ | .thread _ => 0

/-- How many permits an action has released. -/
def released : Action × ObjectAnswer → Int
  | (.semaphore (.release n), .done) => n.toInt
  | _ => 0

/-- How many permits an action has acquired. -/
def acquired : Action × ObjectAnswer → Int
  | (.semaphore (.acquire n), .done) => n.toInt
  | _ => 0

/-- How many permits were released in a transcript. -/
def releasedIn (log : List (Action × ObjectAnswer)) : Int := (log.map released).sum

/-- How many permits were acquired in a transcript. -/
def acquiredIn (log : List (Action × ObjectAnswer)) : Int := (log.map acquired).sum

theorem releasedIn_concat (log : List (Action × ObjectAnswer)) (entry : Action × ObjectAnswer) :
    releasedIn (log ++ [entry]) = releasedIn log + released entry := by
  rw [releasedIn, List.map_append, List.sum_append, List.map_singleton, List.sum_singleton]
  rfl

theorem acquiredIn_concat (log : List (Action × ObjectAnswer)) (entry : Action × ObjectAnswer) :
    acquiredIn (log ++ [entry]) = acquiredIn log + acquired entry := by
  rw [acquiredIn, List.map_append, List.sum_append, List.map_singleton, List.sum_singleton]
  rfl

theorem permits_le (o : Object) : o.permits ≤ 2 ^ 31 - 1 := by
  cases o with
  | semaphore s =>
    have hhigh := s.count.toInt_lt
    rw [permits]
    omega
  | endpoint | port | thread => exact (by decide : (0 : Int) ≤ 2 ^ 31 - 1)

/-- What one action does to the permits of an object. -/
structure Spends (o : Object) (a : Action) (r : Reaction Object) : Prop where
  /-- releasing adds permits -/
  released : 0 ≤ released (a, r.answer)
  /-- acquiring takes permits -/
  acquired : 0 ≤ acquired (a, r.answer)
  /-- no action does both -/
  either : Object.released (a, r.answer) = 0 ∨ Object.acquired (a, r.answer) = 0
  /-- what is released is added as far as possible, and what is acquired is taken away -/
  permits : r.object.permits =
    min (o.permits + Object.released (a, r.answer)) (2 ^ 31 - 1) - Object.acquired (a, r.answer)
  /-- no more is acquired than there is -/
  covered : 0 < Object.acquired (a, r.answer) → 0 ≤ r.object.permits

/-- An action that leaves the permits as they are. -/
theorem Spends.nothing {o o' : Object} {a : Action} {answer : ObjectAnswer} {announces : Bool}
    (hsame : o'.permits = o.permits) (hreleased : Object.released (a, answer) = 0)
    (hacquired : Object.acquired (a, answer) = 0) : Spends o a ⟨answer, o', announces⟩ where
  released := Int.le_of_eq hreleased.symm
  acquired := Int.le_of_eq hacquired.symm
  either := .inl hreleased
  permits := by
    have hle := o.permits_le
    rw [hsame, hreleased, hacquired]
    omega
  covered hpos := by
    rw [hacquired] at hpos
    cases hpos

theorem Spends.refuse (o : Object) (a : Action) (cause : ObjectError) :
    Spends o a (.refuse o cause) := by
  apply nothing rfl
  · rcases a with _ | ⟨_ | _ | _⟩ | _ | _ <;> rfl
  · rcases a with _ | ⟨_ | _ | _⟩ | _ | _ <;> rfl

theorem spends_semaphore (s : Semaphore) (a : Semaphore.Action) :
    Spends (.semaphore s) (.semaphore a) ((s.perform a).map .semaphore) := by
  cases a with
  | release n =>
    obtain ⟨cause, heq⟩ | ⟨hn, -, heq⟩ := s.release_cases n
    · rw [heq]
      exact .refuse _ _ cause
    · have hpos : 0 < n.toInt := Int32.lt_iff_toInt_lt.1 hn
      rw [heq]
      refine ⟨Int.le_of_lt hpos, Int.le_refl 0, .inr rfl, ?_, fun h => absurd h (Int.lt_irrefl 0)⟩
      exact (Semaphore.toInt_saturatingAdd hn).trans (Int.sub_zero _).symm
  | acquire n =>
    obtain ⟨cause, heq⟩ | ⟨hn, -, hle, heq⟩ := s.acquire_cases n
    · rw [heq]
      exact .refuse _ _ cause
    · have hpos : 0 < n.toInt := Int32.lt_iff_toInt_lt.1 hn
      have henough : n.toInt ≤ s.count.toInt := Int32.le_iff_toInt_le.1 hle
      have hafter : (s.count - n).toInt = s.count.toInt - n.toInt := Semaphore.toInt_sub hn hle
      have hmost := s.count.toInt_lt
      rw [heq]
      refine ⟨Int.le_refl 0, Int.le_of_lt hpos, .inl rfl, ?_, fun _ => ?_⟩
      · change (s.count - n).toInt = min (s.count.toInt + 0) (2 ^ 31 - 1) - n.toInt
        omega
      · change 0 ≤ (s.count - n).toInt
        omega
  | delete =>
    rw [Semaphore.perform]
    split <;> exact .nothing rfl rfl rfl

/-- Only semaphores have permits to spend. -/
theorem spends_perform {o : Object} {a : Action} {r : Reaction Object} (h : o.perform a = some r) :
    Spends o a r := by
  cases o with
  | semaphore s =>
    cases a with
    | semaphore a =>
      cases h
      exact spends_semaphore s a
    | _ => cases h
  | endpoint e =>
    cases a with
    | endpoint a =>
      cases h
      exact .nothing rfl rfl rfl
    | _ => cases h
  | port p =>
    cases a with
    | port a =>
      cases h
      exact .nothing rfl rfl rfl
    | _ => cases h
  | thread t =>
    cases a with
    | thread a =>
      cases h
      exact .nothing rfl rfl rfl
    | _ => cases h

/-- Nothing is released to or acquired from a semaphore that is deleted, whatever the count. -/
theorem refused_of_deleted {s : Semaphore} (h : s.deleted = true) (n : Int32) :
    (∃ cause, s.perform (.release n) = .refuse s cause) ∧
      ∃ cause, s.perform (.acquire n) = .refuse s cause := by
  constructor
  · obtain hrefused | ⟨-, hpresent, -⟩ := s.release_cases n
    · exact hrefused
    · cases h.symm.trans hpresent
  · obtain hrefused | ⟨-, hpresent, -⟩ := s.acquire_cases n
    · exact hrefused
    · cases h.symm.trans hpresent

/-- The permits of a semaphore that is gone stay. -/
theorem permits_of_gone {o : Object} {a : Action} {r : Reaction Object} (h : o.perform a = some r)
    (hgone : o.isGone = true) : r.object.permits = o.permits := by
  cases o with
  | semaphore s =>
    cases a with
    | semaphore a =>
      cases h
      cases a with
      | release n =>
        obtain ⟨cause, heq⟩ := (refused_of_deleted hgone n).1
        rw [heq]
        rfl
      | acquire n =>
        obtain ⟨cause, heq⟩ := (refused_of_deleted hgone n).2
        rw [heq]
        rfl
      | delete =>
        rw [Semaphore.perform]
        split <;> rfl
    | _ => cases h
  | endpoint | port | thread =>
    cases a <;> cases h
    rfl

/-- What a semaphore that had some permits at first has come to after a transcript. -/
structure Accounts (first : Int) (log : List (Action × ObjectAnswer)) (o : Object) : Prop where
  /-- it is a semaphore -/
  kind : o.kind = .semaphore
  /-- there are no more permits than at first and released, less those acquired -/
  bounded : o.permits ≤ first + releasedIn log - acquiredIn log
  /-- there are as many until the count would be too large -/
  exact :
    (∀ earlier, earlier <+: log → first + releasedIn earlier - acquiredIn earlier ≤ 2 ^ 31 - 1) →
    o.permits = first + releasedIn log - acquiredIn log
  /-- whoever acquires has found enough -/
  covered : acquiredIn log = 0 ∨ 0 ≤ o.permits

theorem Accounts.step {first : Int} {log : List (Action × ObjectAnswer)} {o : Object}
    (h : Accounts first log o) {a : Action} {r : Reaction Object} (hperform : o.perform a = some r) :
    Accounts first (log ++ [(a, r.answer)]) r.object := by
  have hspends := spends_perform hperform
  have hreleased := hspends.released
  have hpermits := hspends.permits
  refine ⟨(kind_perform hperform).trans h.kind, ?_, ?_, ?_⟩
  · have hbounded := h.bounded
    rw [releasedIn_concat, acquiredIn_concat]
    omega
  · intro hbelow
    have hexact := h.exact fun earlier hearlier =>
      hbelow earlier (hearlier.trans (List.prefix_append _ _))
    have hnow := hbelow _ (List.prefix_refl _)
    have hmost := o.permits_le
    rw [releasedIn_concat, acquiredIn_concat] at hnow ⊢
    -- one action does not both release and acquire, so the sum is as large before it is reduced
    obtain hnone | hnone := hspends.either <;> omega
  · rw [acquiredIn_concat]
    obtain hnone | hpos := Int.le_iff_eq_or_lt.1 hspends.acquired
    · rw [← hnone, Int.add_zero]
      apply h.covered.imp_right
      intro hcovered
      omega
    · exact .inr (hspends.covered hpos)

end Object

namespace Entity

open Object

/-- How the permits of a semaphore stand after a history, that had some permits before. -/
structure Accounted (first : Int) (e₀ : Entity) (history : List Event) (e : Entity) : Prop where
  /-- no more was acquired than there was at first and was released -/
  covered : acquiredIn (e₀.transcript history) ≤ max 0 (first + releasedIn (e₀.transcript history))
  /-- the count is what that leaves, if it was never too large for a 32-bit integer -/
  exact :
    (∀ earlier, earlier <+: e₀.transcript history →
      first + releasedIn earlier - acquiredIn earlier ≤ 2 ^ 31 - 1) →
    e.object.permits =
      first + releasedIn (e₀.transcript history) - acquiredIn (e₀.transcript history)
  /-- it is never more, and never too large -/
  bounded : e.object.permits ≤ min (2 ^ 31 - 1)
    (first + releasedIn (e₀.transcript history) - acquiredIn (e₀.transcript history))
  /-- a release that is not refused adds to the count as far as possible -/
  released : ∀ n t, (e.act (.semaphore (.release n)) t).2.2 = some .done →
    (e.act (.semaphore (.release n)) t).1.object.permits =
      min (e.object.permits + n.toInt) (2 ^ 31 - 1)
  /-- an acquisition that is not refused takes from the count, which suffices -/
  acquired : ∀ n t, (e.act (.semaphore (.acquire n)) t).2.2 = some .done →
    (e.act (.semaphore (.acquire n)) t).1.object.permits = e.object.permits - n.toInt ∧
      0 ≤ (e.act (.semaphore (.acquire n)) t).1.object.permits
  /-- a count that is not negative never is again -/
  stays : 0 ≤ e.object.permits → ∀ later, 0 ≤ (e.after later).object.permits
  /-- what is refused changes nothing, not even who waits -/
  refused : ∀ a t cause, (e.act a t).2.2 = some (.refused cause) →
    e.act a t = (e, t, some (.refused cause))
  /-- the semaphore is gone once something has deleted it -/
  deleted : e.object.isGone = true ↔ ∃ event ∈ history, event.ends e₀.kind = true
  /-- every release and acquisition is refused from then on -/
  deaf : e.object.isGone = true → ∀ n t,
    (∃ cause, (e.act (.semaphore (.release n)) t).2.2 = some (.refused cause)) ∧
      ∃ cause, (e.act (.semaphore (.acquire n)) t).2.2 = some (.refused cause)
  /-- and the count stays -/
  frozen : e.object.isGone = true → ∀ later, (e.after later).object.permits = e.object.permits

variable {e : Entity}

/-- What an answered action does to the permits. -/
theorem spends_act {a : Object.Action} {t : SessionTable} {answer : ObjectAnswer}
    (h : (e.act a t).2.2 = some answer) :
    ∃ r, e.object.perform a = some r ∧ r.answer = answer ∧ (e.act a t).1.object = r.object ∧
      Spends e.object a r := by
  rw [answer_act, Option.map_eq_some_iff] at h
  obtain ⟨r, hperform, hanswer⟩ := h
  exact ⟨r, hperform, hanswer, object_act hperform t, spends_perform hperform⟩

theorem released_of_act {n : Int32} {t : SessionTable}
    (h : (e.act (.semaphore (.release n)) t).2.2 = some .done) :
    (e.act (.semaphore (.release n)) t).1.object.permits =
      min (e.object.permits + n.toInt) (2 ^ 31 - 1) := by
  obtain ⟨r, -, hanswer, hobject, hspends⟩ := spends_act h
  have hpermits := hspends.permits
  rw [hanswer] at hpermits
  rw [hobject]
  exact hpermits.trans (Int.sub_zero _)

theorem acquired_of_act {n : Int32} {t : SessionTable}
    (h : (e.act (.semaphore (.acquire n)) t).2.2 = some .done) :
    (e.act (.semaphore (.acquire n)) t).1.object.permits = e.object.permits - n.toInt ∧
      0 ≤ (e.act (.semaphore (.acquire n)) t).1.object.permits := by
  obtain ⟨r, hperform, hanswer, hobject, -⟩ := spends_act h
  rw [hobject]
  generalize e.object = o at hperform ⊢
  cases o with
  | semaphore s =>
    cases hperform
    obtain ⟨cause, heq⟩ | ⟨hn, -, hle, heq⟩ := s.acquire_cases n
    · rw [Reaction.answer_map, heq] at hanswer
      cases hanswer
    · have henough : n.toInt ≤ s.count.toInt := Int32.le_iff_toInt_le.1 hle
      have hafter : (s.count - n).toInt = s.count.toInt - n.toInt := Semaphore.toInt_sub hn hle
      rw [Reaction.object_map, heq]
      refine ⟨hafter, ?_⟩
      change 0 ≤ (s.count - n).toInt
      omega
  | endpoint | port | thread => cases hperform

/-- Nothing that is done to a semaphore that is gone but deleting it again succeeds. -/
theorem deaf_of_gone (hkind : e.object.kind = .semaphore) (hgone : e.object.isGone = true) (n : Int32)
    (t : SessionTable) :
    (∃ cause, (e.act (.semaphore (.release n)) t).2.2 = some (.refused cause)) ∧
      ∃ cause, (e.act (.semaphore (.acquire n)) t).2.2 = some (.refused cause) := by
  rw [answer_act, answer_act]
  generalize e.object = o at hkind hgone ⊢
  cases o with
  | semaphore s =>
    obtain ⟨⟨cause, hrelease⟩, ⟨cause', hacquire⟩⟩ := refused_of_deleted hgone n
    rw [perform, perform, hrelease, hacquire]
    exact ⟨⟨cause, rfl⟩, ⟨cause', rfl⟩⟩
  | endpoint | port | thread => cases hkind

/-- A count that is not negative stays so. -/
theorem permits_stay (h : 0 ≤ e.object.permits) (later : List Event) :
    0 ≤ (e.after later).object.permits := by
  refine transcript_induction (motive := fun _ o => 0 ≤ o.permits) e h ?_ later
  intro _ o a r ho hperform
  have hspends := spends_perform hperform
  have hpermits := hspends.permits
  have hreleased := hspends.released
  obtain hnone | hpos := Int.le_iff_eq_or_lt.1 hspends.acquired
  · omega
  · exact hspends.covered hpos

/-- The count of a semaphore that is gone stays for good. -/
theorem permits_frozen (h : e.object.isGone = true) (later : List Event) :
    (e.after later).object.permits = e.object.permits := by
  have hinvariant := transcript_induction
    (motive := fun _ o => o.isGone = true ∧ o.permits = e.object.permits) e ⟨h, rfl⟩ ?_ later
  · exact hinvariant.2
  · rintro _ o a r ⟨hgone, hsame⟩ hperform
    exact ⟨(isGone_perform_iff hperform).2 (.inl hgone), (permits_of_gone hperform hgone).trans hsame⟩

/-- **The permits of a semaphore are accounted for**, whatever its count at first and whatever is done to
it. -/
theorem permits_accounted (count : Int32) (id : ObjectId) (history : List Event) :
    let e₀ : Entity := { id := id, object := .ofBlueprint (.semaphore count) }
    Accounted count.toInt e₀ history (e₀.after history) := by
  intro e₀
  have hstart : Accounts count.toInt [] e₀.object := by
    have hfirst : e₀.object.permits = count.toInt + 0 - 0 := by
      rw [Int.add_zero, Int.sub_zero]
      rfl
    exact ⟨rfl, Int.le_of_eq hfirst, fun _ => hfirst, .inl rfl⟩
  have haccounts : Accounts count.toInt (e₀.transcript history) (e₀.after history).object :=
    transcript_induction e₀ hstart (fun _ _ _ _ h => h.step) history
  have hbounded := haccounts.bounded
  have hmost := (e₀.after history).object.permits_le
  refine ⟨?_, haccounts.exact, ?_, ?_, ?_, permits_stay, ?_, ?_, deaf_of_gone haccounts.kind,
    permits_frozen⟩
  · -- whoever has acquired something has left no debt
    obtain hnone | henough := haccounts.covered <;> omega
  · omega
  · intro n t
    exact released_of_act
  · intro n t
    exact acquired_of_act
  · intro a t cause
    exact act_refused
  · rw [isGone_after_iff]
    exact or_iff_right Bool.false_ne_true

-- what is released beyond the greatest count is lost
example :
    (after { id := 1, object := .ofBlueprint (.semaphore 2147483600) }
        [.act (.semaphore (.release 100)) {}, .act (.semaphore (.acquire 100)) {}]).object.permits =
      2147483547 := by
  decide

end Entity

end KernelWait
