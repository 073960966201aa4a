import KernelWait.Proofs.Reasons

/-!
# The vigil of a blocked thread

A blocked thread looks for a reason to go on, waits for its event if there is none, and looks again.
Meanwhile other threads latch events for it, abort it or expire it, and time passes (`Vigil.turn`).
Nothing is taken out of a slot before the thread drains its session.

**A blocked thread never waits when it has a reason to go on, and waits once at most**
(`Vigil.waits_once`). An undisturbed one ends at its deadline at the latest (`Session.block_undisturbed`).
-/

namespace KernelWait

/-! ## Keeping the vigil -/

/-- A thread in its blocked phase. -/
structure Vigil where
  /-- the notifier of its session -/
  notifier : Notifier
  /-- where the thread stands -/
  block : Block := .looking
  /-- the present moment -/
  now : Moment
  /-- how often the thread has begun to wait for its event -/
  waits : Nat := 0
  deriving DecidableEq, Repr

namespace Vigil

/-- What happens beside a blocked thread. -/
inductive Deed where
  /-- another thread does something to its notifier -/
  | touch (t : Notifier.Touch)
  /-- so many nanoseconds pass -/
  | elapse (nanos : Nat)
  deriving DecidableEq, Repr

/-- A thread that begins to block. -/
def start (n : Notifier) (now : Moment) : Vigil := { notifier := n.advance .blocked, now := now }

/-- One turn of a blocked thread, or of those beside it. -/
def turn (deadline : Deadline) (v : Vigil) : Turn Deed → Vigil
  | .own =>
    let (n, b) := Block.step deadline v.now v.notifier v.block
    { v with
      notifier := n
      block := b
      waits := if v.block = .looking ∧ b = .parked then v.waits + 1 else v.waits }
  | .other (.touch t) => { v with notifier := v.notifier.touch t }
  | .other (.elapse nanos) => { v with now := v.now + nanos }

/-- A blocked thread after the turns of a schedule. -/
def play (deadline : Deadline) (v : Vigil) (schedule : List (Turn Deed)) : Vigil :=
  schedule.foldl (turn deadline) v

/-- What is done to the notifier of a blocked thread in a schedule. -/
def touches (schedule : List (Turn Deed)) : List Notifier.Touch :=
  schedule.filterMap fun
    | .other (.touch t) => some t
    | _ => none

theorem play_append (deadline : Deadline) (v : Vigil) (earlier later : List (Turn Deed)) :
    play deadline v (earlier ++ later) = play deadline (play deadline v earlier) later :=
  List.foldl_append

theorem touches_append (earlier later : List (Turn Deed)) :
    touches (earlier ++ later) = touches earlier ++ touches later :=
  List.filterMap_append

theorem touches_touch (t : Notifier.Touch) (schedule : List (Turn Deed)) :
    touches (.other (.touch t) :: schedule) = t :: touches schedule := rfl

/-- All that is done in a schedule leaves what is latched in its slot, and the session short of
draining. -/
def Early (schedule : List (Turn Deed)) : Prop := ∀ t ∈ touches schedule, t.early = true

theorem early_touch_iff (t : Notifier.Touch) (schedule : List (Turn Deed)) :
    Early (.other (.touch t) :: schedule) ↔ t.early = true ∧ Early schedule :=
  List.forall_mem_cons

theorem early_append_iff (earlier later : List (Turn Deed)) :
    Early (earlier ++ later) ↔ Early earlier ∧ Early later := by
  rw [Early, touches_append]
  exact List.forall_mem_append

/-- What a turn of its own makes of a blocked thread. -/
inductive Own (deadline : Deadline) (v : Vigil) : Vigil → Prop where
  /-- it finds a reason to go on -/
  | found (verdict : Verdict) (hblock : v.block = .looking)
      (hverdict : v.notifier.verdict? = some verdict) :
      Own deadline v { v with block := .finished verdict }
  /-- it finds none and begins to wait -/
  | parked (hblock : v.block = .looking) (hverdict : v.notifier.verdict? = none) :
      Own deadline v { v with block := .parked, waits := v.waits + 1 }
  /-- a signal ends its wait -/
  | woken (hblock : v.block = .parked) (hsignaled : v.notifier.event.signaled = true) :
      Own deadline v { v with block := .looking, notifier := { v.notifier with event := ⟨false⟩ } }
  /-- the deadline ends its wait -/
  | expired (hblock : v.block = .parked) (hsilent : v.notifier.event.signaled = false)
      (hpassed : deadline.hasPassed v.now = true) :
      Own deadline v { v with block := .looking, notifier := v.notifier.expire.1 }
  /-- it goes on waiting -/
  | asleep (hblock : v.block = .parked) (hsilent : v.notifier.event.signaled = false)
      (hpassed : deadline.hasPassed v.now = false) : Own deadline v v
  /-- it is done -/
  | ended (verdict : Verdict) (hblock : v.block = .finished verdict) : Own deadline v v

theorem own_turn (deadline : Deadline) (v : Vigil) : Own deadline v (v.turn deadline .own) := by
  obtain ⟨n, b, now, waits⟩ := v
  cases b with
  | looking =>
    rw [turn]
    simp only [Block.step]
    rcases hverdict : n.verdict? with _ | verdict
    · exact .parked rfl hverdict
    · exact .found verdict rfl hverdict
  | parked =>
    rw [turn]
    simp only [Block.step, WakeEvent.poll]
    by_cases hsignaled : n.event.signaled = true
    · rw [if_pos hsignaled]
      exact .woken rfl hsignaled
    · rw [if_neg hsignaled]
      rw [Bool.not_eq_true] at hsignaled
      by_cases hpassed : deadline.hasPassed now = true
      · rw [if_pos hpassed]
        exact .expired rfl hsignaled hpassed
      · rw [if_neg hpassed]
        exact .asleep rfl hsignaled (Bool.not_eq_true _ ▸ hpassed)
  | finished verdict => exact .ended verdict rfl

/-- What holds of a blocked thread at every turn. -/
structure Kept (slots : Nat) (deadline : Deadline) (done : List Notifier.Touch) (v : Vigil) :
    Prop where
  /-- its session is tended -/
  tended : v.notifier.Tended slots deadline v.now done
  /-- it is told of a reason to go on while it waits -/
  told : v.block = .parked → v.notifier.HasReason → v.notifier.event.signaled = true
  /-- it has waited once at most -/
  once : v.waits ≤ 1
  /-- it comes back from a wait with a reason to go on -/
  back : v.block = .looking → v.waits = 0 ∨ v.notifier.HasReason

namespace Kept

variable {slots : Nat} {deadline : Deadline} {done : List Notifier.Touch} {v : Vigil}

theorem start {n : Notifier} {now : Moment} (h : n.Tended slots deadline now done) :
    Kept slots deadline done (start n now) where
  tended := h.blocked
  told hparked := by cases hparked
  once := Nat.zero_le 1
  back _ := .inl rfl

theorem own (h : Kept slots deadline done v) {v' : Vigil} (hown : Own deadline v v') :
    Kept slots deadline done v' := by
  cases hown with
  | found verdict hblock hverdict => exact ⟨h.tended, nofun, h.once, nofun⟩
  | parked hblock hverdict =>
    rw [Notifier.verdict?_eq_none_iff] at hverdict
    refine ⟨h.tended, fun _ hreason => absurd hreason hverdict, ?_, nofun⟩
    -- it has not waited before, since it would have come back with a reason
    obtain hfirst | hreason := h.back hblock
    · exact Nat.le_of_eq (congrArg (· + 1) hfirst)
    · exact absurd hreason hverdict
  | woken hblock hsignaled =>
    have hreason := h.tended.reason hsignaled
    exact ⟨h.tended.woken, nofun, h.once, fun _ => .inr hreason⟩
  | expired hblock hsilent hpassed =>
    obtain ⟨htended, hset⟩ := h.tended.expire hpassed
    exact ⟨htended, nofun, h.once, fun _ => .inr (.inr (.inr hset))⟩
  | asleep | ended => exact h

theorem touch (h : Kept slots deadline done v) {t : Notifier.Touch} (hearly : t.early = true) :
    Kept slots deadline (done ++ [t]) (v.turn deadline (.other (.touch t))) := by
  have hwakes := h.tended.wakes
  have hcounted := h.tended.counted
  refine ⟨h.tended.touch hearly, ?_, h.once, ?_⟩
  · intro hparked hreason
    obtain ⟨hsignaled, -⟩ | ⟨hsame, hbefore⟩ := Notifier.signaled_touch hearly hwakes hcounted
    · exact hsignaled
    · exact (congrArg WakeEvent.signaled hsame).trans (h.told hparked (hbefore hreason))
  · intro hlooking
    apply (h.back hlooking).imp_right
    intro hreason
    exact hreason.touch hearly hwakes hcounted

theorem elapse (h : Kept slots deadline done v) (nanos : Nat) :
    Kept slots deadline done (v.turn deadline (.other (.elapse nanos))) :=
  ⟨h.tended.later (Nat.le_add_right _ nanos), h.told, h.once, h.back⟩

/-- The invariant holds at every turn. -/
theorem play (h : Kept slots deadline done v) {schedule : List (Turn Deed)}
    (hearly : Early schedule) :
    Kept slots deadline (done ++ touches schedule) (v.play deadline schedule) := by
  induction schedule generalizing done v with
  | nil => exact (List.append_nil done).symm ▸ h
  | cons first schedule ih =>
    rcases first with ⟨t | nanos⟩ | -
    · rw [early_touch_iff] at hearly
      rw [touches_touch, List.append_cons]
      exact ih (h.touch hearly.1) hearly.2
    · exact ih (h.elapse nanos) hearly
    · exact ih (h.own (own_turn deadline v)) hearly

end Kept

/-! ## The end of the vigil -/

variable {slots : Nat} {deadline : Deadline} {done : List Notifier.Touch} {v : Vigil}

/-- A thread that is done stays so. -/
theorem finished_turn {w : Verdict} (h : v.block = .finished w) (t : Turn Deed) :
    (v.turn deadline t).block = .finished w := by
  rcases t with ⟨t | nanos⟩ | -
  · exact h
  · exact h
  · have hown := own_turn deadline v
    generalize v.turn deadline .own = v' at hown
    cases hown with
    | ended => exact h
    | found _ hblock | parked hblock | woken hblock | expired hblock | asleep hblock =>
      cases h.symm.trans hblock

theorem finished_play {w : Verdict} (h : v.block = .finished w) (schedule : List (Turn Deed)) :
    (v.play deadline schedule).block = .finished w := by
  induction schedule generalizing v with
  | nil => exact h
  | cons t schedule ih => exact ih (finished_turn h t)

/-- A thread is done from the turn on at which it found its verdict, which was right then. -/
theorem Kept.fits (h : Kept slots deadline done v) (hlooking : v.block = .looking)
    {schedule : List (Turn Deed)} (hearly : Early schedule) {w : Verdict}
    (hfinished : (v.play deadline schedule).block = .finished w) :
    ∃ earlier later, schedule = earlier ++ .own :: later ∧
      (v.play deadline earlier).block = .looking ∧
      w.Fits slots deadline (v.play deadline earlier).now (done ++ touches earlier) := by
  induction schedule using List.reverseRecOn with
  | nil => cases hlooking.symm.trans hfinished
  | append_singleton schedule t ih =>
    have hsooner := ((early_append_iff _ _).1 hearly).1
    by_cases hbefore : (v.play deadline schedule).block = .finished w
    · obtain ⟨earlier, later, rfl, hrest⟩ := ih hsooner hbefore
      refine ⟨earlier, later ++ [t], ?_, hrest⟩
      rw [List.append_assoc, List.cons_append]
    · rw [play_append] at hfinished
      have hkept := h.play hsooner
      generalize hv : v.play deadline schedule = v₁ at hfinished hbefore hkept
      rcases t with ⟨t | nanos⟩ | -
      · exact absurd hfinished hbefore
      · exact absurd hfinished hbefore
      · have hown := own_turn deadline v₁
        change (v₁.turn deadline .own).block = .finished w at hfinished
        generalize v₁.turn deadline .own = v₂ at hown hfinished
        cases hown with
        | found verdict hblock hverdict =>
          obtain rfl := Block.finished.inj hfinished
          subst hv
          exact ⟨schedule, [], rfl, hblock, hkept.tended.fits hverdict⟩
        | parked | woken | expired => cases hfinished
        | asleep | ended => exact absurd hfinished hbefore

/-- As many turns of its own as a thread still makes when it has a reason to go on, or its deadline has
passed. -/
def turnsLeft (v : Vigil) : Nat :=
  match v.block with
  | .finished _ => 0
  | .parked => 2
  | .looking => if v.notifier.verdict? = none then 3 else 1

theorem turnsLeft_le (v : Vigil) : v.turnsLeft ≤ 3 := by
  rw [turnsLeft]
  split
  · decide
  · decide
  · split <;> decide

theorem turnsLeft_looking (hblock : v.block = .looking) (hreason : v.notifier.HasReason) :
    v.turnsLeft = 1 := by
  have hverdict : v.notifier.verdict? ≠ none := by
    intro hnone
    exact v.notifier.verdict?_eq_none_iff.1 hnone hreason
  rw [turnsLeft, hblock]
  exact if_neg hverdict

/-- A thread that comes back from its wait with a reason to go on is closer to its end. -/
theorem turnsLeft_back {v' : Vigil} (hblock : v.block = .parked) (hlooking : v'.block = .looking)
    (hreason : v'.notifier.HasReason) : v'.turnsLeft < v.turnsLeft := by
  rw [turnsLeft_looking hlooking hreason, turnsLeft, hblock]
  exact Nat.lt_succ_self 1

/-- Something ends the wait of the thread, if it waits. -/
def Stirred (deadline : Deadline) (v : Vigil) : Prop :=
  v.notifier.HasReason ∨ deadline.hasPassed v.now = true

/-- **Every turn of its own brings a thread closer to its end**, once something ends its wait. -/
theorem Stirred.own (h : Stirred deadline v) (hkept : Kept slots deadline done v) {v' : Vigil}
    (hown : Own deadline v v') (hrunning : ∀ w, v.block ≠ .finished w) :
    Stirred deadline v' ∧ v'.turnsLeft < v.turnsLeft := by
  cases hown with
  | found verdict hblock hverdict =>
    refine ⟨h, ?_⟩
    rw [turnsLeft, turnsLeft, hblock]
    exact Nat.lt_of_lt_of_eq Nat.zero_lt_one (if_neg (hverdict ▸ Option.some_ne_none _)).symm
  | parked hblock hverdict =>
    refine ⟨h, ?_⟩
    rw [turnsLeft, turnsLeft, hblock]
    exact Nat.lt_of_lt_of_eq (Nat.lt_succ_self 2) (if_pos hverdict).symm
  | woken hblock hsignaled =>
    have hreason := hkept.tended.reason hsignaled
    exact ⟨.inl hreason, turnsLeft_back hblock rfl hreason⟩
  | expired hblock hsilent hpassed =>
    have hreason : v.notifier.expire.1.HasReason := .inr (.inr (hkept.tended.expire hpassed).2)
    exact ⟨.inl hreason, turnsLeft_back hblock rfl hreason⟩
  | asleep hblock hsilent hpassed =>
    obtain hreason | hpassed' := h
    · cases hsilent.symm.trans (hkept.told hblock hreason)
    · cases hpassed.symm.trans hpassed'
  | ended verdict hblock => exact absurd hblock (hrunning verdict)

/-- Nobody who tells a thread of something delays it. -/
theorem Stirred.touch (h : Stirred deadline v) (hkept : Kept slots deadline done v)
    {t : Notifier.Touch} (hearly : t.early = true) :
    Stirred deadline (v.turn deadline (.other (.touch t))) ∧
      (v.turn deadline (.other (.touch t))).turnsLeft ≤ v.turnsLeft := by
  have hkeeps (hreason : v.notifier.HasReason) : (v.notifier.touch t).HasReason :=
    hreason.touch hearly hkept.tended.wakes hkept.tended.counted
  refine ⟨h.imp_left hkeeps, ?_⟩
  rcases hblock : v.block with _ | _ | w
  · by_cases hreason : v.notifier.HasReason
    · rw [turnsLeft_looking hblock hreason]
      exact Nat.le_of_eq (turnsLeft_looking hblock (hkeeps hreason))
    · have hmost : v.turnsLeft = 3 := by
        rw [turnsLeft, hblock]
        exact if_pos (v.notifier.verdict?_eq_none_iff.2 hreason)
      rw [hmost]
      exact turnsLeft_le _
  · apply Nat.le_of_eq
    rw [turnsLeft, turnsLeft, turn, hblock]
  · apply Nat.le_of_eq
    rw [turnsLeft, turnsLeft, turn, hblock]

theorem Stirred.elapse (h : Stirred deadline v) (nanos : Nat) :
    Stirred deadline (v.turn deadline (.other (.elapse nanos))) :=
  h.imp_right fun hpassed => Deadline.hasPassed_mono hpassed (Nat.le_add_right _ _)

theorem count_other (deed : Deed) (schedule : List (Turn Deed)) :
    (.other deed :: schedule).count .own = schedule.count .own := by
  have hother : Turn.other deed ≠ .own := by rintro ⟨⟩
  exact List.count_cons_of_ne hother

/-- **A thread that something stirs is done in time**, whatever happens beside it. -/
theorem Stirred.returns (h : Stirred deadline v) (hkept : Kept slots deadline done v)
    {schedule : List (Turn Deed)} (hearly : Early schedule)
    (hturns : v.turnsLeft ≤ schedule.count .own) :
    ∃ w, (v.play deadline schedule).block = .finished w := by
  -- only turns of its own count, and nothing beside it adds to those that it still needs
  induction schedule generalizing done v with
  | nil =>
    have hnone : v.turnsLeft = 0 := Nat.le_zero.1 hturns
    rw [turnsLeft] at hnone
    split at hnone
    · next w hblock => exact ⟨w, hblock⟩
    · cases hnone
    · split at hnone <;> cases hnone
  | cons first schedule ih =>
    rcases first with ⟨t | nanos⟩ | -
    · obtain ⟨hfirst, hrest⟩ := (early_touch_iff t schedule).1 hearly
      obtain ⟨hstirred, hleft⟩ := h.touch hkept hfirst
      rw [count_other] at hturns
      exact ih hstirred (hkept.touch hfirst) hrest (Nat.le_trans hleft hturns)
    · rw [count_other] at hturns
      exact ih (h.elapse nanos) (hkept.elapse nanos) hearly hturns
    · rw [List.count_cons_self] at hturns
      by_cases hdone : ∃ w, v.block = .finished w
      · obtain ⟨w, hblock⟩ := hdone
        exact ⟨w, finished_play hblock _⟩
      · have hown := own_turn deadline v
        obtain ⟨hstirred, hleft⟩ := h.own hkept hown fun w hblock => hdone ⟨w, hblock⟩
        have hfewer := Nat.le_of_lt_succ (Nat.lt_of_lt_of_le hleft hturns)
        exact ih hstirred (hkept.own hown) hearly hfewer

/-! ## Waiting once -/

/-- How a thread blocks whose session has seen some touches before. -/
structure Brief (slots : Nat) (deadline : Deadline) (before : List Notifier.Touch) (v₀ : Vigil)
    (schedule : List (Turn Deed)) (v : Vigil) : Prop where
  /-- there is a reason to go on once a slot is filled, or the session aborted or expired -/
  reasons : (∃ t ∈ before ++ touches schedule, t.Fills slots) ∨
    .mark .aborted ∈ before ++ touches schedule ∨ .mark .expired ∈ before ++ touches schedule →
    v.notifier.HasReason
  /-- a pending signal means that there is a reason to go on -/
  signaled : v.notifier.event.signaled = true → v.notifier.HasReason
  /-- a thread that looks does not begin to wait if there is a reason to go on -/
  awake : v.block = .looking → v.notifier.HasReason →
    ∃ w, (v.turn deadline .own).block = .finished w
  /-- the wait of a thread that has begun to is over as soon as there is a reason to go on -/
  woken : v.block = .parked → v.notifier.HasReason →
    v.notifier.event.poll deadline v.now = some (⟨false⟩, .signaled)
  /-- it waits once at most -/
  once : v.waits ≤ 1
  /-- it is done when it has looked again, whatever has ended its wait -/
  back : v.block = .looking → v.waits = 1 → ∃ w, (v.turn deadline .own).block = .finished w
  /-- its verdict is right at the turn that it is given at -/
  fits : ∀ w, v.block = .finished w → ∃ earlier later, schedule = earlier ++ .own :: later ∧
    (v₀.play deadline earlier).block = .looking ∧
    w.Fits slots deadline (v₀.play deadline earlier).now (before ++ touches earlier)
  /-- it is done in time if there is a reason to go on or its deadline has passed -/
  returns : v.notifier.HasReason ∨ deadline.hasPassed v.now = true →
    ∀ later, Early later → 3 ≤ later.count .own →
    ∃ w, (v.play deadline later).block = .finished w

/-- **A blocked thread waits once at most**, and never when it has a reason to go on, whatever was done
to its session before and is done meanwhile. -/
theorem waits_once {slots : Nat} {n₀ : Notifier} (hnew : Notifier.new? slots = .ok n₀)
    {before : List Notifier.Touch} (hbefore : ∀ t ∈ before, t.early = true) (deadline : Deadline)
    (now : Moment) {schedule : List (Turn Deed)} (hearly : Early schedule) :
    Brief slots deadline before (start (n₀.touchAll before) now) schedule
      ((start (n₀.touchAll before) now).play deadline schedule) := by
  have hstart := Kept.start (Notifier.Tended.touchAll hnew hbefore deadline now)
  have hkept := hstart.play hearly
  have htended := hkept.tended
  generalize hv : (start (n₀.touchAll before) now).play deadline schedule = v at hkept htended
  have hawake (hlooking : v.block = .looking) (hreason : v.notifier.HasReason) :
      ∃ w, (v.turn deadline .own).block = .finished w := by
    obtain ⟨w, hverdict⟩ := hreason.verdict?
    refine ⟨w, ?_⟩
    rw [turn, hlooking, Block.step_looking_of_verdict hverdict]
  refine ⟨?_, htended.reason, hawake, ?_, hkept.once, ?_, ?_, ?_⟩
  · rintro (hfills | haborted | hexpired)
    · exact .inl (htended.latched.2 hfills)
    · exact .inr (.inl (htended.aborted.2 haborted))
    · exact .inr (.inr (htended.expired hexpired))
  · intro hparked hreason
    exact if_pos (hkept.told hparked hreason)
  · intro hlooking hwaited
    obtain hfirst | hreason := hkept.back hlooking
    · cases hfirst.symm.trans hwaited
    · exact hawake hlooking hreason
  · intro w hfinished
    exact hstart.fits rfl hearly (hv ▸ hfinished)
  · intro hstirred later hlater hturns
    exact Stirred.returns hstirred hkept hlater (Nat.le_trans v.turnsLeft_le hturns)

/-- A thread is aborted in its sleep, and something is latched for it before it looks. -/
theorem waits_once_overtaken :
    let n₀ : Notifier := { latched := [∅, ∅] }
    let before : List Notifier.Touch := [.advance .enrolling, .latch 5 .read, .latch 0 ∅]
    let schedule : List (Turn Deed) :=
      [.own, .other (.elapse 2), .other (.touch (.mark .aborted)), .own,
        .other (.touch (.latch 1 ⟨0x2000⟩)), .own, .other (.touch (.mark .expired))]
    let v := (start (n₀.touchAll before) 3).play (.due 10) schedule
    Notifier.new? 2 = .ok n₀ ∧ (∀ t ∈ before, t.early = true) ∧ Early schedule ∧
      v.block = .finished .ready ∧ v.waits ≤ 1 ∧
      ∃ earlier later, schedule = earlier ++ .own :: later ∧
        Verdict.ready.Fits 2 (.due 10) ((start (n₀.touchAll before) 3).play (.due 10) earlier).now
          (before ++ touches earlier) := by
  intro n₀ before schedule v
  have hnew : Notifier.new? 2 = .ok n₀ := rfl
  have hbefore : ∀ t ∈ before, t.early = true := by decide
  have hearly : Early schedule := by
    rw [Early]
    decide
  have hfinished : v.block = .finished .ready := by decide +kernel
  have h := waits_once hnew hbefore (.due 10) 3 hearly
  obtain ⟨earlier, later, hsplit, -, hfits⟩ := h.fits .ready hfinished
  exact ⟨hnew, hbefore, hearly, hfinished, h.once, earlier, later, hsplit, hfits⟩

/-! ## Blocking undisturbed -/

/-- The steps of an undisturbed thread are turns of its own. -/
theorem steps_eq_play (deadline : Deadline) (v : Vigil) (k : Nat) :
    Block.steps deadline v.now k v.notifier v.block =
      ((v.play deadline (List.replicate k .own)).notifier,
        (v.play deadline (List.replicate k .own)).block) := by
  induction k generalizing v with
  | zero => rfl
  | succ k ih => exact ih (v.turn deadline .own)

theorem early_replicate (k : Nat) : Early (List.replicate k .own) := by
  induction k with
  | zero => exact fun t ht => absurd ht List.not_mem_nil
  | succ k ih => exact ih

/-- A thread with neither a reason to go on nor a deadline in the past sleeps on. -/
theorem play_asleep (hblock : v.block = .parked) (hsilent : v.notifier.event.signaled = false)
    (hpassed : deadline.hasPassed v.now = false) (k : Nat) :
    v.play deadline (List.replicate k .own) = v := by
  have hsame : v.turn deadline .own = v := by
    have hown := own_turn deadline v
    generalize v.turn deadline .own = v' at hown
    cases hown with
    | asleep | ended => rfl
    | found _ hlooking | parked hlooking => cases hblock.symm.trans hlooking
    | woken _ hsignaled => cases hsilent.symm.trans hsignaled
    | expired _ _ hdue => cases hpassed.symm.trans hdue
  induction k with
  | zero => rfl
  | succ k ih =>
    rw [List.replicate_succ, play, List.foldl_cons, hsame]
    exact ih

/-- An undisturbed thread ends with the verdict of its last look. -/
theorem Kept.fits_undisturbed (h : Kept slots deadline done v) (hrunning : ∀ w, v.block ≠ .finished w)
    {k : Nat} {w : Verdict}
    (hfinished : (v.play deadline (List.replicate k .own)).block = .finished w) :
    w.Fits slots deadline v.now done := by
  induction k generalizing v with
  | zero => exact absurd hfinished (hrunning w)
  | succ k ih =>
    have hown := own_turn deadline v
    have hkept := h.own hown
    change ((v.turn deadline .own).play deadline (List.replicate k .own)).block = _ at hfinished
    generalize v.turn deadline .own = v' at hown hkept hfinished
    cases hown with
    | found verdict hblock hverdict =>
      rw [finished_play rfl] at hfinished
      obtain rfl := Block.finished.inj hfinished
      exact h.tended.fits hverdict
    | parked | woken | expired =>
      have hfits := ih hkept (fun _ => Block.noConfusion) hfinished
      exact hfits
    | asleep | ended => exact ih hkept hrunning hfinished

end Vigil

/-- Many steps of a session's owner are turns of a blocked thread. -/
theorem Session.blockSteps_of_play {k : Kernel} {s : Session} {n : Notifier}
    (h : s.notifier? k = some n) {steps : Nat} {b : Block} {v : Vigil}
    (hplay : Vigil.play s.deadline { notifier := n, block := b, now := k.clock.now }
      (List.replicate steps .own) = v) :
    s.blockSteps steps k b = ({ k with sessions := k.sessions.put s.id v.notifier }, v.block) := by
  have hsteps := Vigil.steps_eq_play s.deadline ⟨n, b, k.clock.now, 0⟩ steps
  subst hplay
  rw [blockSteps, h]
  simp only [hsteps]

/-- Sleeping until a deadline takes time until the deadline has passed, if there is one. -/
theorem Kernel.sleepUntil_cases (k : Kernel) (deadline : Deadline) :
    (deadline = .never ∧ k.sleepUntil deadline = k) ∨
    ∃ now, k.clock.now ≤ now ∧ deadline.hasPassed now = true ∧
      k.sleepUntil deadline = { k with clock := { k.clock with now := now } } := by
  cases deadline with
  | never => exact .inl ⟨rfl, rfl⟩
  | due moment =>
    refine .inr ⟨max k.clock.now moment, Nat.le_max_left _ _, ?_, rfl⟩
    exact decide_eq_true (Nat.le_max_right _ _)

/-- A session that nothing stirs sleeps through its first steps. -/
theorem Vigil.play_start_asleep {slots : Nat} {deadline : Deadline} {done : List Notifier.Touch}
    {n : Notifier} {now : Moment} (h : n.Tended slots deadline now done)
    (hstirred : ¬Stirred deadline (start n now)) :
    (start n now).play deadline (List.replicate Block.enough .own) =
      { start n now with block := .parked, waits := 1 } := by
  have hreason : ¬n.HasReason := fun hreason => hstirred (.inl hreason)
  have hpassed : deadline.hasPassed now = false :=
    Bool.eq_false_iff.2 fun hpassed => hstirred (.inr hpassed)
  have hsilent : n.event.signaled = false :=
    Bool.eq_false_iff.2 fun hsignaled => hreason (h.reason hsignaled)
  have hturn : (start n now).turn deadline .own =
      { start n now with block := .parked, waits := 1 } := by
    have hnone : (n.advance .blocked).verdict? = none :=
      (n.advance .blocked).verdict?_eq_none_iff.2 hreason
    rw [turn, start]
    simp only [Block.step, hnone]
    rfl
  change ((start n now).turn deadline .own).play deadline (List.replicate 5 .own) = _
  rw [hturn]
  exact play_asleep rfl hsilent hpassed 5

/-- A session that nothing stirs sleeps until its deadline, if it has one. -/
theorem Session.sleep_undisturbed {k : Kernel} {s : Session} {n : Notifier} {slots : Nat}
    {done : List Notifier.Touch} (hn : s.notifier? k = some n)
    (h : n.Tended slots s.deadline k.clock.now done) (hreason : ¬n.HasReason) :
    (s.deadline = .never ∧
      ∃ k', s.blockSteps Block.enough (k.sleepUntil s.deadline) .parked = (k', .parked)) ∨
    ∃ k' w, s.blockSteps Block.enough (k.sleepUntil s.deadline) .parked = (k', .finished w) ∧
      w.Fits slots s.deadline k'.clock.now done ∧ s.deadline.hasPassed k'.clock.now = true := by
  have hsilent : n.event.signaled = false :=
    Bool.eq_false_iff.2 fun hsignaled => hreason (h.reason hsignaled)
  obtain ⟨hnever, hsame⟩ | ⟨now, hle, hpassed, hslept⟩ := k.sleepUntil_cases s.deadline
  · refine .inl ⟨hnever, ?_⟩
    have hpassed : s.deadline.hasPassed k.clock.now = false := by
      rw [hnever]
      rfl
    rw [hsame, Session.blockSteps_of_play hn (Vigil.play_asleep rfl hsilent hpassed _)]
    exact ⟨_, rfl⟩
  · have hkept : Vigil.Kept slots s.deadline done ⟨n, .parked, now, 0⟩ :=
      ⟨h.later hle, fun _ hfound => absurd hfound hreason, Nat.zero_le 1, fun _ => .inl rfl⟩
    obtain ⟨w, hfinished⟩ := Vigil.Stirred.returns (.inr hpassed) hkept
      (Vigil.early_replicate Block.enough) (Nat.le_trans (Vigil.turnsLeft_le _) (by decide))
    have hfits := hkept.fits_undisturbed (fun _ => Block.noConfusion) hfinished
    have hn' : s.notifier? { k with clock := { k.clock with now := now } } = some n := hn
    rw [hslept, Session.blockSteps_of_play hn' rfl]
    exact .inr ⟨_, w, congrArg (Prod.mk _) hfinished, hfits, hpassed⟩

/-- **An undisturbed session blocks until it has a reason to go on or its deadline comes**, and for ever
if neither is to come. -/
theorem Session.block_undisturbed {k : Kernel} {s : Session} {n : Notifier} {slots : Nat}
    {done : List Notifier.Touch} (hn : s.notifier? k = some n)
    (h : n.Tended slots s.deadline k.clock.now done) :
    (s.block k = none ∧ ¬n.HasReason ∧ s.deadline = .never) ∨
    ∃ k' w, s.block k = some (k', w) ∧ w.Fits slots s.deadline k'.clock.now done ∧
      (n.HasReason ∨ s.deadline.hasPassed k'.clock.now = true) := by
  have hblocked := Session.get?_advance hn .blocked
  rw [block]
  by_cases hstirred : Vigil.Stirred s.deadline (Vigil.start n k.clock.now)
  · have hkept : Vigil.Kept slots s.deadline done (Vigil.start n k.clock.now) := .start h
    obtain ⟨w, hfinished⟩ := hstirred.returns hkept (Vigil.early_replicate Block.enough)
      (Nat.le_trans (Vigil.turnsLeft_le _) (by decide))
    have hfits := hkept.fits_undisturbed (fun _ => Block.noConfusion) hfinished
    generalize hv : (Vigil.start n k.clock.now).play s.deadline _ = v at hfinished
    rw [Session.blockSteps_of_play hblocked hv, hfinished]
    exact .inr ⟨_, w, rfl, hfits, hstirred⟩
  · have hreason : ¬n.HasReason := fun hreason => hstirred (.inl hreason)
    obtain ⟨k₁, hk₁⟩ : ∃ k₁, k₁ = { s.advance k .blocked with
        sessions := (s.advance k .blocked).sessions.put s.id (n.advance .blocked) } := ⟨_, rfl⟩
    have hfirst : s.blockSteps Block.enough (s.advance k .blocked) .looking = (k₁, .parked) := by
      rw [hk₁]
      exact Session.blockSteps_of_play hblocked (Vigil.play_start_asleep h hstirred)
    have hn₁ : s.notifier? k₁ = some (n.advance .blocked) := by
      rw [hk₁]
      exact SessionTable.get?_put_self hblocked _
    have hclock : k₁.clock = k.clock := by
      rw [hk₁]
      rfl
    rw [hfirst]
    obtain ⟨hnever, k', hasleep⟩ | ⟨k', w, hfinished, hfits, hpassed⟩ :=
      Session.sleep_undisturbed hn₁ (hclock ▸ h.blocked) hreason
    · refine .inl ⟨?_, hreason, hnever⟩
      simp only [hasleep]
    · simp only [hfinished]
      exact .inr ⟨k', w, rfl, hfits, .inr hpassed⟩

end KernelWait
