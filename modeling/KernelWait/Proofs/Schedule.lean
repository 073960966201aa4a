import Mathlib.Data.List.Induction
import KernelWait.Proofs.Steps

/-!
# Calls among other threads

A call in progress shares the kernel with other threads, which act between any two of its steps. Whose
turn it is at each moment is a schedule, and a run follows one (`System.play`).

**What holds at the moments of a run is proved from turn to turn** (`System.moment_induction`), and a
call that is over has returned at some step of its own (`System.last_moment`).
-/

namespace KernelWait

/-- Whose turn it is: that of another thread, with what it does, or that of the call. -/
inductive Turn (α : Type) where
  /-- another thread does something -/
  | other (deed : α)
  /-- the call makes a step -/
  | own
  deriving DecidableEq, Repr

/-- What other threads do in a schedule, in order. -/
def Turn.deeds {α : Type} : List (Turn α) → List α
  | [] => []
  | .other deed :: turns => deed :: deeds turns
  | .own :: turns => deeds turns

namespace System

/-- A system and a call in it after one turn. A call that has returned takes no more turns. -/
def turn : System × Progress → Turn Operation → System × Progress
  | (s, p), .other op => ({ s with kernel := op.effect s.kernel }, p)
  | (s, .running c), .own => c.step s
  | (s, .returned reply), .own => (s, .returned reply)

/-- A system and a call in it after the turns of a schedule. -/
def play (p : System × Progress) (schedule : List (Turn Operation)) : System × Progress :=
  schedule.foldl turn p

theorem play_append (p : System × Progress) (earlier later : List (Turn Operation)) :
    play p (earlier ++ later) = play (play p earlier) later := List.foldl_append

theorem play_concat (p : System × Progress) (earlier : List (Turn Operation))
    (t : Turn Operation) : play p (earlier ++ [t]) = turn (play p earlier) t :=
  play_append p earlier [t]

/-- After these turns the call is in progress, in this state. -/
def Moment (p : System × Progress) (schedule : List (Turn Operation)) (s : System) (c : Call) :
    Prop :=
  play p schedule = (s, .running c)

/-- Whether something holds at every turn of a schedule, of the state that the turn is taken in. -/
def throughout (holds : System × Progress → Turn Operation → Bool) :
    System × Progress → List (Turn Operation) → Bool
  | _, [] => true
  | p, t :: turns => holds p t && throughout holds (turn p t) turns

/-- What holds throughout a schedule holds at each of its turns. -/
theorem holds_of_throughout {holds : System × Progress → Turn Operation → Bool}
    {p : System × Progress} {earlier later : List (Turn Operation)} {t : Turn Operation}
    (h : throughout holds p (earlier ++ t :: later) = true) : holds (play p earlier) t = true := by
  induction earlier generalizing p with
  | nil =>
    rw [List.nil_append, throughout, Bool.and_eq_true] at h
    exact h.1
  | cons first earlier ih =>
    rw [List.cons_append, throughout, Bool.and_eq_true] at h
    exact ih h.2

/-- A call that has returned stays so, with the same reply. -/
theorem returned_of_returned {p : System × Progress} {s : System} {reply : Reply}
    {earlier : List (Turn Operation)} (h : play p earlier = (s, .returned reply))
    (later : List (Turn Operation)) : ∃ s', play p (earlier ++ later) = (s', .returned reply) := by
  induction later using List.reverseRecOn with
  | nil => exact ⟨s, by rw [List.append_nil, h]⟩
  | append_singleton later t ih =>
    obtain ⟨s', hs'⟩ := ih
    rw [← List.append_assoc, play_concat, hs']
    cases t with
    | other op => exact ⟨_, rfl⟩
    | own => exact ⟨_, rfl⟩

/-- Before a moment at which a call is in progress it was in progress, too. -/
theorem Moment.of_append {p : System × Progress} {earlier later : List (Turn Operation)}
    {s : System} {c : Call} (h : Moment p (earlier ++ later) s c) :
    ∃ s₁ c₁, Moment p earlier s₁ c₁ := by
  rcases hp : play p earlier with ⟨s₁, c₁ | reply⟩
  · exact ⟨s₁, c₁, hp⟩
  · obtain ⟨s', hs'⟩ := returned_of_returned hp later
    cases hs'.symm.trans h

/-- **What holds when a call begins and is kept by every turn of a schedule holds at every moment of
the run.** -/
theorem moment_induction {p : System × Progress} {schedule : List (Turn Operation)}
    {motive : List (Turn Operation) → System → Call → Prop}
    (start : ∀ s c, p = (s, .running c) → motive [] s c)
    (other : ∀ earlier op later s c, schedule = earlier ++ .other op :: later →
      Moment p earlier s c → motive earlier s c →
      motive (earlier ++ [.other op]) { s with kernel := op.effect s.kernel } c)
    (own : ∀ earlier later s c s' c', schedule = earlier ++ .own :: later →
      Moment p earlier s c → motive earlier s c → c.step s = (s', .running c') →
      motive (earlier ++ [.own]) s' c')
    {earlier later : List (Turn Operation)} (hsplit : schedule = earlier ++ later) {s : System}
    {c : Call} (h : Moment p earlier s c) : motive earlier s c := by
  induction earlier using List.reverseRecOn generalizing later s c with
  | nil => exact start s c h
  | append_singleton earlier t ih =>
    rw [List.append_assoc] at hsplit
    obtain ⟨s₁, c₁, h₁⟩ := h.of_append
    have hbefore := ih hsplit h₁
    rw [Moment, play_concat, h₁] at h
    cases t with
    | other op =>
      obtain ⟨rfl, hc⟩ := Prod.mk.inj h
      obtain rfl := Progress.running.inj hc
      exact other earlier op later s₁ c₁ hsplit h₁ hbefore
    | own => exact own earlier later s₁ c₁ s c hsplit h₁ hbefore h

/-- A call that is over has returned at once or at some step of its own. -/
theorem last_moment {p : System × Progress} {schedule : List (Turn Operation)} {s : System}
    {reply : Reply} (h : play p schedule = (s, .returned reply)) :
    p.2 = .returned reply ∨
    ∃ earlier later s₁ c₁ s₂, schedule = earlier ++ .own :: later ∧ Moment p earlier s₁ c₁ ∧
      c₁.step s₁ = (s₂, .returned reply) := by
  induction schedule using List.reverseRecOn generalizing s with
  | nil => exact .inl (congrArg Prod.snd h)
  | append_singleton schedule t ih =>
    rw [play_concat] at h
    rcases hp : play p schedule with ⟨s₁, c₁ | reply₁⟩
    · rw [hp] at h
      cases t with
      | other op => cases (Prod.mk.inj h).2
      | own => exact .inr ⟨schedule, [], s₁, c₁, s, rfl, hp, h⟩
    · have hreply : reply₁ = reply := by
        rw [hp] at h
        cases t with
        | other op => exact Progress.returned.inj (Prod.mk.inj h).2
        | own => exact Progress.returned.inj (Prod.mk.inj h).2
      subst hreply
      obtain hstart | ⟨earlier, later, s₂, c₂, s₃, rfl, hmoment, hstep⟩ := ih hp
      · exact .inl hstart
      · exact .inr ⟨earlier, later ++ [t], s₂, c₂, s₃, List.append_assoc _ _ _, hmoment, hstep⟩

/-- A request that is not refused begins a call in a session of its own. -/
theorem begin_of_valid {s : System} {r : Request} (hvalid : s.refusal? r = none)
    (hroom : r.watches.length < Limits.ticketSlots) :
    s.begin r =
      ({ s.record .calls with
          kernel := { s.kernel with
            clock := r.timeout.consult s.kernel.clock
            sessions := s.kernel.sessions.add
              { latched := List.replicate r.watches.length ∅ } } },
        .running {
          thread := r.thread
          interruptible := r.signalled && r.flags.includes .interruptible
          singleShot := r.flags.includes .singleShot
          poll := (r.timeout.arm s.kernel.clock).hasPassed s.kernel.clock.now
          session := {
            id := s.kernel.sessions.nextId
            capacity := r.watches.length
            deadline := r.timeout.arm s.kernel.clock }
          ahead := r.watches.map fun w => { watch := w } }) := by
  simp only [begin, hvalid, Kernel.arm, Session.new, Notifier.new?, if_pos hroom]

/-- A call begins for a request that is not refused, and for which there is room. -/
theorem valid_of_begin {s s₁ : System} {r : Request} {c : Call}
    (h : s.begin r = (s₁, .running c)) :
    s.refusal? r = none ∧ r.watches.length < Limits.ticketSlots := by
  rw [System.begin] at h
  split at h
  · cases h
  · next hvalid =>
    refine ⟨hvalid, ?_⟩
    simp only [Kernel.arm, Session.new, Notifier.new?] at h
    by_cases hroom : r.watches.length < Limits.ticketSlots
    · exact hroom
    · rw [if_neg hroom] at h
      cases h

end System

end KernelWait
