import KernelWait.Proofs.Marks
import KernelWait.Proofs.Promptness

/-!
# Calls that nobody disturbs

A call that is started makes its steps one after the other until it sleeps or returns, and the number
of them is bounded beforehand (`System.settle`). The bound is never too small: outside its blocked phase
a call does not sleep, and every step brings it closer to its end.

**What a call keeps by its own steps holds until it returns or sleeps** (`System.settles_or_sleeps`), and it
does return if that keeps it out of its blocked phase (`System.settles`).
-/

namespace KernelWait

/-- Only a call in its blocked phase sleeps. -/
theorem Call.not_asleep_of_moving {c : Call} (hmoving : ∀ b, c.stage ≠ .blocked b) (s : System) :
    c.asleep s = false := by
  rw [asleep]
  split
  · exact absurd ‹_› (hmoving _)
  · exact absurd ‹_› (hmoving _)
  · rfl

namespace System

variable {s s' : System} {c c' : Call} {reply : Reply} {n : Nat}

theorem settle_of_running (hawake : c.asleep s = false) (hstep : c.step s = (s', .running c')) :
    settle (n + 1) s c = settle n s' c' := by
  simp only [settle, hawake, hstep, Bool.false_eq_true, if_false]

theorem settle_of_returned (hawake : c.asleep s = false) (hstep : c.step s = (s', .returned reply)) :
    settle (n + 1) s c = (s', .returned reply) := by
  simp only [settle, hawake, hstep, Bool.false_eq_true, if_false]

/-- **What a call keeps by its own steps holds until it returns or sleeps**, if every step brings it closer
to that. -/
theorem settles_or_sleeps (keeps : System → Call → Prop) (returns : System → Reply → Prop)
    (running : ∀ s c s' c', keeps s c → c.asleep s = false → c.step s = (s', .running c') →
      keeps s' c' ∧ (c'.remaining < c.remaining ∨ c'.asleep s' = true))
    (returned : ∀ s c s' reply, keeps s c → c.step s = (s', .returned reply) → returns s' reply)
    (hkeeps : keeps s c) (hbound : c.remaining ≤ n) :
    (∃ s' reply, settle n s c = (s', .returned reply) ∧ returns s' reply) ∨
      ∃ s' c', settle n s c = (s', .running c') ∧ keeps s' c' ∧ c'.asleep s' = true := by
  -- the budget is never below what remains, and a step uses up as much of both
  induction n generalizing s c with
  | zero => exact absurd c.remaining_pos (Nat.not_lt.2 hbound)
  | succ n ih =>
    by_cases hasleep : c.asleep s = true
    · refine .inr ⟨s, c, ?_, hkeeps, hasleep⟩
      rw [settle, if_pos hasleep]
    · have hawake : c.asleep s = false := Bool.eq_false_iff.2 hasleep
      rcases hstep : c.step s with ⟨s₁, c₁ | reply⟩
      · obtain ⟨hkept, hless | hsleeps⟩ := running s c s₁ c₁ hkeeps hawake hstep
        · rw [settle_of_running hawake hstep]
          exact ih hkept (by omega)
        · refine .inr ⟨s₁, c₁, ?_, hkept, hsleeps⟩
          rw [settle_of_running hawake hstep]
          cases n with
          | zero => rfl
          | succ n => rw [settle, if_pos hsleeps]
      · exact .inl ⟨s₁, reply, settle_of_returned hawake hstep, returned s c s₁ reply hkeeps hstep⟩

/-- It returns if what it keeps holds it out of its blocked phase. -/
theorem settles (keeps : System → Call → Prop) (returns : System → Reply → Prop)
    (moving : ∀ s c, keeps s c → ∀ b, c.stage ≠ .blocked b)
    (running : ∀ s c s' c', keeps s c → c.step s = (s', .running c') → keeps s' c')
    (returned : ∀ s c s' reply, keeps s c → c.step s = (s', .returned reply) → returns s' reply)
    (hkeeps : keeps s c) (hbound : c.remaining ≤ n) :
    ∃ s' reply, settle n s c = (s', .returned reply) ∧ returns s' reply := by
  have hrunning : ∀ s c s' c', keeps s c → c.asleep s = false → c.step s = (s', .running c') →
      keeps s' c' ∧ (c'.remaining < c.remaining ∨ c'.asleep s' = true) := by
    intro s c s' c' hkeeps _ hstep
    have hsteps := Call.steps_step s c
    rw [hstep] at hsteps
    exact ⟨running s c s' c' hkeeps hstep, .inl (hsteps.remaining_lt_of_moving (moving s c hkeeps))⟩
  obtain hreturns | ⟨s', c', -, hkept, hasleep⟩ :=
    settles_or_sleeps keeps returns hrunning returned hkeeps hbound
  · exact hreturns
  · have hawake := Call.not_asleep_of_moving (moving s' c' hkept) s'
    exact absurd (hawake.symm.trans hasleep) Bool.false_ne_true

/-- A call that is started begins and settles. -/
theorem start_of_begin {r : Request} (h : s.begin r = (s', .running c)) :
    s.start r = settle c.bound s' c := by
  simp only [start, h, resume]

theorem start_of_refused {r : Request} (h : s.begin r = (s', .returned reply)) :
    s.start r = (s', .returned reply) := by
  simp only [start, h]

end System

end KernelWait
