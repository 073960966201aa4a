/-!
# Durations

Spans of time, counted in whole seconds and the nanoseconds beyond them. Callers and stored settings count
in microseconds, and have a word for them.

**A whole number of microseconds that fits into a word is told from it** (`Duration.ofMicros_micros`);
any other duration is cut down to one.
-/

namespace KernelWait

/-- A span of time. -/
structure Duration where
  /-- the whole seconds -/
  seconds : UInt64
  /-- the nanoseconds beyond them -/
  nanos : Fin 1000000000
  deriving DecidableEq, Repr

namespace Duration

/-- No time at all. -/
def zero : Duration := ⟨0, 0⟩

/-- So many seconds. -/
def ofSeconds (seconds : UInt64) : Duration := ⟨seconds, 0⟩

/-- So many microseconds. -/
def ofMicros (micros : UInt64) : Duration :=
  ⟨micros / 1000000, Fin.ofNat _ ((micros % 1000000).toNat * 1000)⟩

/-- The nanoseconds of a duration. -/
def total (d : Duration) : Nat := d.seconds.toNat * 1000000000 + d.nanos.val

/-- The whole microseconds of a duration as a word, or the greatest word if there are more. -/
def micros (d : Duration) : UInt64 := UInt64.ofNat (min (d.total / 1000) (UInt64.size - 1))

/-- Whether a duration is a whole number of microseconds that fits into a word. -/
def Fits (d : Duration) : Prop := 1000 ∣ d.total ∧ d.total / 1000 < UInt64.size

instance (d : Duration) : Decidable d.Fits := inferInstanceAs (Decidable (_ ∧ _))

/-- A duration is told by its nanoseconds. -/
theorem eq_of_total {d d' : Duration} (h : d.total = d'.total) : d = d' := by
  obtain ⟨seconds, nanos, hnanos⟩ := d
  obtain ⟨seconds', nanos', hnanos'⟩ := d'
  simp only [total] at h
  obtain ⟨hseconds, rfl⟩ : seconds.toNat = seconds'.toNat ∧ nanos = nanos' := by omega
  rw [UInt64.toNat_inj.1 hseconds]

theorem eq_zero_iff {d : Duration} : d = zero ↔ d.total = 0 :=
  ⟨fun h => congrArg total h, fun h => eq_of_total h⟩

@[simp] theorem total_ofMicros (micros : UInt64) : (ofMicros micros).total = micros.toNat * 1000 := by
  have hbelow : micros.toNat % 1000000 * 1000 < 1000000000 := by omega
  simp only [total, ofMicros, UInt64.toNat_div, UInt64.toNat_mod, Fin.ofNat]
  rw [show (1000000 : UInt64).toNat = 1000000 from rfl, Nat.mod_eq_of_lt hbelow]
  omega

theorem fits_ofMicros (micros : UInt64) : (ofMicros micros).Fits := by
  rw [Fits, total_ofMicros, Nat.mul_div_cancel _ (by decide)]
  exact ⟨Nat.dvd_mul_left _ _, micros.toNat_lt⟩

/-- **What fits is told from its microseconds.** -/
theorem ofMicros_micros {d : Duration} (h : d.Fits) : ofMicros d.micros = d := by
  obtain ⟨hwhole, hlt⟩ := h
  have hmicros : d.micros.toNat = d.total / 1000 := by
    rw [micros, Nat.min_eq_left (Nat.le_sub_one_of_lt hlt), UInt64.toNat_ofNat_of_lt' hlt]
  apply eq_of_total
  rw [total_ofMicros, hmicros, Nat.div_mul_cancel hwhole]

end Duration

end KernelWait
