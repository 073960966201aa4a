import KernelWait.Events

/-!
# Inclusion of event sets

Intersection and union of events distribute over each other, and inclusion is what intersection says
it is: a set lies in another when intersecting with it changes nothing.

**Events that meet nothing of a set meet nothing of what lies in it**
(`Events.inter_eq_empty_of_subset`), which is why an object that is ready for less has nobody to
tell.
-/

namespace KernelWait.Events

instance : HasSubset Events := ⟨fun a b => a ∩ b = a⟩

theorem subset_iff {a b : Events} : a ⊆ b ↔ a ∩ b = a := Iff.rfl

instance (a b : Events) : Decidable (a ⊆ b) := inferInstanceAs (Decidable (a ∩ b = a))

theorem union_inter_distrib (a b c : Events) : (a ∪ b) ∩ c = a ∩ c ∪ b ∩ c := by
  apply ext_bits
  apply UInt16.toBitVec_inj.1
  ext i hi
  simp only [bits_inter, bits_union, UInt16.toBitVec_and, UInt16.toBitVec_or, BitVec.getElem_and,
    BitVec.getElem_or, Bool.and_or_distrib_right]

theorem eq_empty_iff {a : Events} : a = ∅ ↔ a.bits = 0 :=
  ⟨fun h => by rw [h]; rfl, fun h => ext_bits h⟩

theorem union_eq_empty_iff {a b : Events} : a ∪ b = ∅ ↔ a = ∅ ∧ b = ∅ := by
  rw [eq_empty_iff, eq_empty_iff, eq_empty_iff, bits_union]
  exact UInt16.or_eq_zero_iff

/-! ## Inclusion -/

theorem empty_subset (a : Events) : ∅ ⊆ a := empty_inter a

theorem subset_refl (a : Events) : a ⊆ a := inter_self a

theorem subset_trans {a b c : Events} (hab : a ⊆ b) (hbc : b ⊆ c) : a ⊆ c := by
  rw [subset_iff] at hab hbc ⊢
  rw [← hab, inter_assoc, hbc]

theorem inter_subset_left (a b : Events) : a ∩ b ⊆ a := by
  rw [subset_iff, inter_comm, ← inter_assoc, inter_self]

theorem inter_subset_right (a b : Events) : a ∩ b ⊆ b := by
  rw [subset_iff, inter_assoc, inter_self]

theorem subset_union_left (a b : Events) : a ⊆ a ∪ b := by
  rw [subset_iff]
  apply ext_bits
  apply UInt16.toBitVec_inj.1
  ext i hi
  simp only [bits_inter, bits_union, UInt16.toBitVec_and, UInt16.toBitVec_or, BitVec.getElem_and,
    BitVec.getElem_or]
  cases a.bits.toBitVec[i] <;> rfl

theorem subset_union_right (a b : Events) : b ⊆ a ∪ b := by
  rw [union_comm]
  exact subset_union_left b a

theorem subset_empty_iff {a : Events} : a ⊆ ∅ ↔ a = ∅ := by
  rw [subset_iff, inter_empty, eq_comm]

theorem union_subset {a b c : Events} (ha : a ⊆ c) (hb : b ⊆ c) : a ∪ b ⊆ c := by
  rw [subset_iff] at ha hb ⊢
  rw [union_inter_distrib, ha, hb]

/-- What meets nothing of a set meets nothing of a smaller one. -/
theorem inter_eq_empty_of_subset {a b c : Events} (h : a ∩ b = ∅) (hcb : c ⊆ b) : a ∩ c = ∅ := by
  rw [subset_iff] at hcb
  rw [← hcb, inter_comm c, ← inter_assoc, h, empty_inter]

end KernelWait.Events
