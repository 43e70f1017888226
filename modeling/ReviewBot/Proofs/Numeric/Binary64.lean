import ReviewBot.Numeric.Binary64

set_option autoImplicit false

/-!
# Comparing doubles

`AtMost` is the order of the defined numbers; `less` is its strict part there. The order of all bit
patterns tells them apart (`eq_of_rank_eq`); beyond the order of the numbers it only puts the two
zeros one after the other (`eq_or_zeros_of_level_eq`).
-/

namespace ReviewBot.Binary64

/-- Both numbers are defined, and the first one is not greater. -/
structure AtMost (x y : Binary64) : Prop where
  defined_left : x.isNaN = false
  defined_right : y.isNaN = false
  level_le : x.level ≤ y.level

instance (x y : Binary64) : Decidable (x.AtMost y) :=
  decidable_of_iff (x.isNaN = false ∧ y.isNaN = false ∧ x.level ≤ y.level)
    ⟨fun ⟨h1, h2, h3⟩ => ⟨h1, h2, h3⟩, fun ⟨h1, h2, h3⟩ => ⟨h1, h2, h3⟩⟩

theorem AtMost.refl {x : Binary64} (h : x.isNaN = false) : x.AtMost x :=
  ⟨h, h, Int.le_refl _⟩

theorem AtMost.trans {x y z : Binary64} (h1 : x.AtMost y) (h2 : y.AtMost z) : x.AtMost z :=
  ⟨h1.defined_left, h2.defined_right, Int.le_trans h1.level_le h2.level_le⟩

theorem not_less_self (x : Binary64) : x.less x = false := by
  simp [less]

theorem atMost_of_less {x y : Binary64} (h : x.less y = true) : x.AtMost y := by
  simp only [less, Bool.and_eq_true, Bool.not_eq_true', decide_eq_true_eq] at h
  obtain ⟨⟨hx, hy⟩, hlt⟩ := h
  exact ⟨hx, hy, Int.le_of_lt hlt⟩

theorem atMost_of_not_less {x y : Binary64} (hx : x.isNaN = false) (hy : y.isNaN = false)
    (h : x.less y = false) : y.AtMost x := by
  simp only [less, hx, hy, Bool.not_false, Bool.true_and, decide_eq_false_iff_not] at h
  exact ⟨hy, hx, Int.not_lt.1 h⟩

theorem AtMost.less_of_less {x y z : Binary64} (hxy : x.AtMost y) (hyz : y.less z = true) :
    x.less z = true := by
  simp only [less, Bool.and_eq_true, Bool.not_eq_true', decide_eq_true_eq] at hyz ⊢
  exact ⟨⟨hxy.defined_left, hyz.1.2⟩, Int.lt_of_le_of_lt hxy.level_le hyz.2⟩

/-- The order of all bit patterns refines the order of the numbers. -/
theorem level_le_of_rank_le {x y : Binary64} (h : x.rank ≤ y.rank) : x.level ≤ y.level := by
  unfold rank at h
  unfold level
  by_cases hx : x.negative = true
  · rw [if_pos hx] at h ⊢
    by_cases hy : y.negative = true
    · rw [if_pos hy] at h ⊢
      omega
    · rw [if_neg hy]
      omega
  · rw [if_neg hx] at h ⊢
    by_cases hy : y.negative = true
    · rw [if_pos hy] at h
      omega
    · rw [if_neg hy] at h ⊢
      exact h

/-- Numbers at the same place among all bit patterns are the same. -/
theorem eq_of_rank_eq {x y : Binary64} (h : x.rank = y.rank) : x = y := by
  have hx : x.bits.toNat < 2 * signBit := x.bits.toNat_lt_size
  have hy : y.bits.toNat < 2 * signBit := y.bits.toNat_lt_size
  have hbits : x.bits.toNat = y.bits.toNat := by
    have hsign : signBit = 0x8000000000000000 := rfl
    simp only [rank, negative, magnitude, decide_eq_true_eq, hsign] at h hx hy
    split at h
    · split at h
      · omega
      · omega
    · split at h
      · omega
      · omega
  cases x
  cases y
  exact congrArg _ (UInt64.toNat_inj.1 hbits)

/-- Negative zero. -/
def negativeZero : Binary64 := ⟨0x8000000000000000⟩

/-- Of two equal numbers only zeros of different signs are at different places among all bit
patterns. -/
theorem eq_or_zeros_of_level_eq {x y : Binary64} (hlevel : x.level = y.level)
    (hrank : y.rank ≤ x.rank) : x = y ∨ x = zero ∧ y = negativeZero := by
  by_cases h : x.rank = y.rank
  · exact Or.inl (eq_of_rank_eq h)
  · -- With one sign the places would be equal, so `x` is not negative and `y` is.
    have hsign : x.negative = false ∧ y.negative = true := by
      unfold level at hlevel
      unfold rank at h hrank
      cases hx : x.negative <;> cases hy : y.negative <;> simp [hx, hy] at hlevel h hrank ⊢ <;>
        omega
    have hzeros : x.magnitude = 0 ∧ y.magnitude = 0 := by
      simp only [level, hsign, Bool.false_eq_true, if_false, if_true] at hlevel
      omega
    obtain ⟨⟨hx, hy⟩, hx0, hy0⟩ := And.intro hsign hzeros
    have hlimit : y.bits.toNat < 2 * signBit := y.bits.toNat_lt_size
    simp only [negative, magnitude, decide_eq_true_eq, decide_eq_false_iff_not,
      show signBit = 0x8000000000000000 from rfl] at hx hy hx0 hy0 hlimit
    have hxbits : x.bits.toNat = 0 := by omega
    have hybits : y.bits.toNat = 0x8000000000000000 := by omega
    refine Or.inr ⟨?_, ?_⟩
    · cases x
      exact congrArg _ (UInt64.toNat_inj.1 hxbits)
    · cases y
      exact congrArg _ (UInt64.toNat_inj.1 hybits)

end ReviewBot.Binary64
