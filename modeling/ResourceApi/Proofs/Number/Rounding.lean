import Mathlib.Algebra.Group.Nat.Defs
import ResourceApi.Number.Binary

/-!
# Rounding to a magnitude

Magnitudes are taken to their units and back without loss, and a fraction is rounded to the same
magnitude however it is written.

## Main results

- `Binary.floorUnits_units` — a magnitude is the greatest one that does not exceed its units
- `Binary.units_lt_units_succ` — a greater magnitude has more units
- `Binary.roundUnits_units` — the exact value of a magnitude is rounded to it
- `Binary.roundUnits_mul` — a fraction may be expanded before it is rounded
- `Binary.roundUnits_of_small` — what is below half a unit is rounded to zero
-/

namespace ResourceApi.Number.Binary

variable (f : Format)

/-! ## Units -/

/-- In the lowest binade a magnitude is its number of units. -/
theorem units_of_lt {m : Nat} (h : m < 2 ^ f.fractionBits) : units f m = m := by
  rw [units]
  simp only [Nat.pow_eq, Nat.div_eq_of_lt h, if_pos]

/-- A magnitude of a higher binade, by its binade and its fraction. -/
theorem units_of_binade (shift : Nat) {r : Nat} (h : r < 2 ^ f.fractionBits) :
    units f ((shift + 1) * 2 ^ f.fractionBits + r) = (2 ^ f.fractionBits + r) * 2 ^ shift := by
  have hpos : 0 < 2 ^ f.fractionBits := Nat.two_pow_pos _
  have hbinade : ((shift + 1) * 2 ^ f.fractionBits + r) / 2 ^ f.fractionBits = shift + 1 := by
    rw [Nat.add_comm, Nat.add_mul_div_right _ _ hpos, Nat.div_eq_of_lt h, Nat.zero_add]
  have hfraction : ((shift + 1) * 2 ^ f.fractionBits + r) % 2 ^ f.fractionBits = r := by
    rw [Nat.add_comm, Nat.add_mul_mod_self_right, Nat.mod_eq_of_lt h]
  rw [units]
  simp only [Nat.pow_eq, hbinade, hfraction, Nat.add_sub_cancel]
  rw [if_neg (Nat.succ_ne_zero shift)]

/-- A magnitude lies in the lowest binade or in a higher one. -/
theorem binade_cases (m : Nat) : m < 2 ^ f.fractionBits ∨
    ∃ shift r, r < 2 ^ f.fractionBits ∧ m = (shift + 1) * 2 ^ f.fractionBits + r := by
  have hpos : 0 < 2 ^ f.fractionBits := Nat.two_pow_pos _
  rcases Nat.lt_or_ge m (2 ^ f.fractionBits) with h | h
  · exact .inl h
  · have hbinade : m / 2 ^ f.fractionBits - 1 + 1 = m / 2 ^ f.fractionBits :=
      Nat.sub_add_cancel (Nat.div_pos h hpos)
    refine .inr ⟨m / 2 ^ f.fractionBits - 1, m % 2 ^ f.fractionBits, Nat.mod_lt _ hpos, ?_⟩
    rw [hbinade, Nat.mul_comm, Nat.div_add_mod]

/-- A magnitude is the greatest one whose units do not exceed its units. -/
theorem floorUnits_units (m : Nat) : floorUnits f (units f m) = m := by
  have hpos : 0 < 2 ^ f.fractionBits := Nat.two_pow_pos _
  rcases binade_cases f m with h | ⟨shift, r, hr, rfl⟩
  · rw [units_of_lt f h, floorUnits]
    have hlog : Nat.log2 m - f.fractionBits = 0 := by
      rcases Nat.eq_zero_or_pos m with rfl | hm
      · simp
      · have := (Nat.log2_lt (Nat.ne_of_gt hm)).mpr h
        omega
    simp only [hlog]
    simp
  · rw [units_of_binade f shift hr, floorUnits]
    have hshift : 0 < 2 ^ shift := Nat.two_pow_pos _
    have hne : (2 ^ f.fractionBits + r) * 2 ^ shift ≠ 0 :=
      Nat.ne_of_gt (Nat.mul_pos (by omega) hshift)
    have hlog : Nat.log2 ((2 ^ f.fractionBits + r) * 2 ^ shift) = f.fractionBits + shift := by
      rw [Nat.log2_eq_iff hne, Nat.pow_succ, Nat.pow_add, Nat.mul_right_comm]
      exact ⟨Nat.mul_le_mul_right _ (by omega), Nat.mul_lt_mul_of_pos_right (by omega) hshift⟩
    simp only [hlog, Nat.add_sub_cancel_left, Nat.pow_eq, Nat.mul_div_cancel _ hshift]
    rw [Nat.add_mul shift 1]
    omega

theorem units_lt_units_succ (m : Nat) : units f m < units f (m + 1) := by
  have hpos : 0 < 2 ^ f.fractionBits := Nat.two_pow_pos _
  rcases binade_cases f m with h | ⟨shift, r, hr, rfl⟩
  · rw [units_of_lt f h]
    rcases Nat.lt_or_ge (m + 1) (2 ^ f.fractionBits) with hnext | hnext
    · rw [units_of_lt f hnext]
      exact Nat.lt_succ_self m
    · have hlast : m + 1 = (0 + 1) * 2 ^ f.fractionBits + 0 := by omega
      rw [hlast, units_of_binade f 0 hpos]
      omega
  · rw [units_of_binade f shift hr]
    have hshift : 0 < 2 ^ shift := Nat.two_pow_pos _
    rcases Nat.lt_or_ge (r + 1) (2 ^ f.fractionBits) with hnext | hnext
    · rw [Nat.add_assoc, units_of_binade f shift hnext]
      exact Nat.mul_lt_mul_of_pos_right (by omega) hshift
    · -- The next magnitude is the first one of the next binade, where the spacing is doubled.
      have hlast : (shift + 1) * 2 ^ f.fractionBits + r + 1 =
          (shift + 1 + 1) * 2 ^ f.fractionBits + 0 := by
        rw [Nat.add_mul (shift + 1) 1]
        omega
      rw [hlast, units_of_binade f (shift + 1) hpos, Nat.pow_succ, Nat.mul_comm (2 ^ shift) 2,
        ← Nat.mul_assoc]
      exact Nat.mul_lt_mul_of_pos_right (by omega) hshift

theorem le_units (m : Nat) : m ≤ units f m := by
  induction m with
  | zero => exact Nat.zero_le _
  | succ m ih => exact Nat.succ_le_of_lt (Nat.lt_of_le_of_lt ih (units_lt_units_succ f m))

/-! ## Rounding -/

/-- The exact value of a magnitude is rounded to it. -/
theorem roundUnits_units {m den : Nat} (hden : 0 < den) (hm : m ≤ f.infinity) :
    roundUnits f (units f m * den) den = m := by
  have hlow : floorUnits f (units f m * den / den) = m := by
    rw [Nat.mul_div_cancel _ hden, floorUnits_units]
  have hbelow : 2 * (units f m * den) < (units f m + units f (m + 1)) * den := by
    have hnext := Nat.mul_lt_mul_of_pos_right (units_lt_units_succ f m) hden
    rw [Nat.add_mul]
    omega
  rw [roundUnits]
  simp only [hlow, if_pos hbelow]
  exact Nat.min_eq_left hm

/-- A fraction may be expanded before it is rounded. -/
theorem roundUnits_mul {k : Nat} (hk : 0 < k) (num den : Nat) :
    roundUnits f (num * k) (den * k) = roundUnits f num den := by
  have hlt (a b : Nat) : 2 * (a * k) < b * (den * k) ↔ 2 * a < b * den := by
    rw [← Nat.mul_assoc, ← Nat.mul_assoc]
    exact Nat.mul_lt_mul_right hk
  have hgt (a b : Nat) : b * (den * k) < 2 * (a * k) ↔ b * den < 2 * a := by
    rw [← Nat.mul_assoc, ← Nat.mul_assoc]
    exact Nat.mul_lt_mul_right hk
  rw [roundUnits, roundUnits]
  simp only [Nat.mul_div_mul_right _ _ hk, hlt, hgt]

/-- What is below half a unit is rounded to zero. -/
theorem roundUnits_of_small {num den : Nat} (h : 2 * num < den) : roundUnits f num den = 0 := by
  have hpos : 0 < 2 ^ f.fractionBits := Nat.two_pow_pos _
  have hlow : floorUnits f (num / den) = 0 := by
    have hzero := floorUnits_units f 0
    rw [units_of_lt f hpos] at hzero
    rw [Nat.div_eq_of_lt (by omega), hzero]
  have hone : 1 ≤ units f 1 := le_units f 1
  have hbelow : 2 * num < (units f 0 + units f 1) * den := by
    have hden : 1 * den ≤ (units f 0 + units f 1) * den :=
      Nat.mul_le_mul_right den (Nat.le_add_left_of_le hone)
    omega
  rw [roundUnits]
  simp only [hlow, Nat.zero_add, if_pos hbelow]
  exact Nat.zero_min _

end ResourceApi.Number.Binary
