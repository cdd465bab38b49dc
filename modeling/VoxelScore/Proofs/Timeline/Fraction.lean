import Mathlib.Algebra.Order.Field.Rat
import Mathlib.Data.Nat.Cast.Field
import Mathlib.Data.Rat.Floor
import Mathlib.Tactic.NormNum
import VoxelScore.Timeline.CycleTime

/-!
# Times as rational numbers

A time is a fraction in lowest terms; here it is read as the rational number that it writes. The
slots of a grid start at the multiples of their width, and the order of times is that of the
rational numbers.

## Main definitions

* `CycleTime.toRat`: the rational number that a time writes

## Main results

* `CycleTime.toRat_ofSlot`, `CycleTime.toRat_slotWidth`: starts and width of slots
* `CycleTime.compare_eq_gt_iff`: times are compared as rational numbers
* `CycleTime.toRat_injective`: equal numbers are equal times
* `CycleTime.floorScaled_eq_floor`: the whole part of a multiple, as long as the product fits
-/

namespace VoxelScore.CycleTime

/-- The rational number that a time writes. -/
def toRat (t : CycleTime) : ℚ := t.num / t.den

theorem den_cast_pos (t : CycleTime) : (0 : ℚ) < t.den := Nat.cast_pos.mpr t.den_pos

/-- Lowest terms are as good as the fraction itself. -/
theorem toRat_ofFraction {n d : ℕ} (hd : 0 < d) : (ofFraction n d).toRat = n / d := by
  have hm : max d 1 = d := by omega
  have hg : ((n.gcd d : ℕ) : ℚ) ≠ 0 :=
    Nat.cast_ne_zero.mpr (Nat.gcd_pos_of_pos_right n hd).ne'
  show ((n / n.gcd (max d 1) : ℕ) : ℚ) / ((max d 1 / n.gcd (max d 1) : ℕ) : ℚ) = n / d
  rw [hm, Nat.cast_div (Nat.gcd_dvd_left n d) hg, Nat.cast_div (Nat.gcd_dvd_right n d) hg,
    div_div_div_cancel_right₀ hg]

theorem toRat_ofSlot {slot slots : ℕ} (h : 0 < slots) : (ofSlot slot slots).toRat = slot / slots :=
  toRat_ofFraction h

theorem toRat_slotWidth {slots : ℕ} (h : 0 < slots) : (slotWidth slots).toRat = 1 / slots := by
  rw [slotWidth, toRat_ofFraction h, Nat.cast_one]

/-- **Times are compared as rational numbers.** -/
theorem compare_eq_gt_iff (a b : CycleTime) : a.compare b = .gt ↔ b.toRat < a.toRat := by
  unfold toRat CycleTime.compare
  rw [Nat.compare_eq_gt, div_lt_div_iff₀ b.den_cast_pos a.den_cast_pos]
  norm_cast

/-- Two times that write the same number are the same. -/
theorem toRat_injective : Function.Injective toRat := by
  rintro ⟨n, d, hd, hn⟩ ⟨m, e, he, hm⟩ h
  have hd' : (d : ℚ) ≠ 0 := Nat.cast_ne_zero.mpr hd.ne'
  have he' : (e : ℚ) ≠ 0 := Nat.cast_ne_zero.mpr he.ne'
  have cross : n * e = m * d := by
    have hc := (div_eq_div_iff hd' he').mp h
    exact_mod_cast hc
  -- In lowest terms each denominator divides the other one.
  have hde : d ∣ e := (Nat.Coprime.symm hn).dvd_of_dvd_mul_left ⟨m, by rw [cross, Nat.mul_comm]⟩
  have hed : e ∣ d := (Nat.Coprime.symm hm).dvd_of_dvd_mul_left ⟨n, by rw [← cross, Nat.mul_comm]⟩
  obtain rfl := Nat.dvd_antisymm hde hed
  obtain rfl := Nat.eq_of_mul_eq_mul_right hd cross
  rfl

/-- **The whole part of a multiple** is that of the rational number, as long as the product fits. -/
theorem floorScaled_eq_floor {t : CycleTime} {factor : ℕ} (h : t.num * factor < words64) :
    (t.floorScaled factor : ℤ) = ⌊t.toRat * factor⌋ := by
  have hproduct : t.toRat * factor = ((t.num * factor : ℕ) : ℚ) / (t.den : ℚ) := by
    rw [toRat, div_mul_eq_mul_div, Nat.cast_mul]
  rw [floorScaled_of_lt h, hproduct, Rat.floor_natCast_div_natCast, Int.natCast_ediv]

/-- In lowest terms the number of a slot does not grow. -/
theorem num_ofSlot_le (slot slots : ℕ) : (ofSlot slot slots).num ≤ slot := Nat.div_le_self _ _

end VoxelScore.CycleTime
