import Mathlib
import VoxelScore.Proofs.Number.Whole

/-!
# Doubles as rational numbers

A finite double is a rational number, its *value*, and the floor and the nearest integer of the
double are those of its value. So wherever a computation over doubles does not round, its integer
result is the one that the same computation has over rational numbers.

## Main definitions

* `Dyadic.toRat`: a mantissa with its exponent as a rational number
* `Double.value?`: the value of a finite double
* `Numbers`: what a computation asks of doubles and of rational numbers alike

## Main results

* `Dyadic.floor_eq`, `Dyadic.nearest_eq`: rounding is that of the value
* `Double.floorWithin_of_value?`, `Double.nearestWithin_of_value?`: the same for doubles
* `Double.IsWhole.value?_eq`: the value of a whole number
-/

namespace VoxelScore

open Float.Model (UnpackedFloat)

theorem floor_half (n : ℤ) : ⌊(n + 1 / 2 : ℚ)⌋ = n := by
  rw [Int.floor_intCast_add]
  norm_num

namespace Dyadic

/-- The number as a rational one. -/
def toRat (d : Dyadic) : ℚ := d.signed * 2 ^ d.exponent

/-- The number is an integer times a power of two, or divided by one. -/
theorem toRat_cases (d : Dyadic) :
    (∃ k : ℕ, d.exponent = k ∧ d.toRat = (d.signed * 2 ^ k : ℤ)) ∨
      ∃ k : ℕ, 0 < k ∧ d.exponent = -k ∧ d.toRat = d.signed / (2 ^ k : ℕ) := by
  rcases le_or_gt 0 d.exponent with h | h
  · obtain ⟨k, hk⟩ := Int.eq_ofNat_of_zero_le h
    refine .inl ⟨k, hk, ?_⟩
    rw [toRat, hk, zpow_natCast]
    push_cast
    rfl
  · obtain ⟨k, hk⟩ := Int.eq_ofNat_of_zero_le (a := -d.exponent) (by omega)
    refine .inr ⟨k, by omega, by omega, ?_⟩
    rw [toRat, show d.exponent = -k by omega, zpow_neg, zpow_natCast, div_eq_mul_inv]
    push_cast
    rfl

/-- **The floor is that of the rational number.** -/
theorem floor_eq (d : Dyadic) : d.floor = ⌊d.toRat⌋ := by
  unfold floor
  rcases d.toRat_cases with ⟨k, he, hvalue⟩ | ⟨k, hk, he, hvalue⟩
  · rw [if_pos (by omega), hvalue, Int.floor_intCast, he, Int.toNat_natCast, Nat.pow_eq]
    push_cast
    rfl
  · rw [if_neg (by omega), hvalue, Rat.floor_intCast_div_natCast, he, neg_neg, Int.toNat_natCast]
    rfl

theorem toRat_neg (m : ℕ) (e : ℤ) : toRat ⟨true, m, e⟩ = -toRat ⟨false, m, e⟩ := by
  simp [toRat, signed]

/-- Without a sign the nearest integer is the floor behind the half. -/
theorem nearest_of_positive (m : ℕ) (e : ℤ) :
    nearest ⟨false, m, e⟩ = ⌊toRat ⟨false, m, e⟩ + 1 / 2⌋ := by
  unfold nearest
  rcases toRat_cases ⟨false, m, e⟩ with ⟨k, he, hvalue⟩ | ⟨k, hk, he, hvalue⟩
  · simp only [signed, Bool.false_eq_true, if_false] at he hvalue ⊢
    rw [hvalue, floor_half, he, if_pos (by omega), Int.toNat_natCast, Nat.pow_eq]
    push_cast
    rfl
  · simp only [signed, Bool.false_eq_true, if_false] at he hvalue ⊢
    have hsum : (m : ℚ) / (2 ^ k : ℕ) + 1 / 2 =
        ((2 * m + 2 ^ k : ℕ) : ℤ) / ((2 ^ (k + 1) : ℕ) : ℚ) := by
      push_cast
      rw [pow_succ]
      field_simp
    rw [hvalue, Int.cast_natCast, hsum, Rat.floor_intCast_div_natCast, he, if_neg (by omega),
      neg_neg, Int.toNat_natCast, Nat.pow_eq, Nat.pow_eq]
    push_cast
    rfl

/-- **The nearest integer is that of the rational number**, a half going away from zero. -/
theorem nearest_eq (d : Dyadic) :
    d.nearest = if d.negative then -⌊-d.toRat + 1 / 2⌋ else ⌊d.toRat + 1 / 2⌋ := by
  obtain ⟨negative, m, e⟩ := d
  cases negative with
  | false => exact nearest_of_positive m e
  | true =>
    rw [toRat_neg, neg_neg, ← nearest_of_positive]
    rfl

/-- An integer is its own nearest one. -/
theorem nearest_of_intCast {d : Dyadic} {n : ℤ} (h : d.toRat = n) : d.nearest = n := by
  rw [nearest_eq, h, ← Int.cast_neg, floor_half, floor_half, neg_neg, ite_self]

end Dyadic

namespace Double

variable {x : Float} {q : ℚ} {n : ℤ}

/-- The value of a double, unless it is an infinity or not a number. -/
def value? (x : Float) : Option ℚ := (Dyadic.ofDouble? x).map Dyadic.toRat

/-- **The floor of a double is that of its value.** -/
theorem floorWithin_of_value? (h : value? x = some q) (low high : ℤ) :
    floorWithin low high x = clamp low high ⌊q⌋ := by
  obtain ⟨d, hd, rfl⟩ := Option.map_eq_some_iff.mp h
  rw [floorWithin, within, hd, ← Dyadic.floor_eq]

theorem nearestWithin_of_value? (h : value? x = some (n : ℚ)) (low high : ℤ) :
    nearestWithin low high x = clamp low high n := by
  obtain ⟨d, hd, hn⟩ := Option.map_eq_some_iff.mp h
  rw [nearestWithin, within, hd, ← Dyadic.nearest_of_intCast hn]

theorem IsWholeAs.exists_toRat_eq {u : UnpackedFloat} (hu : IsWholeAs u n) :
    ∃ d, Dyadic.ofUnpacked? u = some d ∧ d.toRat = n := by
  cases hu with
  | zero =>
    refine ⟨_, rfl, ?_⟩
    simp [Dyadic.toRat, Dyadic.signed]
  | @finite s m n k pos normal exact =>
    refine ⟨_, rfl, ?_⟩
    rw [Dyadic.toRat, signed_eq_apply, exact, zpow_neg, zpow_natCast]
    push_cast
    exact mul_inv_cancel_right₀ (by positivity) _

/-- **The value of a whole number** is the number. -/
theorem IsWhole.value?_eq (hx : IsWhole x n) : value? x = some (n : ℚ) := by
  obtain ⟨d, hd, hn⟩ := IsWholeAs.exists_toRat_eq hx
  rw [value?, Dyadic.ofDouble?_eq, hd, ← hn]
  rfl

end Double

/-! ## Numbers of any kind -/

/-- What numbers have besides sums, differences and products. -/
structure Numbers (K : Type) where
  ofInt : ℤ → K
  /-- The number without its fraction. -/
  floor : K → K
  /-- The floor as an integer of a range. -/
  floorWithin : ℤ → ℤ → K → ℤ

namespace Numbers

/-- Doubles, which are rounded. -/
def doubles : Numbers Float := ⟨Float.ofInt, Double.floor, Double.floorWithin⟩

/-- Rational numbers, which are not. -/
def rationals : Numbers ℚ where
  ofInt n := n
  floor d := (⌊d⌋ : ℤ)
  floorWithin low high d := clamp low high ⌊d⌋

end Numbers

end VoxelScore
