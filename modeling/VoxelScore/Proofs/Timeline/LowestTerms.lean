import Mathlib.Order.Compare
import VoxelScore.Proofs.Timeline.Fraction

/-!
# Times in lowest terms

Every rational number that is not negative is one time. A fraction is reduced by Euclid's steps, so
that equal numbers have the same numerator and denominator, and two times are compared by their
cross products, which is the order of the numbers. Equality looks at the parts and the order at the
products; that they go together is what lowest terms are for.

## Main definitions

* `euclid`: the number that Euclid's steps end with
* `Fits`: times with a numerator and a denominator of 64 bits
* `IsReduction`, `IsRationalOrder`, `IsScaledFloor`: the laws of fractions, of their order and of
  the whole part of a multiple

## Main results

* `euclid_eq_max_gcd`: the steps end with the greatest common divisor
* `ofFraction_eq_iff`: fractions are equal by their cross products
* `compare_eq`: times are ordered as the numbers that they write
* `lowestTerms`: times are the rational numbers that are not negative
-/

namespace VoxelScore.CycleTime

variable {a b c d k : ℕ} {s t : CycleTime}

/-! ## Fractions -/

/-- **Euclid's steps**: of two numbers the second one is divided into the first one, and the
remainder into the second one, until nothing remains. The number that is left counts as one at
least. -/
def euclid (a b : ℕ) : ℕ :=
  if b = 0 then max a 1 else euclid b (a % b)
termination_by b
decreasing_by exact Nat.mod_lt a (by omega)

theorem euclid_eq_max_gcd (a b : ℕ) : euclid a b = max (a.gcd b) 1 := by
  fun_induction euclid a b with
  | case1 a => rw [Nat.gcd_zero_right]
  | case2 a b h ih => rw [ih, Nat.gcd_comm b, ← Nat.gcd_rec, Nat.gcd_comm]

/-- With a denominator the steps do not end with zero. -/
theorem euclid_eq_gcd (hb : 0 < b) : euclid a b = a.gcd b := by
  have hpos := Nat.gcd_pos_of_pos_right a hb
  rw [euclid_eq_max_gcd]
  omega

/-- The denominator that counts: a zero is read as one. -/
def divisor (b : ℕ) : ℕ := max b 1

theorem divisor_pos (b : ℕ) : 0 < divisor b := by
  unfold divisor
  omega

theorem divisor_cast_pos (b : ℕ) : (0 : ℚ) < divisor b := Nat.cast_pos.mpr (divisor_pos b)

/-- **Numerator and denominator** are divided by what Euclid's steps end with. -/
theorem parts_ofFraction (a b : ℕ) :
    (ofFraction a b).num = a / euclid a (divisor b) ∧
      (ofFraction a b).den = divisor b / euclid a (divisor b) := by
  rw [euclid_eq_gcd (divisor_pos b)]
  exact ⟨rfl, rfl⟩

theorem toRat_ofFraction_divisor (a b : ℕ) : (ofFraction a b).toRat = a / divisor b := by
  have hdivisor : ofFraction a b = ofFraction a (divisor b) := by
    unfold divisor ofFraction
    simp only [max_eq_left, le_max_right]
  rw [hdivisor, toRat_ofFraction (divisor_pos b)]

/-- **Fractions are equal by their cross products.** -/
theorem ofFraction_eq_iff :
    ofFraction a b = ofFraction c d ↔ a * divisor d = c * divisor b := by
  rw [← toRat_injective.eq_iff, toRat_ofFraction_divisor, toRat_ofFraction_divisor,
    div_eq_div_iff (divisor_cast_pos b).ne' (divisor_cast_pos d).ne']
  norm_cast

/-- The time of a rational number. -/
theorem toRat_ofFraction_num {q : ℚ} (hq : 0 ≤ q) : (ofFraction q.num.toNat q.den).toRat = q := by
  have hnum : ((q.num.toNat : ℕ) : ℚ) = q.num := by
    exact_mod_cast Int.toNat_of_nonneg (Rat.num_nonneg.mpr hq)
  rw [toRat_ofFraction q.pos, hnum, Rat.num_div_den]

/-- Numerator and denominator have 64 bits. -/
structure Fits (t : CycleTime) : Prop where
  num : t.num < words64
  den : t.den < words64

instance (t : CycleTime) : Decidable t.Fits :=
  decidable_of_iff (t.num < words64 ∧ t.den < words64) ⟨fun h => ⟨h.1, h.2⟩, fun h => ⟨h.1, h.2⟩⟩

/-- Reducing makes neither part greater. -/
theorem fits_ofFraction (ha : a < words64) (hb : b < words64) : (ofFraction a b).Fits := by
  have hdivisor : divisor b < words64 := max_lt hb (by decide)
  obtain ⟨hnum, hden⟩ := parts_ofFraction a b
  constructor
  · rw [hnum]
    exact (Nat.div_le_self ..).trans_lt ha
  · rw [hden]
    exact (Nat.div_le_self ..).trans_lt hdivisor

/-- **Fractions in lowest terms**: the denominator is positive and has no divisor in common with the
numerator, equal fractions are equal times, and every number that is not negative is a time. -/
structure IsReduction (reduce : ℕ → ℕ → CycleTime) : Prop where
  parts : ∀ a b, (reduce a b).num = a / euclid a (divisor b) ∧
    (reduce a b).den = divisor b / euclid a (divisor b)
  lowest : ∀ a b, 0 < (reduce a b).den ∧ (reduce a b).num.Coprime (reduce a b).den
  fits : ∀ a b, a < words64 → b < words64 → (reduce a b).Fits
  value : ∀ a b, (reduce a b).toRat = a / divisor b
  equal : ∀ a b c d, reduce a b = reduce c d ↔ a * divisor d = c * divisor b
  onto : ∀ q : ℚ, 0 ≤ q → (reduce q.num.toNat q.den).toRat = q

theorem isReduction_ofFraction : IsReduction ofFraction where
  parts := parts_ofFraction
  lowest a b := ⟨(ofFraction a b).den_pos, (ofFraction a b).coprime⟩
  fits _ _ := fits_ofFraction
  value := toRat_ofFraction_divisor
  equal _ _ _ _ := ofFraction_eq_iff
  onto _ := toRat_ofFraction_num

/-! ## Order -/

/-- **Times are ordered as the numbers that they write.** -/
theorem compare_eq (s t : CycleTime) : s.compare t = Ord.compare s.toRat t.toRat := by
  rcases lt_trichotomy s.toRat t.toRat with h | h | h
  · -- the products are compared the other way round
    have hgt := (compare_eq_gt_iff t s).mpr h
    rw [compare_lt_iff_lt.mpr h]
    unfold CycleTime.compare at hgt ⊢
    rw [← Nat.compare_swap, hgt]
    rfl
  · rw [compare_eq_iff_eq.mpr h, toRat_injective h]
    exact Nat.compare_eq_eq.mpr rfl
  · rw [compare_gt_iff_gt.mpr h]
    exact (compare_eq_gt_iff s t).mpr h

theorem isLE_compare : (s.compare t).isLE ↔ s.toRat ≤ t.toRat := by
  rw [compare_eq, Ordering.isLE_iff_ne_gt]
  exact compare_le_iff_le

/-- Cross products of 64 bits have 128 bits. -/
theorem Fits.mul_lt (hs : s.Fits) (ht : t.Fits) : s.num * t.den < 2 ^ 128 := by
  have hwords : words64 * words64 = 2 ^ 128 := by decide
  rw [← hwords]
  exact Nat.mul_lt_mul_of_lt_of_le hs.num ht.den.le (by decide)

/-- **The order of the rational numbers**, a linear one that is equal on equal times only. Its cross
products have no more than 128 bits. -/
structure IsRationalOrder (order : CycleTime → CycleTime → Ordering) : Prop where
  value : ∀ s t, order s t = Ord.compare s.toRat t.toRat
  total : ∀ s t, (order s t).isLE ∨ (order t s).isLE
  antisymm : ∀ s t, (order s t).isLE → (order t s).isLE → s = t
  trans : ∀ s t u, (order s t).isLE → (order t u).isLE → (order s u).isLE
  equal : ∀ s t, order s t = .eq ↔ s = t
  products : ∀ s t : CycleTime, s.Fits → t.Fits → s.num * t.den < 2 ^ 128 ∧ t.num * s.den < 2 ^ 128

theorem isRationalOrder_compare : IsRationalOrder CycleTime.compare where
  value := compare_eq
  total s t := by
    rw [isLE_compare, isLE_compare]
    exact le_total ..
  antisymm s t h h' := toRat_injective ((isLE_compare.mp h).antisymm (isLE_compare.mp h'))
  trans s t u h h' := isLE_compare.mpr ((isLE_compare.mp h).trans (isLE_compare.mp h'))
  equal s t := by
    rw [compare_eq, compare_eq_iff_eq]
    exact toRat_injective.eq_iff
  products s t hs ht := ⟨hs.mul_lt ht, ht.mul_lt hs⟩

/-! ## Whole parts of multiples -/

/-- Whole parts are ordered as the times, as long as the products fit. -/
theorem floorScaled_mono (hs : s.num * k < words64) (ht : t.num * k < words64)
    (h : (s.compare t).isLE) : s.floorScaled k ≤ t.floorScaled k := by
  have hfloor : ⌊s.toRat * k⌋ ≤ ⌊t.toRat * k⌋ :=
    Int.floor_mono (mul_le_mul_of_nonneg_right (isLE_compare.mp h) (Nat.cast_nonneg k))
  rw [← floorScaled_eq_floor hs, ← floorScaled_eq_floor ht] at hfloor
  exact_mod_cast hfloor

/-- A part of a whole is less than the whole, whether the product fits or not. -/
theorem floorScaled_lt (hk : 0 < k) (ht : t.toRat < 1) : t.floorScaled k < k := by
  have hparts : t.num < t.den := by
    rw [toRat, div_lt_one t.den_cast_pos] at ht
    exact_mod_cast ht
  refine Nat.div_lt_of_lt_mul ?_
  calc t.num * k % words64 ≤ t.num * k := Nat.mod_le ..
    _ < t.den * k := Nat.mul_lt_mul_of_pos_right hparts hk

/-- **The whole part of a multiple** is exact as long as the product fits, grows with the time, and
stays below the factor for a time within the cycle. -/
structure IsScaledFloor (scaled : CycleTime → ℕ → ℕ) : Prop where
  exact : ∀ t k, t.num * k < words64 → (scaled t k : ℤ) = ⌊t.toRat * k⌋
  mono : ∀ s t k, s.num * k < words64 → t.num * k < words64 → s.toRat ≤ t.toRat →
    scaled s k ≤ scaled t k
  below : ∀ t k, 0 < k → t.toRat < 1 → scaled t k < k

theorem isScaledFloor_floorScaled : IsScaledFloor floorScaled where
  exact _ _ := floorScaled_eq_floor
  mono _ _ _ hs ht h := floorScaled_mono hs ht (isLE_compare.mpr h)
  below _ _ := floorScaled_lt

/-- **Times are the rational numbers that are not negative**, each one in one way, with their order
and the whole parts of their multiples. -/
theorem lowestTerms :
    IsReduction ofFraction ∧ IsRationalOrder CycleTime.compare ∧ IsScaledFloor floorScaled :=
  ⟨isReduction_ofFraction, isRationalOrder_compare, isScaledFloor_floorScaled⟩

/-- Two times at the upper end of 64 bits that no double tells apart, the lower one written with
parts that are both even. -/
theorem lowestTerms_neighbours :
    let lower := ofFraction 0xFFFFFFFFFFFFFFFC 0xFFFFFFFFFFFFFFFE
    let upper := ofFraction 0xFFFFFFFFFFFFFFFE 0xFFFFFFFFFFFFFFFF
    lower.Fits ∧ upper.Fits ∧ lower.num * upper.den < 2 ^ 128 ∧ upper.num * lower.den < 2 ^ 128 ∧
      lower = ofFraction 0x7FFFFFFFFFFFFFFE 0x7FFFFFFFFFFFFFFF ∧ lower.compare upper = .lt ∧
      upper.floorScaled 4 < 4 := by
  obtain ⟨hreduction, horder, hfloor⟩ := lowestTerms
  have hlower := hreduction.fits 0xFFFFFFFFFFFFFFFC 0xFFFFFFFFFFFFFFFE (by decide) (by decide)
  have hupper := hreduction.fits 0xFFFFFFFFFFFFFFFE 0xFFFFFFFFFFFFFFFF (by decide) (by decide)
  obtain ⟨hleft, hright⟩ := horder.products _ _ hlower hupper
  refine ⟨hlower, hupper, hleft, hright, (hreduction.equal _ _ _ _).mpr (by decide), ?_,
    hfloor.below _ _ (by decide) ?_⟩
  · rw [horder.value, hreduction.value, hreduction.value, compare_lt_iff_lt]
    norm_num [divisor]
  · rw [hreduction.value]
    norm_num [divisor]

end VoxelScore.CycleTime
