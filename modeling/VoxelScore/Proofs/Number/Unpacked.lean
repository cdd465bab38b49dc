import Mathlib
import VoxelScore.Number.Double

/-!
# Whole numbers among unpacked doubles

An unpacked double is a sign, a mantissa and an exponent. One that is neither small nor zero has a
mantissa of 53 bits, and only one such pair of mantissa and exponent stands for a given number. A
whole number of at most 53 bits has one, and so have sums and products of such numbers as long as
they have no more bits than that: rounding then drops zeros only.

## Main definitions

* `IsNormal`: a mantissa of 53 bits
* `IsWholeAs`: an unpacked double that is a whole number

## Main results

* `roundWithAccuracy_exact`, `round_exact_of_long`, `round_exact_of_short`: rounding that drops
  or adds zeros only
* `IsWholeAs.add`, `IsWholeAs.mul`, `IsWholeAs.neg`, `IsWholeAs.sub_same`: arithmetic is exact
* `IsWholeAs.compare_of_lt`: the order is that of the integers
* `IsWholeAs.unique`: a whole number is one double
* `IsWholeAs.unpack_pack`: packing loses nothing
-/

namespace VoxelScore.Double

open Float.Model (Format UnpackedFloat totalExponent)
open Float.Model.UnpackedFloat

variable {s t : Sign} {m l a b d j k : ℕ} {e n : ℤ} {u v : UnpackedFloat}

/-! ## Rounding -/

/-- The mantissa has 53 bits. -/
structure IsNormal (m : ℕ) : Prop where
  low : 2 ^ 52 ≤ m
  high : m < 2 ^ 53

theorem IsNormal.pos (h : IsNormal m) : 0 < m := lt_of_lt_of_le (by positivity) h.low

theorem log2_mul_two_pow (hm : m ≠ 0) (d : ℕ) : (m * 2 ^ d).log2 = m.log2 + d := by
  induction d with
  | zero => simp
  | succ d ih =>
    have hpos : m * 2 ^ d ≠ 0 := Nat.mul_ne_zero hm (by positivity)
    rw [pow_succ, ← mul_assoc, Nat.log2_eq_log_two, Nat.log_mul_base one_lt_two hpos,
      ← Nat.log2_eq_log_two, ih, add_assoc]

/-- A power of two may stand in the mantissa or in the exponent. -/
theorem totalExponent_mul_two_pow (hm : m ≠ 0) (d : ℕ) (e : ℤ) :
    totalExponent (m * 2 ^ d) (e - d) = totalExponent m e := by
  rw [totalExponent, totalExponent, log2_mul_two_pow hm]
  push_cast
  omega

theorem IsNormal.log2 (h : IsNormal m) : m.log2 = 52 := by
  have hlow := (Nat.le_log2 h.pos.ne').mpr h.low
  have hhigh := (Nat.log2_lt h.pos.ne').mpr h.high
  omega

/-- The exponent at which a mantissa has 53 bits. -/
theorem IsNormal.targetExponent (h : IsNormal m) (he : -1074 ≤ e) :
    Format.binary64.targetExponent (totalExponent m e) = e := by
  show max (totalExponent m e - 53) (-1074) = e
  rw [totalExponent, h.log2]
  omega

/-- Shifting drops zeros. -/
theorem shiftRight_exact (m d : ℕ) :
    (⟨m * 2 ^ d, false, false⟩ : ExtendedMantissa) >>> d = ⟨m, false, false⟩ := by
  show d.repeat ExtendedMantissa.shiftRightOne _ = _
  induction d generalizing m with
  | zero => simp [Nat.repeat]
  | succ d ih =>
    have hstep := ih (m * 2)
    rw [mul_assoc, ← pow_succ'] at hstep
    show ExtendedMantissa.shiftRightOne (d.repeat ExtendedMantissa.shiftRightOne _) = _
    rw [hstep]
    simp [ExtendedMantissa.shiftRightOne]

theorem shiftToTargetExponent_exact (h : IsNormal m) (he : -1074 ≤ e) (d : ℕ) :
    shiftToTargetExponent .binary64 (m * 2 ^ d) (e - d) .exact = (⟨m, false, false⟩, e) := by
  have hamount : (e - (e - d)).toNat = d := by omega
  unfold shiftToTargetExponent shiftToExponent
  simp only [totalExponent_mul_two_pow h.pos.ne', h.targetExponent he, hamount,
    ExtendedMantissa.ofMantissaAndAccuracy, shiftRight_exact, sub_add_cancel]

/-- **Rounding that drops zeros only.** -/
theorem roundWithAccuracy_exact (h : IsNormal m) (he : -1074 ≤ e) (s : Sign) (d : ℕ) :
    roundWithAccuracy .binary64 s (m * 2 ^ d) (e - d) .exact = .finite s m e h.pos := by
  -- what is left has 53 bits, so that the second shift moves nothing
  have hlast := shiftToTargetExponent_exact h he 0
  simp only [pow_zero, mul_one, Nat.cast_zero, sub_zero] at hlast
  unfold roundWithAccuracy
  rw [shiftToTargetExponent_exact h he]
  simp only [ExtendedMantissa.roundedMantissa, ExtendedMantissa.accuracy,
    Accuracy.roundToNearestEven, hlast]
  exact dif_neg h.pos.ne'

/-- A mantissa with too many bits loses zeros. -/
theorem round_exact_of_long (h : IsNormal m) (he : -1074 ≤ e) (s : Sign) (d : ℕ) :
    UnpackedFloat.round .binary64 s (m * 2 ^ d) (e - d) = .finite s m e h.pos := by
  unfold UnpackedFloat.round decreaseExponent
  simp [totalExponent_mul_two_pow h.pos.ne', h.targetExponent he, roundWithAccuracy_exact h he]

/-- A mantissa with too few bits gains zeros. -/
theorem round_exact_of_short (h : IsNormal (m * 2 ^ d)) (he : -1074 ≤ e) (s : Sign) :
    UnpackedFloat.round .binary64 s m (e + d) = .finite s (m * 2 ^ d) e h.pos := by
  have hm : m ≠ 0 := by
    rintro rfl
    simpa using h.pos
  have htotal := totalExponent_mul_two_pow hm d (e + d)
  have hamount : (e + d - e).toNat = d := by omega
  have hround := roundWithAccuracy_exact h he s 0
  rw [add_sub_cancel_right] at htotal
  unfold UnpackedFloat.round decreaseExponent
  simpa [← htotal, h.targetExponent he, hamount, Nat.shiftLeft_eq] using hround

/-! ## Whole numbers -/

/-- **The unpacked double is a whole number**: a positive zero, or a mantissa of 53 bits that is the
number times a power of two. -/
inductive IsWholeAs : UnpackedFloat → ℤ → Prop
  | zero : IsWholeAs (.zero .positive) 0
  | finite {s : Sign} {m : ℕ} {n : ℤ} (k : ℕ) (pos : 0 < m) (normal : IsNormal m)
      (exact : s.apply m = n * 2 ^ k) : IsWholeAs (.finite s m (-k) pos) n

theorem apply_mul (s : Sign) (a b : ℤ) : s.apply (a * b) = s.apply a * b := by
  cases s
  · exact (neg_mul a b).symm
  · rfl

theorem mul_apply_mul (s t : Sign) (a b : ℤ) : (s * t).apply (a * b) = s.apply a * t.apply b := by
  cases s <;> cases t
  · exact (neg_mul_neg a b).symm
  · exact (neg_mul a b).symm
  · exact (mul_neg a b).symm
  · rfl

theorem natAbs_apply (s : Sign) (a : ℕ) : (s.apply a).natAbs = a := by
  cases s <;> simp [Sign.apply]

/-- The mantissa is the number without its sign, times the power of two. -/
theorem mantissa_eq (h : s.apply m = n * 2 ^ k) : m = n.natAbs * 2 ^ k := by
  rw [← natAbs_apply s m, h, Int.natAbs_mul, Int.natAbs_pow]
  rfl

/-- The power of two is the one that gives the number 53 bits. -/
theorem log2_add_eq (hm : IsNormal m) (h : s.apply m = n * 2 ^ k) : n.natAbs.log2 + k = 52 := by
  have hmantissa := mantissa_eq h
  have hne : n.natAbs ≠ 0 := by
    intro h0
    rw [h0, zero_mul] at hmantissa
    exact hm.pos.ne' hmantissa
  rw [← log2_mul_two_pow hne, ← hmantissa, hm.log2]

/-- The sign is that of the number. -/
theorem sign_eq (hm : 0 < m) (h : s.apply m = n * 2 ^ k) :
    s = if 0 ≤ n then .positive else .negative := by
  have hpow : (0 : ℤ) < 2 ^ k := by positivity
  have hsign : 0 ≤ s.apply m ↔ 0 ≤ n := by rw [h, mul_nonneg_iff_of_pos_right hpow]
  rw [← if_congr hsign rfl rfl]
  cases s
  · exact (if_neg (by simpa [Sign.apply] using hm.ne')).symm
  · exact (if_pos (by simp [Sign.apply])).symm

/-- A number that is not zero has 53 bits with zeros behind it. -/
theorem exists_isNormal (ha : a ≠ 0) (h : a < 2 ^ 53) : ∃ k ≤ 52, IsNormal (a * 2 ^ k) := by
  have hlog := (Nat.log2_lt ha).mpr h
  have hsum : (a * 2 ^ (52 - a.log2)).log2 = 52 := by
    rw [log2_mul_two_pow ha]
    omega
  have hpos : a * 2 ^ (52 - a.log2) ≠ 0 := Nat.mul_ne_zero ha (by positivity)
  exact ⟨52 - a.log2, by omega, (Nat.le_log2 hpos).mp hsum.ge, (Nat.log2_lt hpos).mp (by omega)⟩

/-- **A whole number is rounded to itself.** -/
theorem isWholeAs_round (s : Sign) (ha : a ≠ 0) (h : a < 2 ^ 53) (k : ℕ) :
    IsWholeAs (UnpackedFloat.round .binary64 s (a * 2 ^ k) (-k)) (s.apply a) := by
  -- the number has 53 bits with `j` zeros behind it, more or fewer than the mantissa has
  obtain ⟨j, hj, hnormal⟩ := exists_isNormal ha h
  have hexact : s.apply (a * 2 ^ j : ℕ) = s.apply a * 2 ^ j := by
    rw [Nat.cast_mul, apply_mul]
    push_cast
    rfl
  rcases Nat.le_total j k with hjk | hkj
  · obtain ⟨d, rfl⟩ := Nat.exists_eq_add_of_le hjk
    have he : -((j + d : ℕ) : ℤ) = -j - d := by push_cast; ring
    rw [pow_add, ← mul_assoc, he, round_exact_of_long hnormal (by omega)]
    exact .finite j _ hnormal hexact
  · obtain ⟨d, rfl⟩ := Nat.exists_eq_add_of_le hkj
    have he : -(k : ℤ) = -((k + d : ℕ) : ℤ) + d := by push_cast; ring
    rw [pow_add, ← mul_assoc] at hnormal
    rw [he, round_exact_of_short hnormal (by omega)]
    exact .finite (k + d) _ hnormal (by rw [← hexact, pow_add, ← mul_assoc])

theorem normalize_natCast (ha : a ≠ 0) (e : ℤ) (zero : Sign) :
    UnpackedFloat.normalize .binary64 a e zero = UnpackedFloat.round .binary64 .positive a e := by
  have hgt : compare (a : ℤ) 0 = .gt := compare_gt_iff_gt.mpr (by omega)
  rw [UnpackedFloat.normalize, hgt]
  rfl

theorem normalize_neg_natCast (ha : a ≠ 0) (e : ℤ) (zero : Sign) :
    UnpackedFloat.normalize .binary64 (-a) e zero =
      UnpackedFloat.round .binary64 .negative a e := by
  have hlt : compare (-a : ℤ) 0 = .lt := compare_lt_iff_lt.mpr (by omega)
  rw [UnpackedFloat.normalize, hlt]
  simp

/-- A whole number times a power of two becomes a double that is the number. -/
theorem isWholeAs_normalize (h : n.natAbs < 2 ^ 53) (k : ℕ) :
    IsWholeAs (UnpackedFloat.normalize .binary64 (n * 2 ^ k) (-k) .positive) n := by
  obtain ⟨a, hn⟩ := n.eq_nat_or_neg
  by_cases ha : a = 0
  · have hz : n = 0 := by omega
    rw [hz, zero_mul]
    exact .zero
  · have hpos : a * 2 ^ k ≠ 0 := Nat.mul_ne_zero ha (by positivity)
    have hcast : (a * 2 ^ k : ℤ) = (a * 2 ^ k : ℕ) := by push_cast; rfl
    rcases hn with rfl | rfl
    · rw [hcast, normalize_natCast hpos]
      exact isWholeAs_round .positive ha (by simpa using h) k
    · rw [neg_mul, hcast, normalize_neg_natCast hpos]
      exact isWholeAs_round .negative ha (by simpa using h) k

/-! ## Sums and products -/

namespace IsWholeAs

/-- A mantissa with more zeros behind it is the number times a greater power of two. -/
theorem apply_decreaseExponent (hm : s.apply m = n * 2 ^ k) {j : ℕ} (hj : k ≤ j) :
    s.apply (decreaseExponent m (-k) (-j)).1 = n * 2 ^ j := by
  obtain ⟨d, rfl⟩ := Nat.exists_eq_add_of_le hj
  have hamount : (-(k : ℤ) - -((k + d : ℕ) : ℤ)).toNat = d := by omega
  rw [decreaseExponent, hamount, Nat.shiftLeft_eq, Nat.cast_mul, apply_mul, hm, pow_add, mul_assoc]
  push_cast
  rfl

/-- **Sums** of whole numbers are exact. -/
theorem add {a b : ℤ} (hu : IsWholeAs u a) (hv : IsWholeAs v b) (h : (a + b).natAbs < 2 ^ 53) :
    IsWholeAs (UnpackedFloat.add .binary64 u v) (a + b) := by
  cases hu with
  | zero =>
    rw [zero_add]
    cases hv with
    | zero => exact .zero
    | finite k pos normal exact => exact .finite k pos normal exact
  | @finite s m a k pos normal hexact =>
    cases hv with
    | zero =>
      rw [add_zero]
      exact .finite k pos normal hexact
    | @finite t l b j pos' normal' hexact' =>
      -- both numbers times the greater power of two
      have hmin : min (-(k : ℤ)) (-j) = -(max k j : ℕ) := by omega
      show IsWholeAs (UnpackedFloat.normalize .binary64
        (s.apply (decreaseExponent m (-k) (min (-k) (-j))).1 +
          t.apply (decreaseExponent l (-j) (min (-k) (-j))).1) (min (-k) (-j)) .positive) (a + b)
      rw [hmin, apply_decreaseExponent hexact (le_max_left k j),
        apply_decreaseExponent hexact' (le_max_right k j), ← add_mul]
      exact isWholeAs_normalize h _

/-- A number minus itself is the positive zero. -/
theorem sub_same (hu : IsWholeAs u n) : UnpackedFloat.sub .binary64 u u = .zero .positive := by
  cases hu with
  | zero => rfl
  | finite k pos normal exact =>
    show UnpackedFloat.normalize _ (_ - _) _ _ = _
    rw [sub_self]
    rfl

theorem neg (hu : IsWholeAs u n) (hn : n ≠ 0) : IsWholeAs u.neg (-n) := by
  cases hu with
  | zero => exact absurd rfl hn
  | @finite s m n k pos normal hexact =>
    refine .finite k pos normal ?_
    rw [neg_mul, ← hexact]
    cases s
    · exact (neg_neg _).symm
    · rfl

/-- **Products** of whole numbers are exact, but for a zero with a negative factor. -/
theorem mul {a b : ℤ} (hu : IsWholeAs u a) (hv : IsWholeAs v b)
    (hzero : a * b = 0 → 0 ≤ a ∧ 0 ≤ b) (h : (a * b).natAbs < 2 ^ 53) :
    IsWholeAs (UnpackedFloat.mul .binary64 u v) (a * b) := by
  cases hu with
  | zero =>
    rw [zero_mul] at hzero ⊢
    cases hv with
    | zero => exact .zero
    | finite j pos normal exact =>
      rw [sign_eq pos exact, if_pos (hzero rfl).2]
      exact .zero
  | @finite s m a k pos normal hexact =>
    cases hv with
    | zero =>
      rw [mul_zero] at hzero ⊢
      rw [sign_eq pos hexact, if_pos (hzero rfl).1]
      exact .zero
    | @finite t l b j pos' normal' hexact' =>
      have hproduct : (s * t).apply (m * l : ℕ) = a * b * 2 ^ (k + j) := by
        rw [Nat.cast_mul, mul_apply_mul, hexact, hexact']
        ring
      have hlong := mantissa_eq hproduct
      have hne : (a * b).natAbs ≠ 0 := by
        intro h0
        rw [h0, zero_mul] at hlong
        exact (Nat.mul_pos pos pos').ne' hlong
      obtain ⟨i, hi, hnormal⟩ := exists_isNormal hne h
      -- the product of two mantissas of 53 bits is longer than 53 bits
      have hle : i ≤ k + j := by
        by_contra hlt
        have hshort : m * l < 2 ^ 53 := by
          rw [hlong]
          refine lt_of_le_of_lt (Nat.mul_le_mul_left _ ?_) hnormal.high
          exact Nat.pow_le_pow_right (by norm_num) (by omega)
        have hlow := Nat.mul_le_mul normal.low normal'.low
        omega
      obtain ⟨d, hd⟩ := Nat.exists_eq_add_of_le hle
      have he : -(k : ℤ) + -j = -i - d := by omega
      rw [hd, pow_add, ← mul_assoc] at hlong hproduct
      show IsWholeAs (roundWithAccuracy .binary64 (s * t) (m * l) (-k + -j) .exact) (a * b)
      rw [hlong, he, roundWithAccuracy_exact hnormal (by omega)]
      refine .finite i _ hnormal ?_
      have hpow : (2 : ℤ) ^ d ≠ 0 := by positivity
      refine mul_right_cancel₀ hpow ?_
      rw [← apply_mul, ← hproduct, hlong]
      push_cast
      rfl

/-! ## Order -/

/-- Of two numbers the smaller one has the smaller exponent, or the same exponent and the smaller
mantissa. -/
theorem compare_then_compare (hm : a.log2 + k = 52) (hl : b.log2 + j = 52) (h : a < b) :
    (compare (-(k : ℤ)) (-j)).then (compare (a * 2 ^ k) (b * 2 ^ j)) = .lt := by
  have hlog : a.log2 ≤ b.log2 := by
    simpa only [Nat.log2_eq_log_two] using Nat.log_mono_right h.le
  rcases lt_or_eq_of_le (show j ≤ k by omega) with hjk | rfl
  · have hlt : compare (-(k : ℤ)) (-j) = .lt := compare_lt_iff_lt.mpr (by omega)
    rw [hlt]
    rfl
  · have heq : compare (-(j : ℤ)) (-j) = .eq := compare_eq_iff_eq.mpr rfl
    have hlt : a * 2 ^ j < b * 2 ^ j := Nat.mul_lt_mul_of_pos_right h (by positivity)
    rw [heq, compare_lt_iff_lt.mpr hlt]
    rfl

/-- **The order** of whole numbers is that of the integers. -/
theorem compare_of_lt {a b : ℤ} (hu : IsWholeAs u a) (hv : IsWholeAs v b) (h : a < b) :
    u.compare v = some .lt := by
  cases hu with
  | zero =>
    cases hv with
    | zero => exact absurd h (lt_irrefl 0)
    | finite j pos normal exact =>
      rw [sign_eq pos exact, if_pos h.le]
      rfl
  | @finite s m a k pos normal hexact =>
    cases hv with
    | zero =>
      rw [sign_eq pos hexact, if_neg h.not_ge]
      rfl
    | @finite t l b j pos' normal' hexact' =>
      have hlow := log2_add_eq normal hexact
      have hlow' := log2_add_eq normal' hexact'
      have hm := mantissa_eq hexact
      have hl := mantissa_eq hexact'
      have hs := sign_eq pos hexact
      have ht := sign_eq pos' hexact'
      subst hm hl
      rcases lt_or_ge a 0 with ha | ha
      · rw [if_neg ha.not_ge] at hs
        rcases lt_or_ge b 0 with hb | hb
        · -- of two negative numbers the one further from zero is the smaller
          rw [if_neg hb.not_ge] at ht
          subst hs ht
          have hcompare := compare_then_compare hlow' hlow (by omega)
          rw [Std.OrientedOrd.eq_swap (a := -(j : ℤ)), Std.OrientedOrd.eq_swap (a := b.natAbs * _),
            ← Ordering.swap_then] at hcompare
          exact congrArg some hcompare
        · rw [if_pos hb] at ht
          subst hs ht
          rfl
      · rw [if_pos ha] at hs
        rw [if_pos (ha.trans h.le)] at ht
        subst hs ht
        exact congrArg some (compare_then_compare hlow hlow' (by omega))

/-- The number has at most 53 bits. -/
theorem natAbs_lt (hu : IsWholeAs u n) : n.natAbs < 2 ^ 53 := by
  cases hu with
  | zero => decide
  | @finite s m n k pos normal exact =>
    calc n.natAbs ≤ n.natAbs * 2 ^ k := Nat.le_mul_of_pos_right _ (by positivity)
      _ = m := (mantissa_eq exact).symm
      _ < 2 ^ 53 := normal.high

/-- **A whole number is one double.** -/
theorem unique (hu : IsWholeAs u n) (hv : IsWholeAs v n) : u = v := by
  cases hu with
  | zero =>
    cases hv with
    | zero => rfl
    | finite j pos normal exact =>
      have hmantissa := mantissa_eq exact
      rw [Int.natAbs_zero, zero_mul] at hmantissa
      exact absurd hmantissa pos.ne'
  | @finite s m a k pos normal hexact =>
    cases hv with
    | zero =>
      have hmantissa := mantissa_eq hexact
      rw [Int.natAbs_zero, zero_mul] at hmantissa
      exact absurd hmantissa pos.ne'
    | @finite t l b j pos' normal' hexact' =>
      have hlow := log2_add_eq normal hexact
      have hlow' := log2_add_eq normal' hexact'
      -- the power of two is told by the number alone, then the mantissa and the sign
      obtain rfl : k = j := by omega
      obtain rfl : m = l := (mantissa_eq hexact).trans (mantissa_eq hexact').symm
      obtain rfl : s = t := (sign_eq pos hexact).trans (sign_eq pos' hexact').symm
      rfl

end IsWholeAs

/-! ## Packing -/

/-- The leading one of a mantissa is not stored. -/
theorem toNat_one_append (b : BitVec 52) : (1#1 ++ b).toNat = 2 ^ 52 + b.toNat := by
  have hor := Nat.two_pow_add_eq_or_of_lt b.isLt 1
  rw [BitVec.toNat_append, Nat.shiftLeft_eq, mul_comm]
  exact hor.symm

/-- A double with a mantissa of 53 bits is stored without the leading one. -/
theorem pack_finite (h : IsNormal m) (hb : b < 2046) (he : e + 1075 = b + 1) (s : Sign) :
    UnpackedFloat.pack .binary64 (.finite s m e h.pos) =
      packComponents .binary64 s (BitVec.ofNat 11 (b + 1)) (BitVec.ofNat 52 m) := by
  have hbits : m.log2 + 1 = Format.binary64.mantissaBits := by
    rw [h.log2]
    rfl
  have hexponent : (e + Format.binary64.exponentBias +
      Format.binary64.mantissaBitsWithoutImplicit).toNat = b + 1 := by
    show (e + 1023 + 52).toNat = b + 1
    omega
  have hfinite : ¬2 ^ Format.binary64.exponentBits ≤ b + 1 + 1 := by
    show ¬2048 ≤ b + 1 + 1
    omega
  unfold UnpackedFloat.pack
  simp only [hexponent, if_neg hfinite, if_pos hbits]

/-- Such a double is unpacked as it was packed. -/
theorem unpack_pack_finite (h : IsNormal m) (hb : b < 2046) (he : e + 1075 = b + 1) (s : Sign) :
    UnpackedFloat.unpack .binary64 (UnpackedFloat.pack .binary64 (.finite s m e h.pos)) =
      .finite s m e h.pos := by
  have hexponent : (BitVec.ofNat 11 (b + 1)).toNat = b + 1 := Nat.mod_eq_of_lt (by omega)
  have hones : BitVec.ofNat 11 (b + 1) ≠ -1#11 := by
    rw [ne_eq, ← BitVec.toNat_inj, hexponent]
    show ¬b + 1 = 2047
    omega
  have hzeros : BitVec.ofNat 11 (b + 1) ≠ 0#11 := by
    rw [ne_eq, ← BitVec.toNat_inj, hexponent]
    exact Nat.succ_ne_zero b
  have hmantissa : (1#1 ++ BitVec.ofNat 52 m).toNat = m := by
    have hlow := h.low
    have hhigh := h.high
    rw [toNat_one_append, BitVec.toNat_ofNat]
    omega
  have hunbiased : ((b + 1 : ℕ) : ℤ) - (1023 + 52) = e := by omega
  rw [pack_finite h hb he]
  unfold UnpackedFloat.unpack
  simp only [unpackExponent_packComponents, unpackMantissa_packComponents,
    unpackSign_packComponents, Sign.ofBitVec_toBitVec, if_neg hones, if_neg hzeros]
  simp only [hmantissa, hexponent, ← hunbiased]
  rfl

/-- **Packing loses nothing** of a whole number. -/
theorem IsWholeAs.unpack_pack (hu : IsWholeAs u n) : (Float.Model.pack u).unpack = u := by
  cases hu with
  | zero => exact unpack_packedZero
  | @finite s m n k pos normal exact =>
    have hlog := log2_add_eq normal exact
    obtain ⟨b, hb⟩ := Nat.exists_eq_add_of_le (show k ≤ 1074 by omega)
    exact unpack_pack_finite normal (b := b) (by omega) (by omega) s

end VoxelScore.Double
