import Mathlib
import VoxelScore.Number.Double
import VoxelScore.Proofs.Number.Unpacked

/-!
# Whole numbers as doubles

A whole number of at most 53 bits has one double. Sums and products of such doubles are the doubles
of the sums and products as long as these have no more bits than that, the order is that of the
integers, and the exact value, so also the floor, is the number itself.

## Main definitions

* `Dyadic.ofUnpacked?`: the exact value of an unpacked double
* `IsWhole`: the double is a whole number

## Main results

* `Dyadic.ofDouble?_eq`: the exact value is that of the unpacked double
* `isWhole_ofInt`: whole numbers as doubles
* `IsWhole.add`, `IsWhole.mul`, `IsWhole.sub_self`: arithmetic is exact
* `IsWhole.lt`: the order is that of the integers
* `IsWhole.floorWithin`, `IsWhole.floor`: the floor of a whole number
-/

namespace VoxelScore

open Float.Model (Format UnpackedFloat)
open Float.Model.UnpackedFloat

/-! ## The exact value -/

namespace Dyadic

/-- The exact value of an unpacked double, unless it is an infinity or not a number. -/
def ofUnpacked? : UnpackedFloat → Option Dyadic
  | .zero s => some ⟨s == .negative, 0, -1074⟩
  | .finite s m e _ => some ⟨s == .negative, m, e⟩
  | .infinity _ => none
  | .notANumber => none

theorem toNat_unpackMantissa (x : Float) :
    (@unpackMantissa .binary64 x.toBits.toBitVec).toNat = x.toBits.toNat % 2 ^ 52 := by
  rw [unpackMantissa_def, BitVec.extractLsb'_toNat]
  rfl

theorem toNat_unpackExponent (x : Float) :
    (@unpackExponent .binary64 x.toBits.toBitVec).toNat =
      x.toBits.toNat / 2 ^ 52 % 2 ^ 11 := by
  rw [unpackExponent_def, BitVec.extractLsb'_toNat, Nat.shiftRight_eq_div_pow]
  rfl

theorem toNat_unpackSign (x : Float) :
    (@unpackSign .binary64 x.toBits.toBitVec).toNat = x.toBits.toNat / 2 ^ 63 := by
  rw [unpackSign_def, BitVec.extractLsb'_toNat, Nat.shiftRight_eq_div_pow]
  have hbits := x.toBits.toNat_lt
  exact Nat.mod_eq_of_lt (by simpa using by omega)

theorem ofBitVec_beq_negative (b : BitVec 1) :
    (Sign.ofBitVec b == .negative) = decide (b.toNat = 1) := by
  decide +revert

/-- **The exact value of a double** is that of its sign, mantissa and exponent. -/
theorem ofDouble?_eq (x : Float) : ofDouble? x = ofUnpacked? x.toModel.unpack := by
  show ofDouble? x = ofUnpacked? (UnpackedFloat.unpack .binary64 x.toBits.toBitVec)
  unfold ofDouble?
  simp only [Nat.pow_eq, ← toNat_unpackMantissa, ← toNat_unpackExponent, ← toNat_unpackSign,
    ← ofBitVec_beq_negative]
  generalize x.toBits.toBitVec = b
  have hones : (@unpackExponent .binary64 b).toNat = 2047 ↔
      @unpackExponent .binary64 b = -1#11 := by
    rw [← BitVec.toNat_inj]
    rfl
  have hzeros : (@unpackExponent .binary64 b).toNat = 0 ↔
      @unpackExponent .binary64 b = 0#11 := by
    rw [← BitVec.toNat_inj]
    rfl
  simp only [hones, hzeros]
  -- an exponent of ones is no number, and one of zeros has no leading one in the mantissa
  fun_cases UnpackedFloat.unpack .binary64 b with
  | case1 mantissa exponent sign s hexponent hmantissa => exact if_pos hexponent
  | case2 mantissa exponent hexponent hmantissa => exact if_pos hexponent
  | case3 mantissa exponent sign s hexponent hzero hmantissa =>
    rw [if_neg hexponent, if_pos hzero]
    have hnat : (@unpackMantissa .binary64 b).toNat = 0 := congrArg BitVec.toNat hmantissa
    rw [hnat]
    rfl
  | case4 mantissa exponent e sign s hexponent hzero hmantissa =>
    rw [if_neg hexponent, if_pos hzero]
    have hnat : (exponent.toNat : ℤ) = 0 := congrArg (fun v => (BitVec.toNat v : ℤ)) hzero
    have he : e + 1 = -1074 := by
      show (exponent.toNat : ℤ) - 1075 + 1 = -1074
      rw [hnat]
      rfl
    rw [he]
    rfl
  | case5 mantissa exponent e sign s hexponent hzero =>
    rw [if_neg hexponent, if_neg hzero, ← Double.toNat_one_append]
    rfl

end Dyadic

namespace Double

variable {x y : Float} {a b n low high : ℤ} {u : UnpackedFloat}

/-! ## Whole numbers -/

/-- **The double is a whole number**, zero being the positive one. -/
def IsWhole (x : Float) (n : ℤ) : Prop := IsWholeAs x.toModel.unpack n

theorem IsWholeAs.isWhole (hu : IsWholeAs u n) : IsWhole (.ofModel (.pack u)) n := by
  show IsWholeAs (Float.Model.pack u).unpack n
  rw [hu.unpack_pack]
  exact hu

theorem signed_eq_apply (s : Sign) (m : ℕ) (e : ℤ) :
    (Dyadic.mk (s == .negative) m e).signed = s.apply m := by
  cases s <;> rfl

/-- The exact value of a whole number is a multiple of a power of two that is divided by it. -/
theorem IsWholeAs.ofUnpacked?_eq_some (hu : IsWholeAs u n) :
    ∃ d, Dyadic.ofUnpacked? u = some d ∧ d.floor = n := by
  cases hu with
  | zero =>
    refine ⟨_, rfl, ?_⟩
    unfold Dyadic.floor
    rw [if_neg (by decide)]
    exact Int.zero_ediv _
  | @finite s m n k pos normal exact =>
    refine ⟨_, rfl, ?_⟩
    unfold Dyadic.floor
    rw [signed_eq_apply, exact, neg_neg, Int.toNat_natCast, Nat.pow_eq]
    split
    · next h =>
      obtain rfl : k = 0 := by
        simpa using h
      simp
    · exact Int.mul_ediv_cancel n (by positivity)

namespace IsWhole

/-- **A whole number has one double.** -/
theorem eq (hx : IsWhole x n) (hy : IsWhole y n) : x = y := by
  have hbits := (unpack_inj_of_valid x.toModel.valid y.toModel.valid).mp (IsWholeAs.unique hx hy)
  exact Float.toBits_inj.mp (UInt64.toBitVec_inj.mp hbits)

theorem natAbs_lt (hx : IsWhole x n) : n.natAbs < 2 ^ 53 := IsWholeAs.natAbs_lt hx

theorem add (hx : IsWhole x a) (hy : IsWhole y b) (h : (a + b).natAbs < 2 ^ 53) :
    IsWhole (x + y) (a + b) :=
  (IsWholeAs.add hx hy h).isWhole

theorem mul (hx : IsWhole x a) (hy : IsWhole y b) (hzero : a * b = 0 → 0 ≤ a ∧ 0 ≤ b)
    (h : (a * b).natAbs < 2 ^ 53) : IsWhole (x * y) (a * b) :=
  (IsWholeAs.mul hx hy hzero h).isWhole

theorem neg (hx : IsWhole x n) (hn : n ≠ 0) : IsWhole (-x) (-n) :=
  (IsWholeAs.neg hx hn).isWhole

theorem sub_self (hx : IsWhole x n) : IsWhole (x - x) 0 := by
  have hsub : IsWholeAs (UnpackedFloat.sub .binary64 x.toModel.unpack x.toModel.unpack) 0 := by
    rw [IsWholeAs.sub_same hx]
    exact .zero
  exact hsub.isWhole

/-- **The order** of whole numbers is that of the integers. -/
theorem lt (hx : IsWhole x a) (hy : IsWhole y b) (h : a < b) : x < y := by
  have hcompare := IsWholeAs.compare_of_lt hx hy h
  refine decide_eq_true ?_
  show (x.toModel.unpack.compare y.toModel.unpack == some .lt) = true
  rw [hcompare]
  rfl

/-- The exact value of a whole number is the number. -/
theorem ofDouble?_eq_some (hx : IsWhole x n) :
    ∃ d, Dyadic.ofDouble? x = some d ∧ d.floor = n := by
  rw [Dyadic.ofDouble?_eq]
  exact IsWholeAs.ofUnpacked?_eq_some hx

end IsWhole

theorem isWhole_one : IsWhole (.ofBits 0x3FF0000000000000) 1 := by
  have hone : Float.ofBits 0x3FF0000000000000 =
      .ofModel (.pack (UnpackedFloat.normalize .binary64 1 0 .positive)) := by
    decide +kernel
  rw [hone]
  exact (isWholeAs_normalize (n := 1) (by decide) 0).isWhole

theorem isWhole_ofNat {n : ℕ} (h : n < 2 ^ 53) : IsWhole (Float.ofNat n) n := by
  have hword : n.toUInt64.toNat = n := Nat.mod_eq_of_lt (by omega)
  have hof : IsWhole n.toUInt64.toFloat n := by
    have hnormal := isWholeAs_normalize (n := n) (by simpa using h) 0
    rw [pow_zero, mul_one] at hnormal
    have hfloat : n.toUInt64.toFloat =
        .ofModel (.pack (UnpackedFloat.normalize .binary64 n 0 .positive)) := by
      conv_rhs => rw [← hword]
      rfl
    rw [hfloat]
    exact hnormal.isWhole
  -- a numeral is multiplied by a power of ten, here by one
  have hmul := hof.mul isWhole_one (by omega) (by simpa using h)
  rw [mul_one] at hmul
  show IsWhole (Float.ofScientific n false 0) n
  rw [Float.ofScientific, dif_pos ⟨h, by decide⟩]
  exact hmul

/-- **Whole numbers as doubles.** -/
theorem isWhole_ofInt (h : n.natAbs < 2 ^ 53) : IsWhole (Float.ofInt n) n := by
  cases n with
  | ofNat n => exact isWhole_ofNat h
  | negSucc n => exact (isWhole_ofNat h).neg (by omega)

theorem isWhole_zero : IsWhole 0.0 0 := by
  have hzero : (0.0 : Float) = Float.ofInt 0 := by decide +kernel
  rw [hzero]
  exact isWhole_ofInt (by decide)

namespace IsWhole

theorem eq_ofInt (hx : IsWhole x n) : x = Float.ofInt n :=
  hx.eq (isWhole_ofInt hx.natAbs_lt)

theorem floorWithin (hx : IsWhole x n) (low high : ℤ) :
    Double.floorWithin low high x = clamp low high n := by
  obtain ⟨d, hd, rfl⟩ := hx.ofDouble?_eq_some
  unfold Double.floorWithin within
  rw [hd]

theorem floor (hx : IsWhole x n) : Double.floor x = x := by
  obtain ⟨d, hd, hn⟩ := hx.ofDouble?_eq_some
  unfold Double.floor
  rw [hd, hx.eq_ofInt, ← hn]

end IsWhole

end Double

end VoxelScore
