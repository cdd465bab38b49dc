/-!
# Numbers of fixed width

Sums and products of 64 bits wrap around; a number that has to fit 32 signed bits is moved to the
nearer end of that range instead.

## Main definitions

* `clamp` — the nearest number of a range.
* `clamp32` — the nearest number of 32 signed bits.
* `wrap64` — a number in 64 signed bits.
-/

namespace VoxelScore

/-! ## Ranges -/

/-- The integer of the range from `low` to `high` that is nearest to `n`. -/
def clamp (low high n : Int) : Int :=
  max low (min n high)

theorem low_le_clamp (low high n : Int) : low ≤ clamp low high n := by
  unfold clamp; omega

theorem clamp_le_high {low high : Int} (h : low ≤ high) (n : Int) : clamp low high n ≤ high := by
  unfold clamp; omega

theorem clamp_of_mem {low high n : Int} (hl : low ≤ n) (hh : n ≤ high) : clamp low high n = n := by
  unfold clamp; omega

/-- The least number of 32 signed bits. -/
def int32Low : Int := -2147483648

/-- The greatest number of 32 signed bits. -/
def int32High : Int := 2147483647

/-- A number within 32 signed bits. -/
def clamp32 (n : Int) : Int :=
  clamp int32Low int32High n

/-! ## Wrapping around -/

/-- How many numbers have 64 bits. -/
def words64 : Nat := 0x10000000000000000

/-- A sum or product in 64 signed bits, which wraps around. -/
def wrap64 (n : Int) : Int :=
  Int.bmod n words64

theorem wrap64_of_mem {n : Int} (low : -0x8000000000000000 ≤ n) (high : n < 0x8000000000000000) :
    wrap64 n = n := by
  unfold wrap64 words64
  exact Int.bmod_eq_of_le (by omega) (by omega)

example : wrap64 0x8000000000000000 = -0x8000000000000000 := by decide

example : clamp32 0x10000000000 = int32High := by decide

end VoxelScore
