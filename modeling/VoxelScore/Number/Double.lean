import VoxelScore.Number.Word

/-!
# Doubles as exact numbers

A finite double is a sign, a mantissa and a power of two. Floor and rounding are taken on that exact
value and clamped into an integer range, so that infinities become an end of the range and
not-a-number becomes zero.

## Main definitions

* `Dyadic.ofDouble?` — the exact value of a finite double.
* `Dyadic.floor`, `Dyadic.nearest` — rounding down, and to the nearest integer with halves going
  away from zero.
* `Double.floorWithin`, `Double.nearestWithin` — the same for every double, within a range.
-/

namespace VoxelScore

/-- The number `mantissa * 2 ^ exponent`, or its negation. -/
structure Dyadic where
  negative : Bool
  mantissa : Nat
  exponent : Int
  deriving DecidableEq, Repr

namespace Dyadic

/-- The exact value of a double, unless it is an infinity or not a number. -/
def ofDouble? (x : Float) : Option Dyadic :=
  let bits : Nat := x.toBits.toNat
  let fraction : Nat := bits % Nat.pow 2 52
  let biased : Nat := bits / Nat.pow 2 52 % Nat.pow 2 11
  let negative : Bool := bits / Nat.pow 2 63 = 1
  if biased = 2047 then none
  else if biased = 0 then some ⟨negative, fraction, -1074⟩
  else some ⟨negative, Nat.pow 2 52 + fraction, (biased : Int) - 1075⟩

/-- The mantissa with its sign. -/
def signed (d : Dyadic) : Int :=
  if d.negative then -d.mantissa else d.mantissa

/-- The greatest integer that is not above the number. -/
def floor (d : Dyadic) : Int :=
  if 0 ≤ d.exponent then d.signed * (Nat.pow 2 d.exponent.toNat : Nat)
  else d.signed / (Nat.pow 2 (-d.exponent).toNat : Nat)

/-- The integer nearest to the number; a half goes away from zero. -/
def nearest (d : Dyadic) : Int :=
  let magnitude : Nat :=
    if 0 ≤ d.exponent then d.mantissa * Nat.pow 2 d.exponent.toNat
    else (2 * d.mantissa + Nat.pow 2 (-d.exponent).toNat) / Nat.pow 2 ((-d.exponent).toNat + 1)
  if d.negative then -magnitude else magnitude

end Dyadic

namespace Double

/-- A double made an integer by `round` and brought into a range. Infinities become the ends of the
range; not-a-number counts as zero. -/
def within (round : Dyadic → Int) (low high : Int) (x : Float) : Int :=
  match Dyadic.ofDouble? x with
  | some d => clamp low high (round d)
  | none => if x.isNaN then clamp low high 0 else if 0 < x then high else low

/-- The floor of a double within a range. -/
def floorWithin (low high : Int) (x : Float) : Int :=
  within Dyadic.floor low high x

/-- The integer nearest to a double, halves away from zero, within a range. -/
def nearestWithin (low high : Int) (x : Float) : Int :=
  within Dyadic.nearest low high x

theorem low_le_within {low high : Int} (h : low ≤ high) (round : Dyadic → Int) (x : Float) :
    low ≤ within round low high x := by
  unfold within
  split
  · exact low_le_clamp ..
  · split
    · exact low_le_clamp ..
    · split <;> omega

theorem within_le_high {low high : Int} (h : low ≤ high) (round : Dyadic → Int) (x : Float) :
    within round low high x ≤ high := by
  unfold within
  split
  · exact clamp_le_high h _
  · split
    · exact clamp_le_high h _
    · split <;> omega

/-- The floor of a double as a double; infinities and not-a-number stay as they are. -/
def floor (x : Float) : Float :=
  match Dyadic.ofDouble? x with
  | some d => Float.ofInt d.floor
  | none => x

/-- The positive infinity. -/
def infinity : Float := 1.0 / 0.0

/-- Neither an infinity nor not-a-number. -/
def finite? (x : Float) : Option Float :=
  if x.isFinite then some x else none

/-- The same double: equal bits, so that zeros of different sign differ. Not-a-number has one
pattern. -/
def same (x y : Float) : Bool :=
  x.toBits = y.toBits

end Double

example : (Dyadic.mk true 3 (-1)).floor = -2 ∧ (Dyadic.mk true 3 (-1)).nearest = -2 := by decide

example : (Dyadic.mk false 5 (-1)).floor = 2 ∧ (Dyadic.mk false 5 (-1)).nearest = 3 := by decide

end VoxelScore
