import VoxelScore.Number.Word

/-!
# Times within a cycle

Time is counted in cycles, exactly: a fraction in lowest terms with a positive denominator, so that
equal times are equal fractions.

## Main definitions

* `CycleTime` — the fractions.
* `CycleTime.ofFraction` — the reduced fraction of two numbers.
* `CycleTime.ofSlot`, `CycleTime.slotWidth` — starts and width of equal slots.
* `CycleTime.compare` — the order of times.
* `CycleTime.floorScaled` — the whole part of a multiple.
-/

namespace VoxelScore

/-- A fraction of a cycle in lowest terms. -/
structure CycleTime where
  num : Nat
  den : Nat
  den_pos : 0 < den
  coprime : num.gcd den = 1
  deriving DecidableEq

namespace CycleTime

/-- The fraction of two numbers in lowest terms; a zero denominator counts as one. -/
def ofFraction (num den : Nat) : CycleTime :=
  let whole := max den 1
  have pos : 0 < num.gcd whole := Nat.gcd_pos_of_pos_right _ (by omega)
  ⟨num / num.gcd whole, whole / num.gcd whole,
    Nat.div_pos (Nat.le_of_dvd (by omega) (Nat.gcd_dvd_right ..)) pos,
    Nat.gcd_div_gcd_div_gcd_of_pos_right (by omega)⟩

/-- The start of a slot on a grid of equal slots. -/
def ofSlot (slot slots : Nat) : CycleTime :=
  ofFraction slot slots

/-- The width of a slot on a grid of equal slots. -/
def slotWidth (slots : Nat) : CycleTime :=
  ofFraction 1 slots

/-- Times are ordered as fractions. -/
def compare (a b : CycleTime) : Ordering :=
  Ord.compare (a.num * b.den) (b.num * a.den)

/-- The whole part of the time multiplied by a number. The numerator is multiplied in 64 bits. -/
def floorScaled (t : CycleTime) (factor : Nat) : Nat :=
  t.num * factor % words64 / t.den

/-- A product of 64 bits is exact. -/
theorem floorScaled_of_lt {t : CycleTime} {factor : Nat} (h : t.num * factor < words64) :
    t.floorScaled factor = t.num * factor / t.den := by
  rw [floorScaled, Nat.mod_eq_of_lt h]

/-- The double nearest to numerator by numerator over denominator, in double arithmetic. -/
def toFloat (t : CycleTime) : Float :=
  Float.ofNat t.num / Float.ofNat t.den

/-- Numerator and denominator, or a whole number alone. -/
def text (t : CycleTime) : String :=
  if t.den = 1 then toString t.num else toString t.num ++ "/" ++ toString t.den

instance : Inhabited CycleTime := ⟨ofFraction 0 1⟩

example : ofFraction 6 4 = ⟨3, 2, by decide, by decide⟩ ∧ (ofFraction 3 0).den = 1 := by decide

end CycleTime

end VoxelScore
