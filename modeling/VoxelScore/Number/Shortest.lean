import VoxelScore.Number.Double

/-!
# Shortest decimals

Many decimals read back as the same double: those of an interval around its exact value, closed
when the mantissa is even. Of them the *shortest* decimal is written, the one nearest to the exact
value where several have the same length.

For one digit, two digits and so on, the two multiples of a power of ten around the exact value are
tested in exact arithmetic; the first length at which one of them lies in the interval wins. If any
multiple lies in the interval, so does one of those two.

## Main definitions

* `Decimal` — digits and a power of ten.
* `Dyadic.shortest` — the shortest decimal of a positive double.
-/

namespace VoxelScore

/-- The number `digits * 10 ^ exponent`. -/
structure Decimal where
  digits : Nat
  exponent : Int
  deriving DecidableEq, Repr

/-- A fraction of natural numbers. -/
structure Quotient where
  num : Nat
  den : Nat

namespace Quotient

/-- A number times a power of a base. -/
def scaled (n base : Nat) (exponent : Int) : Quotient :=
  if 0 ≤ exponent then ⟨n * base.pow exponent.toNat, 1⟩ else ⟨n, base.pow (-exponent).toNat⟩

def lt (a b : Quotient) : Bool :=
  a.num * b.den < b.num * a.den

def le (a b : Quotient) : Bool :=
  a.num * b.den ≤ b.num * a.den

end Quotient

/-- The number of decimal digits of a number; one for zero. -/
def decimalLength (n : Nat) : Nat :=
  (Nat.toDigits 10 n).length

namespace Dyadic

/-- The interval of the numbers that read back as a double, and whether its ends belong to it. The
lower end is nearer where the next double below has a smaller exponent. -/
structure Interval where
  low : Quotient
  high : Quotient
  closed : Bool

/-- The interval around a positive double. -/
def interval (d : Dyadic) : Interval :=
  -- In quarters of the last mantissa bit, so that half a step down in a finer binade is whole.
  let below := if d.mantissa = Nat.pow 2 52 ∧ -1074 < d.exponent then 1 else 2
  ⟨.scaled (4 * d.mantissa - below) 2 (d.exponent - 2),
    .scaled (4 * d.mantissa + 2) 2 (d.exponent - 2), d.mantissa % 2 = 0⟩

/-- The number lies in the interval. -/
def Interval.contains (i : Interval) (q : Quotient) : Bool :=
  if i.closed then i.low.le q && q.le i.high else i.low.lt q && q.lt i.high

/-- The exponent of the first digit: the greatest power of ten that is not above the number. -/
def leadingExponent (q : Quotient) : Int :=
  -- A quotient of an m-digit by an n-digit number has its first digit at m - n or just below.
  let guess : Int := decimalLength q.num - decimalLength q.den
  if Quotient.le (.scaled 1 10 guess) q then guess else guess - 1

/-- The shortest decimal with the last digit at `10 ^ exponent`, if there is one: of the multiples
around the number the one in the interval, the nearer of two, the even one of two equally near. -/
def atExponent? (i : Interval) (value : Quotient) (exponent : Int) : Option Decimal :=
  let unit := Quotient.scaled 1 10 exponent
  let floor := value.num * unit.den / (value.den * unit.num)
  let down : Quotient := .scaled floor 10 exponent
  let up : Quotient := .scaled (floor + 1) 10 exponent
  match i.contains down && floor ≠ 0, i.contains up with
  | false, false => none
  | true, false => some ⟨floor, exponent⟩
  | false, true => some ⟨floor + 1, exponent⟩
  | true, true =>
    -- Both neighbours read back: the value is compared with the middle between them.
    let twice : Quotient := ⟨2 * value.num, value.den⟩
    let middle : Quotient := .scaled (2 * floor + 1) 10 exponent
    if twice.lt middle || (twice.le middle && floor % 2 = 0) then some ⟨floor, exponent⟩
    else some ⟨floor + 1, exponent⟩

/-- Tries the last digit at lower and lower powers of ten. -/
def shortestFrom (i : Interval) (value : Quotient) (exponent : Int) : Nat → Decimal
  | 0 => ⟨value.num / value.den, 0⟩
  | tries + 1 =>
    match atExponent? i value exponent with
    | some decimal => decimal
    | none => shortestFrom i value (exponent - 1) tries

/-- The shortest decimal that reads back as a positive double. Seventeen digits always suffice. -/
def shortest (d : Dyadic) : Decimal :=
  let value := Quotient.scaled d.mantissa 2 d.exponent
  shortestFrom d.interval value (leadingExponent value) 18

end Dyadic

end VoxelScore
