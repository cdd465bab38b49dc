import VoxelScore.Number.Double
import VoxelScore.Text.Blank

/-!
# Numerals

Numbers as people write them at the start of a text: an optional sign, then `Infinity`, or digits
with at most one point and at least one digit, then an exponent if its digits are there. The longest
such start is read, and what follows it does not matter.

## Main definitions

* `Numeral` — sign, digits and exponent as written.
* `Numeral.scan?` — the numeral that a text starts with, and the rest.
* `Numeral.value` — the double nearest to a numeral.
* `leadingNumber?` — the value at the start of a text, blanks before it skipped.
-/

namespace VoxelScore

/-- A number as written. -/
inductive Numeral where
  | infinity (negative : Bool)
  /-- The digits without their point, to be multiplied by a power of ten. -/
  | decimal (negative : Bool) (digits : Text) (exponent : Int)
  deriving DecidableEq, Repr

namespace Numeral

/-- The value of a run of decimal digits. -/
def digitsValue (digits : Text) : Nat :=
  digits.foldl (fun n c => n * 10 + (c.toNat - 0x30)) 0

/-- An optional sign and the rest. -/
def splitSign : Text → Bool × Text
  | '-' :: r => (true, r)
  | '+' :: r => (false, r)
  | r => (false, r)

/-- The digits before and after the point, and the rest; a point is read only next to a digit. -/
def splitDigits (t : Text) : Text × Text × Text :=
  let whole := t.takeWhile Char.isDigit
  match t.dropWhile Char.isDigit with
  | '.' :: r =>
    let fraction := r.takeWhile Char.isDigit
    if whole.isEmpty && fraction.isEmpty then ([], [], t)
    else (whole, fraction, r.dropWhile Char.isDigit)
  | r => (whole, [], r)

/-- The exponent and the rest; without a digit there is none, and nothing is consumed. -/
def splitExponent (t : Text) : Int × Text :=
  match t with
  | e :: r =>
    let (negative, r) := splitSign r
    let digits := r.takeWhile Char.isDigit
    if (e = 'e' || e = 'E') && !digits.isEmpty then
      let value : Int := digitsValue digits
      (if negative then -value else value, r.dropWhile Char.isDigit)
    else (0, t)
  | [] => (0, t)

/-- Digits with at most one point, at least one digit, and an exponent. -/
def scanDecimal? (negative : Bool) (t : Text) : Option (Numeral × Text) :=
  let (whole, fraction, r) := splitDigits t
  if whole.isEmpty && fraction.isEmpty then none
  else
    let (exponent, r) := splitExponent r
    some (.decimal negative (whole ++ fraction) (exponent - fraction.length), r)

/-- The longest numeral that the text starts with, and the rest. -/
def scan? (t : Text) : Option (Numeral × Text) :=
  let (negative, r) := splitSign t
  match "Infinity".toList.isPrefixOf? r with
  | some r => some (.infinity negative, r)
  | none => scanDecimal? negative r

/-- Beyond this exponent of the first digit every number is zero or infinite as a double. -/
def exponentBound : Int := 400

/-- The double nearest to `digits * 10 ^ exponent`, ties to the even mantissa. -/
def magnitude (digits : Nat) (exponent : Int) : Float :=
  let leading : Int := exponent + (Nat.toDigits 10 digits).length
  if digits = 0 || leading < -exponentBound then 0.0
  else if leading > exponentBound then Double.infinity
  else Float.ofScientific digits (exponent < 0) exponent.natAbs

/-- The double nearest to the numeral. -/
def value (n : Numeral) : Float :=
  let (negative, x) := match n with
    | infinity negative => (negative, Double.infinity)
    | decimal negative digits exponent => (negative, magnitude (digitsValue digits) exponent)
  if negative then -x else x

end Numeral

/-- The value of the longest numeral at the start of a text, blanks before it skipped. -/
def leadingNumber? (t : Text) : Option Float :=
  (Numeral.scan? (Text.trimStart t)).map fun (n, _) => n.value

example : Numeral.scan? "-1.5x".toList = some (.decimal true "15".toList (-1), ['x']) := by rfl

example : Numeral.scan? "1e+".toList = some (.decimal false ['1'] 0, "e+".toList) := by rfl

example : Numeral.scan? "-.".toList = none := by rfl

end VoxelScore
