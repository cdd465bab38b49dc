import VoxelScore.Number.Shortest
import VoxelScore.Text

/-!
# Layouts of decimal numbers

A double is written with its shortest digits. Where the point stands, how an exponent looks and
what the special values are called is a *layout*, one record per kind of document.

## Main definitions

* `Layout` — the choices.
* `Layout.render` — the text of a double in a layout.
-/

namespace VoxelScore

/-- How doubles are written. -/
structure Layout where
  /-- The least exponent of the first digit that is written without an exponent part. -/
  positionalFrom : Int
  /-- The greatest one. -/
  positionalTo : Int
  /-- The sign of an exponent that is not negative. -/
  plus : String
  infinity : String
  negativeInfinity : String
  notANumber : String

namespace Layout

/-- Digits with the point after the first `point` of them; at least one digit on each side. -/
def positional (digits : Text) (point : Int) : Text :=
  if point ≤ 0 then
    ['0', '.'] ++ List.replicate (-point).toNat '0' ++ digits
  else
    let whole := point.toNat
    if digits.length ≤ whole then
      digits ++ List.replicate (whole - digits.length) '0' ++ ['.', '0']
    else digits.take whole ++ '.' :: digits.drop whole

/-- One digit before the point, the rest after it, and the exponent. -/
def scientific (layout : Layout) (digits : Text) (exponent : Int) : Text :=
  let rest := digits.drop 1
  let fraction := if rest.isEmpty then [] else '.' :: rest
  let sign := if exponent < 0 then ['-'] else layout.plus.toList
  digits.take 1 ++ fraction ++ 'e' :: sign ++ (toString exponent.natAbs).toList

/-- The text of a positive decimal. -/
def decimal (layout : Layout) (d : Decimal) : Text :=
  let all := Nat.toDigits 10 d.digits
  let exponent : Int := d.exponent + all.length - 1
  let digits := Text.dropEndWhile (· = '0') all
  if layout.positionalFrom ≤ exponent ∧ exponent ≤ layout.positionalTo then
    positional digits (exponent + 1)
  else scientific layout digits exponent

/-- The text of a double. -/
def render (layout : Layout) (x : Float) : String :=
  match Dyadic.ofDouble? x with
  | none =>
    if x.isNaN then layout.notANumber
    else if 0 < x then layout.infinity
    else layout.negativeInfinity
  | some d =>
    let magnitude := if d.mantissa = 0 then "0.0".toList else layout.decimal d.shortest
    String.ofList (if d.negative then '-' :: magnitude else magnitude)

end Layout

end VoxelScore
