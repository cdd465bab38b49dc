import VoxelScore.Number.Digits
import VoxelScore.Number.Layout
import VoxelScore.Number.Numeral

/-!
# Scalars as data

What a scalar says depends on where it stands: `12` is a name among keys, a whole number where one
is expected, and a double elsewhere. A *datum* is the text together with every number that it can
stand for; a scalar in quotes stands for none.

## Main definitions

* `Datum` — a text with the numbers it stands for.
* `Datum.plain`, `Datum.quoted` — the data of scalars as they are read.
* `Datum.ofInt`, `Datum.ofDouble` — the data of numbers to be written.
* `Datum.layout` — how doubles are written in documents.
-/

namespace VoxelScore.Yaml

/-- What a scalar says. -/
structure Datum where
  text : Text
  /-- The number without sign. -/
  natural : Option Nat
  integer : Option Int
  number : Option Float

namespace Datum

/-! ## Reading -/

/-- Several digits that start with a zero, after a sign or not: a text, not a number. -/
def isZeroLed (t : Text) : Bool :=
  let digits := if t.head? = some '-' || t.head? = some '+' then t.drop 1 else t
  digits.length > 1 && digits.head? = some '0' && digits.all Char.isDigit

/-- At least one digit. -/
def digits? (base : Nat) (t : Text) : Option Nat :=
  if t.isEmpty then none else Digits.value? base t

/-- Digits after one of the marks `0x`, `0o` and `0b`, which give the base. -/
def marked? : Text → Option Nat
  | '0' :: 'x' :: r => digits? 16 r
  | '0' :: 'o' :: r => digits? 8 r
  | '0' :: 'b' :: r => digits? 2 r
  | _ => none

/-- The text without a plus sign in front. -/
def unsigned : Text → Text
  | '+' :: r => r
  | t => t

/-- The number that a plain scalar writes without a minus sign. -/
def natural? (t : Text) : Option Nat :=
  match marked? (unsigned t) with
  | some n => some n
  | none => if isZeroLed t then none else digits? 10 (unsigned t)

/-- The whole number that a plain scalar writes. -/
def integer? (t : Text) : Option Int :=
  match t with
  | '-' :: r =>
    match marked? r with
    | some n => some (-n)
    | none => if isZeroLed t then none else (digits? 10 r).map fun n => -n
  | _ => (natural? t).map fun n => n

/-- The double that a plain scalar writes: a decimal numeral that is not too large, or the name of
an infinity or of not-a-number. -/
def number? (t : Text) : Option Float :=
  let positive := unsigned t
  if [".inf", ".Inf", ".INF"].contains (String.ofList positive) then some Double.infinity
  else if ["-.inf", "-.Inf", "-.INF"].contains (String.ofList t) then some (-Double.infinity)
  else if [".nan", ".NaN", ".NAN"].contains (String.ofList t) then some (0.0 / 0.0)
  -- One sign has been taken off; a second one would be read as the numeral's own.
  else if positive ≠ t && positive.head?.any (fun c => c = '+' || c = '-') then none
  else
    match Numeral.scan? positive with
    | some (numeral, []) => Double.finite? numeral.value
    | _ => none

/-- A scalar without quotes. -/
def plain (t : Text) : Datum :=
  ⟨t, natural? t, integer? t, number? t⟩

/-- A scalar in quotes. -/
def quoted (t : Text) : Datum :=
  ⟨t, none, none, none⟩

/-! ## Writing -/

/-- Doubles in documents: positional from `0.00001` up to sixteen digits before the point, exponents
without a plus sign. -/
def layout : Layout where
  positionalFrom := -5
  positionalTo := 15
  plus := ""
  infinity := ".inf"
  negativeInfinity := "-.inf"
  notANumber := ".nan"

/-- A whole number. -/
def ofInt (n : Int) : Datum where
  text := (toString n).toList
  natural := if 0 ≤ n then some n.toNat else none
  integer := some n
  number := some (Float.ofInt n)

/-- A double. -/
def ofDouble (x : Float) : Datum where
  text := (layout.render x).toList
  natural := none
  integer := none
  number := some x

end Datum

end VoxelScore.Yaml
