import VoxelScore.Text

/-!
# Punycode

Punycode writes a text in ASCII: first its ASCII characters and a hyphen, then one number for each
other character, which says how far to go on from the one before, through all places of the text
for one code point, then through all places for the next code point.

A number is a run of digits, least first, the digits being the letters and then the decimal digits.
A digit below its threshold ends the number; the thresholds depend on the size of the numbers so
far.

## Main definitions

* `Punycode.Progress` — what has been read, and the number under way.
* `Punycode.decode?` — the text that a run of ASCII characters stands for.
-/

namespace VoxelScore.Punycode

/-! ## Digits and thresholds -/

/-- The number of digits. -/
def base : Nat := 36

/-- The value of a digit, in either case. -/
def digit? (c : Char) : Option Nat :=
  if c.isLower then some (c.toNat - 'a'.toNat)
  else if c.isUpper then some (c.toNat - 'A'.toNat)
  else if c.isDigit then some (c.toNat - '0'.toNat + 26)
  else none

/-- The threshold of the digit at a position, between 1 and 26. Positions are counted in steps of
`base` from `base` on. -/
def threshold (position bias : Nat) : Nat :=
  max 1 (min 26 (position - bias))

theorem one_le_threshold (position bias : Nat) : 1 ≤ threshold position bias :=
  Nat.le_max_left ..

theorem threshold_le (position bias : Nat) : threshold position bias ≤ 26 := by
  unfold threshold; omega

/-- Divides by the span of the thresholds until little is left, and says how often. -/
def shrink (distance : Nat) : Nat × Nat :=
  if 455 < distance then
    let (left, count) := shrink (distance / 35)
    (left, count + 1)
  else (distance, 0)
termination_by distance
decreasing_by omega

/-- The bias after a number, for a text that has now `length` characters. The first number is
damped, since the first code point is far away. -/
def adapt (distance length : Nat) (first : Bool) : Nat :=
  let damped := distance / (if first then 700 else 2)
  let (left, count) := shrink (damped + damped / length)
  base * count + base * left / (left + 38)

/-! ## Reading -/

/-- The greatest number that may occur on the way. -/
def limit : Nat := 0xFFFFFFFF

/-- What has been read: the text so far, where the next character is looked for, and the number
under way. -/
structure Progress where
  text : Text
  /-- The code point that the next character has at least. -/
  point : Nat
  /-- The first place at which it can stand. -/
  place : Nat
  bias : Nat
  /-- The number under way. -/
  distance : Nat
  /-- What its next digit counts. -/
  weight : Nat
  /-- The position of its next digit. -/
  position : Nat
  deriving Repr

/-- The start behind the ASCII characters of a text. -/
def Progress.start (text : Text) : Progress :=
  { text, point := 0x80, place := 0, bias := 72, distance := 0, weight := 1, position := base }

/-- No number is under way. -/
def Progress.isAtRest (p : Progress) : Bool :=
  p.position = base

/-- The character that a code point stands for, if there is one. -/
def char? (n : Nat) : Option Char :=
  if h : n.isValidChar then some (Char.ofNatAux n h) else none

/-- Ends a number: the distance is gone, and the character of that place joins the text. -/
def Progress.insert? (p : Progress) (distance : Nat) : Option Progress := do
  let length := p.text.length + 1
  let target := p.place + distance
  let point := p.point + target / length
  let place := target % length
  let c ← char? point
  some
    { Progress.start (p.text.take place ++ c :: p.text.drop place) with
      point, place := place + 1, bias := adapt distance length (p.place = 0) }

/-- Reads a digit. -/
def Progress.read? (p : Progress) (c : Char) : Option Progress := do
  let digit ← digit? c
  let distance := p.distance + digit * p.weight
  let t := threshold p.position p.bias
  if limit < p.place + distance then none
  else if digit < t then p.insert? distance
  else
    let weight := p.weight * (base - t)
    if limit < weight then none
    else some { p with distance, weight, position := p.position + base }

/-- The ASCII characters of the text and the numbers behind them. A hyphen with nothing before it
separates nothing. -/
def split (t : Text) : Text × Text :=
  match t.splitLast? '-' with
  | some (ascii, numbers) => if ascii.isEmpty then ([], t) else (ascii, numbers)
  | none => ([], t)

/-- The text that a run of ASCII characters stands for, capital ASCII letters made small. -/
def decode? (t : Text) : Option Text := do
  let (ascii, numbers) := split t
  let progress ← numbers.foldlM Progress.read? (.start (Text.lower ascii))
  if progress.isAtRest then some progress.text else none

example : decode? "bcher-kva".toList = some "bücher".toList := by decide +kernel

example : decode? "a".toList = some ['\u0080'] ∧ decode? "z".toList = none := by decide +kernel

end VoxelScore.Punycode
