import VoxelScore.Text

/-!
# Digits

Runs of digits in a base up to sixteen, read and written.

## Main definitions

* `Digits.value?` — the number that a run of digits writes.
* `Digits.hex` — a number in capital hexadecimal digits, filled up with zeros.
-/

namespace VoxelScore.Digits

/-- The value of a digit in a base up to 16; letters count in either case. -/
def digit? (base : Nat) (c : Char) : Option Nat :=
  let value? :=
    if c.isDigit then some (c.toNat - 0x30)
    else if 'a' ≤ c ∧ c ≤ 'f' then some (c.toNat - 0x57)
    else if 'A' ≤ c ∧ c ≤ 'F' then some (c.toNat - 0x37)
    else none
  value?.filter (· < base)

/-- The value of a run of digits in a base; zero for the empty run. -/
def value? (base : Nat) (digits : Text) : Option Nat :=
  digits.foldlM (fun value c => (digit? base c).map (value * base + ·)) 0

/-- The number in capital hexadecimal digits, with zeros in front up to a width. -/
def hex (width n : Nat) : Text :=
  let digits := (Nat.toDigits 16 n).map Char.toUpper
  List.replicate (width - digits.length) '0' ++ digits

example : value? 16 "fF".toList = some 255 ∧ value? 2 ['2'] = none := by decide

example : hex 4 0xe9 = "00E9".toList := by decide

end VoxelScore.Digits
