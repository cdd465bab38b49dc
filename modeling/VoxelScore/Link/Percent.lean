import VoxelScore.Text.Utf8

/-!
# Percent escapes

In a link a byte may be written as `%` and two hexadecimal digits. Reading replaces every complete
escape and keeps all else, a lone `%` included; writing escapes the characters outside a given set.

## Main definitions

* `Percent.decode` — the bytes that a text with escapes stands for.
* `Percent.decodeText` — the same read as UTF-8.
* `Percent.escape` — the text with every character outside a set written as escapes.
-/

namespace VoxelScore.Percent

/-- The value of a hexadecimal digit, in either case. -/
def hexValue? (b : UInt8) : Option UInt8 :=
  if 0x30 ≤ b && b ≤ 0x39 then some (b - 0x30)
  else if 0x41 ≤ b && b ≤ 0x46 then some (b - 0x37)
  else if 0x61 ≤ b && b ≤ 0x66 then some (b - 0x57)
  else none

/-- Every `%` before two hexadecimal digits becomes, with them, the byte that they write. -/
def decode : List UInt8 → List UInt8
  | 0x25 :: high :: low :: r =>
    match hexValue? high, hexValue? low with
    | some h, some l => (h * 16 + l) :: decode r
    | _, _ => 0x25 :: decode (high :: low :: r)
  | b :: r => b :: decode r
  | [] => []

/-- The text that remains of `t` when its escapes are resolved, or the first UTF-8 fault. -/
def decodeText (t : Text) : Except Utf8.Fault Text :=
  Utf8.decode (decode (Utf8.encode t))

/-- The hexadecimal digit of a value below 16, letters as capitals. -/
def hexDigit (value : UInt8) : Char :=
  if value < 10 then Char.ofNat (0x30 + value.toNat) else Char.ofNat (0x37 + value.toNat)

/-- The escape of a byte. -/
def escapeByte (b : UInt8) : Text :=
  ['%', hexDigit (b / 16), hexDigit (b % 16)]

/-- The text with every character outside `kept` written as the escapes of its bytes. -/
def escape (kept : Char → Bool) (t : Text) : Text :=
  t.flatMap fun c => if kept c then [c] else (Utf8.encode [c]).flatMap escapeByte

example : decodeText "a%20b%zz%".toList = .ok "a b%zz%".toList := by rfl

example : escape (· ≠ 'é') "né".toList = "n%C3%A9".toList := by rfl

end VoxelScore.Percent
