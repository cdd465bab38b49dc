import VoxelScore.Text

/-!
# Base64

The standard alphabet of base64, read forgivingly: `=` padding may be full, partial or missing, and
bits left over in the last symbol are ignored. What remains an error is reported with its place.

An input is a *body* of groups of four symbols and a *last group* of at most four bytes, the only
one in which padding may stand, after two symbols or three.

## Main definitions

* `Base64.decode` — the bytes, or the first error.
* `Base64.Error` — a byte that is no symbol where one is needed, or a length that no text has.
-/

namespace VoxelScore.Base64

/-- Why a text is no base64. -/
inductive Error where
  | invalidByte (offset : Nat) (byte : UInt8)
  | invalidLength (length : Nat)
  deriving DecidableEq, Repr

/-- The wording of an error. -/
def Error.message : Error → String
  | .invalidByte offset byte => s!"Invalid symbol {byte}, offset {offset}."
  | .invalidLength length => s!"Invalid input length: {length}"

/-- The byte of the padding character `=`. -/
def padding : UInt8 := 0x3D

/-- The six bits that a symbol stands for. -/
def value? (b : UInt8) : Option Nat :=
  if 0x41 ≤ b && b ≤ 0x5A then some (b.toNat - 0x41)
  else if 0x61 ≤ b && b ≤ 0x7A then some (b.toNat - 0x61 + 26)
  else if 0x30 ≤ b && b ≤ 0x39 then some (b.toNat - 0x30 + 52)
  else if b = 0x2B then some 62
  else if b = 0x2F then some 63
  else none

/-- The six bits of every byte from `offset` on, or the first byte that is no symbol. -/
def sextets (offset : Nat) : List UInt8 → Except Error (List Nat)
  | [] => .ok []
  | b :: r =>
    match value? b with
    | none => .error (.invalidByte offset b)
    | some v => (sextets (offset + 1) r).map (v :: ·)

/-- The bytes of groups of four sextets. Two sextets left over hold one byte and three hold two. -/
def pack : List Nat → List UInt8
  | a :: b :: c :: d :: r =>
    UInt8.ofNat (a * 4 + b / 16) :: UInt8.ofNat (b * 16 + c / 4) :: UInt8.ofNat (c * 64 + d) ::
      pack r
  | [a, b, c] => [UInt8.ofNat (a * 4 + b / 16), UInt8.ofNat (b * 16 + c / 4)]
  | [a, b] => [UInt8.ofNat (a * 4 + b / 16)]
  | _ => []

/-- The sextets of the last group, which starts at `offset`: symbols, then padding if there are two
symbols or more, then nothing else. -/
def lastSextets (offset : Nat) (group : List UInt8) : Except Error (List Nat) := do
  let symbols := group.takeWhile (· ≠ padding)
  let pads := group.dropWhile (· ≠ padding)
  let values ← sextets offset symbols
  let padOffset := offset + symbols.length
  if !pads.isEmpty && (symbols.length < 2 || pads.any (· ≠ padding)) then
    throw (.invalidByte padOffset padding)
  if symbols.length = 1 then
    throw (.invalidLength padOffset)
  return values

/-- How many bytes stand before the last group. -/
def bodyLength (length : Nat) : Nat :=
  if length % 4 = 0 then length - 4 else length - length % 4

/-- A single byte after the last full group that is neither a symbol nor padding: a stray mark at
the end, which is reported before anything else. -/
def strayEnd? (input : List UInt8) : Option Error :=
  match input.getLast? with
  | some b =>
    if input.length % 4 = 1 && b ≠ padding && (value? b).isNone then
      some (.invalidByte (input.length - 1) b)
    else none
  | none => none

/-- The bytes that the input encodes, or what is wrong with it. -/
def decode (input : List UInt8) : Except Error (List UInt8) := do
  if let some stray := strayEnd? input then
    throw stray
  let split := bodyLength input.length
  let body ← sextets 0 (input.take split)
  let last ← lastSextets split (input.drop split)
  return pack (body ++ last)

/-- The bytes of an ASCII text. -/
private def ascii (s : String) : List UInt8 :=
  s.toList.map fun c => c.toNat.toUInt8

example : decode (ascii "YWI") = .ok [0x61, 0x62] := by rfl

example : decode (ascii "YQ=a") = .error (.invalidByte 2 0x3D) := by rfl

example : decode (ascii "abcd!") = .error (.invalidByte 4 0x21) := by rfl

example : decode (ascii "abcde") = .error (.invalidLength 5) := by rfl

end VoxelScore.Base64
