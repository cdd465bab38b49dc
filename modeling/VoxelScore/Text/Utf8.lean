import VoxelScore.Text

/-!
# UTF-8

Texts as bytes and back. Decoding reads a byte sequence as a list of *marks*: a character, or a
fault at an index. A fault is the longest start of a well-formed sequence that its next byte does
not continue (at least one byte), or a sequence that the input ends in.

## Main definitions

* `Utf8.encode` — the bytes of a text.
* `Utf8.marks` — the characters and faults of a byte sequence, in order.
* `Utf8.decode` — the text, or the first fault.
* `Utf8.decodeLossy` — the text with U+FFFD for every fault.
-/

namespace VoxelScore.Utf8

/-- The bytes of a text. -/
def encode (t : Text) : List UInt8 :=
  t.flatMap String.utf8EncodeChar

/-- Why bytes are no UTF-8: a sequence of so many bytes that no well-formed one starts with, or an
input that ends inside a sequence. -/
inductive Flaw where
  | invalid (length : Nat)
  | incomplete
  deriving DecidableEq, Repr

/-- A flaw and the index of the first byte of its sequence. -/
structure Fault where
  flaw : Flaw
  index : Nat
  deriving DecidableEq, Repr

/-- The wording of a fault. -/
def Fault.message (f : Fault) : String :=
  match f.flaw with
  | .invalid length => s!"invalid utf-8 sequence of {length} bytes from index {f.index}"
  | .incomplete => s!"incomplete utf-8 byte sequence from index {f.index}"

/-- What a stretch of bytes reads as. -/
inductive Mark where
  | char (c : Char)
  | fault (f : Fault)
  deriving DecidableEq, Repr

/-- The ranges that the bytes after a leading byte have to lie in. -/
abbrev Expected := List (UInt8 × UInt8)

/-- Any continuation byte. -/
def continuation : UInt8 × UInt8 := (0x80, 0xBF)

/-- The bits that a leading byte contributes and what has to follow it; nothing for a byte that
leads no sequence. The narrowed second bytes keep out overlong forms, surrogates and code points
beyond U+10FFFF. -/
def lead? (b : UInt8) : Option (Nat × Expected) :=
  if b < 0x80 then some (b.toNat, [])
  else if b < 0xC2 then none
  else if b < 0xE0 then some (b.toNat % 0x20, [continuation])
  else if b = 0xE0 then some (0x0, [(0xA0, 0xBF), continuation])
  else if b = 0xED then some (0xD, [(0x80, 0x9F), continuation])
  else if b < 0xF0 then some (b.toNat % 0x10, [continuation, continuation])
  else if b = 0xF0 then some (0, [(0x90, 0xBF), continuation, continuation])
  else if b < 0xF4 then some (b.toNat % 0x08, [continuation, continuation, continuation])
  else if b = 0xF4 then some (4, [(0x80, 0x8F), continuation, continuation])
  else none

/-- Where a reader stands: between sequences, or inside the one that starts at index `start`. -/
inductive State where
  | between
  | inside (start value : Nat) (next : UInt8 × UInt8) (later : Expected)

/-- Reads a byte that starts a sequence. -/
def enter (index : Nat) (b : UInt8) : List Mark × State :=
  match lead? b with
  | some (value, []) => ([.char (Char.ofNat value)], .between)
  | some (value, next :: later) => ([], .inside index value next later)
  | none => ([.fault ⟨.invalid 1, index⟩], .between)

/-- The marks of the bytes from `index` on. A byte that does not continue its sequence ends it with
a fault and is read again as the start of the next one. -/
def marksFrom (index : Nat) : State → List UInt8 → List Mark
  | .between, [] => []
  | .inside start _ _ _, [] => [.fault ⟨.incomplete, start⟩]
  | .between, b :: r =>
    (enter index b).1 ++ marksFrom (index + 1) (enter index b).2 r
  | .inside start value (low, high) later, b :: r =>
    if low ≤ b && b ≤ high then
      let value := value * 64 + b.toNat % 64
      match later with
      | [] => .char (Char.ofNat value) :: marksFrom (index + 1) .between r
      | next :: later => marksFrom (index + 1) (.inside start value next later) r
    else
      .fault ⟨.invalid (index - start), start⟩ ::
        (enter index b).1 ++ marksFrom (index + 1) (enter index b).2 r

/-- The characters and faults of a byte sequence, in order. -/
def marks (bytes : List UInt8) : List Mark :=
  marksFrom 0 .between bytes

/-- The text of marks without a fault, or the first fault. -/
def Mark.text : List Mark → Except Fault Text
  | [] => .ok []
  | .char c :: r => (Mark.text r).map (c :: ·)
  | .fault f :: _ => .error f

/-- The text that the bytes encode, or the first fault. -/
def decode (bytes : List UInt8) : Except Fault Text :=
  Mark.text (marks bytes)

/-- The text that the bytes encode, U+FFFD standing for every fault. -/
def decodeLossy (bytes : List UInt8) : Text :=
  (marks bytes).map fun
    | .char c => c
    | .fault _ => '\ufffd'

example : decode [0x61, 0xE2, 0x82, 0xAC] = .ok ['a', '€'] := by rfl

example : decode [0x61, 0xE2, 0x82] = .error ⟨.incomplete, 1⟩ := by rfl

example : decode [0xF0, 0x9F, 0x41] = .error ⟨.invalid 2, 0⟩ := by rfl

example : decodeLossy [0xED, 0xA0, 0x41] = ['\ufffd', '\ufffd', 'A'] := by rfl

end VoxelScore.Utf8
