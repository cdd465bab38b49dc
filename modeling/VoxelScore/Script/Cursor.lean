import VoxelScore.Script.Token

/-!
# Positions

A position in a text is what the characters before it make of the start: lines and columns count
characters from one, offsets count UTF-8 bytes from zero.

## Main definitions

* `Cursor` — a position; `Cursor.start` is the first one.
* `Cursor.past` — the position after more characters.
* `Placed`, `Scan.placed` — the tokens of a scan with the positions where they start and stop.
* `Scan.fault?` — the position of the literal that is not closed, if there is one.
-/

namespace VoxelScore.Script

/-- A position in a text. -/
structure Cursor where
  line : Nat
  column : Nat
  offset : Nat
  deriving DecidableEq, Repr

namespace Cursor

/-- The position before the first character. -/
def start : Cursor := ⟨1, 1, 0⟩

/-- The position after one more character. -/
def advance (p : Cursor) (c : Char) : Cursor :=
  if c = '\n' then ⟨p.line + 1, 1, p.offset + c.utf8Size⟩
  else ⟨p.line, p.column + 1, p.offset + c.utf8Size⟩

/-- The position after more characters. -/
def past (p : Cursor) (t : Text) : Cursor :=
  t.foldl advance p

@[simp]
theorem past_nil (p : Cursor) : p.past [] = p := rfl

theorem past_append (p : Cursor) (s t : Text) : p.past (s ++ t) = (p.past s).past t :=
  List.foldl_append

/-- Offsets grow by the bytes passed over. -/
theorem offset_past (p : Cursor) (t : Text) : (p.past t).offset = p.offset + t.byteLength := by
  induction t generalizing p with
  | nil => rfl
  | cons c t ih =>
    rw [show p.past (c :: t) = (p.advance c).past t from rfl, ih]
    unfold advance
    split <;> simp <;> omega

end Cursor

/-- A token with the positions where its characters start and stop. -/
structure Placed where
  token : Token
  start : Cursor
  stop : Cursor
  deriving DecidableEq, Repr

/-- The tokens of pieces that follow one another from a position on. -/
def placedFrom (p : Cursor) : List Piece → List Placed
  | [] => []
  | piece :: r =>
    let start := p.past piece.gap
    let stop := start.past piece.lexeme
    ⟨piece.token, start, stop⟩ :: placedFrom stop r

namespace Scan

/-- The tokens of a scan with their positions. -/
def placed (s : Scan) : List Placed :=
  placedFrom .start s.pieces

/-- The position of the opening quote of the literal that is not closed. -/
def fault? (s : Scan) : Option Cursor :=
  match s.ending with
  | .complete _ => none
  | .unclosed gap _ => some ((Cursor.start.past (piecesText s.pieces)).past gap)

end Scan

end VoxelScore.Script
