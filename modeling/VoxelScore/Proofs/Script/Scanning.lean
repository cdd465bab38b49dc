import Mathlib.Data.List.Basic
import VoxelScore.Script.Cursor

/-!
# Scans piece by piece

A text starts with a gap and either ends there, or goes on with a literal that is not closed, or
with one token and the text behind it. The scan of the text, its tokens with their positions and
the position of its fault follow these three cases.

## Main definitions

* `Scan.faultFrom?`: the position of the literal that is not closed, for a text that starts anywhere
* `HasTail`: the text that stands in another one after so many bytes

## Main results

* `Scan.ofText_done`, `Scan.ofText_fault`, `Scan.ofText_token`: the three cases
* `text_eq_of_token`: a gap, a token and the text behind it make up the text
-/

namespace VoxelScore.Script

variable {t gap r written rest : Text} {c : Char} {token : Token}

/-! ## The three cases -/

theorem text_eq_of_fault (hg : splitTrivia t = (gap, c :: r)) : gap ++ c :: r = t := by
  have h := splitTrivia_append t
  rwa [hg] at h

/-- A gap, a token and the text behind it make up the text. -/
theorem text_eq_of_token (hg : splitTrivia t = (gap, c :: r))
    (ht : token? c r = some (token, written, rest)) : gap ++ (c :: written) ++ rest = t := by
  rw [← text_eq_of_fault hg, ← token?_append ht, List.append_assoc, List.cons_append]

namespace Scan

theorem ofText_done (hg : splitTrivia t = (gap, [])) : ofText t = ⟨[], .complete gap⟩ := by
  rw [ofText]
  split
  · next hg' => rw [hg] at hg'; cases hg'; rfl
  · next hg' => rw [hg] at hg'; cases hg'

theorem ofText_fault (hg : splitTrivia t = (gap, c :: r)) (ht : token? c r = none) :
    ofText t = ⟨[], .unclosed gap (c :: r)⟩ := by
  rw [ofText]
  split
  · next hg' => rw [hg] at hg'; cases hg'
  · next hg' =>
    rw [hg] at hg'
    cases hg'
    split
    · rfl
    · next ht' => rw [ht] at ht'; cases ht'

theorem ofText_token (hg : splitTrivia t = (gap, c :: r))
    (ht : token? c r = some (token, written, rest)) :
    ofText t = (ofText rest).cons ⟨gap, c :: written, token⟩ := by
  rw [ofText]
  split
  · next hg' => rw [hg] at hg'; cases hg'
  · next hg' =>
    rw [hg] at hg'
    cases hg'
    split
    · next ht' => rw [ht] at ht'; cases ht'
    · next ht' => rw [ht] at ht'; cases ht'; rfl

/-! ## Positions -/

/-- The position of the opening quote of the literal that is not closed, for the scan of a text
that starts at a position. -/
def faultFrom? (p : Cursor) (s : Scan) : Option Cursor :=
  match s.ending with
  | .complete _ => none
  | .unclosed gap _ => some ((p.past (piecesText s.pieces)).past gap)

theorem faultFrom?_start (s : Scan) : s.faultFrom? .start = s.fault? := rfl

theorem faultFrom?_cons (p : Cursor) (piece : Piece) (s : Scan) :
    (s.cons piece).faultFrom? p = s.faultFrom? ((p.past piece.gap).past piece.lexeme) := by
  rcases s with ⟨pieces, gap | ⟨gap, r⟩⟩
  · rfl
  · simp only [faultFrom?, cons, piecesText, List.flatMap_cons, Piece.text, Cursor.past_append]

end Scan

/-! ## Texts behind an offset -/

/-- What stands in a text after so many bytes. -/
def HasTail (t : Text) (offset : Nat) (tail : Text) : Prop :=
  ∃ front, front ++ tail = t ∧ front.byteLength = offset

theorem byteLength_eq_zero {s : Text} (h : s.byteLength = 0) : s = [] := by
  cases s with
  | nil => rfl
  | cons c s =>
    have hc := c.utf8Size_pos
    rw [Text.byteLength_cons] at h
    omega

/-- An offset leaves one tail at most. -/
theorem HasTail.unique {t tail tail' : Text} {offset : Nat} (h : HasTail t offset tail)
    (h' : HasTail t offset tail') : tail = tail' := by
  obtain ⟨front, ht, hf⟩ := h
  obtain ⟨front', ht', hf'⟩ := h'
  -- One front starts with the other one, and what it has more would have no bytes.
  rcases List.append_eq_append_iff.mp (ht.trans ht'.symm) with ⟨more, he, ht⟩ | ⟨more, he, ht⟩
  · have hm : Text.byteLength more = 0 := by
      rw [he, Text.byteLength_append] at hf'
      omega
    rw [ht, byteLength_eq_zero hm, List.nil_append]
  · have hm : Text.byteLength more = 0 := by
      rw [he, Text.byteLength_append] at hf
      omega
    rw [ht, byteLength_eq_zero hm, List.nil_append]

end VoxelScore.Script
