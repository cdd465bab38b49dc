import VoxelScore.Proofs.Script.Joining

/-!
# Blanks around a code text

Blanks at either end of a code text do not matter. In front of a marker they are skipped like the
indentation of its line, and in front of anything else they only lengthen the lead; behind the last
statement they are trimmed away with it. A text without markers is trimmed before it is read whole.

## Main results

* `Marked.raw_ofText_cons_blank`, `Marked.ofText_append_blank`: a blank at either end of a text
* `statements_trim`: trimming a text keeps its statements
* `blocks_trim`: trimming a text keeps its blocks
-/

namespace VoxelScore.Script

variable {c : Char} {s t : Text}

/-- The indentation of a line does not tell whether it is a marker line. -/
theorem afterMarker?_cons_blank (hc : Text.isBlank c) (l : Text) :
    afterMarker? (c :: l) = afterMarker? l := by
  unfold afterMarker? Text.trimStart
  rw [List.dropWhile_cons_of_pos hc]

namespace Marked

theorem raw_cons_congr {l l' : Text} (h : afterMarker? l = afterMarker? l') (m : Marked) :
    (m.cons l).raw = (m.cons l').raw := by
  unfold cons
  rw [h]
  cases afterMarker? l' <;> rfl

/-- A blank in front of a text changes its lead at most. -/
theorem raw_ofText_cons_blank (hc : Text.isBlank c) (t : Text) :
    (ofText (c :: t)).raw = (ofText t).raw := by
  rw [ofText, ofText, lines]
  split
  · next hn =>
    -- a line of its own, without a marker
    rw [ofLines_cons, hn]
    rfl
  · split
    · next hl =>
      rw [hl, ofLines_cons, raw_cons_congr (afterMarker?_cons_blank hc [])]
      rfl
    · next l ls hl =>
      rw [hl, ofLines_cons, ofLines_cons, raw_cons_congr (afterMarker?_cons_blank hc l)]

/-- A blank behind a text falls to its last statement, or to its lead. -/
theorem ofText_append_blank (hc : Text.isBlank c) (t : Text) :
    ofText (t ++ [c]) = (ofText t).append ⟨[c], []⟩ := by
  by_cases hn : c = '\n'
  · rw [hn]
    exact ofText_join t []
  induction t using line_induction with
  | last l hl =>
    have hl' : '\n' ∉ l ++ [c] := by
      simp [hl, Ne.symm hn]
    rw [ofText_of_not_mem hl', cons_append_blank hc, ofText_of_not_mem hl, cons_append]
    rfl
  | line l r hl ih =>
    rw [List.append_assoc, List.cons_append, ofText_append_newline hl, ih,
      ofText_append_newline hl, cons_append]

end Marked

/-! ## Statements and blocks -/

theorem statements_blank_append (hs : Text.IsBlankText s) (t : Text) :
    statements (s ++ t) = statements t := by
  induction s with
  | nil => rfl
  | cons c s ih =>
    have hraw := Marked.raw_ofText_cons_blank (hs c List.mem_cons_self) (s ++ t)
    rw [← ih fun d hd => hs d (List.mem_cons_of_mem c hd), List.cons_append, statements, hraw]
    rfl

theorem statements_append_blank (ht : Text.IsBlankText t) (s : Text) :
    statements (s ++ t) = statements s := by
  induction t generalizing s with
  | nil => rw [List.append_nil]
  | cons c t ih =>
    have hc : Text.IsBlankText [c] := fun d hd => by
      rw [List.mem_singleton.mp hd]
      exact ht c List.mem_cons_self
    rw [List.append_cons, ih fun d hd => ht d (List.mem_cons_of_mem c hd)]
    unfold statements
    rw [Marked.ofText_append_blank (ht c List.mem_cons_self), Marked.map_trim_append _ hc]
    exact List.append_nil _

/-- **Trimming a text keeps its statements.** -/
theorem statements_trim (t : Text) : statements (Text.trim t) = statements t := by
  obtain ⟨front, back, hf, hb, ht⟩ := Text.exists_trim t
  calc statements (Text.trim t) = statements (front ++ Text.trim t ++ back) := by
        rw [statements_append_blank hb, statements_blank_append hf]
    _ = statements t := by rw [← ht]

/-- **Trimming a text keeps its blocks**, the default block included. -/
theorem blocks_trim (t : Text) : blocks (Text.trim t) = blocks t := by
  unfold blocks statementBlocks
  rw [statements_trim, Text.trim_trim]

end VoxelScore.Script
