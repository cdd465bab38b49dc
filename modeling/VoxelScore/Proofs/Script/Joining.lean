import VoxelScore.Proofs.Text.Trimming
import VoxelScore.Proofs.Text.Words
import VoxelScore.Script.Block

/-!
# Code texts joined by a line break

A line break between two code texts keeps their lines apart, so that the marker lines of the
joined text are those of both. What the second text leads with falls to the last statement of the
first one; if that lead is blank, no statement changes.

## Main definitions

* `Marked.cons`: a line in front of a split text
* `Marked.append`: a split text behind another one

## Main results

* `Marked.ofText_join`: the split of a joined text
* `statements_join`: joining concatenates the statements
-/

namespace VoxelScore.Script

/-! ## Lines -/

section Lines

variable {l : Text}

theorem lines_of_not_mem (hl : '\n' ∉ l) (hne : l ≠ []) : lines l = [l] := by
  induction l with
  | nil => exact absurd rfl hne
  | cons c l ih =>
    have hc : c ≠ '\n' := fun he => hl (he ▸ List.mem_cons_self)
    have hr : '\n' ∉ l := fun hm => hl (List.mem_cons_of_mem _ hm)
    rcases eq_or_ne l [] with rfl | hne'
    · simp [lines, hc]
    · simp [lines, hc, ih hr hne']

/-- A line break ends the line in front of it. -/
theorem lines_append_newline (hl : '\n' ∉ l) (r : Text) :
    lines (l ++ '\n' :: r) = (l ++ ['\n']) :: lines r := by
  induction l with
  | nil => simp [lines]
  | cons c l ih =>
    have hc : c ≠ '\n' := fun he => hl (he ▸ List.mem_cons_self)
    have hr : '\n' ∉ l := fun hm => hl (List.mem_cons_of_mem _ hm)
    simp [lines, hc, ih hr]

/-- **Induction on lines.** Every text is a text without line breaks, or such a text, a line break
and another text. -/
theorem line_induction {P : Text → Prop} (last : ∀ l, '\n' ∉ l → P l)
    (line : ∀ l r, '\n' ∉ l → P r → P (l ++ '\n' :: r)) (t : Text) : P t := by
  have hfree : ∀ l : Text, (∀ c ∈ l, (c == '\n') = false) → '\n' ∉ l := by
    intro l hl hm
    exact absurd (hl '\n' hm) (by decide)
  refine Text.separator_induction (· == '\n') (fun l hl => last l (hfree l hl)) ?_ t
  intro l c r hl hc hr
  rw [eq_of_beq hc]
  exact line l r (hfree l hl) hr

end Lines

/-! ## Marker lines -/

variable {c : Char}

/-- What follows a beginning may end in a character that the beginning does not have. -/
theorem isPrefixOf?_append_char {beginning : Text} (hb : c ∉ beginning) (l : Text) :
    beginning.isPrefixOf? (l ++ [c]) = (beginning.isPrefixOf? l).map (· ++ [c]) := by
  induction beginning generalizing l with
  | nil => rfl
  | cons d beginning ih =>
    cases l with
    | nil =>
      -- The character behind an empty line begins nothing.
      have hd : ¬ (d == c) = true := by
        intro he
        exact hb (eq_of_beq he ▸ List.mem_cons_self)
      show (if d == c then beginning.isPrefixOf? [] else none) = none
      rw [if_neg hd]
    | cons e l =>
      show (if d == e then beginning.isPrefixOf? (l ++ [c]) else none) =
        (if d == e then beginning.isPrefixOf? l else none).map (· ++ [c])
      split
      · exact ih (fun hm => hb (List.mem_cons_of_mem d hm)) l
      · rfl

/-- A blank at the end of a line belongs to what follows its marker. -/
theorem afterMarker?_append_blank (hc : Text.isBlank c) (l : Text) :
    afterMarker? (l ++ [c]) = (afterMarker? l).map (· ++ [c]) := by
  have hmarker : c ∉ "$:".toList := by
    rw [show "$:".toList = ['$', ':'] from rfl, List.mem_pair]
    rintro (rfl | rfl)
    all_goals exact absurd hc (by decide)
  unfold afterMarker? Text.trimStart
  rw [List.dropWhile_append]
  split
  · next hl =>
    rw [List.isEmpty_iff.mp hl, List.dropWhile_cons_of_pos hc]
    rfl
  · exact isPrefixOf?_append_char hmarker _

namespace Marked

/-! ## Splits in front of one another -/

/-- The split of a text with one more line in front. -/
def cons (l : Text) (m : Marked) : Marked :=
  match afterMarker? l with
  | some body => ⟨[], (body ++ m.lead) :: m.raw⟩
  | none => ⟨l ++ m.lead, m.raw⟩

/-- More text for the last one of a list. -/
def extendLast (t : Text) : List Text → List Text
  | [] => []
  | [r] => [r ++ t]
  | r :: s :: rs => r :: extendLast t (s :: rs)

/-- The split of a text with the lines of another one behind it: the lead of the second text
belongs to the last statement of the first, or to its lead if it has no statement. -/
def append (x y : Marked) : Marked :=
  if x.raw = [] then ⟨x.lead ++ y.lead, y.raw⟩
  else ⟨x.lead, extendLast y.lead x.raw ++ y.raw⟩

theorem ofLines_cons (l : Text) (ls : List Text) : ofLines (l :: ls) = (ofLines ls).cons l := rfl

/-- A blank at the end of a line may as well lead the text behind the line. -/
theorem cons_append_blank (hc : Text.isBlank c) (l : Text) (m : Marked) :
    m.cons (l ++ [c]) = cons l ⟨c :: m.lead, m.raw⟩ := by
  unfold cons
  rw [afterMarker?_append_blank hc]
  cases afterMarker? l <;> simp

theorem extendLast_cons {r : Text} {rs : List Text} (t : Text) (h : rs ≠ []) :
    extendLast t (r :: rs) = r :: extendLast t rs := by
  cases rs with
  | nil => exact absurd rfl h
  | cons s rs => rfl

theorem cons_append (l : Text) (x y : Marked) : (x.cons l).append y = (x.append y).cons l := by
  rcases x with ⟨lead, raw⟩
  -- The lead of `y` goes to the last statement of `x`, which a marker line in front does not change
  -- unless it is the only one.
  cases ha : afterMarker? l with
  | none =>
    by_cases hr : raw = []
    · simp [cons, append, ha, hr]
    · simp [cons, append, ha, hr]
  | some body =>
    by_cases hr : raw = []
    · simp [cons, append, ha, hr, extendLast]
    · simp [cons, append, ha, hr, extendLast_cons _ hr]

theorem ofText_of_not_mem {l : Text} (hl : '\n' ∉ l) : ofText l = cons l ⟨[], []⟩ := by
  rcases eq_or_ne l [] with rfl | hne
  · rfl
  · rw [ofText, lines_of_not_mem hl hne]
    rfl

theorem ofText_append_newline {l : Text} (hl : '\n' ∉ l) (r : Text) :
    ofText (l ++ '\n' :: r) = (ofText r).cons (l ++ ['\n']) := by
  rw [ofText, lines_append_newline hl, ofLines_cons]
  rfl

/-- **The split of two texts joined by a line break.** -/
theorem ofText_join (a b : Text) :
    ofText (a ++ '\n' :: b) = (ofText a).append ⟨'\n' :: (ofText b).lead, (ofText b).raw⟩ := by
  induction a using line_induction with
  | last l hl =>
    rw [ofText_append_newline hl, cons_append_blank (by decide), ofText_of_not_mem hl, cons_append]
    rfl
  | line l r hl ih =>
    rw [List.append_assoc, List.cons_append, ofText_append_newline hl, ih,
      ofText_append_newline hl, cons_append]

/-! ## Trimmed statements -/

theorem map_trim_extendLast {t : Text} (ht : Text.IsBlankText t) (rs : List Text) :
    (extendLast t rs).map Text.trim = rs.map Text.trim := by
  induction rs with
  | nil => rfl
  | cons r rs ih =>
    rcases eq_or_ne rs [] with rfl | hne
    · simp [extendLast, Text.trim_append_of_blank ht]
    · rw [extendLast_cons t hne, List.map_cons, ih, List.map_cons]

theorem map_trim_append (x : Marked) {y : Marked} (hy : Text.IsBlankText y.lead) :
    (x.append y).raw.map Text.trim = x.raw.map Text.trim ++ y.raw.map Text.trim := by
  unfold append
  split
  · next hx => rw [hx, List.map_nil, List.nil_append]
  · rw [List.map_append, map_trim_extendLast hy]

end Marked

/-- **Joining concatenates the statements** when the second text has a blank lead. -/
theorem statements_join (a : Text) {b : Text} (hb : Text.IsBlankText (Marked.ofText b).lead) :
    statements (a ++ '\n' :: b) = statements a ++ statements b := by
  unfold statements
  rw [Marked.ofText_join]
  exact Marked.map_trim_append _ (hb.cons (by decide))

/-- Dropping the statements without a block, and those that cannot be read, concerns every
statement alone. -/
theorem statementBlocks_join (a : Text) {b : Text}
    (hb : Text.IsBlankText (Marked.ofText b).lead) :
    statementBlocks (a ++ '\n' :: b) = statementBlocks a ++ statementBlocks b := by
  unfold statementBlocks
  rw [statements_join a hb, List.filterMap_append]

end VoxelScore.Script
