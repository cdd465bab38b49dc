import Mathlib.Data.List.Infix
import VoxelScore.Proofs.Script.FirstCall
import VoxelScore.Proofs.Script.Tiling

/-!
# Reported positions

Tokens, the literal that stays open and the errors of a statement are reported by line and column.
The counters run through gaps, names, literals and escaped line feeds alike. What stands in front
of a position decides it nevertheless by two counts: its line feeds, and the characters behind the
last one of them.

## Main definitions

* `Cursor.Counts`: a position that counts what stands in front of it
* `Cursor.At`: the position of a tail of a text

## Main results

* `Cursor.Counts.past`: going on through any text keeps the counts
* `at_of_mem_placedFrom`, `at_of_faultFrom?`: tokens, and the literal that stays open
* `Scan.positions_ofText`: all positions that are reported for a text
-/

namespace VoxelScore.Script

/-! ## Counting -/

namespace Cursor

variable {p : Cursor} {front tail t : Text}

/-- **What a position says about the text in front of it**: its bytes, one line more than it has
line feeds, and one column more than it has characters behind the last of them. -/
structure Counts (p : Cursor) (front : Text) : Prop where
  bytes : p.offset = front.byteLength
  lines : p.line = 1 + front.count '\n'
  characters : ∃ earlier line, front = earlier ++ line ∧ (∀ c ∈ earlier.getLast?, c = '\n') ∧
    '\n' ∉ line ∧ p.column = 1 + line.length

theorem counts_start : start.Counts [] where
  bytes := rfl
  lines := rfl
  characters := ⟨[], [], rfl, by simp, by simp, rfl⟩

/-- One character more. -/
theorem Counts.advance (h : p.Counts front) (c : Char) : (p.advance c).Counts (front ++ [c]) := by
  obtain ⟨hbytes, hlines, earlier, line, rfl, hends, hline, hcolumn⟩ := h
  by_cases hc : c = '\n'
  -- a line feed ends the line and starts an empty one
  · subst hc
    refine ⟨?_, ?_, earlier ++ line ++ ['\n'], [], by simp, by simp, by simp, rfl⟩
    · simp [Cursor.advance, hbytes, Nat.add_assoc]
    · simp [Cursor.advance, hlines, Nat.add_assoc]
  · refine ⟨?_, ?_, earlier, line ++ [c], by simp, hends, ?_, ?_⟩
    · simp [Cursor.advance, hc, hbytes, Nat.add_assoc]
    · simp [Cursor.advance, hc, hlines]
    · simpa [hline] using Ne.symm hc
    · simp [Cursor.advance, hc, hcolumn, Nat.add_assoc]

/-- **Any text more**, whatever it is a part of. -/
theorem Counts.past (h : p.Counts front) (t : Text) : (p.past t).Counts (front ++ t) := by
  induction t generalizing p front with
  | nil => rwa [List.append_nil]
  | cons c t ih =>
    have hrest := ih (h.advance c)
    rwa [List.append_assoc, List.singleton_append] at hrest

/-- The position of what stands in a text behind some front. -/
def At (p : Cursor) (t tail : Text) : Prop := ∃ front, front ++ tail = t ∧ p.Counts front

theorem at_start (t : Text) : start.At t t := ⟨[], rfl, counts_start⟩

theorem At.past {s : Text} (h : p.At t (s ++ tail)) : (p.past s).At t tail := by
  obtain ⟨front, rfl, hfront⟩ := h
  exact ⟨front ++ s, List.append_assoc .., hfront.past s⟩

end Cursor

/-! ## Tokens and faults -/

section Scans

variable {c : Char} {whole t r lexeme name written rest : Text} {p : Cursor} {x : Placed}

/-- **A token starts** where its characters stand. -/
theorem at_of_mem_placedFrom (hp : p.At whole t) (hx : x ∈ placedFrom p (Scan.ofText t).pieces) :
    ∃ lexeme behind, x.start.At whole (lexeme ++ behind) ∧ IsTokenAlone lexeme x.token := by
  fun_induction Scan.ofText t generalizing p with
  | case1 t gap hg => cases hx
  | case2 t gap c r hg ht => cases hx
  | case3 t gap c r hg token written rest ht ih =>
    rw [← text_eq_of_token hg ht, List.append_assoc] at hp
    have hstart : (p.past gap).At whole (c :: written ++ rest) := hp.past
    -- the token itself, or one of the text behind it
    rcases List.mem_cons.mp hx with rfl | hx
    · exact ⟨_, rest, hstart, isTokenAlone_of_token? hg ht⟩
    · exact ih hstart.past hx

/-- **The literal that stays open** is reported at its opening quote. -/
theorem at_of_faultFrom? {fault : Cursor} (hp : p.At whole t)
    (hf : (Scan.ofText t).faultFrom? p = some fault) :
    ∃ quote behind, fault.At whole (quote :: behind) ∧ isQuote quote ∧
      ¬ HasClosingQuote quote behind := by
  fun_induction Scan.ofText t generalizing p with
  | case1 t gap hg => cases hf
  | case2 t gap c r hg ht =>
    cases hf
    rw [← text_eq_of_fault hg] at hp
    exact ⟨c, r, hp.past, token?_eq_none ht⟩
  | case3 t gap c r hg token written rest ht ih =>
    rw [← text_eq_of_token hg ht, List.append_assoc] at hp
    rw [Scan.faultFrom?_cons] at hf
    exact ih hp.past.past hf

theorem eq_of_token?_name (h : token? c r = some (.name name, written, rest)) :
    name = c :: written := by
  unfold token? at h
  split_ifs at h
  all_goals simp at h
  obtain ⟨rfl, rfl, -⟩ := h
  rfl

/-- The characters of a name are the name. -/
theorem IsTokenAlone.eq_name (h : IsTokenAlone lexeme (.name name)) : lexeme = name := by
  unfold IsTokenAlone at h
  rcases hg : splitTrivia lexeme with ⟨gap, _ | ⟨c, r⟩⟩
  · rw [Scan.ofText_done hg] at h
    cases h
  · rcases ht : token? c r with _ | ⟨token, written, rest⟩
    · rw [Scan.ofText_fault hg ht] at h
      cases h
    · rw [Scan.ofText_token hg ht] at h
      obtain ⟨hpiece, -⟩ := List.cons.inj (congrArg Scan.pieces h)
      obtain ⟨-, hlexeme, rfl⟩ := Piece.mk.inj hpiece
      rw [← hlexeme, eq_of_token?_name ht]

end Scans

/-! ## Texts -/

/-- What a statement is read as is the outcome of its tokens and its fault. -/
theorem Block.outcome_parse (t : Text) :
    Outcome t (Scan.ofText t).placed (Scan.ofText t).fault? (parse t) := by
  have hnone : NoCall ([] : List Placed).reverse :=
    fun _ _ _ h => absurd h.lt_length (Nat.not_lt_zero _)
  rw [← Scan.faultFrom?_start]
  exact outcome_readFrom ⟨[], rfl, rfl⟩ hnone

/-- **Reported positions are right.** Line and column of a token count the line feeds in front of
its characters, and the characters behind the last of these; those of the fault do the same for the
opening quote of the literal that no quote behind it closes. The error of a statement with such a
literal has the position of the fault; the error of an unclosed call has the position of the name of
the first one. -/
theorem Scan.positions_ofText (t : Text) :
    (∀ x ∈ (ofText t).placed, ∃ lexeme behind,
      x.start.At t (lexeme ++ behind) ∧ IsTokenAlone lexeme x.token) ∧
    (∀ p, (ofText t).fault? = some p → ∃ quote behind,
      p.At t (quote :: behind) ∧ isQuote quote ∧ ¬ HasClosingQuote quote behind) ∧
    (∀ line column, Block.parse t = .error ⟨.unclosedLiteral, line, column⟩ →
      ∃ p, (ofText t).fault? = some p ∧ p.line = line ∧ p.column = column) ∧
    ∀ name line column, Block.parse t = .error ⟨.unclosedCall name, line, column⟩ →
      ∃ i first behind, (ofText t).placed[i]? = some first ∧ UnclosedAt (ofText t).placed i name ∧
        (∀ j < i, ∀ name', ¬ UnclosedAt (ofText t).placed j name') ∧
        first.start.At t (name ++ behind) ∧ first.start.line = line ∧
        first.start.column = column := by
  have hparse := Block.outcome_parse t
  have htokens : ∀ x ∈ (ofText t).placed, ∃ lexeme behind,
      x.start.At t (lexeme ++ behind) ∧ IsTokenAlone lexeme x.token :=
    fun x => at_of_mem_placedFrom (Cursor.at_start t)
  refine ⟨htokens, fun p => at_of_faultFrom? (Cursor.at_start t), ?_, ?_⟩
  · intro line column h
    rw [h] at hparse
    cases hparse with
    | unclosedLiteral without fault => exact ⟨_, fault, rfl, rfl⟩
  · intro name line column h
    rw [h] at hparse
    cases hparse with
    | @unclosedCall i _ first without closed place least starts =>
      obtain ⟨lexeme, behind, hat, halone⟩ := htokens first (List.mem_of_getElem? starts)
      have htoken : first.token = .name name := by
        have hname := place.constructor.1
        rw [tokenAt, starts] at hname
        exact Option.some.inj hname
      rw [htoken] at halone
      rw [halone.eq_name] at hat
      exact ⟨i, first, behind, starts, place, least, hat, rfl, rfl⟩

/-- The break in the comment counts, and so does the escaped one in the literal. -/
example : Block.parse "/*\n*/ x 'a\\\n b' note( 'c' .".toList =
    .error ⟨.unclosedCall "note".toList, 3, 5⟩ := by cbv

end VoxelScore.Script
