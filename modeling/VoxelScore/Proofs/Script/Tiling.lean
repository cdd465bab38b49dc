import VoxelScore.Proofs.Script.Lexemes
import VoxelScore.Proofs.Script.Scanning
import VoxelScore.Proofs.Script.Trivia

/-!
# Tokens tile their text

The tokens of a text and the gaps in front of them follow one another without a character between
or in common, up to a last gap or a literal that stays open. Where they stand is counted in bytes,
and what stands there is read in the same way on its own.

## Main definitions

* `IsGapAlone`, `IsTokenAlone`: texts whose scan is a mere gap, or one token that takes all of it
* `Tiles`: a text as gaps and tokens that stand at given bytes
* `IsSlice`: the text between two bytes of another one

## Main results

* `tiles_placedFrom`: scanning tiles the text as far as it reads
* `Scan.tiles_ofText`: extent, order, contents and end of the tokens of any text
-/

namespace VoxelScore.Script

variable {c : Char} {t r gap written rest : Text} {token : Token}

/-! ## Scanning parts on their own -/

/-- Scanned alone, the text has no token and no fault. -/
def IsGapAlone (gap : Text) : Prop := Scan.ofText gap = ⟨[], .complete gap⟩

/-- Scanned alone, the text is one token that takes all of it. -/
def IsTokenAlone (lexeme : Text) (token : Token) : Prop :=
  Scan.ofText lexeme = ⟨[⟨[], lexeme, token⟩], .complete []⟩

theorem LastGap.isGapAlone (h : LastGap gap) : IsGapAlone gap := Scan.ofText_done h.splitTrivia

/-- A token that has been read behind a gap is read in the same way on its own. -/
theorem isTokenAlone_of_token? (hg : splitTrivia t = (gap, c :: r))
    (ht : token? c r = some (token, written, rest)) : IsTokenAlone (c :: written) token := by
  have hp : c :: written <+: c :: r := ⟨rest, by rw [List.cons_append, token?_append ht]⟩
  have hs := ((trivia_of_splitTrivia hg).2.of_append hp).splitTrivia
  unfold IsTokenAlone
  rw [Scan.ofText_token hs (token?_alone ht), Scan.ofText_done stopsTrivia_nil.splitTrivia]
  rfl

theorem IsTokenAlone.ne_nil {lexeme : Text} (h : IsTokenAlone lexeme token) : lexeme ≠ [] := by
  rintro rfl
  have hd := Scan.ofText_done stopsTrivia_nil.splitTrivia
  rw [h] at hd
  cases hd

/-! ## Tilings -/

/-- **Gaps and tokens, one after the other.** The text, which starts at a byte, is a gap and the
characters of a token for every one of the placed tokens, in order and where they are placed, and
the rest. -/
inductive Tiles : ℕ → Text → List Placed → Text → Prop
  | nil {offset : ℕ} {rest : Text} : Tiles offset rest [] rest
  | cons {offset : ℕ} {gap lexeme behind rest : Text} {p : Placed} {ps : List Placed}
      (trivia : Trivia gap) (gapAlone : IsGapAlone gap)
      (tokenAlone : IsTokenAlone lexeme p.token)
      (starts : p.start.offset = offset + gap.byteLength)
      (stops : p.stop.offset = p.start.offset + lexeme.byteLength)
      (tail : Tiles p.stop.offset behind ps rest) :
      Tiles offset (gap ++ lexeme ++ behind) (p :: ps) rest

/-- The text between two bytes of another one. -/
def IsSlice (t : Text) (start stop : ℕ) (slice : Text) : Prop :=
  ∃ front back, t = front ++ slice ++ back ∧ front.byteLength = start ∧
    (front ++ slice).byteLength = stop

namespace Tiles

variable {offset : ℕ} {ps : List Placed} {p : Placed}

theorem start_lt_stop (h : Tiles offset t ps rest) (hp : p ∈ ps) :
    offset ≤ p.start.offset ∧ p.start.offset < p.stop.offset := by
  induction h with
  | nil => cases hp
  | @cons offset gap lexeme behind rest q qs _ _ alone starts stops _ ih =>
    have hpos : 0 < lexeme.byteLength :=
      Nat.pos_of_ne_zero fun hz => alone.ne_nil (byteLength_eq_zero hz)
    rcases List.mem_cons.mp hp with rfl | hp
    · omega
    · have := ih hp
      omega

/-- No token starts before the one in front of it has stopped. -/
theorem pairwise (h : Tiles offset t ps rest) :
    ps.Pairwise (fun p q => p.stop.offset ≤ q.start.offset) := by
  induction h with
  | nil => exact .nil
  | cons _ _ _ _ _ tail ih => exact .cons (fun q hq => (tail.start_lt_stop hq).1) ih

/-- What stands between the bytes of a token is read as the token. -/
theorem exists_slice (h : Tiles offset t ps rest) (hp : p ∈ ps) (front : Text)
    (hf : front.byteLength = offset) :
    ∃ lexeme, IsSlice (front ++ t) p.start.offset p.stop.offset lexeme ∧
      IsTokenAlone lexeme p.token := by
  induction h generalizing front with
  | nil => cases hp
  | @cons offset gap lexeme behind rest q qs _ _ alone starts stops _ ih =>
    rcases List.mem_cons.mp hp with rfl | hp
    -- the token itself, or one behind it: then the token belongs to what is in front
    · refine ⟨lexeme, ⟨front ++ gap, behind, by simp, ?_, ?_⟩, alone⟩
      · rw [Text.byteLength_append, hf, starts]
      · rw [Text.byteLength_append, Text.byteLength_append, hf, stops, starts]
    · obtain ⟨lexeme', hs, ha⟩ := ih hp (front ++ (gap ++ lexeme)) (by
        rw [Text.byteLength_append, Text.byteLength_append, hf, stops, starts]
        omega)
      refine ⟨lexeme', ?_, ha⟩
      rwa [List.append_assoc] at hs

end Tiles

/-! ## Scans -/

/-- **Scanning tiles a text** as far as it reads. What is left is the ending of the scan. -/
theorem tiles_placedFrom (p : Cursor) (t : Text) :
    Tiles p.offset t (placedFrom p (Scan.ofText t).pieces) (Scan.ofText t).ending.text := by
  fun_induction Scan.ofText t generalizing p with
  | case1 t gap hg =>
    have ht := splitTrivia_append t
    rw [hg, List.append_nil] at ht
    -- the gap takes all of the text
    rw [← ht]
    exact .nil
  | case2 t gap c r hg ht =>
    rw [← text_eq_of_fault hg]
    exact .nil
  | case3 t gap c r hg token written rest ht ih =>
    rw [← text_eq_of_token hg ht]
    have htrivia := (trivia_of_splitTrivia hg).1
    exact .cons htrivia (LastGap.closed htrivia).isGapAlone (isTokenAlone_of_token? hg ht)
      (Cursor.offset_past p gap) (Cursor.offset_past _ _) (ih _)

/-- What may stand behind the tokens of a text: a last gap, or a closed gap and a literal that no
quote closes. -/
inductive Ending.IsSound : Ending → Prop
  | complete {gap : Text} (last : LastGap gap) : IsSound (.complete gap)
  | unclosed {gap r : Text} {quote : Char} (trivia : Trivia gap) (opens : isQuote quote)
      (stays : ¬ HasClosingQuote quote r) : IsSound (.unclosed gap (quote :: r))

theorem isSound_ending (t : Text) : (Scan.ofText t).ending.IsSound := by
  fun_induction Scan.ofText t with
  | case1 t gap hg => exact .complete (lastGap_of_splitTrivia hg)
  | case2 t gap c r hg ht =>
    obtain ⟨hq, hopen⟩ := token?_eq_none ht
    exact .unclosed (trivia_of_splitTrivia hg).1 hq hopen
  | case3 t gap c r hg token written rest ht ih => exact ih

/-- The fault of a scan is where its literal that stays open stands. -/
theorem hasTail_fault {literal : Text} (he : (Scan.ofText t).ending = .unclosed gap literal) :
    ∃ p, (Scan.ofText t).fault? = some p ∧ HasTail t p.offset literal := by
  refine ⟨_, by rw [Scan.fault?, he], piecesText (Scan.ofText t).pieces ++ gap, ?_, ?_⟩
  · have ht := Scan.text_ofText t
    rwa [Scan.text, he, Ending.text, ← List.append_assoc] at ht
  · rw [Cursor.offset_past, Cursor.offset_past, Text.byteLength_append]
    exact congrArg (· + gap.byteLength) (Nat.zero_add _).symm

/-- **The tokens of any text tile it.** Each takes bytes of its own, where stands what is read as
the same token alone, and starts no earlier than the one in front of it has stopped. Between them
stand blanks and closed comments only. Either there is no fault and a last gap follows them, or the
fault stands behind a gap at a quote that nothing behind it closes. -/
theorem Scan.tiles_ofText (t : Text) :
    (∀ p ∈ (ofText t).placed, p.start.offset < p.stop.offset ∧
      ∃ lexeme, IsSlice t p.start.offset p.stop.offset lexeme ∧ IsTokenAlone lexeme p.token) ∧
    (ofText t).placed.Pairwise (fun p q => p.stop.offset ≤ q.start.offset) ∧
    ∃ rest, Tiles 0 t (ofText t).placed rest ∧
      ((ofText t).fault? = none ∧ LastGap rest ∧ IsGapAlone rest ∨
        ∃ p gap quote r, (ofText t).fault? = some p ∧ rest = gap ++ quote :: r ∧
          Trivia gap ∧ IsGapAlone gap ∧ HasTail t p.offset (quote :: r) ∧
          isQuote quote ∧ ¬ HasClosingQuote quote r) := by
  have htiles : Tiles 0 t (ofText t).placed (ofText t).ending.text := tiles_placedFrom .start t
  refine ⟨?_, htiles.pairwise, _, htiles, ?_⟩
  · intro p hp
    refine ⟨(htiles.start_lt_stop hp).2, ?_⟩
    simpa using htiles.exists_slice hp [] rfl
  · have hsound := isSound_ending t
    cases he : (ofText t).ending with
    | complete gap =>
      rw [he] at hsound
      cases hsound with
      | complete last => exact .inl ⟨by rw [fault?, he], last, last.isGapAlone⟩
    | unclosed gap literal =>
      obtain ⟨p, hp, htail⟩ := hasTail_fault he
      rw [he] at hsound
      cases hsound with
      | unclosed trivia opens stays =>
        exact .inr ⟨p, gap, _, _, hp, rfl, trivia, (LastGap.closed trivia).isGapAlone, htail,
          opens, stays⟩

end VoxelScore.Script
