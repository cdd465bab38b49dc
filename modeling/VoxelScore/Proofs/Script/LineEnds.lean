import VoxelScore.Proofs.Script.CallText
import VoxelScore.Proofs.Script.Calls
import VoxelScore.Proofs.Script.Scanning
import VoxelScore.Proofs.Text.LineEnds

/-!
# Line ends between and within tokens

A carriage return in front of every line feed falls into the gaps of a text and into its literals,
and nowhere else: a gap stays a gap, a comment ends at the same line feed, and a literal ends at the
same quote. So the scan of the text has the same tokens, up to the line ends in literals, and its
calls are the same up to the line ends in their arguments.

## Main definitions

* `Token.crlf`, `Piece.crlf`, `Scan.crlf`, `Call.crlf`: a carriage return in front of every line
  feed, wherever text is kept as it is written

## Main results

* `splitTrivia_crlf`, `token?_crlf`: gaps and tokens
* `Scan.ofText_crlf`: the scan of a text
* `Call.ofText_crlf`: the calls of a modifier text
-/

namespace VoxelScore.Script

open Text (crlf crlf_nil crlf_cons crlf_append crlf_newline crlf_of_not_mem)

variable {c q : Char} {g r t w written rest : Text} {token : Token}

/-! ## Gaps -/

theorem Trivia.of_item (h : TriviaItem g) : Trivia g := by
  have hcons := Trivia.cons h .nil
  rwa [List.append_nil] at hcons

/-- A blank or comment becomes a mix of them: a line feed two blanks, and a comment to the end of
its line one that ends in a carriage return. -/
theorem TriviaItem.crlf (h : TriviaItem g) : Trivia (crlf g) := by
  cases h with
  | @blank c hb =>
    by_cases hc : c = '\n'
    · have hreturn : TriviaItem ['\r'] := .blank rfl
      have hfeed : TriviaItem ['\n'] := .blank rfl
      rw [hc, crlf_newline, crlf_nil]
      exact .cons hreturn (.of_item hfeed)
    · rw [crlf_cons hc, crlf_nil]
      exact .of_item (.blank hb)
  | @lineComment w hw =>
    -- the carriage return is the last character of the comment
    have hw' : '\n' ∉ w ++ ['\r'] := by simp [hw]
    have hitem := TriviaItem.lineComment hw'
    rw [crlf_cons (by simp), crlf_cons (by simp), crlf_append, crlf_of_not_mem hw]
    rw [List.append_assoc] at hitem
    exact .of_item hitem
  | @blockComment w hw =>
    have hw' : ¬ commentEnd <:+: Text.crlf w := by
      intro h
      exact hw (Text.infix_of_crlf (by simp [commentEnd]) (by simp [commentEnd]) h)
    rw [crlf_cons (by simp), crlf_cons (by simp), crlf_append]
    exact .of_item (.blockComment hw')

theorem Trivia.append (hg : Trivia g) (ht : Trivia t) : Trivia (g ++ t) := by
  induction hg with
  | nil => exact ht
  | cons item _ ih =>
    rw [List.append_assoc]
    exact .cons item ih

theorem Trivia.crlf (h : Trivia g) : Trivia (crlf g) := by
  induction h with
  | nil => exact .nil
  | cons item _ ih =>
    rw [crlf_append]
    exact item.crlf.append ih

theorem OpenComment.crlf (h : OpenComment w) : OpenComment (crlf w) := by
  cases h with
  | line hw =>
    rw [crlf_cons (by simp), crlf_cons (by simp), crlf_of_not_mem hw]
    exact .line hw
  | block hw =>
    rw [crlf_cons (by simp), crlf_cons (by simp)]
    refine .block ?_
    intro h
    exact hw (Text.infix_of_crlf (by simp [commentEnd]) (by simp [commentEnd]) h)

theorem LastGap.crlf (h : LastGap g) : LastGap (crlf g) := by
  cases h with
  | closed trivia => exact .closed trivia.crlf
  | opened trivia comment =>
    rw [crlf_append]
    exact .opened trivia.crlf comment.crlf

/-- A line feed is a blank, so that no text that starts a token starts with one. -/
theorem StopsTrivia.ne_newline (h : StopsTrivia (c :: t)) : c ≠ '\n' := by
  rintro rfl
  have hblank := h.blank '\n' rfl
  cases hblank

theorem StopsTrivia.crlf (h : StopsTrivia t) : StopsTrivia (crlf t) where
  blank := by
    cases t with
    | nil => simp
    | cons c t =>
      rw [crlf_cons h.ne_newline]
      simpa using h.blank c rfl
  lineComment := fun hp => h.lineComment (Text.prefix_of_crlf (by simp) hp)
  blockComment := fun hp => h.blockComment (Text.prefix_of_crlf (by simp) hp)

/-- **The gap of a text** ends at the same place. -/
theorem splitTrivia_crlf (t : Text) :
    splitTrivia (crlf t) = (crlf (splitTrivia t).1, crlf (splitTrivia t).2) := by
  have ht : crlf t = crlf (splitTrivia t).1 ++ crlf (splitTrivia t).2 := by
    rw [← crlf_append, splitTrivia_append]
  -- what a gap consists of tells where it ends, whatever stands behind it
  rcases splitTrivia_parts t with ⟨trivia, stops⟩ | ⟨last, done⟩
  · rw [ht, trivia.crlf.splitTrivia_of_stops stops.crlf]
  · rw [ht, done, crlf_nil, List.append_nil, last.crlf.splitTrivia]

/-! ## Tokens -/

/-- The token with a carriage return in front of every line feed of a literal. -/
def Token.crlf : Token → Token
  | .literal t => .literal (Text.crlf t)
  | token => token

/-- Only literals change, and they stay literals. -/
theorem Token.alike_crlf (token : Token) : token.Alike token.crlf := by
  cases token with
  | literal t => exact .inr ⟨t, Text.crlf t, rfl, rfl⟩
  | _ => exact .inl rfl

theorem Token.crlf_eq_iff {token' : Token} (h : ∀ t, token' ≠ .literal t) :
    token.crlf = token' ↔ token = token' :=
  token.alike_crlf.eq_iff h

theorem Token.crlf_eq_literal :
    token.crlf = .literal t ↔ ∃ s, token = .literal s ∧ Text.crlf s = t := by
  cases token <;> simp [crlf]

/-- **A literal** ends at the same quote. An escaped line feed becomes an escaped carriage return
and a line feed, which stand for themselves. -/
theorem splitLiteral?_crlf (hb : q ≠ '\\') (hr : q ≠ '\r') (hn : q ≠ '\n') (t : Text) :
    splitLiteral? q (crlf t) = (splitLiteral? q t).map fun (contents, written, rest) =>
      (crlf contents, crlf written, crlf rest) := by
  fun_induction splitLiteral? q t with
  | case1 => rfl
  | case2 => rfl
  | case3 c r ih =>
    rw [crlf_cons (by simp)]
    by_cases hc : c = '\n'
    · -- the backslash takes the carriage return, and the line feed stands for itself
      rw [hc, crlf_newline, splitLiteral?_backslash, splitLiteral?_plain (by simp) hn.symm, ih]
      simp only [Option.map_map]
      rfl
    · rw [crlf_cons hc, splitLiteral?_backslash, ih]
      rcases splitLiteral? q r with _ | ⟨contents, written, rest⟩
      · rfl
      · simp [crlf_cons hc, crlf_cons (show '\\' ≠ '\n' by simp)]
  | case4 r _ _ =>
    rw [crlf_cons hn, splitLiteral?_quote hb]
    simp [crlf_cons hn]
  | case5 c r hend hpair hc ih =>
    -- a backslash would have taken the next character with it
    have hplain : c ≠ '\\' := by
      rintro rfl
      cases r with
      | nil => exact hend rfl rfl
      | cons d r => exact hpair d r rfl rfl
    by_cases hc' : c = '\n'
    · rw [hc', crlf_newline, splitLiteral?_plain (by simp) hr.symm,
        splitLiteral?_plain (by simp) hn.symm, ih]
      simp only [Option.map_map]
      rfl
    · rw [crlf_cons hc', splitLiteral?_plain hplain hc, ih]
      rcases splitLiteral? q r with _ | ⟨contents, written, rest⟩
      · rfl
      · simp [crlf_cons hc']

/-- **A number** lies within one line, and no line end makes a point in front of it part of it. -/
theorem splitNumber_crlf (t : Text) :
    splitNumber (crlf t) = ((splitNumber t).1, crlf (splitNumber t).2) ∧
      crlf (splitNumber t).1 = (splitNumber t).1 := by
  have hline : ∀ t : Text, crlf (t.takeWhile Char.isDigit) = t.takeWhile Char.isDigit := by
    intro t
    rw [← Text.takeWhile_crlf rfl, Text.takeWhile_isDigit_crlf]
  by_cases h : ∃ d, d.isDigit ∧ ['.', d] <+: t.dropWhile Char.isDigit
  · obtain ⟨d, hd, r, hr⟩ := h
    have hn : d ≠ '\n' := by
      rintro rfl
      cases hd
    have hr' : (crlf t).dropWhile Char.isDigit = '.' :: d :: crlf r := by
      rw [Text.dropWhile_isDigit_crlf, ← hr]
      simp [crlf_cons hn, crlf_cons (show '.' ≠ '\n' by simp)]
    rw [splitNumber_of_point hr.symm hd, splitNumber_of_point hr' hd, Text.takeWhile_isDigit_crlf,
      Text.takeWhile_isDigit_crlf, Text.dropWhile_isDigit_crlf]
    simp [crlf_cons hn, crlf_cons (show '.' ≠ '\n' by simp), hline]
  · -- a carriage return behind a point is no digit either
    have hnone : ∀ d, d.isDigit → ¬ ['.', d] <+: t.dropWhile Char.isDigit := by
      intro d hd hp
      exact h ⟨d, hd, hp⟩
    have hnone' : ∀ d, d.isDigit → ¬ ['.', d] <+: (crlf t).dropWhile Char.isDigit := by
      intro d hd hp
      rw [Text.dropWhile_isDigit_crlf] at hp
      refine hnone d hd (Text.prefix_of_crlf ?_ hp)
      intro hm
      rcases List.mem_pair.mp hm with he | rfl
      · simp at he
      · cases hd
    rw [splitNumber_of_no_point hnone, splitNumber_of_no_point hnone',
      Text.takeWhile_isDigit_crlf, Text.dropWhile_isDigit_crlf]
    exact ⟨rfl, hline t⟩

/-- A quote is no character of a line end. -/
theorem ne_of_isQuote (h : isQuote c) : c ≠ '\\' ∧ c ≠ '\r' ∧ c ≠ '\n' := by
  refine ⟨ne_backslash_of_isQuote h, ?_, ?_⟩
  · rintro rfl
    cases h
  · rintro rfl
    cases h

/-- A name lies within one line. -/
theorem name_crlf (t : Text) :
    (crlf t).takeWhile isNameChar = t.takeWhile isNameChar ∧
      crlf (t.takeWhile isNameChar) = t.takeWhile isNameChar ∧
      (crlf t).dropWhile isNameChar = crlf (t.dropWhile isNameChar) := by
  have hr : isNameChar '\r' = false := isNameChar_of_isBlank rfl
  have hn : isNameChar '\n' = false := isNameChar_of_isBlank rfl
  have htake := Text.takeWhile_crlf_of_not hr hn t
  have hrun := Text.run_crlf (hr.trans hn.symm) t
  exact ⟨htake, hrun.1.symm.trans htake, hrun.2⟩

/-- **A token** is the same up to the line ends in it. -/
theorem token?_crlf (c : Char) (r : Text) :
    token? c (crlf r) = (token? c r).map fun (token, written, rest) =>
      (token.crlf, crlf written, crlf rest) := by
  unfold token?
  split_ifs with h₁ h₂ h₃ h₄ hquote hdigit hname
  · rfl
  · rfl
  · rfl
  · rfl
  · obtain ⟨hb, hr, hn⟩ := ne_of_isQuote hquote
    rw [splitLiteral?_crlf hb hr hn]
    simp only [Option.map_map]
    rfl
  · obtain ⟨hnumber, hline⟩ := splitNumber_crlf r
    rw [hnumber]
    simp [hline, Token.crlf]
  · obtain ⟨htake, hline, hdrop⟩ := name_crlf r
    rw [htake, hdrop]
    simp [hline, Token.crlf]
  · rfl

theorem token?_crlf_of_some (h : token? c r = some (token, written, rest)) :
    token? c (crlf r) = some (token.crlf, crlf written, crlf rest) := by
  rw [token?_crlf, h]
  rfl

theorem token?_crlf_of_none (h : token? c r = none) : token? c (crlf r) = none := by
  rw [token?_crlf, h]
  rfl

/-! ## Scans -/

/-- The piece with a carriage return in front of every line feed. -/
def Piece.crlf (p : Piece) : Piece := ⟨Text.crlf p.gap, Text.crlf p.lexeme, p.token.crlf⟩

/-- The ending with a carriage return in front of every line feed. -/
def Ending.crlf : Ending → Ending
  | .complete gap => .complete (Text.crlf gap)
  | .unclosed gap rest => .unclosed (Text.crlf gap) (Text.crlf rest)

/-- The scan with a carriage return in front of every line feed. -/
def Scan.crlf (s : Scan) : Scan := ⟨s.pieces.map Piece.crlf, s.ending.crlf⟩

theorem piecesText_map_crlf (pieces : List Piece) :
    piecesText (pieces.map Piece.crlf) = crlf (piecesText pieces) := by
  induction pieces with
  | nil => rfl
  | cons p pieces ih =>
    have htext : p.crlf.text = crlf p.text := (crlf_append p.gap p.lexeme).symm
    show p.crlf.text ++ piecesText (pieces.map Piece.crlf) = crlf (p.text ++ piecesText pieces)
    rw [ih, htext, crlf_append]

/-- The gap in front of a token stays in front of it. -/
theorem splitTrivia_crlf_cons (h : splitTrivia t = (g, c :: r)) :
    c ≠ '\n' ∧ splitTrivia (crlf t) = (crlf g, c :: crlf r) := by
  have hc : c ≠ '\n' := (trivia_of_splitTrivia h).2.ne_newline
  refine ⟨hc, ?_⟩
  rw [splitTrivia_crlf, h, crlf_cons hc]

theorem splitTrivia_crlf_nil (h : splitTrivia t = (g, [])) :
    splitTrivia (crlf t) = (crlf g, []) := by
  rw [splitTrivia_crlf, h, crlf_nil]

/-- **The scan of a text** has the same pieces, up to the line ends in them. -/
theorem Scan.ofText_crlf (t : Text) : ofText (Text.crlf t) = (ofText t).crlf := by
  fun_induction ofText t with
  | case1 t gap hg => rw [ofText_done (splitTrivia_crlf_nil hg)]; rfl
  | case2 t gap c r hg ht =>
    obtain ⟨hc, hg'⟩ := splitTrivia_crlf_cons hg
    rw [ofText_fault hg' (token?_crlf_of_none ht), ← crlf_cons hc]
    rfl
  | case3 t gap c r hg token written rest ht ih =>
    obtain ⟨hc, hg'⟩ := splitTrivia_crlf_cons hg
    rw [ofText_token hg' (token?_crlf_of_some ht), ih, ← crlf_cons hc]
    rfl

/-! ## Calls -/

/-- The call with a carriage return in front of every line feed of its arguments. -/
def Call.crlf (call : Call) : Call :=
  ⟨call.name, call.arguments.map Piece.crlf, Text.crlf call.raw⟩

/-- **The calls of a modifier text.** -/
theorem Call.ofText_crlf (t : Text) : ofText (Text.crlf t) = (ofText t).map Call.crlf := by
  unfold ofText
  rw [Scan.ofText_crlf]
  refine calls_map (f := Piece.crlf) (g := Text.crlf) (fun p => p.token.alike_crlf) _ ?_
  intro arguments close ys _
  rw [crlf_append, piecesText_map_crlf]
  rfl

end VoxelScore.Script
