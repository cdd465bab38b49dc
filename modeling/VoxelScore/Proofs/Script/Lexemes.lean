import VoxelScore.Proofs.Script.Literals
import VoxelScore.Proofs.Text.Words

/-!
# The characters of tokens

The first character of a token decides of which class it is, and with that how far it reaches. What
is read as a token is the same token with nothing behind it.

## Main results

* `token?_classes`: the four classes of tokens by their first characters
* `token?_alone`: a token does not depend on the text behind it
* `token?_eq_none`: only a literal that stays open is no token
-/

namespace VoxelScore.Script

variable {c : Char} {r t written rest : Text} {token : Token}

/-! ## Classes -/

/-- Parentheses, dots and commas are tokens of their own. -/
def isMark (c : Char) : Bool := c = '(' || c = ')' || c = '.' || c = ','

/-- Any other character starts a literal, a number or a name, or is a symbol. -/
theorem token?_of_not_mark (h : ¬ isMark c) (r : Text) :
    token? c r =
      if isQuote c then (splitLiteral? c r).map fun (contents, written, rest) =>
        (.literal contents, written, rest)
      else if c.isDigit then
        some (.number (c :: (splitNumber r).1), (splitNumber r).1, (splitNumber r).2)
      else if isNameStart c then
        some (.name (c :: r.takeWhile isNameChar), r.takeWhile isNameChar, r.dropWhile isNameChar)
      else some (.symbol c, [], r) := by
  simp only [isMark, Bool.or_eq_true, decide_eq_true_eq, not_or] at h
  obtain ⟨⟨⟨h₁, h₂⟩, h₃⟩, h₄⟩ := h
  rw [token?, if_neg h₁, if_neg h₂, if_neg h₃, if_neg h₄]

theorem token?_of_mark (h : isMark c) : ∃ token, ∀ r, token? c r = some (token, [], r) := by
  simp only [isMark, Bool.or_eq_true, decide_eq_true_eq] at h
  rcases h with ((rfl | rfl) | rfl) | rfl
  · exact ⟨.openParen, fun _ => rfl⟩
  · exact ⟨.closeParen, fun _ => rfl⟩
  · exact ⟨.dot, fun _ => rfl⟩
  · exact ⟨.comma, fun _ => rfl⟩

/-- **The first character of a token decides its class**: a character that is a token on its own, a
quote, a digit or the start of a name. -/
theorem token?_classes (c : Char) :
    (∃ token, ∀ r, token? c r = some (token, [], r)) ∨
    (isQuote c ∧ ∀ r, token? c r = (splitLiteral? c r).map fun (contents, written, rest) =>
      (.literal contents, written, rest)) ∨
    (∀ r, token? c r = some (.number (c :: (splitNumber r).1), (splitNumber r).1, (splitNumber r).2)) ∨
    ∀ r, token? c r =
      some (.name (c :: r.takeWhile isNameChar), r.takeWhile isNameChar, r.dropWhile isNameChar) := by
  by_cases hmark : isMark c
  · exact .inl (token?_of_mark hmark)
  by_cases hquote : isQuote c
  · exact .inr (.inl ⟨hquote, fun r => by rw [token?_of_not_mark hmark, if_pos hquote]⟩)
  by_cases hdigit : c.isDigit
  · refine .inr (.inr (.inl fun r => ?_))
    rw [token?_of_not_mark hmark, if_neg hquote, if_pos hdigit]
  by_cases hname : isNameStart c
  · refine .inr (.inr (.inr fun r => ?_))
    rw [token?_of_not_mark hmark, if_neg hquote, if_neg hdigit, if_pos hname]
  · refine .inl ⟨.symbol c, fun r => ?_⟩
    rw [token?_of_not_mark hmark, if_neg hquote, if_neg hdigit, if_neg hname]

/-! ## Numbers -/

/-- A point belongs to a number if a digit stands behind it. -/
theorem splitNumber_of_point {d : Char} (h : t.dropWhile Char.isDigit = '.' :: d :: r)
    (hd : d.isDigit) : splitNumber t =
      (t.takeWhile Char.isDigit ++ '.' :: d :: r.takeWhile Char.isDigit, r.dropWhile Char.isDigit) := by
  unfold splitNumber
  rw [h]
  exact if_pos hd

theorem splitNumber_of_no_point (h : ∀ d, d.isDigit → ¬ ['.', d] <+: t.dropWhile Char.isDigit) :
    splitNumber t = (t.takeWhile Char.isDigit, t.dropWhile Char.isDigit) := by
  unfold splitNumber
  split
  · next d r hr =>
    have hd : ¬ d.isDigit := by
      intro hd
      exact h d hd ⟨r, hr.symm⟩
    rw [if_neg hd, hr]
  · rfl

/-! ## Tokens on their own -/

theorem splitNumber_alone (t : Text) :
    splitNumber (splitNumber t).1 = ((splitNumber t).1, []) := by
  have hdigits : ∀ s : Text, ∀ c ∈ s.takeWhile Char.isDigit, Char.isDigit c := by
    intro s c hc
    exact List.mem_takeWhile_imp hc
  have hdrop : ∀ s : Text, (s.takeWhile Char.isDigit).dropWhile Char.isDigit = [] := by
    intro s
    exact List.dropWhile_eq_nil_iff.mpr (hdigits s)
  have htake : ∀ s : Text, (s.takeWhile Char.isDigit).takeWhile Char.isDigit =
      s.takeWhile Char.isDigit := by
    intro s
    exact List.takeWhile_eq_self_iff.mpr (hdigits s)
  -- digits alone are read up to their end
  have hplain : ∀ s : Text, splitNumber (s.takeWhile Char.isDigit) =
      (s.takeWhile Char.isDigit, []) := by
    intro s
    unfold splitNumber
    rw [hdrop, htake]
  conv_lhs => rw [splitNumber.eq_def t]
  conv_rhs => rw [splitNumber.eq_def t]
  split
  · next d r hr =>
    split
    · next hd =>
      -- a point with a digit behind it: the cut is at the same point again
      have hpoint : Text.StopsRun Char.isDigit ('.' :: d :: r.takeWhile Char.isDigit) :=
        Text.stopsRun_cons (by decide)
      unfold splitNumber
      rw [Text.dropWhile_run_append (hdigits t) hpoint, Text.takeWhile_run_append (hdigits t) hpoint]
      simp only [if_pos hd, htake, hdrop]
    · exact hplain t
  · exact hplain t

theorem ne_backslash_of_isQuote (h : isQuote c) : c ≠ '\\' := by
  rintro rfl
  exact absurd h (by decide)

/-- A token is the same one with nothing behind it. -/
theorem token?_alone (h : token? c r = some (token, written, rest)) :
    token? c written = some (token, written, []) := by
  rcases token?_classes c with ⟨token', hc⟩ | ⟨hq, hc⟩ | hc | hc
  · rw [hc] at h ⊢
    cases h
    rfl
  -- what is written is a body and its quote, which is read with anything behind it
  · have hb := ne_backslash_of_isQuote hq
    rw [hc] at h
    obtain ⟨⟨contents, written', rest'⟩, hr, he⟩ := Option.map_eq_some_iff.mp h
    cases he
    obtain ⟨body, hbody, rfl, -⟩ := (splitLiteral?_eq_some_iff hb).mp hr
    rw [hc, hbody.splitLiteral? hb []]
    rfl
  · rw [hc] at h
    cases h
    rw [hc, splitNumber_alone]
  · rw [hc] at h
    cases h
    -- a name is the longest run of its characters, and that run has no more of them
    have hall : ∀ d ∈ r.takeWhile isNameChar, isNameChar d := fun d => List.mem_takeWhile_imp
    rw [hc, List.takeWhile_eq_self_iff.mpr hall, List.dropWhile_eq_nil_iff.mpr hall]

/-- Only a literal that stays open is no token. -/
theorem token?_eq_none (h : token? c r = none) : isQuote c ∧ ¬ HasClosingQuote c r := by
  rcases token?_classes c with ⟨token', hc⟩ | ⟨hq, hc⟩ | hc | hc
  · rw [hc] at h
    cases h
  · rw [hc, Option.map_eq_none_iff, splitLiteral?_eq_none_iff (ne_backslash_of_isQuote hq)] at h
    exact ⟨hq, h⟩
  · rw [hc] at h
    cases h
  · rw [hc] at h
    cases h

end VoxelScore.Script
