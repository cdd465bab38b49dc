import Mathlib.Algebra.Group.Nat.Even
import VoxelScore.Script.Token

/-!
# String literals

A literal ends at the first quote of its kind that is not escaped: the backslashes directly in front
of it are even in number, so that they escape one another. Any contents can be written, with a
backslash before every quote of this kind and before every backslash.

## Main definitions

* `IsBody`: contents and what is written for them between the quotes
* `escape`: one way to write contents
* `HasClosingQuote`: a text with a quote that is not escaped

## Main results

* `splitLiteral?_eq_some_iff`: a literal is read as what is written up to the next quote of its kind
* `splitLiteral?_eq_none_iff`: a literal stays open exactly if no closing quote follows
-/

namespace VoxelScore.Script

variable {q c : Char} {t contents body written rest : Text}

/-! ## Reading character by character -/

theorem splitLiteral?_backslash (q c : Char) (r : Text) :
    splitLiteral? q ('\\' :: c :: r) = (splitLiteral? q r).map fun (contents, written, rest) =>
      (c :: contents, '\\' :: c :: written, rest) := rfl

theorem splitLiteral?_quote (hq : q ≠ '\\') (r : Text) :
    splitLiteral? q (q :: r) = some ([], [q], r) := by
  rw [splitLiteral?, if_pos rfl]
  · exact fun he _ => hq he
  · exact fun _ _ he _ => hq he

theorem splitLiteral?_plain (hc : c ≠ '\\') (hq : c ≠ q) (r : Text) :
    splitLiteral? q (c :: r) = (splitLiteral? q r).map fun (contents, written, rest) =>
      (c :: contents, c :: written, rest) := by
  rw [splitLiteral?, if_neg hq]
  · exact fun he _ => hc he
  · exact fun _ _ he _ => hc he

/-! ## Bodies -/

/-- **Contents and what is written for them** between two quotes of a kind. -/
inductive IsBody (quote : Char) : Text → Text → Prop
  | nil : IsBody quote [] []
  | escaped (c : Char) {contents body : Text} (behind : IsBody quote contents body) :
      IsBody quote (c :: contents) ('\\' :: c :: body)
  | plain {c : Char} {contents body : Text} (backslash : c ≠ '\\') (ends : c ≠ quote)
      (behind : IsBody quote contents body) : IsBody quote (c :: contents) (c :: body)

/-- A body is read up to the quote behind it, whatever follows. -/
theorem IsBody.splitLiteral? (h : IsBody q contents body) (hq : q ≠ '\\') (rest : Text) :
    splitLiteral? q (body ++ q :: rest) = some (contents, body ++ [q], rest) := by
  induction h with
  | nil => exact splitLiteral?_quote hq rest
  | escaped c _ ih =>
    rw [List.cons_append, List.cons_append, splitLiteral?_backslash, ih]
    rfl
  | plain hc hcq _ ih =>
    rw [List.cons_append, splitLiteral?_plain hc hcq, ih]
    rfl

theorem isBody_of_splitLiteral? (h : splitLiteral? q t = some (contents, written, rest)) :
    ∃ body, IsBody q contents body ∧ written = body ++ [q] := by
  fun_induction splitLiteral? q t generalizing contents written rest with
  | case1 => cases h
  | case2 => cases h
  | case3 c r ih =>
    obtain ⟨⟨contents', written', rest⟩, hr, he⟩ := Option.map_eq_some_iff.mp h
    cases he
    obtain ⟨body, hbody, rfl⟩ := ih hr
    exact ⟨'\\' :: c :: body, .escaped c hbody, rfl⟩
  | case4 r =>
    cases h
    exact ⟨[], .nil, rfl⟩
  | case5 c r _ hpair hc ih =>
    obtain ⟨⟨contents', written', rest⟩, hr, he⟩ := Option.map_eq_some_iff.mp h
    cases he
    obtain ⟨body, hbody, rfl⟩ := ih hr
    refine ⟨c :: body, .plain ?_ hc hbody, rfl⟩
    -- a backslash would have taken the next character with it
    rintro rfl
    cases r with
    | nil => cases hr
    | cons d r => exact hpair d r rfl rfl

/-- **A literal is read** as the body up to the next quote of its kind that is not escaped. -/
theorem splitLiteral?_eq_some_iff (hq : q ≠ '\\') :
    splitLiteral? q t = some (contents, written, rest) ↔
      ∃ body, IsBody q contents body ∧ written = body ++ [q] ∧ t = body ++ q :: rest := by
  constructor
  · intro h
    obtain ⟨body, hbody, rfl⟩ := isBody_of_splitLiteral? h
    refine ⟨body, hbody, rfl, ?_⟩
    rw [← splitLiteral?_append h, List.append_assoc, List.singleton_append]
  · rintro ⟨body, hbody, rfl, rfl⟩
    exact hbody.splitLiteral? hq rest

/-! ## Writing -/

/-- Contents written with a backslash before every quote of this kind and every backslash. -/
def escape (quote : Char) (contents : Text) : Text :=
  contents.flatMap fun c => if c = quote ∨ c = '\\' then ['\\', c] else [c]

theorem isBody_escape (q : Char) (contents : Text) : IsBody q contents (escape q contents) := by
  induction contents with
  | nil => exact .nil
  | cons c contents ih =>
    rw [escape, List.flatMap_cons]
    split
    · exact .escaped c ih
    · next hc =>
      rw [not_or] at hc
      exact .plain hc.2 hc.1 ih

/-! ## Closing quotes -/

/-- How many backslashes a text ends in. -/
def trailingBackslashes (t : Text) : ℕ := (t.reverse.takeWhile (· = '\\')).length

/-- The text has a quote of this kind that closes a literal: an even number of backslashes stands
directly in front of it. -/
def HasClosingQuote (quote : Char) (t : Text) : Prop :=
  ∃ before after, t = before ++ quote :: after ∧ Even (trailingBackslashes before)

theorem trailingBackslashes_le (t : Text) : trailingBackslashes t ≤ t.length := by
  have h := (List.takeWhile_prefix (l := t.reverse) (fun c => decide (c = '\\'))).length_le
  rwa [List.length_reverse] at h

/-- A character in front counts only if it is a backslash and nothing but backslashes follow. -/
theorem trailingBackslashes_cons (c : Char) (t : Text) :
    trailingBackslashes (c :: t) =
      trailingBackslashes t + if trailingBackslashes t = t.length ∧ c = '\\' then 1 else 0 := by
  unfold trailingBackslashes
  rw [List.reverse_cons, List.takeWhile_append, List.length_reverse]
  split
  · next h => by_cases hc : c = '\\' <;> simp [h, hc]
  · next h => simp [h]

theorem trailingBackslashes_cons_plain (hc : c ≠ '\\') (t : Text) :
    trailingBackslashes (c :: t) = trailingBackslashes t := by
  rw [trailingBackslashes_cons, if_neg fun h => hc h.2, Nat.add_zero]

/-- A backslash and the character that it escapes leave the parity as it is. -/
theorem even_trailingBackslashes_escaped (c : Char) (t : Text) :
    Even (trailingBackslashes ('\\' :: c :: t)) ↔ Even (trailingBackslashes t) := by
  have hle := trailingBackslashes_le t
  rw [trailingBackslashes_cons '\\', trailingBackslashes_cons c, List.length_cons]
  by_cases hall : trailingBackslashes t = t.length ∧ c = '\\'
  · rw [if_pos hall, if_pos ⟨by rw [hall.1], rfl⟩]
    simp [Nat.even_add_one]
  · rw [if_neg hall, if_neg (by omega)]
    rfl

/-- The quote behind a body closes it. -/
theorem IsBody.even_trailingBackslashes (h : IsBody q contents body) :
    Even (trailingBackslashes body) := by
  induction h with
  | nil => exact Nat.even_iff.mpr rfl
  | @escaped c _ body _ ih => exact (even_trailingBackslashes_escaped c body).mpr ih
  | plain hc _ _ ih => rwa [trailingBackslashes_cons_plain hc]

/-- A literal with a closing quote behind it is read. -/
theorem splitLiteral?_ne_none (hq : q ≠ '\\') (h : HasClosingQuote q t) :
    splitLiteral? q t ≠ none := by
  fun_induction splitLiteral? q t with
  | case1 =>
    obtain ⟨before, after, he, -⟩ := h
    simp at he
  | case2 =>
    obtain ⟨before, after, he, -⟩ := h
    cases before with
    | nil => exact absurd (List.cons.inj he).1.symm hq
    | cons c before => simp at he
  | case3 c r ih =>
    -- the closing quote stands behind the escaped character
    obtain ⟨before, after, he, heven⟩ := h
    rcases before with _ | ⟨d, _ | ⟨e, before⟩⟩
    · exact absurd (List.cons.inj he).1.symm hq
    · rw [← (List.cons.inj he).1] at heven
      exact absurd heven (by decide)
    · simp only [List.cons_append, List.cons.injEq] at he
      obtain ⟨rfl, rfl, rfl⟩ := he
      have hr := ih ⟨before, after, rfl, (even_trailingBackslashes_escaped c before).mp heven⟩
      simpa using hr
  | case4 => simp
  | case5 c r hend hpair hc ih =>
    obtain ⟨before, after, he, heven⟩ := h
    cases before with
    | nil => exact absurd (List.cons.inj he).1 hc
    | cons d before =>
      obtain ⟨rfl, rfl⟩ := List.cons.inj he
      have hb : c ≠ '\\' := by
        rintro rfl
        cases before with
        | nil => exact hpair q after rfl rfl
        | cons d before => exact hpair d (before ++ q :: after) rfl rfl
      rw [trailingBackslashes_cons_plain hb] at heven
      simpa using ih ⟨before, after, rfl, heven⟩

/-- **A literal stays open** exactly if no closing quote follows its opening one. -/
theorem splitLiteral?_eq_none_iff (hq : q ≠ '\\') :
    splitLiteral? q t = none ↔ ¬ HasClosingQuote q t := by
  constructor
  · exact fun hn hc => splitLiteral?_ne_none hq hc hn
  · intro hc
    by_contra hn
    obtain ⟨⟨contents, written, rest⟩, hs⟩ := Option.ne_none_iff_exists'.mp hn
    obtain ⟨body, hbody, -, ht⟩ := (splitLiteral?_eq_some_iff hq).mp hs
    exact hc ⟨body, rest, ht, hbody.even_trailingBackslashes⟩

end VoxelScore.Script
