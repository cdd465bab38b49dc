import Mathlib.Data.List.Infix
import VoxelScore.Script.Token

/-!
# Gaps

Between tokens stand blanks and comments, in any mix. A gap in front of a token is closed: every
comment in it has an end of its own. Only behind the last token a comment may run to the end of the
text.

## Main definitions

* `TriviaItem`, `Trivia`: one blank or closed comment, and any mix of them
* `OpenComment`, `LastGap`: a comment without an end, and what may stand behind the last token
* `StopsTrivia`: a text that no gap goes on into

## Main results

* `Trivia.splitTrivia_append`: a mix of blanks and closed comments belongs to the gap as a whole
* `trivia_of_splitTrivia`, `lastGap_of_splitTrivia`: what a gap consists of
-/

namespace VoxelScore.Script

/-- The end of a comment that may hold line breaks. -/
def commentEnd : Text := ['*', '/']

/-- One blank or one closed comment. -/
inductive TriviaItem : Text → Prop
  | blank {c : Char} (blank : Text.isBlank c) : TriviaItem [c]
  | lineComment {w : Text} (within : '\n' ∉ w) : TriviaItem ('/' :: '/' :: (w ++ ['\n']))
  | blockComment {w : Text} (within : ¬ commentEnd <:+: w) :
      TriviaItem ('/' :: '*' :: (w ++ commentEnd))

/-- **What stands between tokens**: any mix of blanks and closed comments. -/
inductive Trivia : Text → Prop
  | nil : Trivia []
  | cons {g t : Text} (item : TriviaItem g) (behind : Trivia t) : Trivia (g ++ t)

/-- A comment that runs to the end of the text. -/
inductive OpenComment : Text → Prop
  | line {w : Text} (within : '\n' ∉ w) : OpenComment ('/' :: '/' :: w)
  | block {w : Text} (within : ¬ commentEnd <:+: w) : OpenComment ('/' :: '*' :: w)

/-- What stands behind the last token. -/
inductive LastGap : Text → Prop
  | closed {g : Text} (trivia : Trivia g) : LastGap g
  | opened {g w : Text} (trivia : Trivia g) (comment : OpenComment w) : LastGap (g ++ w)

/-- The text is empty or starts neither with a blank nor with a comment. -/
structure StopsTrivia (t : Text) : Prop where
  blank : ∀ c ∈ t.head?, Text.isBlank c = false
  lineComment : ¬ ['/', '/'] <+: t
  blockComment : ¬ ['/', '*'] <+: t

variable {c : Char} {g r t w : Text}

/-! ## Texts that start no gap -/

theorem stopsTrivia_nil : StopsTrivia [] where
  blank := by simp
  lineComment := by simp
  blockComment := by simp

theorem stopsTrivia_cons (hb : Text.isBlank c = false) (hc : c ≠ '/') : StopsTrivia (c :: t) where
  blank := by simpa using hb
  lineComment := by
    rw [List.cons_prefix_cons]
    exact fun h => hc h.1.symm
  blockComment := by
    rw [List.cons_prefix_cons]
    exact fun h => hc h.1.symm

/-- A beginning of such a text is another one. -/
theorem StopsTrivia.of_append (h : StopsTrivia t) (hp : g <+: t) : StopsTrivia g where
  blank := by
    intro c hc
    obtain ⟨r, rfl⟩ := hp
    refine h.blank c ?_
    rw [List.head?_append, hc]
    rfl
  lineComment := fun hg => h.lineComment (hg.trans hp)
  blockComment := fun hg => h.blockComment (hg.trans hp)

/-! ## Reading character by character -/

theorem splitTrivia_cons (hl : ¬ ['/', '/'] <+: c :: r) (hk : ¬ ['/', '*'] <+: c :: r) :
    splitTrivia (c :: r) =
      if Text.isBlank c then (c :: (splitTrivia r).1, (splitTrivia r).2) else ([], c :: r) := by
  conv_lhs => unfold splitTrivia splitTriviaIn
  split
  · next he => simp [he] at hl
  · next he => simp [he] at hk
  · next he => cases he; rfl
  all_goals simp_all

theorem splitTrivia_lineComment (r : Text) :
    splitTrivia ('/' :: '/' :: r) =
      ('/' :: '/' :: (splitTriviaIn .lineComment r).1, (splitTriviaIn .lineComment r).2) := rfl

theorem splitTrivia_blockComment (r : Text) :
    splitTrivia ('/' :: '*' :: r) =
      ('/' :: '*' :: (splitTriviaIn .blockComment r).1, (splitTriviaIn .blockComment r).2) := rfl

theorem splitTriviaIn_lineComment_cons (c : Char) (r : Text) :
    splitTriviaIn .lineComment (c :: r) =
      (c :: (splitTriviaIn (if c = '\n' then .code else .lineComment) r).1,
        (splitTriviaIn (if c = '\n' then .code else .lineComment) r).2) := rfl

theorem splitTriviaIn_blockComment_cons (hc : ¬ commentEnd <+: c :: r) :
    splitTriviaIn .blockComment (c :: r) =
      (c :: (splitTriviaIn .blockComment r).1, (splitTriviaIn .blockComment r).2) := by
  conv_lhs => unfold splitTriviaIn
  split
  all_goals simp_all [commentEnd]

theorem StopsTrivia.splitTrivia (h : StopsTrivia t) : splitTrivia t = ([], t) := by
  cases t with
  | nil => rfl
  | cons c r =>
    rw [splitTrivia_cons h.lineComment h.blockComment,
      if_neg (Bool.eq_false_iff.mp (h.blank c rfl))]

/-! ## Inside comments -/

/-- A reader in a comment to the end of its line leaves it behind the line break. -/
theorem splitTriviaIn_lineComment (hw : '\n' ∉ w) (t : Text) :
    splitTriviaIn .lineComment (w ++ '\n' :: t) =
      (w ++ '\n' :: (splitTrivia t).1, (splitTrivia t).2) := by
  induction w with
  | nil => rfl
  | cons d w ih =>
    have hd : d ≠ '\n' := fun he => hw (he ▸ List.mem_cons_self)
    have hr : '\n' ∉ w := fun hm => hw (List.mem_cons_of_mem _ hm)
    rw [List.cons_append, splitTriviaIn_lineComment_cons, if_neg hd, ih hr]
    rfl

theorem splitTriviaIn_lineComment_open (hw : '\n' ∉ w) :
    splitTriviaIn .lineComment w = (w, []) := by
  induction w with
  | nil => rfl
  | cons d w ih =>
    have hd : d ≠ '\n' := fun he => hw (he ▸ List.mem_cons_self)
    have hr : '\n' ∉ w := fun hm => hw (List.mem_cons_of_mem _ hm)
    rw [splitTriviaIn_lineComment_cons, if_neg hd, ih hr]

/-- A reader in a comment that may hold line breaks leaves it behind its end. -/
theorem splitTriviaIn_blockComment (hw : ¬ commentEnd <:+: w) (t : Text) :
    splitTriviaIn .blockComment (w ++ (commentEnd ++ t)) =
      (w ++ (commentEnd ++ (splitTrivia t).1), (splitTrivia t).2) := by
  induction w with
  | nil => rfl
  | cons d w ih =>
    rw [List.infix_cons_iff, not_or] at hw
    have hp : ¬ commentEnd <+: d :: (w ++ (commentEnd ++ t)) := by
      -- the end of the comment does not start with its slash
      cases w with
      | nil => simp [commentEnd]
      | cons e w => simpa [commentEnd] using hw.1
    rw [List.cons_append, splitTriviaIn_blockComment_cons hp, ih hw.2]
    rfl

theorem splitTriviaIn_blockComment_open (hw : ¬ commentEnd <:+: w) :
    splitTriviaIn .blockComment w = (w, []) := by
  induction w with
  | nil => rfl
  | cons d w ih =>
    rw [List.infix_cons_iff, not_or] at hw
    rw [splitTriviaIn_blockComment_cons hw.1, ih hw.2]

/-! ## Gaps from their parts -/

/-- One blank or closed comment in front of a text belongs to the gap of the text. -/
theorem TriviaItem.splitTrivia_append (h : TriviaItem g) (t : Text) :
    splitTrivia (g ++ t) = (g ++ (splitTrivia t).1, (splitTrivia t).2) := by
  cases h with
  | @blank c hb =>
    have hc : c ≠ '/' := by
      rintro rfl
      exact absurd hb (by decide)
    -- a blank is no slash, so that no comment starts here
    have hslash : ∀ d, ¬ ['/', d] <+: c :: t := by
      intro d hp
      exact hc (List.cons_prefix_cons.mp hp).1.symm
    rw [List.singleton_append, splitTrivia_cons (hslash '/') (hslash '*'), if_pos hb]
    rfl
  | @lineComment w hw =>
    have hin := splitTriviaIn_lineComment hw t
    rw [List.cons_append, List.cons_append, List.append_assoc, List.singleton_append,
      splitTrivia_lineComment, hin]
    simp
  | @blockComment w hw =>
    have hin := splitTriviaIn_blockComment hw t
    rw [List.cons_append, List.cons_append, List.append_assoc, splitTrivia_blockComment, hin]
    simp

theorem OpenComment.splitTrivia (h : OpenComment w) : splitTrivia w = (w, []) := by
  cases h with
  | line hw => rw [splitTrivia_lineComment, splitTriviaIn_lineComment_open hw]
  | block hw => rw [splitTrivia_blockComment, splitTriviaIn_blockComment_open hw]

/-- **A mix of blanks and closed comments** in front of a text belongs to the gap of the text. -/
theorem Trivia.splitTrivia_append (h : Trivia g) (t : Text) :
    splitTrivia (g ++ t) = (g ++ (splitTrivia t).1, (splitTrivia t).2) := by
  induction h with
  | nil => simp
  | cons item _ ih => rw [List.append_assoc, item.splitTrivia_append, ih, List.append_assoc]

theorem Trivia.splitTrivia_of_stops (h : Trivia g) (ht : StopsTrivia t) :
    splitTrivia (g ++ t) = (g, t) := by
  rw [h.splitTrivia_append, ht.splitTrivia, List.append_nil]

theorem LastGap.splitTrivia (h : LastGap g) : splitTrivia g = (g, []) := by
  cases h with
  | closed trivia => simpa using trivia.splitTrivia_of_stops stopsTrivia_nil
  | opened trivia comment => rw [trivia.splitTrivia_append, comment.splitTrivia]

/-! ## The parts of a gap -/

/-- A text with an end of a comment in it has a first one. -/
theorem exists_first_commentEnd (h : commentEnd <:+: t) :
    ∃ w r, t = w ++ (commentEnd ++ r) ∧ ¬ commentEnd <:+: w := by
  induction t with
  | nil => simp [commentEnd] at h
  | cons c t ih =>
    by_cases hp : commentEnd <+: c :: t
    · obtain ⟨r, hr⟩ := hp
      exact ⟨[], r, hr.symm, by simp [commentEnd]⟩
    · obtain ⟨w, r, rfl, hw⟩ := ih ((List.infix_cons_iff.mp h).resolve_left hp)
      refine ⟨c :: w, r, rfl, ?_⟩
      rw [List.infix_cons_iff]
      rintro (hc | hc)
      · exact hp (hc.trans ⟨commentEnd ++ r, rfl⟩)
      · exact hw hc

/-- Every text starts with a blank or closed comment, is a comment that stays open, or starts
nothing of the kind. -/
theorem trivia_cases (t : Text) :
    StopsTrivia t ∨ OpenComment t ∨ ∃ g r, TriviaItem g ∧ t = g ++ r := by
  by_cases hl : ['/', '/'] <+: t
  · obtain ⟨w, rfl⟩ := hl
    -- a line comment ends at its first line break, or stays open without one
    by_cases hn : '\n' ∈ w
    · obtain ⟨v, r, rfl, hv⟩ := List.eq_append_cons_of_mem hn
      exact .inr (.inr ⟨_, r, .lineComment hv, by simp⟩)
    · exact .inr (.inl (.line hn))
  by_cases hk : ['/', '*'] <+: t
  · obtain ⟨w, rfl⟩ := hk
    by_cases he : commentEnd <:+: w
    · obtain ⟨v, r, rfl, hv⟩ := exists_first_commentEnd he
      exact .inr (.inr ⟨_, r, .blockComment hv, by simp⟩)
    · exact .inr (.inl (.block he))
  cases t with
  | nil => exact .inl stopsTrivia_nil
  | cons c t =>
    by_cases hb : Text.isBlank c
    · exact .inr (.inr ⟨[c], t, .blank hb, rfl⟩)
    · refine .inl ⟨?_, hl, hk⟩
      simpa using hb

theorem TriviaItem.ne_nil (h : TriviaItem g) : g ≠ [] := by
  cases h <;> simp

theorem LastGap.cons (item : TriviaItem g) (h : LastGap t) : LastGap (g ++ t) := by
  cases h with
  | closed trivia => exact .closed (.cons item trivia)
  | opened trivia comment =>
    rw [← List.append_assoc]
    exact .opened (.cons item trivia) comment

/-- **The parts of a gap.** Either blanks and closed comments stand in front of a text that starts
no gap, or the whole text is what may stand behind a last token. -/
theorem splitTrivia_parts (t : Text) :
    Trivia (splitTrivia t).1 ∧ StopsTrivia (splitTrivia t).2 ∨
      LastGap (splitTrivia t).1 ∧ (splitTrivia t).2 = [] := by
  -- an item may have any length, so the induction is on that of the text
  induction hn : t.length using Nat.strong_induction_on generalizing t with
  | _ n ih =>
    rcases trivia_cases t with ht | ht | ⟨g, r, hg, rfl⟩
    · rw [ht.splitTrivia]
      exact .inl ⟨.nil, ht⟩
    · rw [ht.splitTrivia]
      exact .inr ⟨.opened .nil ht, rfl⟩
    -- an item has a character, so that what is behind it is shorter
    · have hlt : r.length < n := by
        have := List.length_pos_of_ne_nil hg.ne_nil
        rw [List.length_append] at hn
        omega
      rw [hg.splitTrivia_append]
      rcases ih _ hlt r rfl with ⟨trivia, stops⟩ | ⟨last, done⟩
      · exact .inl ⟨.cons hg trivia, stops⟩
      · exact .inr ⟨last.cons hg, done⟩

theorem trivia_of_splitTrivia (h : splitTrivia t = (g, c :: r)) :
    Trivia g ∧ StopsTrivia (c :: r) := by
  have hp := splitTrivia_parts t
  rw [h] at hp
  exact hp.resolve_right fun hl => List.cons_ne_nil c r hl.2

/-- A text is such a mix if reading the gap takes all of it, whatever starts no gap behind it. -/
theorem trivia_iff : Trivia g ↔ splitTrivia (g ++ ['.']) = (g, ['.']) := by
  constructor
  · exact fun h => h.splitTrivia_of_stops (stopsTrivia_cons (by decide) (by decide))
  · exact fun h => (trivia_of_splitTrivia h).1

instance : Decidable (Trivia g) := decidable_of_iff _ trivia_iff.symm

theorem lastGap_of_splitTrivia (h : splitTrivia t = (g, [])) : LastGap g := by
  have hp := splitTrivia_parts t
  rw [h] at hp
  exact hp.elim (fun ht => .closed ht.1) (·.1)

end VoxelScore.Script
