import Mathlib.Data.List.TakeWhile
import VoxelScore.Text.Blank

/-!
# Runs and words

Scanners cut a text where a run of characters of one class stops. What stands behind such a place
does not change the run in front of it. The words of a text are its runs of characters that are not
blank; squeezing keeps them and puts one space between neighbours.

## Main definitions

* `StopsRun`: a text that no run of a class goes on into
* `IsSolid`, `IsVisible`: texts without blanks, and texts of visible ASCII characters

## Main results

* `takeWhile_append_of_stops`, `dropWhile_append_of_stops`: runs before such a text
* `separator_induction`: induction on the characters of a class in a text
* `words_append_blank`: a blank separates words
* `words_intercalate`, `infix_of_squeeze`: the words of squeezed texts, and the parts of words
-/

namespace VoxelScore.Text

variable {p : Char → Bool} {s t v w : Text} {ws : List Text} {c : Char}

/-! ## Runs -/

/-- The text is empty or starts with a character outside of the class. -/
def StopsRun (p : Char → Bool) (t : Text) : Prop := ∀ c ∈ t.head?, p c = false

theorem stopsRun_nil : StopsRun p [] := by
  intro c hc
  cases hc

theorem stopsRun_cons (h : p c = false) : StopsRun p (c :: t) := by
  intro d hd
  cases hd
  exact h

theorem StopsRun.append (hs : StopsRun p s) (ht : StopsRun p t) : StopsRun p (s ++ t) := by
  cases s with
  | nil => exact ht
  | cons c s => exact stopsRun_cons (hs c rfl)

theorem StopsRun.of_append (h : StopsRun p (s ++ t)) : StopsRun p s := by
  cases s with
  | nil => exact stopsRun_nil
  | cons c s => exact stopsRun_cons (h c rfl)

theorem StopsRun.mono {q : Char → Bool} (h : StopsRun p t) (hq : ∀ c, q c → p c) :
    StopsRun q t := by
  intro c hc
  have hp := h c hc
  by_contra hqc
  rw [hq c (by simpa using hqc)] at hp
  cases hp

theorem StopsRun.takeWhile (h : StopsRun p t) : t.takeWhile p = [] := by
  cases t with
  | nil => rfl
  | cons c t => rw [List.takeWhile_cons_of_neg (by rw [h c rfl]; exact Bool.false_ne_true)]

theorem StopsRun.dropWhile (h : StopsRun p t) : t.dropWhile p = t := by
  cases t with
  | nil => rfl
  | cons c t => rw [List.dropWhile_cons_of_neg (by rw [h c rfl]; exact Bool.false_ne_true)]

/-- A run is as long as it can be. -/
theorem stopsRun_dropWhile (p : Char → Bool) (t : Text) : StopsRun p (t.dropWhile p) := by
  intro c hc
  have h := List.head?_dropWhile_not p t
  rwa [Option.mem_def.mp hc] at h

/-- A run does not go on into a text that stops it. -/
theorem takeWhile_append_of_stops (s : Text) (h : StopsRun p t) :
    (s ++ t).takeWhile p = s.takeWhile p := by
  induction s with
  | nil => exact h.takeWhile
  | cons c s ih =>
    by_cases hc : p c
    · rw [List.cons_append, List.takeWhile_cons_of_pos hc, ih, List.takeWhile_cons_of_pos hc]
    · rw [List.cons_append, List.takeWhile_cons_of_neg hc, List.takeWhile_cons_of_neg hc]

theorem dropWhile_append_of_stops (s : Text) (h : StopsRun p t) :
    (s ++ t).dropWhile p = s.dropWhile p ++ t := by
  induction s with
  | nil => exact h.dropWhile
  | cons c s ih =>
    by_cases hc : p c
    · rw [List.cons_append, List.dropWhile_cons_of_pos hc, ih, List.dropWhile_cons_of_pos hc]
    · rw [List.cons_append, List.dropWhile_cons_of_neg hc, List.dropWhile_cons_of_neg hc]
      rfl

theorem takeWhile_run_append (hs : ∀ c ∈ s, p c) (h : StopsRun p t) :
    (s ++ t).takeWhile p = s := by
  rw [takeWhile_append_of_stops s h, List.takeWhile_eq_self_iff.mpr hs]

theorem dropWhile_run_append (hs : ∀ c ∈ s, p c) (h : StopsRun p t) :
    (s ++ t).dropWhile p = t := by
  rw [dropWhile_append_of_stops s h, List.dropWhile_eq_nil_iff.mpr hs, List.nil_append]

/-- **Induction on separators.** Every text is a text without characters of a class, or such a text,
a character of the class and another text. -/
theorem separator_induction {P : Text → Prop} (p : Char → Bool)
    (last : ∀ w, (∀ c ∈ w, p c = false) → P w)
    (separator : ∀ w c t, (∀ d ∈ w, p d = false) → p c → P t → P (w ++ c :: t)) (t : Text) :
    P t := by
  -- What has been passed over without a separator stands in front.
  suffices h : ∀ w, (∀ c ∈ w, p c = false) → P (w ++ t) from h [] (fun c hc => nomatch hc)
  induction t with
  | nil =>
    intro w hw
    rw [List.append_nil]
    exact last w hw
  | cons c t ih =>
    intro w hw
    by_cases hc : p c
    · exact separator w c t hw hc (ih [] fun d hd => nomatch hd)
    · rw [List.append_cons]
      refine ih (w ++ [c]) ?_
      intro d hd
      rcases List.mem_append.mp hd with hd | hd
      · exact hw d hd
      · rw [List.mem_singleton.mp hd]
        exact Bool.eq_false_iff.mpr hc

/-! ## Words -/

/-- A text without blanks. -/
def IsSolid (w : Text) : Prop := ∀ c ∈ w, isBlank c = false

/-- A text of visible ASCII characters. -/
def IsVisible (t : Text) : Prop := ∀ c ∈ t, 0x20 < c.toNat ∧ c.toNat < 0x7F

instance : Decidable (IsVisible t) :=
  decidable_of_iff (t.all fun c => 0x20 < c.toNat ∧ c.toNat < 0x7F) (by simp [IsVisible])

theorem IsVisible.append (hs : IsVisible s) (ht : IsVisible t) : IsVisible (s ++ t) := by
  intro c hc
  rcases List.mem_append.mp hc with hc | hc
  · exact hs c hc
  · exact ht c hc

theorem IsVisible.isSolid (h : IsVisible t) : IsSolid t := by
  intro c hc
  obtain ⟨hl, hh⟩ := h c hc
  rw [isBlank, Bool.eq_false_iff]
  simp only [ne_eq, Bool.or_eq_true, Bool.and_eq_true, decide_eq_true_eq]
  omega

theorem words_of_solid (hw : IsSolid w) (hne : w ≠ []) : words w = [w] := by
  unfold words
  rw [List.splitOnP_eq_singleton hw]
  simp [hne]

/-- A blank separates the words in front of it from those behind it. -/
theorem words_append_blank (s t : Text) (hc : isBlank c) :
    words (s ++ c :: t) = words s ++ words t := by
  unfold words
  rw [List.splitOnP_append_cons s t hc, List.filter_append]

theorem squeeze_of_solid (hw : IsSolid w) : squeeze w = w := by
  rcases eq_or_ne w [] with rfl | hne
  · rfl
  · rw [squeeze, words_of_solid hw hne, List.intercalate_singleton]

theorem squeeze_cons_blank (t : Text) (hc : isBlank c) : squeeze (c :: t) = squeeze t := by
  have h := words_append_blank [] t hc
  rw [List.nil_append] at h
  rw [squeeze, h]
  rfl

/-- Behind a word and a blank, one space stands before the next word, if there is one. -/
theorem squeeze_word_append (hw : IsSolid w) (hne : w ≠ []) (t : Text) (hc : isBlank c) :
    squeeze (w ++ c :: t) = w ++ if words t = [] then [] else ' ' :: squeeze t := by
  rw [squeeze, words_append_blank w t hc, words_of_solid hw hne, List.singleton_append]
  split
  · next ht => rw [ht, List.intercalate_singleton, List.append_nil]
  · next ht =>
    rw [List.intercalate_cons_of_ne_nil ht, List.append_assoc]
    rfl

/-! ## Squeezed texts -/

theorem eq_of_mem_words_of_solid (hv : IsSolid v) (h : w ∈ words v) : w = v ∧ v ≠ [] := by
  rcases eq_or_ne v [] with rfl | hne
  · cases h
  · rw [words_of_solid hv hne, List.mem_singleton] at h
    exact ⟨h, hne⟩

/-- The words of a text are not empty and have no blanks. -/
theorem solid_of_mem_words (h : w ∈ words t) : w ≠ [] ∧ IsSolid w := by
  induction t using separator_induction isBlank with
  | last v hv =>
    obtain ⟨rfl, hne⟩ := eq_of_mem_words_of_solid hv h
    exact ⟨hne, hv⟩
  | separator v c t hv hc ih =>
    rw [words_append_blank v t hc, List.mem_append] at h
    rcases h with h | h
    · obtain ⟨rfl, hne⟩ := eq_of_mem_words_of_solid hv h
      exact ⟨hne, hv⟩
    · exact ih h

/-- Words with one space between neighbours are read back. -/
theorem words_intercalate (h : ∀ w ∈ ws, w ≠ [] ∧ IsSolid w) :
    words ([' '].intercalate ws) = ws := by
  induction ws with
  | nil => rfl
  | cons w ws ih =>
    obtain ⟨⟨hne, hw⟩, hws⟩ := List.forall_mem_cons.mp h
    rcases eq_or_ne ws [] with rfl | hnil
    · rw [List.intercalate_singleton, words_of_solid hw hne]
    · rw [List.intercalate_cons_of_ne_nil hnil, List.append_assoc, List.singleton_append,
        words_append_blank w _ rfl, words_of_solid hw hne, ih hws, List.singleton_append]

theorem eq_nil_of_prefix_cons (hc : c ∉ v) (h : v <+: c :: t) : v = [] := by
  cases v with
  | nil => rfl
  | cons d v =>
    rw [(List.cons_prefix_cons.mp h).1] at hc
    exact absurd List.mem_cons_self hc

/-- A part of a text that lacks a character stands in front of the character or behind it. -/
theorem infix_of_append_cons (hc : c ∉ v) (h : v <:+: s ++ c :: t) : v <:+: s ∨ v <:+: t := by
  rcases List.infix_append_iff.mp h with h | h | ⟨front, back, rfl, hfront, hback⟩
  · exact Or.inl h
  · rcases List.infix_cons_iff.mp h with h | h
    · rw [eq_nil_of_prefix_cons hc h]
      exact Or.inl List.nil_infix
    · exact Or.inr h
  · rw [List.mem_append, not_or] at hc
    rw [eq_nil_of_prefix_cons hc.2 hback, List.append_nil]
    exact Or.inl hfront.isInfix

/-- The only blanks of a squeezed text are spaces. -/
theorem eq_space_of_mem_squeeze (h : c ∈ squeeze t) (hc : isBlank c) : c = ' ' := by
  induction t using separator_induction isBlank with
  | last w hw =>
    rw [squeeze_of_solid hw] at h
    rw [hw c h] at hc
    cases hc
  | separator w d t hw hd ih =>
    rcases eq_or_ne w [] with rfl | hne
    · rw [List.nil_append, squeeze_cons_blank t hd] at h
      exact ih h
    · rw [squeeze_word_append hw hne t hd, List.mem_append] at h
      rcases h with h | h
      · rw [hw c h] at hc
        cases hc
      · split at h
        · cases h
        · exact (List.mem_cons.mp h).elim id ih

/-- What stands in a squeezed text and has no blanks, stands in the text itself. -/
theorem infix_of_squeeze (hv : IsSolid v) (h : v <:+: squeeze t) : v <:+: t := by
  induction t using separator_induction isBlank with
  | last w hw => rwa [squeeze_of_solid hw] at h
  | separator w c t hw hc ih =>
    rcases eq_or_ne w [] with rfl | hne
    · rw [List.nil_append, squeeze_cons_blank t hc] at h
      exact List.infix_cons (ih h)
    · have hspace : ' ' ∉ v := fun hm => Bool.false_ne_true (hv ' ' hm).symm
      have front : v <:+: w → v <:+: w ++ c :: t := fun h => h.trans List.infix_append_left
      rw [squeeze_word_append hw hne t hc] at h
      split at h
      · rw [List.append_nil] at h
        exact front h
      · rcases infix_of_append_cons hspace h with h | h
        · exact front h
        · exact (List.infix_cons (ih h)).trans List.infix_append_right

end VoxelScore.Text
