import Mathlib.Data.List.DropRight
import Mathlib.Data.List.TakeWhile
import VoxelScore.Proofs.Text.Words

/-!
# Trimming joined texts

Blanks at the ends of a text do not count when it is trimmed, wherever they come from. Trimming
takes nothing else away.

## Main definitions

* `IsBlankText`: a text of blanks only
* `IsTrimmed`: a text that neither starts nor ends with a blank
* `IsPadded`: such a text with blanks at its ends

## Main results

* `trim_append_of_blank`, `trim_blank_append`: trimming forgets blanks at the ends of a text
* `exists_trim`: what trimming leaves, with blanks at both ends, is the text
* `trim_trim`, `trim_of_isTrimmed`, `trim_eq_nil_iff`: texts that trimming leaves as they are, and
  those that it leaves nothing of
* `isTrimmed_trim`: no blank is left at either end
* `trim_eq_iff`: what is left of a text
-/

namespace VoxelScore.Text

/-- A text without any character that is not blank. -/
def IsBlankText (t : Text) : Prop := ∀ c ∈ t, isBlank c

instance (t : Text) : Decidable (IsBlankText t) :=
  decidable_of_iff (t.all isBlank = true) List.all_eq_true

variable {s t : Text}

theorem IsBlankText.cons {c : Char} (hc : isBlank c) (ht : IsBlankText t) :
    IsBlankText (c :: t) := by
  intro d hd
  rcases List.mem_cons.mp hd with rfl | hd
  · exact hc
  · exact ht d hd

theorem IsBlankText.append (hs : IsBlankText s) (ht : IsBlankText t) : IsBlankText (s ++ t) := by
  intro c hc
  rcases List.mem_append.mp hc with hc | hc
  · exact hs c hc
  · exact ht c hc

theorem dropEndWhile_append_of_all {p : Char → Bool} (ht : ∀ c ∈ t, p c) :
    (s ++ t).dropEndWhile p = s.dropEndWhile p := by
  have hr : ∀ c ∈ t.reverse, p c := fun c hc => ht c (List.mem_reverse.mp hc)
  unfold dropEndWhile
  rw [List.reverse_append, List.dropWhile_append_of_pos hr]

/-- **Blanks behind a text do not survive trimming.** -/
theorem trim_append_of_blank (ht : IsBlankText t) : trim (s ++ t) = trim s := by
  unfold trim trimStart
  rw [List.dropWhile_append]
  split
  · -- `s` is blank itself, so that nothing is left of either text
    next hs =>
      have he : s.dropWhile isBlank = [] := List.isEmpty_iff.mp hs
      rw [he, List.dropWhile_eq_nil_iff.mpr ht]
  · exact dropEndWhile_append_of_all ht

theorem trim_blank_append (hs : IsBlankText s) (t : Text) : trim (s ++ t) = trim t := by
  unfold trim trimStart
  rw [List.dropWhile_append_of_pos hs]

/-- **Trimming takes away blanks only**: what it leaves, with blanks at both ends, is the text. -/
theorem exists_trim (t : Text) :
    ∃ front back, IsBlankText front ∧ IsBlankText back ∧ t = front ++ trim t ++ back := by
  refine ⟨t.takeWhile isBlank, (trimStart t).rtakeWhile isBlank, ?_, ?_, ?_⟩
  · exact fun c => List.mem_takeWhile_imp
  · exact fun c => List.mem_rtakeWhile_imp
  · have hend : trim t ++ (trimStart t).rtakeWhile isBlank = trimStart t :=
      List.rdropWhile_append_rtakeWhile
    rw [List.append_assoc, hend]
    exact List.takeWhile_append_dropWhile.symm

theorem trim_trim (t : Text) : trim (trim t) = trim t := by
  obtain ⟨front, back, hf, hb, ht⟩ := exists_trim t
  calc trim (trim t) = trim (front ++ trim t ++ back) := by
        rw [trim_append_of_blank hb, trim_blank_append hf]
    _ = trim t := by rw [← ht]

/-- Neither the first character of the text nor its last one is blank. -/
def IsTrimmed (t : Text) : Prop :=
  (∀ c ∈ t.head?, isBlank c = false) ∧ ∀ c ∈ t.getLast?, isBlank c = false

/-- **Trimming leaves no blank at either end.** -/
theorem isTrimmed_trim (t : Text) : IsTrimmed (trim t) := by
  constructor
  · intro c hc
    obtain ⟨r, hr⟩ : ∃ r, trim t = c :: r := List.head?_eq_some_iff.mp hc
    -- what is kept starts where the text without its first blanks does
    obtain ⟨s, hs⟩ : trim t <+: trimStart t := List.rdropWhile_prefix isBlank (trimStart t)
    have hstop := List.head?_dropWhile_not isBlank t
    rw [show t.dropWhile isBlank = c :: (r ++ s) by rw [← List.cons_append, ← hr]; exact hs.symm]
      at hstop
    simpa using hstop
  · intro c hc
    obtain ⟨hlast, rfl⟩ := List.mem_getLast?_eq_getLast hc
    exact Bool.eq_false_iff.mpr (List.rdropWhile_last_not isBlank (trimStart t) hlast)

/-- A text with blanks at neither end stays as it is. -/
theorem trim_of_isTrimmed (ht : IsTrimmed t) : trim t = t := by
  obtain ⟨front, back, hf, hb, he⟩ := exists_trim t
  have hfront : front = [] := by
    cases front with
    | nil => rfl
    | cons c front =>
      have hc := ht.1 c (by rw [he]; rfl)
      rw [hf c List.mem_cons_self] at hc
      cases hc
  have hback : back = [] := by
    cases back using List.reverseRecOn with
    | nil => rfl
    | append_singleton back c =>
      have hc := ht.2 c (by rw [he, ← List.append_assoc]; exact List.getLast?_concat)
      rw [hb c (List.mem_append_right _ List.mem_cons_self)] at hc
      cases hc
  rw [hfront, hback, List.nil_append, List.append_nil] at he
  exact he.symm

/-- **The second text is the first one with blanks at its ends**, of which the first one has none.
-/
def IsPadded (core t : Text) : Prop :=
  IsTrimmed core ∧ ∃ front back, IsBlankText front ∧ IsBlankText back ∧ t = front ++ core ++ back

/-- **What is left of a text** is what it has blanks at the ends of. -/
theorem trim_eq_iff : trim t = s ↔ IsPadded s t := by
  constructor
  · rintro rfl
    exact ⟨isTrimmed_trim t, exists_trim t⟩
  · rintro ⟨hs, front, back, hf, hb, rfl⟩
    rw [trim_append_of_blank hb, trim_blank_append hf, trim_of_isTrimmed hs]

theorem trim_of_solid (ht : IsSolid t) : trim t = t :=
  trim_of_isTrimmed
    ⟨fun c hc => ht c (List.mem_of_mem_head? hc), fun c hc => ht c (List.mem_of_mem_getLast? hc)⟩

theorem trim_eq_nil_iff : trim t = [] ↔ IsBlankText t := by
  constructor
  · intro hnil
    obtain ⟨front, back, hf, hb, ht⟩ := exists_trim t
    rw [hnil, List.append_nil] at ht
    rw [ht]
    exact hf.append hb
  · intro ht
    have hend := trim_append_of_blank (s := []) ht
    rwa [List.nil_append] at hend

end VoxelScore.Text
