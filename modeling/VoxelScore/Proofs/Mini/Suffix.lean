import Mathlib.Data.List.Induction
import VoxelScore.Mini.Reading
import VoxelScore.Proofs.Number.Numeral

/-!
# Suffixes written and read

A suffix is a sign and a count in decimal digits. Suffixes behind a word are read from its end, the
last one first; those behind a group are read forward from its closing bracket. Both ways find the
counts that were written, in the order in which they stand.

## Main definitions

* `Suffix`: a sign and a count
* `suffixText`: suffixes one behind the other
* `EndsInRepeat`: the words that end in a suffix

## Main results

* `peel_append_suffixText`: reading suffixes from the end of a word
* `splitSuffixes_suffixText`: reading suffixes forward
-/

namespace VoxelScore.Mini

/-! ## Written suffixes -/

/-- A sign that makes a count a suffix. -/
inductive RepeatSign where
  | star
  | bang
  deriving DecidableEq, Repr

/-- The character of a sign. -/
def RepeatSign.char : RepeatSign → Char
  | star => '*'
  | bang => '!'

/-- A sign and a count that fits in 64 bits, perhaps with zeros in front. -/
structure Suffix where
  sign : RepeatSign
  zeros : ℕ
  count : ℕ
  count_lt : count < words64

namespace Suffix

/-- The count in decimal digits. -/
def digits (s : Suffix) : Text := List.replicate s.zeros '0' ++ Nat.toDigits 10 s.count

/-- The suffix as written. -/
def text (s : Suffix) : Text := s.sign.char :: s.digits

/-- How often the suffix repeats: its count, but at most 1024 times. -/
def value (s : Suffix) : ℕ := min s.count 1024

variable (s : Suffix)

theorem digits_ne_nil : s.digits ≠ [] := by
  intro h
  exact Nat.toDigits_ne_nil (List.append_eq_nil_iff.mp h).2

theorem isDigit_of_mem_digits {c : Char} (h : c ∈ s.digits) : c.isDigit := by
  rcases List.mem_append.mp h with h | h
  · rw [List.eq_of_mem_replicate h]
    rfl
  · exact Nat.isDigit_of_mem_toDigits (by decide) (by decide) h

/-- Zeros in front do not change the number that digits write. -/
theorem digitsValue_digits : Numeral.digitsValue s.digits = s.count := by
  rw [Numeral.digitsValue_eq, digits, Nat.ofDigitChars_append, Nat.ofDigitChars_replicate_zero,
    Nat.mul_zero, Nat.ofDigitChars_ten_toDigits]

theorem count?_digits : count? s.digits = some s.value := by
  have he : s.digits.isEmpty = false := by
    rw [List.isEmpty_eq_false_iff]
    exact s.digits_ne_nil
  have hc : ¬ words64 ≤ s.count := Nat.not_le.mpr s.count_lt
  unfold count?
  rw [digitsValue_digits, he]
  simp [hc, value, maxRepeat]

theorem isRepeatMark_sign : isRepeatMark s.sign.char = true := by
  cases s.sign <;> rfl

theorem isDigit_sign : s.sign.char.isDigit = false := by
  cases s.sign <;> rfl

end Suffix

/-- Suffixes one behind the other. -/
def suffixText (ss : List Suffix) : Text := ss.flatMap Suffix.text

theorem suffixText_cons (s : Suffix) (ss : List Suffix) :
    suffixText (s :: ss) = s.text ++ suffixText ss := List.flatMap_cons

theorem suffixText_concat (ss : List Suffix) (s : Suffix) :
    suffixText (ss ++ [s]) = suffixText ss ++ s.text := by
  simp [suffixText]

/-! ## From the end of a word -/

/-- The word ends in a sign and at least one digit. -/
def EndsInRepeat (w : Text) : Prop :=
  ∃ (base digits : Text) (sign : RepeatSign), digits ≠ [] ∧ (∀ c ∈ digits, c.isDigit) ∧
    w = base ++ sign.char :: digits

theorem not_endsInRepeat_of_concat {w : Text} {c : Char} (h : c.isDigit = false) :
    ¬ EndsInRepeat (w ++ [c]) := by
  rintro ⟨base, digits, sign, hne, hd, he⟩
  obtain ⟨init, last, rfl⟩ := List.eq_nil_or_concat digits |>.resolve_left hne
  rw [List.concat_eq_append, ← List.cons_append, ← List.append_assoc] at he
  obtain rfl : c = last := by simpa using (List.append_inj' he rfl).2
  rw [hd c (by simp)] at h
  cases h

/-- The last suffix of a word is split off whole. -/
theorem splitRepeat?_append (w : Text) (s : Suffix) :
    splitRepeat? (w ++ s.text) = some (w, s.value) := by
  have hd : ∀ c ∈ s.digits.reverse, c.isDigit :=
    fun c hc => s.isDigit_of_mem_digits (List.mem_reverse.mp hc)
  have hs : Text.StopsRun Char.isDigit (s.sign.char :: w.reverse) :=
    Text.stopsRun_cons s.isDigit_sign
  have hr : (w ++ s.text).reverse = s.digits.reverse ++ s.sign.char :: w.reverse := by
    simp [Suffix.text]
  unfold splitRepeat?
  rw [hr, Text.takeWhile_run_append hd hs, Text.dropWhile_run_append hd hs, List.reverse_reverse]
  simp only [s.isRepeatMark_sign, if_true, s.count?_digits, Option.map_some, List.reverse_reverse]

/-- A word that does not end in a sign and digits has no suffix. -/
theorem splitRepeat?_eq_none {w : Text} (h : ¬ EndsInRepeat w) : splitRepeat? w = none := by
  have whole : w.reverse.takeWhile Char.isDigit ++ w.reverse.dropWhile Char.isDigit = w.reverse :=
    List.takeWhile_append_dropWhile
  unfold splitRepeat?
  split
  · next c base hb =>
    split
    · next hc =>
      rw [Option.map_eq_none_iff]
      -- A count can only come from a sign and digits at the end of the word.
      by_contra hcount
      apply h
      obtain ⟨sign, rfl⟩ : ∃ sign : RepeatSign, c = sign.char := by
        rcases Bool.or_eq_true _ _ ▸ hc with hc | hc
        · exact ⟨.star, of_decide_eq_true hc⟩
        · exact ⟨.bang, of_decide_eq_true hc⟩
      refine ⟨base.reverse, (w.reverse.takeWhile Char.isDigit).reverse, sign, ?_, ?_, ?_⟩
      · intro hnil
        rw [hnil] at hcount
        exact hcount rfl
      · intro d hd
        exact List.mem_takeWhile_imp (List.mem_reverse.mp hd)
      · have hw := congrArg List.reverse whole
        rw [hb] at hw
        simpa using hw.symm
    · rfl
  · rfl

/-- A word without signs has no suffix. -/
theorem splitRepeat?_of_no_sign {w : Text} (h : ∀ c ∈ w, isRepeatMark c = false) :
    splitRepeat? w = none := by
  refine splitRepeat?_eq_none ?_
  rintro ⟨base, digits, sign, -, -, rfl⟩
  have hsign := h sign.char (by simp)
  cases sign with
  | star => cases hsign
  | bang => cases hsign

theorem peel_of_splitRepeat? {w base : Text} {n : ℕ} (h : splitRepeat? w = some (base, n)) :
    peel w = ((peel base).1, (peel base).2 ++ [n]) := by
  rw [peel]
  split
  · next h' => rw [h] at h'; cases h'; rfl
  · next h' => rw [h] at h'; cases h'

/-- **Suffixes of a word are read from its end.** -/
theorem peel_append_suffixText {w : Text} (h : splitRepeat? w = none) (ss : List Suffix) :
    peel (w ++ suffixText ss) = (w, ss.map Suffix.value) := by
  -- The last suffix is the first one to come off.
  induction ss using List.reverseRecOn with
  | nil =>
    rw [suffixText, List.flatMap_nil, List.append_nil, peel]
    split
    · next h' => rw [h] at h'; cases h'
    · rfl
  | append_singleton ss s ih =>
    rw [suffixText_concat, ← List.append_assoc, peel_of_splitRepeat? (splitRepeat?_append _ s), ih,
      List.map_append]
    rfl

/-! ## Forward -/

/-- Suffixes consist of signs and digits. -/
theorem sign_or_digit_of_mem_suffixText {ss : List Suffix} {c : Char} (h : c ∈ suffixText ss) :
    isRepeatMark c ∨ c.isDigit := by
  obtain ⟨s, -, hs⟩ := List.mem_flatMap.mp h
  rcases List.mem_cons.mp hs with rfl | hs
  · exact Or.inl s.isRepeatMark_sign
  · exact Or.inr (s.isDigit_of_mem_digits hs)

theorem stopsRun_suffixText {t : Text} (ss : List Suffix) (h : Text.StopsRun Char.isDigit t) :
    Text.StopsRun Char.isDigit (suffixText ss ++ t) := by
  cases ss with
  | nil => exact h
  | cons s ss => exact Text.stopsRun_cons s.isDigit_sign

theorem splitSuffixes_of_stops {t : Text} (h : Text.StopsRun isRepeatMark t) :
    splitSuffixes t = ([], t) := by
  cases t with
  | nil => rw [splitSuffixes]
  | cons c t =>
    rw [splitSuffixes]
    simp [h c rfl]

/-- What belongs to no suffix does not change the suffixes in front of it. -/
theorem splitSuffixes_append (s : Text) {t : Text} (hd : Text.StopsRun Char.isDigit t)
    (hm : Text.StopsRun isRepeatMark t) :
    splitSuffixes (s ++ t) = ((splitSuffixes s).1, (splitSuffixes s).2 ++ t) := by
  fun_induction splitSuffixes s with
  | case1 => exact splitSuffixes_of_stops hm
  | case2 c r n hn hc counts rest hr ih =>
    rw [List.cons_append, splitSuffixes, Text.takeWhile_append_of_stops r hd,
      Text.dropWhile_append_of_stops r hd, hc, hn, ih, hr]
  | case3 c r h =>
    rw [List.cons_append, splitSuffixes, Text.takeWhile_append_of_stops r hd]
    split
    · next n hc hn => exact absurd hn (h n hc)
    · rfl

/-- **Suffixes are read forward** up to a character that belongs to none. -/
theorem splitSuffixes_suffixText {t : Text} (ss : List Suffix)
    (hd : Text.StopsRun Char.isDigit t) (hm : Text.StopsRun isRepeatMark t) :
    splitSuffixes (suffixText ss ++ t) = (ss.map Suffix.value, t) := by
  induction ss with
  | nil => exact splitSuffixes_of_stops hm
  | cons s ss ih =>
    have digits : ∀ c ∈ s.digits, c.isDigit := fun c hc => s.isDigit_of_mem_digits hc
    have stops := stopsRun_suffixText ss hd
    rw [suffixText_cons, List.append_assoc, Suffix.text, List.cons_append, splitSuffixes,
      Text.takeWhile_run_append digits stops, Text.dropWhile_run_append digits stops, ih,
      s.isRepeatMark_sign, s.count?_digits]
    rfl

end VoxelScore.Mini
