import Mathlib.Data.List.Basic
import Mathlib.Data.List.TakeWhile
import VoxelScore.Number.Numeral
import VoxelScore.Proofs.Text.Words

/-!
# Where numerals end

A numeral is read as far as its characters go on, so that it does not matter what a text makes of
all the other characters. This is said of changes of a text that keep the characters of numerals
where they are and put none of them in front of what they make of any other character.

## Main definitions

* `Numeral.IsDigits`: a run of digits
* `Numeral.isNumeralChar`: a character that stands in numerals
* `Numeral.Keeps`: a change of texts that numerals do not see

## Main results

* `Numeral.scan?_map`: the numeral that a changed text starts with
* `Numeral.scan?_congr`: the numeral is that of the leading run of such characters
-/

namespace VoxelScore.Numeral

variable {c : Char} {f : Text → Text} {t u : Text}

/-- A run of digits, of one at least. -/
def IsDigits (w : Text) : Prop := w ≠ [] ∧ ∀ c ∈ w, c.isDigit

/-- A digit is none of the characters of a text without digits. -/
theorem not_mem_of_isDigit {w : Text} (hw : w.all fun c => !c.isDigit) (hc : c.isDigit) :
    decide (c ∈ w) = false := by
  refine decide_eq_false ?_
  intro hmem
  have hne := List.all_eq_true.mp hw c hmem
  rw [hc] at hne
  cases hne

/-- A run of digits stops every run of other characters. -/
theorem IsDigits.stopsRun {p : Char → Bool} {w : Text} (h : IsDigits w)
    (hp : ∀ c, c.isDigit → p c = false) (t : Text) : Text.StopsRun p (w ++ t) := by
  obtain ⟨hne, hdigits⟩ := h
  cases w with
  | nil => exact absurd rfl hne
  | cons c w => exact Text.stopsRun_cons (hp c (hdigits c List.mem_cons_self))

/-- The number that digits write in base ten. -/
theorem digitsValue_eq (t : Text) : digitsValue t = Nat.ofDigitChars 10 t 0 := by
  -- Both are folds over the digits and differ in the order of a product only.
  rw [Nat.ofDigitChars_eq_foldl]
  unfold digitsValue
  congr 1
  funext n c
  rw [Nat.mul_comm]
  rfl

/-- A character that stands in numerals. -/
def isNumeralChar (c : Char) : Bool :=
  c.isDigit || c ∈ "+-.eEInfinity".toList

theorem isNumeralChar_of_isDigit (h : c.isDigit) : isNumeralChar c := by
  simp [isNumeralChar, h]

/-- The characters of a word are characters of numerals if all of them are. -/
theorem isNumeralChar_of_mem {w : Text} (hw : w.all isNumeralChar) (c : Char)
    (hc : decide (c ∈ w)) : isNumeralChar c :=
  List.all_eq_true.mp hw c (of_decide_eq_true hc)

/-- **A change of texts that numerals do not see.** -/
structure Keeps (f : Text → Text) : Prop where
  nil : f [] = []
  keep : ∀ c r, isNumeralChar c → f (c :: r) = c :: f r
  stop : ∀ c r, isNumeralChar c = false → Text.StopsRun isNumeralChar (f (c :: r))

namespace Keeps

/-- What ends a run of such characters ends it after the change. -/
theorem stopsRun {p : Char → Bool} (h : Keeps f) (hp : ∀ c, p c → isNumeralChar c)
    (ht : Text.StopsRun p t) : Text.StopsRun p (f t) := by
  cases t with
  | nil => rw [h.nil]; exact Text.stopsRun_nil
  | cons c r =>
    by_cases hc : isNumeralChar c
    · rw [h.keep c r hc]; exact Text.stopsRun_cons (ht c rfl)
    · exact (h.stop c r (Bool.eq_false_iff.mpr hc)).mono hp

/-- A run of such characters stays, and what is behind it changes on its own. -/
theorem run {p : Char → Bool} (h : Keeps f) (hp : ∀ c, p c → isNumeralChar c) (t : Text) :
    (f t).takeWhile p = t.takeWhile p ∧ (f t).dropWhile p = f (t.dropWhile p) := by
  induction t with
  | nil => simp [h.nil]
  | cons c t ih =>
    by_cases hc : p c
    · rw [h.keep c t (hp c hc)]
      simpa [hc] using ih
    · have hstops : Text.StopsRun p (c :: t) := Text.stopsRun_cons (Bool.eq_false_iff.mpr hc)
      rw [(h.stopsRun hp hstops).takeWhile, (h.stopsRun hp hstops).dropWhile, hstops.takeWhile,
        hstops.dropWhile]
      exact ⟨rfl, rfl⟩

theorem digits (h : Keeps f) (t : Text) :
    (f t).takeWhile Char.isDigit = t.takeWhile Char.isDigit ∧
      (f t).dropWhile Char.isDigit = f (t.dropWhile Char.isDigit) :=
  h.run (fun _ => isNumeralChar_of_isDigit) t

end Keeps

/-! ## The parts of a numeral -/

theorem exists_cons_or_stopsRun (w t : Text) :
    (∃ c ∈ w, ∃ r, t = c :: r) ∨ Text.StopsRun (· ∈ w) t := by
  cases t with
  | nil => exact .inr Text.stopsRun_nil
  | cons c r =>
    by_cases hc : c ∈ w
    · exact .inl ⟨c, hc, r, rfl⟩
    · exact .inr (Text.stopsRun_cons (by simpa using hc))

/-- What starts with no sign follows none. -/
theorem splitSign_of_stops (h : Text.StopsRun (· ∈ ['-', '+']) t) : splitSign t = (false, t) := by
  fun_cases splitSign t with
  | case1 r => exact absurd (h '-' rfl) (by simp)
  | case2 r => exact absurd (h '+' rfl) (by simp)
  | case3 => rfl

theorem splitSign_map (h : Keeps f) (t : Text) :
    splitSign (f t) = ((splitSign t).1, f (splitSign t).2) := by
  rcases exists_cons_or_stopsRun ['-', '+'] t with ⟨c, hc, r, rfl⟩ | hstops
  · rw [h.keep c r (isNumeralChar_of_mem (w := ['-', '+']) (by decide) c (by simpa using hc))]
    rcases List.mem_pair.mp hc with rfl | rfl
    · rfl
    · rfl
  · rw [splitSign_of_stops hstops,
      splitSign_of_stops (h.stopsRun (isNumeralChar_of_mem (by decide)) hstops)]

theorem splitDigits_of_point (h : t.dropWhile Char.isDigit = '.' :: u) :
    splitDigits t =
      if (t.takeWhile Char.isDigit).isEmpty && (u.takeWhile Char.isDigit).isEmpty then ([], [], t)
      else (t.takeWhile Char.isDigit, u.takeWhile Char.isDigit, u.dropWhile Char.isDigit) := by
  unfold splitDigits
  rw [h]
  rfl

theorem splitDigits_of_stops (h : Text.StopsRun (· ∈ ['.']) (t.dropWhile Char.isDigit)) :
    splitDigits t = (t.takeWhile Char.isDigit, [], t.dropWhile Char.isDigit) := by
  unfold splitDigits
  split
  · next r hr => exact absurd (h '.' (by rw [hr]; rfl)) (by simp)
  · rfl

theorem splitDigits_map (h : Keeps f) (t : Text) :
    splitDigits (f t) = ((splitDigits t).1, (splitDigits t).2.1, f (splitDigits t).2.2) := by
  obtain ⟨htake, hdrop⟩ := h.digits t
  rcases exists_cons_or_stopsRun ['.'] (t.dropWhile Char.isDigit) with ⟨c, hc, u, hu⟩ | hstops
  · obtain rfl := List.mem_singleton.mp hc
    have hu' : (f t).dropWhile Char.isDigit = '.' :: f u := by
      rw [hdrop, hu, h.keep '.' u (by decide)]
    obtain ⟨htake', hdrop'⟩ := h.digits u
    rw [splitDigits_of_point hu, splitDigits_of_point hu', htake, htake', hdrop']
    split <;> rfl
  · have hstops' : Text.StopsRun (· ∈ ['.']) ((f t).dropWhile Char.isDigit) := by
      rw [hdrop]
      exact h.stopsRun (isNumeralChar_of_mem (by decide)) hstops
    rw [splitDigits_of_stops hstops, splitDigits_of_stops hstops', htake, hdrop]

/-- Without an `e` in front there is no exponent. -/
theorem splitExponent_of_stops (h : Text.StopsRun (· ∈ ['e', 'E']) t) :
    splitExponent t = (0, t) := by
  unfold splitExponent
  split
  · next e r =>
    have he : ¬ (e = 'e' ∨ e = 'E') := by simpa using h e rfl
    simp [he]
  · rfl

theorem splitExponent_map (h : Keeps f) (t : Text) :
    splitExponent (f t) = ((splitExponent t).1, f (splitExponent t).2) := by
  rcases exists_cons_or_stopsRun ['e', 'E'] t with ⟨e, he, r, rfl⟩ | hstops
  · have hkeep := h.keep e r
      (isNumeralChar_of_mem (w := ['e', 'E']) (by decide) e (by simpa using he))
    rw [hkeep]
    unfold splitExponent
    simp only [splitSign_map h, h.digits]
    split
    · rfl
    · rw [hkeep]
  · rw [splitExponent_of_stops hstops,
      splitExponent_of_stops (h.stopsRun (isNumeralChar_of_mem (by decide)) hstops)]

theorem scanDecimal?_map (h : Keeps f) (negative : Bool) (t : Text) :
    scanDecimal? negative (f t) =
      (scanDecimal? negative t).map fun (numeral, rest) => (numeral, f rest) := by
  unfold scanDecimal?
  simp only [splitDigits_map h, splitExponent_map h]
  split <;> rfl

theorem isPrefixOf?_of_stops (hc : isNumeralChar c) (ht : Text.StopsRun isNumeralChar t) :
    (c :: u).isPrefixOf? t = none := by
  cases t with
  | nil => rfl
  | cons d r =>
    have hne : ¬ (c == d) = true := by
      intro he
      have hd := ht d rfl
      rw [← eq_of_beq he, hc] at hd
      cases hd
    exact if_neg hne

/-- A word of such characters stands in front of both texts or of none. -/
theorem isPrefixOf?_map (h : Keeps f) (hu : ∀ c ∈ u, isNumeralChar c) (t : Text) :
    u.isPrefixOf? (f t) = (u.isPrefixOf? t).map f := by
  induction u generalizing t with
  | nil => rfl
  | cons d u ih =>
    rw [List.forall_mem_cons] at hu
    cases t with
    | nil => rw [h.nil]; rfl
    | cons c r =>
      by_cases hc : isNumeralChar c
      · rw [h.keep c r hc]
        show (if d == c then u.isPrefixOf? (f r) else none) =
          (if d == c then u.isPrefixOf? r else none).map f
        rw [ih hu.2]
        split <;> rfl
      · have hfalse := Bool.eq_false_iff.mpr hc
        rw [isPrefixOf?_of_stops hu.1 (Text.stopsRun_cons hfalse),
          isPrefixOf?_of_stops hu.1 (h.stop c r hfalse)]
        rfl

/-- **The numeral that a text starts with** is not changed. -/
theorem scan?_map (h : Keeps f) (t : Text) :
    scan? (f t) = (scan? t).map fun (numeral, rest) => (numeral, f rest) := by
  have hword : "Infinity".toList.all isNumeralChar := by decide
  unfold scan?
  simp only [splitSign_map h]
  rw [isPrefixOf?_map h (List.all_eq_true.mp hword)]
  cases "Infinity".toList.isPrefixOf? (splitSign t).2 with
  | none => exact scanDecimal?_map h _ _
  | some r => rfl

theorem keeps_takeWhile : Keeps (List.takeWhile isNumeralChar) where
  nil := rfl
  keep := fun _ _ hc => List.takeWhile_cons_of_pos hc
  stop := fun _ _ hc => by
    rw [List.takeWhile_cons_of_neg (by simp [hc])]
    exact Text.stopsRun_nil

/-- **A numeral lies within the leading run of its characters**, so that texts with the same run
start with the same numeral. -/
theorem scan?_congr (h : t.takeWhile isNumeralChar = u.takeWhile isNumeralChar) :
    (scan? t).map Prod.fst = (scan? u).map Prod.fst := by
  have hrun : ∀ t, (scan? t).map Prod.fst =
      (scan? (t.takeWhile isNumeralChar)).map Prod.fst := by
    intro t
    rw [scan?_map keeps_takeWhile, Option.map_map]
    rfl
  rw [hrun t, hrun u, h]

end VoxelScore.Numeral
