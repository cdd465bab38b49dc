import Mathlib.Algebra.Ring.Int.Defs
import VoxelScore.Proofs.Number.Numeral
import VoxelScore.Tone.Note

/-!
# What note names say

A note name is a letter, an accidental and an octave, one behind the other. The letter `b` is also
the flat sign, but an octave never starts with it, so that a text is a name in one way at most. The
octave may have any number of digits; a name has a number if the number and that of the c of its
octave have 32 signed bits, and so it has if all of its arithmetic is done in words of 32 bits.

## Main definitions

* `IsLetter`, `IsAccidental`, `IsOctave`: the parts of a name and what they count
* `Names`: a text is a letter, an accidental and an octave
* `numberInWords`: the number of a name, computed in words of 32 bits

## Main results

* `letter?_eq_some_iff`, `octave?_eq_some_iff`: the parts are read as they are written
* `number?_eq_some_iff_names`: only names are read, and all of them
* `plus?_eq`, `times?_eq`: an overflow is noticed exactly if the exact result does not fit
* `number?_eq_some_iff`: the texts that have a number, and what it is
-/

namespace VoxelScore.Note

open Numeral (IsDigits)

variable {t w r : Text} {c : Char} {m base shift octave semitones : ℤ}

/-! ## Letters -/

/-- A capital letter is the one that is made of its small letter. -/
theorem eq_or_eq_toUpper (c : Char) : c = c.toLower ∨ c = c.toLower.toUpper := by
  by_cases h : c.val ≥ 'A'.val ∧ c.val ≤ 'Z'.val
  · right
    have hval : c.toLower.val = c.val + ('a'.val - 'A'.val) := by
      unfold Char.toLower
      rw [dif_pos h]
    have hsmall : c.toLower.val ≥ 'a'.val ∧ c.toLower.val ≤ 'z'.val := by
      rw [hval]
      grind
    refine Char.ext ?_
    unfold Char.toUpper
    rw [dif_pos hsmall]
    show c.val = c.toLower.val + ('A'.val - 'a'.val)
    rw [hval]
    grind
  · left
    unfold Char.toLower
    rw [dif_neg h]

/-- The semitones from c up to each letter. -/
def letters : List (Char × ℤ) :=
  [('c', 0), ('d', 2), ('e', 4), ('f', 5), ('g', 7), ('a', 9), ('b', 11)]

/-- A letter in either case, and the semitones from c up to it. -/
def IsLetter (c : Char) (base : ℤ) : Prop :=
  ∃ small, (small, base) ∈ letters ∧ (c = small ∨ c = small.toUpper)

theorem letter?_eq_some_iff : letter? c = some base ↔ IsLetter c base := by
  constructor
  · intro h
    refine ⟨c.toLower, ?_, eq_or_eq_toUpper c⟩
    -- one branch for each entry of the table
    unfold letter? at h
    split at h <;> simp_all [letters]
  · rintro ⟨small, hmem, hc⟩
    have hall : ∀ e ∈ letters, letter? e.1 = some e.2 ∧ letter? e.1.toUpper = some e.2 := by
      decide
    rcases hc with rfl | rfl
    · exact (hall _ hmem).1
    · exact (hall _ hmem).2

/-! ## Accidentals and octaves -/

/-- An accidental and the semitones that it adds. -/
inductive IsAccidental : Text → ℤ → Prop
  | natural : IsAccidental [] 0
  | sharp : IsAccidental ['#'] 1
  | flat : IsAccidental ['b'] (-1)

/-- An octave: none, which is the fourth one, or a run of digits, with a minus sign or without. -/
inductive IsOctave : Text → ℤ → Prop
  | absent : IsOctave [] 4
  | written {digits : Text} (h : IsDigits digits) : IsOctave digits (Nat.ofDigitChars 10 digits 0)
  | below {digits : Text} (h : IsDigits digits) :
    IsOctave ('-' :: digits) (-Nat.ofDigitChars 10 digits 0)

theorem digits?_eq_some_iff {n : ℤ} :
    digits? w = some n ↔ IsDigits w ∧ (Nat.ofDigitChars 10 w 0 : ℤ) = n := by
  have hrun : (w.isEmpty || !w.all Char.isDigit) = true ↔ ¬IsDigits w := by
    simp [IsDigits, or_iff_not_imp_left]
  unfold digits?
  rw [Numeral.digitsValue_eq]
  split
  · next h =>
    constructor
    · rintro ⟨⟩
    · rintro ⟨hdigits, -⟩
      exact absurd hdigits (hrun.mp h)
  · next h =>
    have hdigits : IsDigits w := not_not.mp (mt hrun.mpr h)
    rw [Option.some_inj]
    exact ⟨fun hn => ⟨hdigits, hn⟩, fun hn => hn.2⟩

theorem octave?_of_ne (hne : t ≠ []) (hsign : t.head? ≠ some '-') : octave? t = digits? t := by
  fun_cases octave? t with
  | case1 => exact absurd rfl hne
  | case2 r => exact absurd rfl hsign
  | case3 => rfl

theorem octave?_eq_some_iff : octave? t = some octave ↔ IsOctave t octave := by
  constructor
  · fun_cases octave? t with
    | case1 =>
      rintro ⟨⟩
      exact .absent
    | case2 r =>
      intro h
      obtain ⟨n, hn, rfl⟩ := Option.map_eq_some_iff.mp h
      obtain ⟨hdigits, rfl⟩ := digits?_eq_some_iff.mp hn
      exact .below hdigits
    | case3 =>
      intro h
      obtain ⟨hdigits, rfl⟩ := digits?_eq_some_iff.mp h
      exact .written hdigits
  · rintro (_ | hdigits | @⟨w, hdigits⟩)
    · rfl
    · rw [octave?_of_ne hdigits.1]
      · exact digits?_eq_some_iff.mpr ⟨hdigits, rfl⟩
      · intro hsign
        exact absurd (hdigits.2 '-' (List.mem_of_mem_head? hsign)) (by decide)
    · show (digits? w).map (-·) = _
      rw [digits?_eq_some_iff.mpr ⟨hdigits, rfl⟩]
      rfl

/-- The sign of an accidental starts no octave. -/
theorem IsOctave.stopsRun (h : IsOctave t octave) : Text.StopsRun (· ∈ ['#', 'b']) t := by
  cases h with
  | absent => exact Text.stopsRun_nil
  | written hdigits =>
    rw [← List.append_nil t]
    exact hdigits.stopsRun (fun _ => Numeral.not_mem_of_isDigit (by decide)) []
  | below hdigits => exact Text.stopsRun_cons (by decide)

theorem splitAccidental_of_stops (h : Text.StopsRun (· ∈ ['#', 'b']) t) :
    splitAccidental t = (0, t) := by
  fun_cases splitAccidental t with
  | case1 r => exact absurd (h '#' rfl) (by simp)
  | case2 r => exact absurd (h 'b' rfl) (by simp)
  | case3 => rfl

theorem splitAccidental_append (h : IsAccidental w shift) (ht : IsOctave t octave) :
    splitAccidental (w ++ t) = (shift, t) := by
  cases h with
  | natural => exact splitAccidental_of_stops ht.stopsRun
  | sharp => rfl
  | flat => rfl

theorem isAccidental_splitAccidental (t : Text) :
    ∃ w, IsAccidental w (splitAccidental t).1 ∧ w ++ (splitAccidental t).2 = t := by
  fun_cases splitAccidental t with
  | case1 r => exact ⟨_, .sharp, rfl⟩
  | case2 r => exact ⟨_, .flat, rfl⟩
  | case3 => exact ⟨_, .natural, rfl⟩

/-! ## Names -/

/-- **The text names a note**: it is a letter, an accidental and an octave, and the note is so many
semitones above the c of the octave. -/
inductive Names : Text → ℤ → ℤ → Prop
  | intro {letter : Char} {sign digits : Text} {base shift octave : ℤ}
      (hletter : IsLetter letter base) (hsign : IsAccidental sign shift)
      (hoctave : IsOctave digits octave) :
      Names (letter :: (sign ++ digits)) (base + shift) octave

theorem number?_cons (c : Char) (t : Text) :
    number? (c :: t) = (letter? c).bind fun base => (octave? (splitAccidental t).2).bind
      fun octave => atOctave? octave (base + (splitAccidental t).1) := rfl

/-- **The number of a name** is that of its semitones in its octave. -/
theorem number?_eq_some_iff_names :
    number? t = some m ↔
      ∃ semitones octave, Names t semitones octave ∧ atOctave? octave semitones = some m := by
  constructor
  · intro h
    cases t with
    | nil => cases h
    | cons c t =>
      rw [number?_cons] at h
      obtain ⟨base, hletter, h⟩ := Option.bind_eq_some_iff.mp h
      obtain ⟨octave, hoctave, h⟩ := Option.bind_eq_some_iff.mp h
      obtain ⟨sign, hsign, ht⟩ := isAccidental_splitAccidental t
      have hnames := Names.intro (letter?_eq_some_iff.mp hletter) hsign
        (octave?_eq_some_iff.mp hoctave)
      rw [ht] at hnames
      exact ⟨_, octave, hnames, h⟩
  · rintro ⟨_, octave, ⟨hletter, hsign, hoctave⟩, h⟩
    rw [number?_cons, splitAccidental_append hsign hoctave, letter?_eq_some_iff.mpr hletter,
      Option.bind_some, octave?_eq_some_iff.mpr hoctave, Option.bind_some]
    exact h

/-- The number has 32 signed bits. -/
def Fits32 (n : ℤ) : Prop := -2 ^ 31 ≤ n ∧ n < 2 ^ 31

instance (n : ℤ) : Decidable (Fits32 n) := by unfold Fits32; infer_instance

theorem isInt32_iff {n : ℤ} : isInt32 n ↔ Fits32 n := by
  unfold isInt32 Fits32 int32Low int32High
  rw [Bool.and_eq_true, decide_eq_true_eq, decide_eq_true_eq]
  omega

theorem atOctave?_eq_some_iff : atOctave? octave semitones = some m ↔
    Fits32 (12 * (octave + 1)) ∧ Fits32 m ∧ m = 12 * (octave + 1) + semitones := by
  unfold atOctave?
  simp only [Bool.and_eq_true, isInt32_iff]
  split
  · next h =>
    constructor
    · rintro ⟨⟩
      exact ⟨h.1, h.2, rfl⟩
    · rintro ⟨-, -, rfl⟩
      rfl
  · next h =>
    constructor
    · rintro ⟨⟩
    · rintro ⟨hlow, hm, rfl⟩
      exact absurd ⟨hlow, hm⟩ h

/-! ## Words of 32 bits -/

/-- The word of a number, if it fits. -/
def word? (n : ℤ) : Option Int32 :=
  if Fits32 n then some (.ofInt n) else none

/-- The sum of two words, unless it overflows. -/
def plus? (a b : Int32) : Option Int32 :=
  if a.toBitVec.saddOverflow b.toBitVec then none else some (a + b)

/-- The product of two words, unless it overflows. -/
def times? (a b : Int32) : Option Int32 :=
  if a.toBitVec.smulOverflow b.toBitVec then none else some (a * b)

/-- An overflow where none is looked for. -/
inductive Overflow where
  | unnoticed
  deriving DecidableEq

/-- The sum of two words that has to fit. -/
def plus (a b : Int32) : Except Overflow Int32 :=
  match plus? a b with
  | some sum => .ok sum
  | none => .error .unnoticed

/-- The number of a note in words: a sum, a product and a last sum that are looked at, and the sum
of letter and accidental that is not. -/
def atOctaveInWords (octave base shift : Int32) : Except Overflow (Option Int32) :=
  match (plus? octave 1).bind (times? · 12) with
  | some low => (plus base shift).map (plus? low)
  | none => .ok none

/-- **The number of a name, computed in words.** The octave is refused if it does not fit. -/
def numberInWords : Text → Except Overflow (Option Int32)
  | [] => .ok none
  | c :: r =>
    let (shift, r) := splitAccidental r
    match letter? c, (octave? r).bind word? with
    | some base, some octave => atOctaveInWords octave (.ofInt base) (.ofInt shift)
    | _, _ => .ok none

theorem toInt_ofInt {n : ℤ} (h : Fits32 n) : (Int32.ofInt n).toInt = n :=
  Int32.toInt_ofInt_of_le h.1 h.2

theorem map_toInt_word? (n : ℤ) :
    (word? n).map Int32.toInt = if Fits32 n then some n else none := by
  unfold word?
  split
  · next h => exact congrArg some (toInt_ofInt h)
  · rfl

theorem fits32_iff_of_overflow {overflows : Bool} {n : ℤ}
    (h : overflows = (decide (n ≥ 2 ^ 31) || decide (n < -2 ^ 31))) :
    overflows = true ↔ ¬Fits32 n := by
  rw [h, Bool.or_eq_true, decide_eq_true_eq, decide_eq_true_eq]
  unfold Fits32
  omega

/-- A sum is looked at as the word of the exact sum. -/
theorem plus?_eq (a b : Int32) : plus? a b = word? (a.toInt + b.toInt) := by
  have hoverflow : a.toBitVec.saddOverflow b.toBitVec = true ↔ ¬Fits32 (a.toInt + b.toInt) :=
    fits32_iff_of_overflow rfl
  unfold plus? word?
  simp only [hoverflow, ite_not, Int32.ofInt_add, Int32.ofInt_toInt]

theorem times?_eq (a b : Int32) : times? a b = word? (a.toInt * b.toInt) := by
  have hoverflow : a.toBitVec.smulOverflow b.toBitVec = true ↔ ¬Fits32 (a.toInt * b.toInt) :=
    fits32_iff_of_overflow rfl
  unfold times? word?
  simp only [hoverflow, ite_not, Int32.ofInt_mul, Int32.ofInt_toInt]

/-- The number of the c of an octave fits only if the octave above does. -/
theorem plus?_bind_times? (octave : Int32) :
    (plus? octave 1).bind (times? · 12) = word? (12 * (octave.toInt + 1)) := by
  have hone : (1 : Int32).toInt = 1 := by decide
  have htwelve : (12 : Int32).toInt = 12 := by decide
  rw [plus?_eq, hone]
  -- a sum that does not fit is refused, but twelve times the sum does not fit either
  by_cases h : Fits32 (octave.toInt + 1)
  · rw [word?, if_pos h, Option.bind_some, times?_eq, toInt_ofInt h, htwelve, Int.mul_comm]
  · have hlow : ¬Fits32 (12 * (octave.toInt + 1)) := by
      unfold Fits32 at h ⊢
      omega
    rw [word?, if_neg h, word?, if_neg hlow, Option.bind_none]

theorem plus_ofInt (hbase : Fits32 base) (hshift : Fits32 shift) (h : Fits32 (base + shift)) :
    plus (.ofInt base) (.ofInt shift) = .ok (.ofInt (base + shift)) := by
  unfold plus
  rw [plus?_eq, toInt_ofInt hbase, toInt_ofInt hshift, word?, if_pos h]

/-- The semitones of letters and accidentals are few. -/
theorem IsLetter.bounds (h : IsLetter c base) : 0 ≤ base ∧ base ≤ 11 := by
  obtain ⟨small, hmem, -⟩ := h
  have hall : ∀ e ∈ letters, 0 ≤ e.2 ∧ e.2 ≤ 11 := by decide
  exact hall _ hmem

theorem IsAccidental.bounds (h : IsAccidental w shift) : -1 ≤ shift ∧ shift ≤ 1 := by
  cases h <;> decide

theorem atOctaveInWords_eq (hletter : IsLetter c base) (hsign : IsAccidental w shift)
    (ho : Fits32 octave) :
    (atOctaveInWords (.ofInt octave) (.ofInt base) (.ofInt shift)).map (Option.map Int32.toInt) =
      .ok (atOctave? octave (base + shift)) := by
  obtain ⟨hlow, hhigh⟩ := hletter.bounds
  obtain ⟨hdown, hup⟩ := hsign.bounds
  have hsum : plus (.ofInt base) (.ofInt shift) = .ok (.ofInt (base + shift)) :=
    plus_ofInt (by unfold Fits32; omega) (by unfold Fits32; omega) (by unfold Fits32; omega)
  have hsemitones : Fits32 (base + shift) := by unfold Fits32; omega
  unfold atOctaveInWords atOctave?
  rw [plus?_bind_times?, toInt_ofInt ho, hsum]
  simp only [Bool.and_eq_true, isInt32_iff]
  by_cases hc : Fits32 (12 * (octave + 1))
  · rw [word?, if_pos hc]
    show Except.ok ((plus? _ _).map _) = _
    rw [plus?_eq, toInt_ofInt hc, toInt_ofInt hsemitones, map_toInt_word?]
    simp only [hc, true_and]
  · rw [word?, if_neg hc]
    simp only [hc, false_and, if_false]
    rfl

/-- An octave that does not fit has no c that fits. -/
theorem atOctave?_of_not_fits32 (h : ¬Fits32 octave) (semitones : ℤ) :
    atOctave? octave semitones = none := by
  have hlow : ¬Fits32 (12 * (octave + 1)) := by
    unfold Fits32 at h ⊢
    omega
  unfold atOctave?
  simp only [Bool.and_eq_true, isInt32_iff, hlow, false_and, if_false]

theorem numberInWords_cons (c : Char) (t : Text) :
    numberInWords (c :: t) =
      match letter? c, (octave? (splitAccidental t).2).bind word? with
      | some base, some octave =>
        atOctaveInWords octave (.ofInt base) (.ofInt (splitAccidental t).1)
      | _, _ => .ok none := rfl

/-- **In words nothing overflows unnoticed**, and the number is the same. -/
theorem numberInWords_eq (t : Text) :
    (numberInWords t).map (Option.map Int32.toInt) = .ok (number? t) := by
  cases t with
  | nil => rfl
  | cons c t =>
    obtain ⟨sign, hsign, -⟩ := isAccidental_splitAccidental t
    rw [number?_cons, numberInWords_cons]
    cases hletter : letter? c with
    | none => rfl
    | some base =>
      cases octave? (splitAccidental t).2 with
      | none => rfl
      | some octave =>
        rw [Option.bind_some, Option.bind_some, Option.bind_some, word?]
        -- the octave is refused in words as soon as it is read, without them not before its c
        by_cases ho : Fits32 octave
        · rw [if_pos ho]
          exact atOctaveInWords_eq (letter?_eq_some_iff.mp hletter) hsign ho
        · rw [if_neg ho, atOctave?_of_not_fits32 ho]
          rfl

/-- **A text has a number exactly if it names a note** and both the number of the c of its octave
and its own fit in 32 bits: 12 for every octave above the one below the zeroth, and the semitones.
Computed in words, the number is the same, and nothing overflows unnoticed. -/
theorem number?_eq_some_iff (t : Text) :
    (∀ m, number? t = some m ↔ ∃ semitones octave, Names t semitones octave ∧
      Fits32 (12 * (octave + 1)) ∧ Fits32 m ∧ m = 12 * (octave + 1) + semitones) ∧
    (numberInWords t).map (Option.map Int32.toInt) = .ok (number? t) := by
  refine ⟨?_, numberInWords_eq t⟩
  intro m
  rw [number?_eq_some_iff_names]
  simp only [atOctave?_eq_some_iff]

example : number? "g178956969".toList = some int32High ∧ number? "g#178956969".toList = none := by
  decide

end VoxelScore.Note
