import Mathlib.Order.Basic
import VoxelScore.Text.Utf8

/-!
# UTF-8 read back

The bytes of a text are read as its characters, without a fault, and no other bytes are read as
them. A leading byte is written with the highest bits of a code point and each byte behind it with
the next six; reading a character keeps the bits read so far and what may follow.

## Main definitions

* `Continues`: six bits that may follow at a place within a sequence
* `Sequence`: the sequences of bytes that are read as one character

## Main results

* `sequence_iff`: the only sequence of a character is its encoding
* `marks_encode`, `decodeLossy_encode`: the bytes of a text are read as the text
* `decode_eq_ok_iff`: bytes are decoded to a text exactly if they are its bytes
-/

namespace VoxelScore.Utf8

variable {index start value k m n : ℕ} {next : UInt8 × UInt8} {later : Expected} {b : UInt8}
variable {r bytes : List UInt8} {c : Char} {t : Text} {ms : List Mark}

/-- A fact about every byte, from the finitely many of them. -/
theorem forall_byte {P : UInt8 → Prop} (h : ∀ n < 256, P (UInt8.ofNat n)) (b : UInt8) : P b := by
  have hb := h b.toNat b.toNat_lt
  rwa [UInt8.ofNat_toNat] at hb

/-! ## Leading bytes -/

theorem lead?_one : ∀ n < 0x80, lead? (UInt8.ofNat n) = some (n, []) := by
  decide +kernel

theorem lead?_two : ∀ n < 0x1E,
    lead? (UInt8.ofNat (n + 0xC2)) = some (n + 2, [continuation]) := by
  decide +kernel

/-- What may follow the first byte of three: no overlong form and no surrogate. -/
def secondOfThree (n : ℕ) : UInt8 × UInt8 :=
  if n = 0x0 then (0xA0, 0xBF) else if n = 0xD then (0x80, 0x9F) else continuation

theorem lead?_three : ∀ n < 0x10,
    lead? (UInt8.ofNat (n + 0xE0)) = some (n, [secondOfThree n, continuation]) := by
  decide +kernel

/-- What may follow the first byte of four: no overlong form and nothing beyond U+10FFFF. -/
def secondOfFour (n : ℕ) : UInt8 × UInt8 :=
  if n = 0 then (0x90, 0xBF) else if n = 4 then (0x80, 0x8F) else continuation

theorem lead?_four : ∀ n < 5,
    lead? (UInt8.ofNat (n + 0xF0)) = some (n, [secondOfFour n, continuation, continuation]) := by
  decide +kernel

/-- Every byte that leads a sequence is one of these. -/
theorem lead_cases (b : UInt8) :
    lead? b = none ∨ (∃ n < 0x80, b = UInt8.ofNat n) ∨ (∃ n < 0x1E, b = UInt8.ofNat (n + 0xC2)) ∨
      (∃ n < 0x10, b = UInt8.ofNat (n + 0xE0)) ∨ ∃ n < 5, b = UInt8.ofNat (n + 0xF0) := by
  have hnone : ∀ n < 256, 0x80 ≤ n ∧ n < 0xC2 ∨ 0xF5 ≤ n → lead? (UInt8.ofNat n) = none := by
    decide +kernel
  have hlt := b.toNat_lt
  have hsub : ∀ low, low ≤ b.toNat → b = UInt8.ofNat (b.toNat - low + low) := by
    intro low hl
    rw [Nat.sub_add_cancel hl, UInt8.ofNat_toNat]
  -- by value, as the ranges of leading bytes follow one another
  by_cases h₁ : b.toNat < 0x80
  · exact .inr (.inl ⟨b.toNat, h₁, hsub 0 (Nat.zero_le _)⟩)
  by_cases h₂ : 0xC2 ≤ b.toNat ∧ b.toNat < 0xE0
  · exact .inr (.inr (.inl ⟨b.toNat - 0xC2, by omega, hsub _ h₂.1⟩))
  by_cases h₃ : 0xE0 ≤ b.toNat ∧ b.toNat < 0xF0
  · exact .inr (.inr (.inr (.inl ⟨b.toNat - 0xE0, by omega, hsub _ h₃.1⟩)))
  by_cases h₄ : 0xF0 ≤ b.toNat ∧ b.toNat < 0xF5
  · exact .inr (.inr (.inr (.inr ⟨b.toNat - 0xF0, by omega, hsub _ h₄.1⟩)))
  · refine .inl ?_
    have hb := hnone b.toNat hlt (by omega)
    rwa [UInt8.ofNat_toNat] at hb

/-! ## Bytes behind them -/

/-- The byte that writes the six bits of `m` lies in the range. -/
def Continues (range : UInt8 × UInt8) (m : ℕ) : Prop :=
  range.1.toNat ≤ m + 0x80 ∧ m + 0x80 ≤ range.2.toNat ∧ m < 0x40

theorem continues_continuation_iff : Continues continuation m ↔ m < 0x40 := by
  simp only [Continues, continuation, UInt8.reduceToNat]
  omega

theorem continues_secondOfThree_iff : Continues (secondOfThree n) m ↔
    m < 0x40 ∧ (n = 0x0 → 0x20 ≤ m) ∧ (n = 0xD → m < 0x20) := by
  unfold secondOfThree Continues
  split_ifs
  all_goals
    simp only [continuation, UInt8.reduceToNat]
    omega

theorem continues_secondOfFour_iff : Continues (secondOfFour n) m ↔
    m < 0x40 ∧ (n = 0 → 0x10 ≤ m) ∧ (n = 4 → m < 0x10) := by
  unfold secondOfFour Continues
  split_ifs
  all_goals
    simp only [continuation, UInt8.reduceToNat]
    omega

theorem Continues.toNat_ofNat (h : Continues next m) :
    (UInt8.ofNat (m + 0x80)).toNat = m + 0x80 := by
  have hm := h.2.2
  rw [UInt8.toNat_ofNat']
  omega

theorem Continues.within (h : Continues next m) :
    (next.1 ≤ UInt8.ofNat (m + 0x80) && UInt8.ofNat (m + 0x80) ≤ next.2) = true := by
  rw [Bool.and_eq_true, decide_eq_true_eq, decide_eq_true_eq, UInt8.le_iff_toNat_le,
    UInt8.le_iff_toNat_le, h.toNat_ofNat]
  exact ⟨h.1, h.2.1⟩

theorem Continues.bits (h : Continues next m) : (UInt8.ofNat (m + 0x80)).toNat % 64 = m := by
  have hm := h.2.2
  rw [h.toNat_ofNat]
  omega

/-- A byte between sequences starts one. -/
theorem marksFrom_between_cons (index : ℕ) (b : UInt8) (r : List UInt8) :
    marksFrom index .between (b :: r) =
      (enter index b).1 ++ marksFrom (index + 1) (enter index b).2 r :=
  rfl

/-- A byte inside a sequence continues it, or else ends it and starts the next one. -/
theorem marksFrom_inside_cons (index start value : ℕ) (next : UInt8 × UInt8) (later : Expected)
    (b : UInt8) (r : List UInt8) :
    marksFrom index (.inside start value next later) (b :: r) =
      if next.1 ≤ b && b ≤ next.2 then
        match later with
        | [] => .char (Char.ofNat (value * 64 + b.toNat % 64)) ::
            marksFrom (index + 1) .between r
        | next :: later =>
          marksFrom (index + 1) (.inside start (value * 64 + b.toNat % 64) next later) r
      else
        .fault ⟨.invalid (index - start), start⟩ ::
          (enter index b).1 ++ marksFrom (index + 1) (enter index b).2 r :=
  rfl

/-- The last byte of a sequence completes the character. -/
theorem marksFrom_last (h : Continues next m) :
    marksFrom index (.inside start value next []) (UInt8.ofNat (m + 0x80) :: r) =
      .char (Char.ofNat (value * 64 + m)) :: marksFrom (index + 1) .between r := by
  rw [marksFrom_inside_cons, if_pos h.within, h.bits]

/-- Any other byte of a sequence adds its bits to those read before. -/
theorem marksFrom_inside {next' : UInt8 × UInt8} (h : Continues next m) :
    marksFrom index (.inside start value next (next' :: later)) (UInt8.ofNat (m + 0x80) :: r) =
      marksFrom (index + 1) (.inside start (value * 64 + m) next' later) r := by
  rw [marksFrom_inside_cons, if_pos h.within, h.bits]

/-- The range holds only bytes that lead no sequence. -/
def IsRange (range : UInt8 × UInt8) : Prop :=
  0x80 ≤ range.1.toNat ∧ range.2.toNat < 0xC0

theorem isRange_continuation : IsRange continuation := by
  simp [IsRange, continuation]

theorem isRange_secondOfThree : IsRange (secondOfThree n) := by
  unfold secondOfThree
  split_ifs <;> simp [IsRange, continuation]

theorem isRange_secondOfFour : IsRange (secondOfFour n) := by
  unfold secondOfFour
  split_ifs <;> simp [IsRange, continuation]

/-- A byte that does not end its sequence with a fault continues it. -/
theorem exists_continues (hn : IsRange next)
    (h : marksFrom index (.inside start value next later) bytes = .char c :: ms) :
    ∃ m r, bytes = UInt8.ofNat (m + 0x80) :: r ∧ Continues next m := by
  obtain ⟨low, high⟩ := next
  cases bytes with
  | nil => cases h
  | cons b r =>
    rw [marksFrom_inside_cons] at h
    split at h
    · next hb =>
      rw [Bool.and_eq_true, decide_eq_true_eq, decide_eq_true_eq, UInt8.le_iff_toNat_le,
        UInt8.le_iff_toNat_le] at hb
      -- within its range the byte is a continuation byte: its six bits are what is above 0x80
      have hl : 0x80 ≤ b.toNat := Nat.le_trans hn.1 hb.1
      have hh : b.toNat < 0xC0 := Nat.lt_of_le_of_lt hb.2 hn.2
      have hm : b.toNat - 0x80 + 0x80 = b.toNat := Nat.sub_add_cancel hl
      refine ⟨b.toNat - 0x80, r, by rw [hm, UInt8.ofNat_toNat], ?_⟩
      unfold Continues
      rw [hm]
      exact ⟨hb.1, hb.2, by omega⟩
    · cases h

theorem marksFrom_one (h : n < 0x80) :
    marksFrom index .between (UInt8.ofNat n :: r) =
      .char (Char.ofNat n) :: marksFrom (index + 1) .between r := by
  rw [marksFrom_between_cons, enter, lead?_one n h]
  rfl

/-- A leading byte leaves its bits and what has to follow it. -/
theorem marksFrom_lead {b : UInt8} (h : lead? b = some (value, next :: later)) :
    marksFrom index .between (b :: r) =
      marksFrom (index + 1) (.inside index value next later) r := by
  rw [marksFrom_between_cons, enter, h]
  rfl

/-- A sequence that has been started leaves a mark. -/
theorem marksFrom_inside_ne_nil (index start value : ℕ) (next : UInt8 × UInt8) (later : Expected)
    (bytes : List UInt8) : marksFrom index (.inside start value next later) bytes ≠ [] := by
  induction bytes generalizing index value next later with
  | nil => exact List.cons_ne_nil _ _
  | cons b r ih =>
    rw [marksFrom_inside_cons]
    split
    · -- what is still to come may be nothing, but then a character is complete
      cases later with
      | nil => exact List.cons_ne_nil _ _
      | cons next later => exact ih _ _ _ _
    · exact List.cons_ne_nil _ _

theorem marksFrom_ne_nil (index : ℕ) (b : UInt8) (r : List UInt8) :
    marksFrom index .between (b :: r) ≠ [] := by
  rw [marksFrom_between_cons, enter]
  split
  · exact List.cons_ne_nil _ _
  · exact marksFrom_inside_ne_nil _ _ _ _ _ _
  · exact List.cons_ne_nil _ _

/-! ## Sequences -/

/-- **The sequences that are read as a character**: a leading byte, and as many bytes behind it as
it asks for, each in its range. -/
inductive Sequence : Char → List UInt8 → Prop
  | one {n : ℕ} (lead : n < 0x80) : Sequence (Char.ofNat n) [UInt8.ofNat n]
  | two {n m : ℕ} (lead : n < 0x1E) (second : Continues continuation m) :
      Sequence (Char.ofNat ((n + 2) * 64 + m)) [UInt8.ofNat (n + 0xC2), UInt8.ofNat (m + 0x80)]
  | three {n m k : ℕ} (lead : n < 0x10) (second : Continues (secondOfThree n) m)
      (third : Continues continuation k) :
      Sequence (Char.ofNat ((n * 64 + m) * 64 + k))
        [UInt8.ofNat (n + 0xE0), UInt8.ofNat (m + 0x80), UInt8.ofNat (k + 0x80)]
  | four {n m k l : ℕ} (lead : n < 5) (second : Continues (secondOfFour n) m)
      (third : Continues continuation k) (fourth : Continues continuation l) :
      Sequence (Char.ofNat (((n * 64 + m) * 64 + k) * 64 + l))
        [UInt8.ofNat (n + 0xF0), UInt8.ofNat (m + 0x80), UInt8.ofNat (k + 0x80),
          UInt8.ofNat (l + 0x80)]

/-- A sequence is read as its character, whatever follows. -/
theorem Sequence.marksFrom (h : Sequence c bytes) (index : ℕ) (r : List UInt8) :
    ∃ later, marksFrom index .between (bytes ++ r) = .char c :: marksFrom later .between r := by
  cases h with
  | one lead => exact ⟨_, marksFrom_one lead⟩
  | two lead second =>
    simp only [List.cons_append, List.nil_append]
    rw [marksFrom_lead (lead?_two _ lead), marksFrom_last second]
    exact ⟨_, rfl⟩
  | three lead second third =>
    simp only [List.cons_append, List.nil_append]
    rw [marksFrom_lead (lead?_three _ lead), marksFrom_inside second, marksFrom_last third]
    exact ⟨_, rfl⟩
  | four lead second third fourth =>
    simp only [List.cons_append, List.nil_append]
    rw [marksFrom_lead (lead?_four _ lead), marksFrom_inside second, marksFrom_inside third,
      marksFrom_last fourth]
    exact ⟨_, rfl⟩

/-- A character that is read first has a sequence in front of the bytes. -/
theorem exists_sequence (h : marksFrom index .between bytes = .char c :: ms) :
    ∃ front back later, bytes = front ++ back ∧ Sequence c front ∧
      ms = marksFrom later .between back := by
  cases bytes with
  | nil => cases h
  | cons b r =>
    rcases lead_cases b with hb | ⟨n, hn, rfl⟩ | ⟨n, hn, rfl⟩ | ⟨n, hn, rfl⟩ | ⟨n, hn, rfl⟩
    · -- a fault would have been read first
      rw [marksFrom_between_cons, enter, hb] at h
      cases h
    · rw [marksFrom_one hn] at h
      cases h
      exact ⟨_, r, _, rfl, .one hn, rfl⟩
    · rw [marksFrom_lead (lead?_two n hn)] at h
      obtain ⟨m, r, rfl, hm⟩ := exists_continues isRange_continuation h
      rw [marksFrom_last hm] at h
      cases h
      exact ⟨_, r, _, rfl, .two hn hm, rfl⟩
    · rw [marksFrom_lead (lead?_three n hn)] at h
      obtain ⟨m, r, rfl, hm⟩ := exists_continues isRange_secondOfThree h
      rw [marksFrom_inside hm] at h
      obtain ⟨k, r, rfl, hk⟩ := exists_continues isRange_continuation h
      rw [marksFrom_last hk] at h
      cases h
      exact ⟨_, r, _, rfl, .three hn hm hk, rfl⟩
    · rw [marksFrom_lead (lead?_four n hn)] at h
      obtain ⟨m, r, rfl, hm⟩ := exists_continues isRange_secondOfFour h
      rw [marksFrom_inside hm] at h
      obtain ⟨k, r, rfl, hk⟩ := exists_continues isRange_continuation h
      rw [marksFrom_inside hk] at h
      obtain ⟨l, r, rfl, hl⟩ := exists_continues isRange_continuation h
      rw [marksFrom_last hl] at h
      cases h
      exact ⟨_, r, _, rfl, .four hn hm hk hl, rfl⟩

theorem toNat_ofNat (h : n < 0xD800 ∨ 0xDFFF < n ∧ n < 0x110000) : (Char.ofNat n).val.toNat = n := by
  rw [Char.ofNat, dif_pos h]
  rfl

/-- A sequence is the encoding of its character. -/
theorem Sequence.eq_utf8EncodeChar (h : Sequence c bytes) : bytes = String.utf8EncodeChar c := by
  unfold String.utf8EncodeChar
  -- each field of the encoding gives back the number that the byte was written from
  cases h with
  | @one n lead =>
    rw [toNat_ofNat (by omega)]
    simp only [if_pos (show n ≤ 127 by omega)]
  | @two n m lead second =>
    rw [continues_continuation_iff] at second
    have hlead : ((n + 2) * 64 + m) / 64 % 32 + 192 = n + 0xC2 := by omega
    have hsecond : ((n + 2) * 64 + m) % 64 = m := by omega
    rw [toNat_ofNat (by omega)]
    simp only
    rw [if_neg (by omega), if_pos (by omega), hlead, hsecond]
  | @three n m k lead second third =>
    rw [continues_secondOfThree_iff] at second
    rw [continues_continuation_iff] at third
    have hlead : ((n * 64 + m) * 64 + k) / 4096 % 16 = n := by omega
    have hsecond : ((n * 64 + m) * 64 + k) / 64 % 64 = m := by omega
    have hthird : ((n * 64 + m) * 64 + k) % 64 = k := by omega
    rw [toNat_ofNat (by omega)]
    simp only
    rw [if_neg (by omega), if_neg (by omega), if_pos (by omega), hlead, hsecond, hthird]
  | @four n m k l lead second third fourth =>
    rw [continues_secondOfFour_iff] at second
    rw [continues_continuation_iff] at third fourth
    have hlead : (((n * 64 + m) * 64 + k) * 64 + l) / 262144 % 8 = n := by omega
    have hsecond : (((n * 64 + m) * 64 + k) * 64 + l) / 4096 % 64 = m := by omega
    have hthird : (((n * 64 + m) * 64 + k) * 64 + l) / 64 % 64 = k := by omega
    have hfourth : (((n * 64 + m) * 64 + k) * 64 + l) % 64 = l := by omega
    rw [toNat_ofNat (by omega)]
    simp only
    rw [if_neg (by omega), if_neg (by omega), if_neg (by omega), hlead, hsecond, hthird, hfourth]

/-- Every character has a sequence: its bits, six at a time from the end. -/
theorem exists_sequence_of_char (c : Char) : ∃ bytes, Sequence c bytes := by
  have hvalid : c.toNat < 0xD800 ∨ 0xDFFF < c.toNat ∧ c.toNat < 0x110000 := c.valid
  have hlast : Continues continuation (c.toNat % 64) := continues_continuation_iff.mpr (by omega)
  have hthird : Continues continuation (c.toNat / 64 % 64) :=
    continues_continuation_iff.mpr (by omega)
  rw [← Char.ofNat_toNat c]
  generalize c.toNat = n at *
  -- by the number of bytes; the ranges keep out overlong forms and surrogates
  by_cases h₁ : n < 0x80
  · exact ⟨_, .one h₁⟩
  by_cases h₂ : n < 0x800
  · have hvalue : (n / 64 - 2 + 2) * 64 + n % 64 = n := by omega
    have hs := Sequence.two (n := n / 64 - 2) (by omega) hlast
    rw [hvalue] at hs
    exact ⟨_, hs⟩
  by_cases h₃ : n < 0x10000
  · have hvalue : (n / 4096 * 64 + n / 64 % 64) * 64 + n % 64 = n := by omega
    have hsecond : Continues (secondOfThree (n / 4096)) (n / 64 % 64) :=
      continues_secondOfThree_iff.mpr (by omega)
    have hs := Sequence.three (by omega) hsecond hlast
    rw [hvalue] at hs
    exact ⟨_, hs⟩
  · have hvalue : ((n / 262144 * 64 + n / 4096 % 64) * 64 + n / 64 % 64) * 64 + n % 64 = n := by
      omega
    have hsecond : Continues (secondOfFour (n / 262144)) (n / 4096 % 64) :=
      continues_secondOfFour_iff.mpr (by omega)
    have hs := Sequence.four (by omega) hsecond hthird hlast
    rw [hvalue] at hs
    exact ⟨_, hs⟩

/-- **The only sequence of a character is its encoding.** -/
theorem sequence_iff : Sequence c bytes ↔ bytes = String.utf8EncodeChar c := by
  constructor
  · exact Sequence.eq_utf8EncodeChar
  · rintro rfl
    obtain ⟨bytes, h⟩ := exists_sequence_of_char c
    rwa [← h.eq_utf8EncodeChar]

/-- An ASCII byte is the whole encoding of its character. -/
theorem eq_of_ascii_mem (h : b ∈ String.utf8EncodeChar c) (hb : b.toNat < 0x80) :
    String.utf8EncodeChar c = [b] ∧ c = Char.ofNat b.toNat := by
  have hs : Sequence c (String.utf8EncodeChar c) := sequence_iff.mpr rfl
  generalize String.utf8EncodeChar c = bytes at h hs
  -- every byte of a longer sequence is above ASCII
  have hhigh : ∀ n, 0x80 ≤ n → n < 0x100 → b ≠ UInt8.ofNat n := by
    rintro n hl hh rfl
    rw [UInt8.toNat_ofNat'] at hb
    omega
  have hbehind : ∀ {next : UInt8 × UInt8} {m : ℕ}, Continues next m → b ≠ UInt8.ofNat (m + 0x80) :=
    fun hm => hhigh _ (by omega) (by have := hm.2.2; omega)
  cases hs with
  | @one n lead =>
    rw [List.mem_singleton] at h
    rw [h, UInt8.toNat_ofNat', Nat.mod_eq_of_lt (by omega)]
    exact ⟨rfl, rfl⟩
  | two lead second =>
    simp only [List.mem_cons, List.not_mem_nil, or_false, hbehind second] at h
    exact absurd h (hhigh _ (by omega) (by omega))
  | three lead second third =>
    simp only [List.mem_cons, List.not_mem_nil, or_false, hbehind second, hbehind third] at h
    exact absurd h (hhigh _ (by omega) (by omega))
  | four lead second third fourth =>
    simp only [List.mem_cons, List.not_mem_nil, or_false, hbehind second, hbehind third,
      hbehind fourth] at h
    exact absurd h (hhigh _ (by omega) (by omega))

/-! ## Texts -/

theorem encode_cons (c : Char) (t : Text) : encode (c :: t) = String.utf8EncodeChar c ++ encode t :=
  List.flatMap_cons

theorem encode_append (s t : Text) : encode (s ++ t) = encode s ++ encode t :=
  List.flatMap_append

/-- An ASCII byte in front of the bytes of a text is its first character. -/
theorem exists_ascii_of_encode (h : encode t = b :: r) (hb : b.toNat < 0x80) :
    ∃ s, t = Char.ofNat b.toNat :: s ∧ r = encode s := by
  cases t with
  | nil => cases h
  | cons d s =>
    rw [encode_cons] at h
    have hmem : b ∈ String.utf8EncodeChar d := by
      obtain ⟨b', w, hw⟩ := List.exists_cons_of_ne_nil (String.utf8EncodeChar_ne_nil (c := d))
      rw [hw] at h ⊢
      rw [(List.cons.inj h).1]
      exact List.mem_cons_self
    obtain ⟨hd, rfl⟩ := eq_of_ascii_mem hmem hb
    rw [hd] at h
    exact ⟨s, rfl, (List.cons.inj h).2.symm⟩

/-- An ASCII text has one byte for every character. -/
theorem encode_of_ascii {t : Text} (h : ∀ c ∈ t, c.toNat < 0x80) :
    encode t = t.map fun c => UInt8.ofNat c.toNat := by
  induction t with
  | nil => rfl
  | cons c t ih =>
    have hc : c.val.toNat ≤ 127 := Nat.le_of_lt_succ (h c List.mem_cons_self)
    rw [encode_cons, ih fun d hd => h d (List.mem_cons_of_mem c hd), String.utf8EncodeChar]
    simp only [if_pos hc]
    rfl

/-- **The bytes of a text are its characters**, without a fault. -/
theorem marks_encode (t : Text) : marks (encode t) = t.map .char := by
  have hfrom : ∀ index, marksFrom index .between (encode t) = t.map .char := by
    induction t with
    | nil => exact fun _ => rfl
    | cons c t ih =>
      intro index
      obtain ⟨later, hc⟩ := (sequence_iff.mpr rfl).marksFrom index (encode t)
      rw [encode_cons, hc, ih, List.map_cons]
  exact hfrom 0

/-- Only the bytes of a text are its characters. -/
theorem encode_of_marks (h : marksFrom index .between bytes = t.map .char) : encode t = bytes := by
  induction t generalizing index bytes with
  | nil =>
    cases bytes with
    | nil => rfl
    | cons b r =>
      -- no byte goes unread
      exact absurd h (marksFrom_ne_nil index b r)
  | cons c t ih =>
    obtain ⟨front, back, later, rfl, hc, ht⟩ := exists_sequence h
    rw [encode_cons, ih ht.symm, sequence_iff.mp hc]

theorem text_map_char (t : Text) : Mark.text (t.map .char) = .ok t := by
  induction t with
  | nil => rfl
  | cons c t ih =>
    rw [List.map_cons, Mark.text, ih]
    rfl

theorem eq_map_char_of_text (h : Mark.text ms = .ok t) : ms = t.map .char := by
  fun_induction Mark.text ms generalizing t with
  | case1 =>
    cases h
    rfl
  | case2 c r ih =>
    cases hr : Mark.text r with
    | error f =>
      rw [hr] at h
      cases h
    | ok s =>
      rw [hr] at h
      cases h
      rw [ih hr, List.map_cons]
  | case3 f r => cases h

/-- **Bytes are decoded to a text exactly if they are its bytes.** -/
theorem decode_eq_ok_iff : decode bytes = .ok t ↔ bytes = encode t := by
  constructor
  · exact fun h => (encode_of_marks (eq_map_char_of_text h)).symm
  · rintro rfl
    rw [decode, marks_encode, text_map_char]

theorem decode_encode (t : Text) : decode (encode t) = .ok t :=
  decode_eq_ok_iff.mpr rfl

theorem decodeLossy_encode (t : Text) : decodeLossy (encode t) = t := by
  rw [decodeLossy, marks_encode, List.map_map]
  exact List.map_id t

end VoxelScore.Utf8
