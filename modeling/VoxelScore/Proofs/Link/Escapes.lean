import VoxelScore.Proofs.Link.Percent
import VoxelScore.Proofs.Text.Trimming

/-!
# Texts that look escaped

Reading a text that was not written with escapes resolves what looks like one. The text survives
exactly if it has no complete escape. Otherwise something is lost, and trimming cannot hide it: no
blank has a part in an escape.

## Main definitions

* `HasEscape`: a text with a complete escape in it
* `escapeCount`: how many bytes could have a part in an escape

## Main results

* `decodeText_of_not_hasEscape`: a text without an escape is read as it is
* `trim_eq_trim_iff`: a text is read as itself, up to blanks at its ends, exactly if it has none
-/

namespace VoxelScore.Percent

variable {b : UInt8} {bytes r : List UInt8} {c : Char} {s t : Text}

/-- **The text has a complete escape**: a percent sign and two hexadecimal digits. -/
def HasEscape (t : Text) : Prop :=
  ∃ before high low behind, t = before ++ '%' :: high :: low :: behind ∧
    high ∈ hexDigits ∧ low ∈ hexDigits

/-! ## Texts without escapes -/

theorem hasEscape_cons (h : HasEscape t) : HasEscape (c :: t) := by
  obtain ⟨before, high, low, behind, rfl, hh, hl⟩ := h
  exact ⟨c :: before, high, low, behind, rfl, hh, hl⟩

/-- The bytes of a text start with an escape only if the text does. -/
theorem hasEscape_of_startsEscape (h : StartsEscape (Utf8.encode t)) : HasEscape t := by
  obtain ⟨high, low, r, ht, hhigh, hlow⟩ := h
  rw [isSome_hexValue?_iff] at hhigh hlow
  obtain ⟨s₁, rfl, h₁⟩ := Utf8.exists_ascii_of_encode ht (by decide)
  obtain ⟨s₂, rfl, h₂⟩ := Utf8.exists_ascii_of_encode h₁.symm hhigh.1
  obtain ⟨s₃, rfl, -⟩ := Utf8.exists_ascii_of_encode h₂.symm hlow.1
  exact ⟨[], _, _, s₃, rfl, hhigh.2, hlow.2⟩

/-- Only the percent sign has the byte that escapes start with. -/
theorem sign_of_mem (h : (0x25 : UInt8) ∈ String.utf8EncodeChar c) : c = '%' :=
  (Utf8.eq_of_ascii_mem h (by decide)).2

theorem decode_encode_of_not_hasEscape (h : ¬ HasEscape t) :
    decode (Utf8.encode t) = Utf8.encode t := by
  induction t with
  | nil => rfl
  | cons c t ih =>
    have ht := ih fun ht => h (hasEscape_cons ht)
    by_cases hc : c = '%'
    -- a sign that starts no escape is read like any other byte
    · have hn : ¬ StartsEscape (0x25 :: Utf8.encode t) := by
        intro hs
        refine h (hasEscape_of_startsEscape ?_)
        rwa [hc]
      rw [hc]
      exact (decode_cons hn).trans (by rw [ht]; rfl)
    · have hplain : ∀ b ∈ String.utf8EncodeChar c, b ≠ 0x25 := by
        rintro b hb rfl
        exact hc (sign_of_mem hb)
      rw [Utf8.encode_cons, decode_append_plain hplain, ht]

/-- **A text without an escape is read as it is.** -/
theorem decodeText_of_not_hasEscape (h : ¬ HasEscape t) : decodeText t = .ok t := by
  rw [decodeText, decode_encode_of_not_hasEscape h, Utf8.decode_encode]

/-! ## Texts with escapes -/

/-- The byte could have a part in an escape. -/
def isEscapeByte (b : UInt8) : Bool := b = 0x25 || (hexValue? b).isSome

/-- How many bytes could have a part in an escape. -/
def escapeCount (bytes : List UInt8) : ℕ := bytes.countP isEscapeByte

theorem escapeCount_cons (b : UInt8) (r : List UInt8) :
    escapeCount (b :: r) = escapeCount r + if isEscapeByte b then 1 else 0 :=
  List.countP_cons

theorem escapeCount_append (s r : List UInt8) :
    escapeCount (s ++ r) = escapeCount s + escapeCount r :=
  List.countP_append

theorem escapeCount_le_cons (b : UInt8) (r : List UInt8) :
    escapeCount r ≤ escapeCount (b :: r) ∧ escapeCount (b :: r) ≤ escapeCount r + 1 := by
  rw [escapeCount_cons]
  split <;> omega

theorem escapeCount_escape {h l : UInt8} (hh : (hexValue? h).isSome) (hl : (hexValue? l).isSome)
    (r : List UInt8) : escapeCount (0x25 :: h :: l :: r) = escapeCount r + 3 := by
  have hsign : isEscapeByte 0x25 := by decide
  have hhigh : isEscapeByte h := by rw [isEscapeByte, hh, Bool.or_true]
  have hlow : isEscapeByte l := by rw [isEscapeByte, hl, Bool.or_true]
  rw [escapeCount_cons, escapeCount_cons, escapeCount_cons, if_pos hsign, if_pos hhigh, if_pos hlow]

/-- Reading makes one byte of an escape. -/
theorem escapeCount_decode_escape {h l x y : UInt8} (hh : hexValue? h = some x)
    (hl : hexValue? l = some y) (hr : escapeCount (decode r) ≤ escapeCount r) :
    escapeCount (decode (0x25 :: h :: l :: r)) < escapeCount (0x25 :: h :: l :: r) := by
  have hbyte := (escapeCount_le_cons (x * 16 + y) (decode r)).2
  rw [decode_escape hh hl, escapeCount_escape (by simp [hh]) (by simp [hl])]
  omega

/-- Reading adds no byte that could have a part in an escape. -/
theorem escapeCount_decode_le (bytes : List UInt8) :
    escapeCount (decode bytes) ≤ escapeCount bytes := by
  induction bytes using escape_induction with
  | nil => exact Nat.le_refl _
  | escape h l r x y hh hl ih => exact (escapeCount_decode_escape hh hl ih).le
  | plain b r hn ih =>
    rw [decode_cons hn, escapeCount_cons, escapeCount_cons]
    omega

/-- Reading takes such bytes away where an escape is. -/
theorem escapeCount_decode_lt (s : List UInt8) (h : StartsEscape r) :
    escapeCount (decode (s ++ r)) < escapeCount (s ++ r) := by
  generalize he : s ++ r = bytes
  -- the escape is the first one that is resolved, or stands behind what is read first
  induction bytes using escape_induction generalizing s with
  | nil =>
    obtain ⟨_, _, _, rfl, -⟩ := h
    simp at he
  | escape h l r x y hh hl _ =>
    exact escapeCount_decode_escape hh hl (escapeCount_decode_le r)
  | plain b r' hn ih =>
    cases s with
    | nil => exact absurd (he ▸ h) hn
    | cons b' s =>
      have hlt := ih s (List.cons.inj he).2
      rw [decode_cons hn, escapeCount_cons, escapeCount_cons]
      omega

theorem escapeCount_decode_encode_lt (h : HasEscape t) :
    escapeCount (decode (Utf8.encode t)) < escapeCount (Utf8.encode t) := by
  obtain ⟨before, high, low, behind, rfl, hhigh, hlow⟩ := h
  -- the three characters are ASCII: the escape is three bytes among those of the text
  have hescape : ∀ c ∈ ['%', high, low], c ∈ escapeAlphabet := by
    intro c hc
    simp only [List.mem_cons, List.not_mem_nil, or_false] at hc
    rcases hc with rfl | rfl | rfl
    · exact List.mem_cons_self
    · exact List.mem_cons_of_mem _ hhigh
    · exact List.mem_cons_of_mem _ hlow
  have hbytes : Utf8.encode ('%' :: high :: low :: behind) =
      0x25 :: UInt8.ofNat high.toNat :: UInt8.ofNat low.toNat :: Utf8.encode behind := by
    have happend := Utf8.encode_append ['%', high, low] behind
    rwa [Utf8.encode_of_ascii fun c hc => ascii_of_mem_escapeAlphabet (hescape c hc)] at happend
  rw [Utf8.encode_append, hbytes]
  exact escapeCount_decode_lt _
    ⟨_, _, _, rfl, isSome_hexValue?_of_mem hhigh, isSome_hexValue?_of_mem hlow⟩

/-- Blanks have no part in escapes. -/
theorem escapeCount_of_blank (h : Text.IsBlankText t) : escapeCount (Utf8.encode t) = 0 := by
  have hbyte : ∀ b, isEscapeByte b →
      b.toNat < 0x80 ∧ Text.isBlank (Char.ofNat b.toNat) = false := by
    refine Utf8.forall_byte ?_
    decide +kernel
  refine List.countP_eq_zero.mpr fun b hb hescape => ?_
  obtain ⟨c, hc, hbc⟩ := List.mem_flatMap.mp hb
  obtain ⟨hascii, hsolid⟩ := hbyte b hescape
  obtain ⟨-, rfl⟩ := Utf8.eq_of_ascii_mem hbc hascii
  rw [h _ hc] at hsolid
  cases hsolid

theorem escapeCount_trim (t : Text) :
    escapeCount (Utf8.encode (Text.trim t)) = escapeCount (Utf8.encode t) := by
  obtain ⟨front, back, hf, hb, ht⟩ := Text.exists_trim t
  have hcount : escapeCount (Utf8.encode t) =
      escapeCount (Utf8.encode (front ++ Text.trim t ++ back)) := by rw [← ht]
  rw [hcount, Utf8.encode_append, Utf8.encode_append, escapeCount_append, escapeCount_append,
    escapeCount_of_blank hf, escapeCount_of_blank hb, Nat.zero_add, Nat.add_zero]

/-- **A text is read as itself**, up to blanks at its ends, exactly if it has no escape. -/
theorem trim_eq_trim_iff (h : decodeText s = .ok t) :
    Text.trim t = Text.trim s ↔ ¬ HasEscape s := by
  constructor
  · intro htrim hs
    have hbytes : decode (Utf8.encode s) = Utf8.encode t := Utf8.decode_eq_ok_iff.mp h
    -- the bytes of both texts would hold equally many, since trimming takes none away
    have hlt := escapeCount_decode_encode_lt hs
    rw [hbytes, ← escapeCount_trim t, htrim, escapeCount_trim s] at hlt
    exact Nat.lt_irrefl _ hlt
  · intro hn
    rw [decodeText_of_not_hasEscape hn] at h
    cases h
    rfl

end VoxelScore.Percent
