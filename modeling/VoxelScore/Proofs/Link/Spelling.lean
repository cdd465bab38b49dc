import VoxelScore.Proofs.Link.Percent
import VoxelScore.Proofs.Text.Trimming

/-!
# Spellings of a text

One text can be spelled in many ways. Any of its ASCII characters may stand as a percent escape, with
digits of either case, and blanks may be scattered over the result, also between a percent sign and
its digits. A reader that drops the blanks first and then resolves the escapes finds the text again,
whichever spelling was chosen: escapes are written without blanks, so that the blanks to drop are
those that were put in.

## Main definitions

* `Text.Scattered`: a text with blanks put in anywhere
* `Percent.IsDigitOf`: a hexadecimal digit in either case
* `Percent.Spells`: a text with any of its characters escaped

## Main results

* `Text.Scattered.filter`: dropping the blanks gives the text back
* `Percent.Spells.decode`: resolving the escapes gives the bytes of the text
-/

namespace VoxelScore

variable {c h l : Char} {s t : Text}

/-! ## Scattered blanks -/

namespace Text

/-- The second text is the first one with blanks put in anywhere. -/
inductive Scattered : Text → Text → Prop
  | nil : Scattered [] []
  | keep (c : Char) {s t : Text} (behind : Scattered s t) : Scattered (c :: s) (c :: t)
  | blank {c : Char} {s t : Text} (hc : isBlank c) (behind : Scattered s t) : Scattered s (c :: t)

/-- No blank needs to be put in. -/
theorem scattered_self (s : Text) : Scattered s s := by
  induction s with
  | nil => exact .nil
  | cons c s ih => exact .keep c ih

/-- Every text is what is left without its blanks, and the blanks put in. -/
theorem scattered_filter (t : Text) : Scattered (t.filter (!isBlank ·)) t := by
  induction t with
  | nil => exact .nil
  | cons c t ih =>
    cases hc : isBlank c with
    | false =>
      rw [List.filter_cons_of_pos (by rw [hc]; rfl)]
      exact .keep c ih
    | true =>
      rw [List.filter_cons_of_neg (by rw [hc]; exact Bool.false_ne_true)]
      exact .blank hc ih

/-- **Dropping the blanks gives the text back**, if it has none of its own. -/
theorem Scattered.filter (h : Scattered s t) (hs : IsSolid s) : t.filter (!isBlank ·) = s := by
  induction h with
  | nil => rfl
  | keep c _ ih =>
    have hc : isBlank c = false := hs c List.mem_cons_self
    rw [List.filter_cons_of_pos (by rw [hc]; rfl)]
    exact congrArg (c :: ·) (ih fun d hd => hs d (List.mem_cons_of_mem c hd))
  | blank hc _ ih =>
    rw [List.filter_cons_of_neg (by rw [hc]; exact Bool.false_ne_true)]
    exact ih hs

end Text

/-! ## Escaped characters -/

namespace Percent

/-- The character is the hexadecimal digit of a value, as a capital or as a small letter. -/
def IsDigitOf (v : UInt8) (c : Char) : Prop := c ∈ [hexDigit v, (hexDigit v).toLower]

instance (v : UInt8) (c : Char) : Decidable (IsDigitOf v c) :=
  inferInstanceAs (Decidable (c ∈ [hexDigit v, (hexDigit v).toLower]))

/-- The byte of an ASCII character. -/
def asciiByte (c : Char) : UInt8 := UInt8.ofNat c.toNat

/-- **The second text spells the first one**: every character stands as it is or, if it is an ASCII
character, as the escape of its byte. -/
inductive Spells : Text → Text → Prop
  | nil : Spells [] []
  | raw (c : Char) {s t : Text} (behind : Spells s t) : Spells (c :: s) (c :: t)
  | escaped {c h l : Char} {s t : Text} (ascii : c.toNat < 0x80)
      (high : IsDigitOf (asciiByte c / 16) h) (low : IsDigitOf (asciiByte c % 16) l)
      (behind : Spells s t) : Spells (c :: s) ('%' :: h :: l :: t)

theorem spells_self (s : Text) : Spells s s := by
  induction s with
  | nil => exact .nil
  | cons c s ih => exact .raw c ih

theorem Spells.append {s' t' : Text} (hs : Spells s t) (hs' : Spells s' t') :
    Spells (s ++ s') (t ++ t') := by
  induction hs with
  | nil => exact hs'
  | raw c _ ih => exact .raw c ih
  | escaped ascii high low _ ih => exact .escaped ascii high low ih

/-! ### Digits -/

/-- The digits of both halves of a byte, in either case, are hexadecimal digits and are read as those
halves. -/
theorem isDigitOf_halves (b : UInt8) :
    (∀ h, IsDigitOf (b / 16) h → h ∈ hexDigits ∧ hexValue? (asciiByte h) = some (b / 16)) ∧
      ∀ l, IsDigitOf (b % 16) l → l ∈ hexDigits ∧ hexValue? (asciiByte l) = some (b % 16) := by
  have hread : ∀ v : UInt8, [hexDigit v, (hexDigit v).toLower].all
      (fun c => c ∈ hexDigits ∧ hexValue? (asciiByte c) = some v) →
      ∀ c, IsDigitOf v c → c ∈ hexDigits ∧ hexValue? (asciiByte c) = some v := by
    intro v hall c hc
    simpa using List.all_eq_true.mp hall c hc
  obtain ⟨hhigh, hlow⟩ := forall_nibble (P := fun v => [hexDigit v, (hexDigit v).toLower].all
    fun c => c ∈ hexDigits ∧ hexValue? (asciiByte c) = some v) (by decide +kernel) b
  exact ⟨hread _ hhigh, hread _ hlow⟩

/-! ### Characters of spellings -/

/-- A spelling has the characters of its text, and those that escapes are written with. -/
theorem Spells.mem (h : Spells s t) (hc : c ∈ t) : c ∈ s ∨ c ∈ escapeAlphabet := by
  induction h with
  | nil => cases hc
  | raw d _ ih =>
    rcases List.mem_cons.mp hc with rfl | hc
    · exact Or.inl List.mem_cons_self
    · exact (ih hc).imp_left (List.mem_cons_of_mem d)
  | escaped ascii high low _ ih =>
    have hh := ((isDigitOf_halves _).1 _ high).1
    have hl := ((isDigitOf_halves _).2 _ low).1
    simp only [List.mem_cons] at hc
    rcases hc with rfl | rfl | rfl | hc
    · exact Or.inr List.mem_cons_self
    · exact Or.inr (List.mem_cons_of_mem _ hh)
    · exact Or.inr (List.mem_cons_of_mem _ hl)
    · exact (ih hc).imp_left (List.mem_cons_of_mem _)

theorem Spells.isSolid (h : Spells s t) (hs : Text.IsSolid s) : Text.IsSolid t := by
  have hescape : escapeAlphabet.all (!Text.isBlank ·) := by decide
  intro c hc
  rcases h.mem hc with hc | hc
  · exact hs c hc
  · simpa using List.all_eq_true.mp hescape c hc

/-! ### Reading -/

/-- No byte of another character is a percent sign. -/
theorem ne_sign_of_mem_encode {b : UInt8} (hc : c ≠ '%') (hb : b ∈ String.utf8EncodeChar c) :
    b ≠ 0x25 := by
  rintro rfl
  obtain ⟨-, hsign⟩ := Utf8.eq_of_ascii_mem hb (by decide)
  exact hc hsign

theorem encode_ascii_cons (hc : c.toNat < 0x80) (t : Text) :
    Utf8.encode (c :: t) = asciiByte c :: Utf8.encode t := by
  have hsingle : Utf8.encode [c] = [asciiByte c] :=
    Utf8.encode_of_ascii fun d hd => by rwa [List.mem_singleton.mp hd]
  rw [← List.singleton_append, Utf8.encode_append, hsingle]
  rfl

/-- An escape with digits of either case is read as its byte. -/
theorem decode_isDigitOf {b : UInt8} (high : IsDigitOf (b / 16) h) (low : IsDigitOf (b % 16) l)
    (t : Text) : decode (Utf8.encode ('%' :: h :: l :: t)) = b :: decode (Utf8.encode t) := by
  obtain ⟨hh, hhigh⟩ := (isDigitOf_halves b).1 h high
  obtain ⟨hl, hlow⟩ := (isDigitOf_halves b).2 l low
  have hascii : ∀ d ∈ hexDigits, d.toNat < 0x80 := fun d hd =>
    ascii_of_mem_escapeAlphabet (List.mem_cons_of_mem _ hd)
  rw [encode_ascii_cons (by decide), encode_ascii_cons (hascii h hh),
    encode_ascii_cons (hascii l hl)]
  exact (decode_escape hhigh hlow _).trans (by rw [join_halves])

/-- **A spelling is read as its text**, if the text has no percent sign of its own. -/
theorem Spells.decode (h : Spells s t) (hs : '%' ∉ s) :
    Percent.decode (Utf8.encode t) = Utf8.encode s := by
  induction h with
  | nil => rfl
  | raw c _ ih =>
    have hc : c ≠ '%' := fun he => hs (he ▸ List.mem_cons_self)
    rw [Utf8.encode_cons, decode_append_plain fun b hb => ne_sign_of_mem_encode hc hb,
      ih fun hm => hs (List.mem_cons_of_mem c hm), Utf8.encode_cons]
  | escaped ascii high low _ ih =>
    rw [decode_isDigitOf high low, ih fun hm => hs (List.mem_cons_of_mem _ hm),
      encode_ascii_cons ascii]

theorem Spells.decodeText (h : Spells s t) (hs : '%' ∉ s) : decodeText t = .ok s := by
  rw [Percent.decodeText, h.decode hs, Utf8.decode_encode]

end Percent

end VoxelScore
