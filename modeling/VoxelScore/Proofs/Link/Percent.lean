import VoxelScore.Link.Percent
import VoxelScore.Proofs.Text.Utf8

/-!
# Percent escapes read back

What is written as escapes is read as the bytes that were written, and bytes that start no escape
are read as they are.

## Main definitions

* `StartsEscape`: bytes with a complete escape in front
* `escapeAll`: a text with all of its bytes written as escapes

## Main results

* `decode_escape`, `decode_cons`: one step of reading
* `escape_induction`: induction on what the steps of reading take
* `decode_escapeAll`: escapes are read as the bytes that they write
* `escape_of_kept`: writing leaves a text of kept characters as it is
-/

namespace VoxelScore.Percent

variable {b h l x y : UInt8} {r s : List UInt8} {c : Char} {t : Text}

/-! ## Bytes -/

/-- The bytes start with a complete escape. -/
def StartsEscape (bytes : List UInt8) : Prop :=
  ∃ h l r, bytes = 0x25 :: h :: l :: r ∧ (hexValue? h).isSome ∧ (hexValue? l).isSome

theorem decode_escape (hh : hexValue? h = some x) (hl : hexValue? l = some y) (r : List UInt8) :
    decode (0x25 :: h :: l :: r) = (x * 16 + y) :: decode r := by
  rw [decode, hh, hl]

theorem decode_cons (hn : ¬ StartsEscape (b :: r)) : decode (b :: r) = b :: decode r := by
  rw [decode.eq_def]
  split
  · next h l r' he =>
    cases he
    split
    · next hh hl => exact absurd ⟨h, l, r', rfl, by simp [hh], by simp [hl]⟩ hn
    · rfl
  · next he => cases he; rfl
  · next he => cases he

theorem decode_cons_of_ne (hb : b ≠ 0x25) (r : List UInt8) : decode (b :: r) = b :: decode r := by
  refine decode_cons ?_
  rintro ⟨h, l, r', he, -⟩
  exact hb (List.cons.inj he).1

/-- **Induction on escapes.** Bytes are none, a complete escape and other bytes, or a byte that
starts no escape and other bytes. -/
theorem escape_induction {P : List UInt8 → Prop} (nil : P [])
    (escape : ∀ h l r x y, hexValue? h = some x → hexValue? l = some y → P r →
      P (0x25 :: h :: l :: r))
    (plain : ∀ b r, ¬ StartsEscape (b :: r) → P r → P (b :: r)) (bytes : List UInt8) : P bytes := by
  fun_induction decode bytes with
  | case1 h l r x y hl hh ih => exact escape h l r x y hh hl ih
  | case2 h l r hnot ih =>
    -- two bytes follow the sign, but not both are digits
    refine plain _ _ ?_ ih
    rintro ⟨h', l', r', he, hh, hl⟩
    cases he
    obtain ⟨x, hx⟩ := Option.isSome_iff_exists.mp hh
    obtain ⟨y, hy⟩ := Option.isSome_iff_exists.mp hl
    exact hnot x y hx hy
  | case3 b r hshort ih =>
    -- no sign, or fewer than two bytes behind it
    refine plain _ _ ?_ ih
    rintro ⟨h', l', r', he, -⟩
    obtain ⟨rfl, rfl⟩ := List.cons.inj he
    exact hshort h' l' r' rfl rfl
  | case4 => exact nil

/-- Bytes that start no escape stand for themselves. -/
theorem decode_append_plain (hs : ∀ b ∈ s, b ≠ 0x25) (r : List UInt8) :
    decode (s ++ r) = s ++ decode r := by
  induction s with
  | nil => rfl
  | cons b s ih =>
    rw [List.cons_append, decode_cons_of_ne (hs b List.mem_cons_self),
      ih fun d hd => hs d (List.mem_cons_of_mem b hd)]
    rfl

/-! ## Escapes as they are written -/

/-- The hexadecimal digits, in either case. -/
def hexDigits : Text :=
  (List.range' 0x30 10 ++ List.range' 0x41 6 ++ List.range' 0x61 6).map Char.ofNat

/-- The bytes with a hexadecimal value are those of the hexadecimal digits. -/
theorem isSome_hexValue?_iff (b : UInt8) :
    (hexValue? b).isSome ↔ b.toNat < 0x80 ∧ Char.ofNat b.toNat ∈ hexDigits := by
  revert b
  refine Utf8.forall_byte ?_
  decide +kernel

/-- A fact about both halves of a byte, from the sixteen values that they have. -/
theorem forall_nibble {P : UInt8 → Prop} (h : ∀ n < 16, P (UInt8.ofNat n)) (b : UInt8) :
    P (b / 16) ∧ P (b % 16) := by
  have hsmall : ∀ v : UInt8, v.toNat < 16 → P v := by
    intro v hv
    rw [← UInt8.ofNat_toNat (x := v)]
    exact h _ hv
  have hb := b.toNat_lt
  have hsixteen : (16 : UInt8).toNat = 16 := rfl
  constructor
  · refine hsmall _ ?_
    rw [UInt8.toNat_div, hsixteen]
    omega
  · refine hsmall _ ?_
    rw [UInt8.toNat_mod, hsixteen]
    omega

theorem hexDigit_mem (b : UInt8) :
    hexDigit (b / 16) ∈ hexDigits ∧ hexDigit (b % 16) ∈ hexDigits :=
  forall_nibble (P := fun v => hexDigit v ∈ hexDigits) (by decide +kernel) b

theorem hexValue?_hexDigit (b : UInt8) :
    hexValue? (UInt8.ofNat (hexDigit (b / 16)).toNat) = some (b / 16) ∧
      hexValue? (UInt8.ofNat (hexDigit (b % 16)).toNat) = some (b % 16) :=
  forall_nibble (P := fun v => hexValue? (UInt8.ofNat (hexDigit v).toNat) = some v)
    (by decide +kernel) b

/-- The characters that escapes are written with. -/
def escapeAlphabet : Text := '%' :: hexDigits

theorem mem_escapeAlphabet (h : c ∈ escapeByte b) : c ∈ escapeAlphabet := by
  obtain ⟨hhigh, hlow⟩ := hexDigit_mem b
  simp only [escapeByte, List.mem_cons, List.not_mem_nil, or_false] at h
  rcases h with rfl | rfl | rfl
  · exact List.mem_cons_self
  · exact List.mem_cons_of_mem _ hhigh
  · exact List.mem_cons_of_mem _ hlow

theorem ascii_of_mem_escapeAlphabet (h : c ∈ escapeAlphabet) : c.toNat < 0x80 := by
  have hall : escapeAlphabet.all (·.toNat < 0x80) := by decide
  simpa using List.all_eq_true.mp hall c h

theorem isSome_hexValue?_of_mem (h : c ∈ hexDigits) :
    (hexValue? (UInt8.ofNat c.toNat)).isSome := by
  have hascii := ascii_of_mem_escapeAlphabet (List.mem_cons_of_mem _ h)
  have hbyte : (UInt8.ofNat c.toNat).toNat = c.toNat := by
    rw [UInt8.toNat_ofNat']
    omega
  rw [isSome_hexValue?_iff, hbyte, Char.ofNat_toNat]
  exact ⟨hascii, h⟩

/-- The halves of a byte make it up. -/
theorem join_halves (b : UInt8) : b / 16 * 16 + b % 16 = b := by
  revert b
  refine Utf8.forall_byte ?_
  decide +kernel

/-- **The escape of a byte is read as the byte.** -/
theorem decode_escapeByte (b : UInt8) (r : List UInt8) :
    decode (Utf8.encode (escapeByte b) ++ r) = b :: decode r := by
  obtain ⟨hhigh, hlow⟩ := hexValue?_hexDigit b
  rw [Utf8.encode_of_ascii fun c hc => ascii_of_mem_escapeAlphabet (mem_escapeAlphabet hc)]
  exact (decode_escape hhigh hlow r).trans (by rw [join_halves])

/-- A text with all of its bytes written as escapes. -/
def escapeAll (t : Text) : Text :=
  (Utf8.encode t).flatMap escapeByte

theorem mem_escapeAlphabet_of_escapeAll (h : c ∈ escapeAll t) : c ∈ escapeAlphabet := by
  obtain ⟨b, -, hb⟩ := List.mem_flatMap.mp h
  exact mem_escapeAlphabet hb

/-- **Escapes are read as the bytes that they write.** -/
theorem decode_escapeAll (t : Text) : decode (Utf8.encode (escapeAll t)) = Utf8.encode t := by
  have hbytes : ∀ bytes : List UInt8,
      decode (Utf8.encode (bytes.flatMap escapeByte)) = bytes := by
    intro bytes
    induction bytes with
    | nil => rfl
    | cons b bytes ih => rw [List.flatMap_cons, Utf8.encode_append, decode_escapeByte, ih]
  exact hbytes _

/-- Writing leaves a text of kept characters as it is. -/
theorem escape_of_kept {kept : Char → Bool} (h : ∀ c ∈ t, kept c) : escape kept t = t := by
  induction t with
  | nil => rfl
  | cons c t ih =>
    rw [escape, List.flatMap_cons, if_pos (h c List.mem_cons_self)]
    exact congrArg (c :: ·) (ih fun d hd => h d (List.mem_cons_of_mem c hd))

end VoxelScore.Percent
