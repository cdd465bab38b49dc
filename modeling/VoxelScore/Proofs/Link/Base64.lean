import Mathlib.Data.List.TakeWhile
import VoxelScore.Link.Base64

/-!
# Base64 read back

Bytes are written as symbols of six bits each, the last of them filled up with zeros, and padding
may complete the last group of four symbols. Reading gives the bytes again, padded or not.

## Main definitions

* `alphabet`, `symbol`: the standard alphabet
* `unpack`: the bits of bytes, six at a time
* `padCount`: how much padding completes the last group

## Main results

* `pack_unpack`: no bit is lost
* `decode_symbols`: symbols are read as their bits, whatever padding is allowed behind them
* `decode_unpack`: the symbols of bytes are read as the bytes
-/

namespace VoxelScore.Base64

variable {offset n : ℕ} {vs : List (Fin 64)} {bytes : List UInt8}

/-! ## Writing -/

/-- The symbols of the standard alphabet, in the order of their values: letters, digits and two
more. -/
def alphabet : List Char :=
  (List.range' 0x41 26 ++ List.range' 0x61 26 ++ List.range' 0x30 10).map Char.ofNat ++ ['+', '/']

example : String.ofList alphabet =
    "ABCDEFGHIJKLMNOPQRSTUVWXYZabcdefghijklmnopqrstuvwxyz0123456789+/" := by rfl

/-- The symbol of six bits. -/
def symbol (v : Fin 64) : Char := alphabet.get v

/-- The bits of the bytes, six at a time. Zeros fill up the last six. -/
def unpack : List UInt8 → List (Fin 64)
  | a :: b :: c :: r =>
    Fin.ofNat 64 (a.toNat / 4) :: Fin.ofNat 64 (a.toNat % 4 * 16 + b.toNat / 16) ::
      Fin.ofNat 64 (b.toNat % 16 * 4 + c.toNat / 64) :: Fin.ofNat 64 c.toNat :: unpack r
  | [a, b] =>
    [Fin.ofNat 64 (a.toNat / 4), Fin.ofNat 64 (a.toNat % 4 * 16 + b.toNat / 16),
      Fin.ofNat 64 (b.toNat % 16 * 4)]
  | [a] => [Fin.ofNat 64 (a.toNat / 4), Fin.ofNat 64 (a.toNat % 4 * 16)]
  | [] => []

/-- How many padding characters complete the last group of four. -/
def padCount (bytes : List UInt8) : ℕ := (3 - bytes.length % 3) % 3

theorem padCount_le (bytes : List UInt8) : padCount bytes ≤ 2 := by
  unfold padCount
  omega

/-- Symbols and padding are groups of four. -/
theorem length_unpack_add_padCount (bytes : List UInt8) :
    ((unpack bytes).length + padCount bytes) % 4 = 0 := by
  fun_induction unpack bytes with
  | case1 a b c r ih =>
    simp only [padCount, List.length_cons] at ih ⊢
    omega
  | case2 a b => simp [padCount]
  | case3 a => simp [padCount]
  | case4 => rfl

theorem ofNat_eq {b : UInt8} {n : ℕ} (h : n % 256 = b.toNat) : UInt8.ofNat n = b := by
  rw [← UInt8.toNat_inj, UInt8.toNat_ofNat', h]

/-- **No bit is lost** when bytes are taken apart. -/
theorem pack_unpack (bytes : List UInt8) : pack ((unpack bytes).map Fin.val) = bytes := by
  fun_induction unpack bytes with
  | case1 a b c r ih =>
    have ha := a.toNat_lt
    have hb := b.toNat_lt
    have hc := c.toNat_lt
    simp only [List.map_cons, Fin.val_ofNat, pack, ih]
    -- a byte is what is left modulo 256 when the bits of its neighbours run over
    rw [ofNat_eq (b := a) (by omega), ofNat_eq (b := b) (by omega), ofNat_eq (b := c) (by omega)]
  | case2 a b =>
    have ha := a.toNat_lt
    have hb := b.toNat_lt
    simp only [List.map_cons, List.map_nil, Fin.val_ofNat, pack]
    rw [ofNat_eq (b := a) (by omega), ofNat_eq (b := b) (by omega)]
  | case3 a =>
    have ha := a.toNat_lt
    simp only [List.map_cons, List.map_nil, Fin.val_ofNat, pack]
    rw [ofNat_eq (b := a) (by omega)]
  | case4 => rfl

/-! ## Reading -/

/-- The byte of a symbol. -/
def symbolByte (v : Fin 64) : UInt8 := UInt8.ofNat (symbol v).toNat

theorem value?_symbolByte : ∀ v, value? (symbolByte v) = some v.val := by
  decide +kernel

theorem symbolByte_ne_padding : ∀ v, symbolByte v ≠ padding := by
  decide +kernel

theorem sextets_symbols (offset : ℕ) (vs : List (Fin 64)) :
    sextets offset (vs.map symbolByte) = .ok (vs.map Fin.val) := by
  induction vs generalizing offset with
  | nil => rfl
  | cons v vs ih =>
    rw [List.map_cons, sextets, value?_symbolByte, ih]
    rfl

/-- A last group of symbols is read, and padding behind it if there are two symbols or more. -/
theorem lastSextets_symbols (hone : vs.length ≠ 1) (hn : n = 0 ∨ 2 ≤ vs.length) :
    lastSextets offset (vs.map symbolByte ++ List.replicate n padding) = .ok (vs.map Fin.val) := by
  have hsymbols : ∀ b ∈ vs.map symbolByte, decide (b ≠ padding) = true := by
    intro b hb
    obtain ⟨v, -, rfl⟩ := List.mem_map.mp hb
    exact decide_eq_true (symbolByte_ne_padding v)
  -- the cut is at the first padding byte, so the padding is all of the second part
  have hpads : (List.replicate n padding).takeWhile (· ≠ padding) = [] := by
    cases n <;> simp [List.replicate_succ]
  have hpads' : (List.replicate n padding).dropWhile (· ≠ padding) = List.replicate n padding := by
    cases n <;> simp [List.replicate_succ]
  -- padding is misplaced behind fewer than two symbols, or with another byte in it
  have hplace : (!(List.replicate n padding).isEmpty && (decide ((vs.map symbolByte).length < 2) ||
      (List.replicate n padding).any (· ≠ padding))) = false := by
    have hany : (List.replicate n padding).any (· ≠ padding) = false := by
      rw [List.any_eq_false]
      intro b hb
      rw [List.eq_of_mem_replicate hb]
      decide
    rcases hn with rfl | hn
    · rfl
    · have hlength : ¬ (vs.map symbolByte).length < 2 := by
        rw [List.length_map]
        omega
      rw [decide_eq_false hlength, hany, Bool.or_self, Bool.and_false]
  have hlength : ¬ (vs.map symbolByte).length = 1 := by rwa [List.length_map]
  unfold lastSextets
  rw [List.takeWhile_append_of_pos hsymbols, List.dropWhile_append_of_pos hsymbols, hpads, hpads',
    List.append_nil]
  simp only [sextets_symbols, hplace, if_neg hlength]
  rfl

theorem decode_eq_ok {input : List UInt8} {body last : List ℕ} (hs : strayEnd? input = none)
    (hb : sextets 0 (input.take (bodyLength input.length)) = .ok body)
    (hl : lastSextets (bodyLength input.length) (input.drop (bodyLength input.length)) =
      .ok last) :
    decode input = .ok (pack (body ++ last)) := by
  unfold decode
  rw [hs]
  simp only [hb, hl]
  rfl

/-- **Symbols are read as their bits.** A text of symbols has none left over alone in its last
group, and is padded to full groups or not at all. -/
theorem decode_symbols
    (h : n = 0 ∧ vs.length % 4 ≠ 1 ∨ n ≤ 2 ∧ (vs.length + n) % 4 = 0) :
    decode (vs.map symbolByte ++ List.replicate n padding) = .ok (pack (vs.map Fin.val)) := by
  generalize hinput : vs.map symbolByte ++ List.replicate n padding = input
  have hsize : input.length = vs.length + n := by simp [← hinput]
  have hstray : strayEnd? input = none := by
    have hlength : ¬ (vs.length + n) % 4 = 1 := by omega
    unfold strayEnd?
    rw [hsize]
    split
    · simp [hlength]
    · rfl
  -- the last group starts within the symbols, with none of them or at least two
  have hsplit : bodyLength input.length ≤ vs.length ∧
      vs.length - bodyLength input.length ≠ 1 ∧
      (n = 0 ∨ 2 ≤ vs.length - bodyLength input.length) := by
    rw [hsize]
    unfold bodyLength
    split_ifs <;> omega
  obtain ⟨hle, hone, hn⟩ := hsplit
  have hle' : bodyLength input.length ≤ (vs.map symbolByte).length := by rwa [List.length_map]
  have hbody : sextets 0 (input.take (bodyLength input.length)) =
      .ok ((vs.take (bodyLength input.length)).map Fin.val) := by
    rw [← sextets_symbols 0, List.map_take, ← List.take_append_of_le_length hle', hinput]
  have hlast : lastSextets (bodyLength input.length) (input.drop (bodyLength input.length)) =
      .ok ((vs.drop (bodyLength input.length)).map Fin.val) := by
    rw [← List.length_drop] at hone hn
    rw [← lastSextets_symbols hone hn, List.map_drop, ← List.drop_append_of_le_length hle', hinput]
  rw [decode_eq_ok hstray hbody hlast, ← List.map_append, List.take_append_drop]

/-- **The symbols of bytes are read as the bytes**, padded or not. -/
theorem decode_unpack (h : n = 0 ∨ n = padCount bytes) :
    decode ((unpack bytes).map symbolByte ++ List.replicate n padding) = .ok bytes := by
  have hpad := padCount_le bytes
  have hlen := length_unpack_add_padCount bytes
  rw [decode_symbols, pack_unpack]
  rcases h with rfl | rfl
  · exact .inl ⟨rfl, by omega⟩
  · exact .inr ⟨hpad, hlen⟩

end VoxelScore.Base64
