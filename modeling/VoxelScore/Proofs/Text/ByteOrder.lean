import Mathlib.Tactic.SplitIfs
import VoxelScore.Proofs.Text.Utf8
import VoxelScore.Table

/-!
# The order of bytes

Texts are ordered by code points, and their bytes in the same way: the leading byte of a longer
sequence is above that of a shorter one, and sequences of one length are written from the highest
bits on. So the entries of a table come in the order of the bytes of their names.

## Main results

* `Sequence.append_lt`: what follows two characters does not change the order of their bytes
* `encode_lt_encode_iff`: the order of texts is that of their bytes
* `Table.pairwise_encode_lt`: the entries of tables
-/

namespace VoxelScore

namespace Utf8

variable {c d : Char} {x y r r' : List UInt8} {s t : Text} {n m : ℕ}

/-! ## Sequences -/

theorem ofNat_cons_lt_iff (hn : n < 256) (hm : m < 256) :
    UInt8.ofNat n :: r < UInt8.ofNat m :: r' ↔ n < m ∨ n = m ∧ r < r' := by
  rw [List.cons_lt_cons_iff, UInt8.lt_iff_toNat_lt, ← UInt8.toNat_inj, UInt8.toNat_ofNat',
    UInt8.toNat_ofNat', Nat.mod_eq_of_lt hn, Nat.mod_eq_of_lt hm]

theorem ofNat_cons_lt (h : n < m) (hm : m < 256) : UInt8.ofNat n :: r < UInt8.ofNat m :: r' :=
  (ofNat_cons_lt_iff (Nat.lt_trans h hm) hm).mpr (.inl h)

/-- A higher character has no shorter sequence. -/
theorem Sequence.length_le (hc : Sequence c x) (hd : Sequence d y) (h : c < d) :
    x.length ≤ y.length := by
  have hlt : c.val.toNat < d.val.toNat := h
  rw [sequence_iff.mp hc, sequence_iff.mp hd, String.length_utf8EncodeChar,
    String.length_utf8EncodeChar]
  simp only [Char.utf8Size, UInt32.le_iff_toNat_le, UInt32.toNat_ofNatLT]
  split_ifs <;> omega

/-- **A sequence is below those of higher characters**, whatever follows the two. -/
theorem Sequence.append_lt (hc : Sequence c x) (hd : Sequence d y) (h : c < d)
    (r r' : List UInt8) : x ++ r < y ++ r' := by
  have hlt : c.val.toNat < d.val.toNat := h
  have hlength := hc.length_le hd h
  -- a longer sequence has a higher leading byte, and one of the same length higher bits
  cases hc with
  | one lead =>
    cases hd with
    | one lead' =>
      rw [toNat_ofNat (by omega), toNat_ofNat (by omega)] at hlt
      exact ofNat_cons_lt hlt (by omega)
    | _ => exact ofNat_cons_lt (by omega) (by omega)
  | two lead second =>
    cases hd with
    | one lead' => simp at hlength
    | two lead' second' =>
      rw [continues_continuation_iff] at second second'
      rw [toNat_ofNat (by omega), toNat_ofNat (by omega)] at hlt
      simp (disch := omega) only [List.cons_append, List.nil_append, ofNat_cons_lt_iff]
      omega
    | _ => exact ofNat_cons_lt (by omega) (by omega)
  | three lead second third =>
    cases hd with
    | three lead' second' third' =>
      rw [continues_secondOfThree_iff] at second second'
      rw [continues_continuation_iff] at third third'
      rw [toNat_ofNat (by omega), toNat_ofNat (by omega)] at hlt
      simp (disch := omega) only [List.cons_append, List.nil_append, ofNat_cons_lt_iff]
      omega
    | four lead' second' third' fourth' => exact ofNat_cons_lt (by omega) (by omega)
    | _ => simp at hlength
  | four lead second third fourth =>
    cases hd with
    | four lead' second' third' fourth' =>
      rw [continues_secondOfFour_iff] at second second'
      rw [continues_continuation_iff] at third third' fourth fourth'
      rw [toNat_ofNat (by omega), toNat_ofNat (by omega)] at hlt
      simp (disch := omega) only [List.cons_append, List.nil_append, ofNat_cons_lt_iff]
      omega
    | _ => simp at hlength

/-! ## Texts -/

theorem encode_lt_encode (h : s < t) : encode s < encode t := by
  induction h with
  | @nil d t =>
    obtain ⟨b, r, hb⟩ := List.exists_cons_of_ne_nil (String.utf8EncodeChar_ne_nil (c := d))
    rw [encode_cons, hb]
    exact List.nil_lt_cons _ _
  | cons h ih =>
    rw [encode_cons, encode_cons]
    exact List.append_left_lt ih
  | @rel c s d t h =>
    rw [encode_cons, encode_cons]
    exact (sequence_iff.mpr rfl).append_lt (sequence_iff.mpr rfl) h _ _

/-- **The order of texts is that of their bytes.** -/
theorem encode_lt_encode_iff : encode s < encode t ↔ s < t := by
  refine ⟨fun h => ?_, encode_lt_encode⟩
  rcases Std.lt_trichotomy s t with hlt | rfl | hgt
  · exact hlt
  · exact absurd h (List.lt_irrefl _)
  · exact absurd h (List.lt_asymm (encode_lt_encode hgt))

end Utf8

/-- **The entries of a table** come in the order of the bytes of their names. -/
theorem Table.pairwise_encode_lt {α : Type} (t : Table α) :
    t.entries.Pairwise fun a b => Utf8.encode a.1 < Utf8.encode b.1 :=
  t.sorted.imp Utf8.encode_lt_encode_iff.mpr

end VoxelScore
