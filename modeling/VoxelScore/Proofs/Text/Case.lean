import Mathlib.Data.List.Forall2
import Mathlib.Tactic.SplitIfs
import VoxelScore.Text

/-!
# Spellings

Two names are spellings of each other if they have the same characters in turn, of which ASCII
letters may be capital in one and small in the other. Small letters stand for all spellings: they
are the same for two names exactly if these are spellings of each other.

## Main definitions

* `IsCapitalOf`: a capital ASCII letter and its small one
* `EqUpToCase`: names that are spellings of each other
* `spellings`: all spellings of a name

## Main results

* `toLower_eq_toLower_iff`, `lower_eq_lower_iff`: small letters of characters and of names
* `spellings_eq_iff`: each name belongs to one set of spellings
-/

namespace VoxelScore.Text

variable {c d : Char} {s t u : Text}

/-! ## Letters -/

/-- The first character is a capital ASCII letter, the second one its small letter. -/
def IsCapitalOf (c d : Char) : Prop :=
  'A'.toNat ≤ c.toNat ∧ c.toNat ≤ 'Z'.toNat ∧ d.toNat = c.toNat + 32

/-- The characters are the same one, or the same letter as a capital and as a small one. -/
def EqLetter (c d : Char) : Prop := c = d ∨ IsCapitalOf c d ∨ IsCapitalOf d c

/-- Small letters stand 32 code points behind the capital ones. -/
theorem toNat_toLower (c : Char) :
    c.toLower.toNat = if 65 ≤ c.toNat ∧ c.toNat ≤ 90 then c.toNat + 32 else c.toNat := by
  have hcapital : c.val ≥ 'A'.val ∧ c.val ≤ 'Z'.val ↔ 65 ≤ c.toNat ∧ c.toNat ≤ 90 := by
    rw [ge_iff_le, UInt32.le_iff_toNat_le, UInt32.le_iff_toNat_le]
    rfl
  unfold Char.toLower
  split
  · next h =>
    rw [hcapital] at h
    rw [if_pos h]
    show (c.val + 32).toNat = c.val.toNat + 32
    have hc : c.val.toNat ≤ 90 := h.2
    have hshift : (32 : UInt32).toNat = 32 := rfl
    rw [UInt32.toNat_add, hshift]
    exact Nat.mod_eq_of_lt (by omega)
  · next h =>
    rw [hcapital] at h
    rw [if_neg h]

/-- A small letter that was made of a capital one is no capital letter. -/
theorem toLower_toLower (c : Char) : c.toLower.toLower = c.toLower := by
  refine Char.toNat_inj.mp ?_
  rw [toNat_toLower, toNat_toLower]
  split_ifs <;> omega

theorem toLower_eq_toLower_iff : c.toLower = d.toLower ↔ EqLetter c d := by
  have hfirst : 'A'.toNat = 65 := rfl
  have hlast : 'Z'.toNat = 90 := rfl
  unfold EqLetter IsCapitalOf
  -- all of it is said of code points
  rw [← Char.toNat_inj, ← Char.toNat_inj, toNat_toLower, toNat_toLower, hfirst, hlast]
  split_ifs <;> omega

/-! ## Names -/

theorem lower_lower (t : Text) : lower (lower t) = lower t := by
  unfold lower
  rw [List.map_map]
  refine List.map_congr_left ?_
  intro c _
  exact toLower_toLower c

/-- **The names are spellings of each other**: they differ in the case of ASCII letters at most. -/
def EqUpToCase (s t : Text) : Prop := List.Forall₂ EqLetter s t

/-- **Small letters are the same** exactly for spellings of each other. -/
theorem lower_eq_lower_iff : lower s = lower t ↔ EqUpToCase s t := by
  unfold lower EqUpToCase
  rw [← List.forall₂_eq_eq_eq, List.forall₂_map_left_iff, List.forall₂_map_right_iff]
  simp only [toLower_eq_toLower_iff]

instance (s t : Text) : Decidable (EqUpToCase s t) := decidable_of_iff _ lower_eq_lower_iff

theorem EqUpToCase.refl (t : Text) : EqUpToCase t t := lower_eq_lower_iff.mp rfl

theorem EqUpToCase.symm (h : EqUpToCase s t) : EqUpToCase t s :=
  lower_eq_lower_iff.mp (lower_eq_lower_iff.mpr h).symm

theorem EqUpToCase.trans (hs : EqUpToCase s t) (ht : EqUpToCase t u) : EqUpToCase s u :=
  lower_eq_lower_iff.mp ((lower_eq_lower_iff.mpr hs).trans (lower_eq_lower_iff.mpr ht))

/-- All spellings of a name. -/
def spellings (t : Text) : Set Text := {s | EqUpToCase s t}

/-- **Each name belongs to one set of spellings.** -/
theorem spellings_eq_iff : spellings s = spellings t ↔ EqUpToCase s t := by
  constructor
  · intro h
    have hs : s ∈ spellings s := EqUpToCase.refl s
    rwa [h] at hs
  · intro h
    ext u
    exact ⟨fun hu => hu.trans h, fun hu => hu.trans h.symm⟩

end VoxelScore.Text
