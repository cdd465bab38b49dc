import Mathlib.Data.List.Chain
import Mathlib.Order.Basic
import Mathlib.Data.Int.Notation
import VoxelScore.Tone.Scale

/-!
# Degrees are always found

A degree is divided by the number of steps of an octave, and the remainder picks a step of the list.
On a list without steps the division has no result, and on a list that is too short the step would
be missing. With every such access checked, a list of intervals still gives a pitch for every
degree, the ends of the 64 bits and not-a-number included.

## Main definitions

* `IsOctave`: a list that starts at 0, rises from each step to the next and ends below 12
* `Scale.pitch?`: the pitch of a degree over a bare list of steps, every access checked

## Main results

* `areIntervals_iff`: looking at neighbours and at the last step is enough
* `Scale.pitch?_eq_some`: on intervals every check passes, and the pitch is that of the scale
-/

namespace VoxelScore

/-- The steps start at 0, every step is above the one before, and the last one is below 12. -/
def IsOctave (steps : List ℤ) : Prop :=
  steps.head? = some 0 ∧ steps.IsChain (· < ·) ∧ ∃ top, steps.getLast? = some top ∧ top < 12

/-- **Neighbours and the last step are enough** to know that a list of steps is one of intervals. -/
theorem areIntervals_iff {steps : List ℤ} : AreIntervals steps ↔ IsOctave steps := by
  unfold AreIntervals IsOctave
  rw [← List.isChain_iff_pairwise]
  constructor
  · rintro ⟨hfirst, hrise, hbelow⟩
    have hne : steps ≠ [] := by
      rintro rfl
      simp at hfirst
    exact ⟨hfirst, hrise, _, List.getLast?_eq_some_getLast hne,
      hbelow _ (List.getLast_mem hne)⟩
  · rintro ⟨hfirst, hrise, top, htop, hbelow⟩
    refine ⟨hfirst, hrise, ?_⟩
    intro s hs
    obtain ⟨front, rfl⟩ := List.getLast?_eq_some_iff.mp htop
    -- a step in front of the last one is below it
    rcases List.mem_append.mp hs with hs | hs
    · have hpairs := List.pairwise_append.mp (List.isChain_iff_pairwise.mp hrise)
      exact Int.lt_trans (hpairs.2.2 s hs top (List.mem_singleton.mpr rfl)) hbelow
    · rw [List.mem_singleton.mp hs]
      exact hbelow

instance (steps : List ℤ) : Decidable (IsOctave steps) := decidable_of_iff _ areIntervals_iff

namespace Intervals

/-- The step after a whole degree, counted around the octave. -/
theorem index_succ (i : Intervals) (degree : ℤ) :
    i.index (degree + 1) = (i.index degree + 1) % i.size := by
  have hpos : (i.size : ℤ) ≠ 0 := by
    have := i.size_pos
    omega
  have hnonneg := Int.emod_nonneg degree hpos
  unfold index
  rw [← Int.emod_add_emod]
  obtain ⟨k, hk⟩ := Int.eq_ofNat_of_zero_le hnonneg
  rw [hk]
  exact Int.toNat_natCast _

theorem getElem?_index (i : Intervals) (degree : ℤ) :
    i.steps[i.index degree]? = some (i.semitones degree) :=
  List.getElem?_eq_getElem (i.index_lt degree)

end Intervals

namespace Scale

/-- **The pitch of a degree over a bare list of steps.** It is missing if there are no steps to
divide by, or if the remainder, or the one after it, is no index of the list. -/
def pitch? (root : ℤ) (steps : List ℤ) (degree : Float) : Option Float := do
  let fraction := degree - Double.floor degree
  let whole := Double.floorWithin degreeLow degreeHigh degree
  if steps.length = 0 then none
  else
    let octave := 12.0 * Float.ofInt (whole / steps.length)
    let index := (whole % steps.length).toNat
    let interval ← steps[index]?
    let base := Float.ofInt root + Float.ofInt interval + octave
    if fraction == 0.0 then some base
    else
      let next ← steps[(index + 1) % steps.length]?
      let wrap := if index + 1 ≥ steps.length then 12.0 else 0.0
      some (base + fraction * (Float.ofInt next + octave + wrap - Float.ofInt interval))

/-- **On intervals every check passes**, and the pitch is that of the scale. -/
theorem pitch?_eq_some (s : Scale) (degree : Float) :
    pitch? s.root s.intervals.steps degree = some (s.pitch degree) := by
  have hpos : s.intervals.steps.length ≠ 0 := Nat.ne_of_gt s.intervals.size_pos
  have hstep : ∀ whole : ℤ, s.intervals.steps[(whole % s.intervals.steps.length).toNat]? =
      some (s.intervals.semitones whole) := s.intervals.getElem?_index
  have hnext : ∀ whole : ℤ, s.intervals.steps[((whole % s.intervals.steps.length).toNat + 1) %
      s.intervals.steps.length]? = some (s.intervals.semitones (whole + 1)) := by
    intro whole
    have hindex := s.intervals.index_succ whole
    rw [← s.intervals.getElem?_index (whole + 1), hindex]
    rfl
  unfold pitch?
  rw [if_neg hpos]
  simp only [hstep, hnext, Option.bind_eq_bind, Option.bind_some]
  -- a whole degree does not look at the next step
  unfold pitch
  split
  · next hwhole =>
    rw [if_pos hwhole]
    rfl
  · next hpart =>
    rw [if_neg hpart]
    rfl

example (root : ℤ) (degree : Float) : pitch? root [] degree = none := rfl

end Scale

end VoxelScore
