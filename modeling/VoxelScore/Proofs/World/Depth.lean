import Mathlib
import VoxelScore.Proofs.Number.Value
import VoxelScore.World.Layout

/-!
# Depths

The depth of an event comes from its lane alone, and the lane from its instrument, or else from its
block. A known instrument has the same depth in all blocks. An unknown one has a depth of its own in
every block if lanes are at least a cell apart, since the nearest integers of numbers that differ by
one differ as well. Blocks beyond the numbers of 32 signed bits count as the last one of them, so
that they are not told apart.

The products are those without rounding: the depth is computed once over numbers of any kind, which
are doubles where voxels are placed and rational numbers here. Where the doubles are exact, both are
the same.

## Main definitions

* `depthIn`: the depth of a lane over numbers of any kind
* `IsExactDepth`: the doubles on the way to a depth are not rounded
* `Dimensions.blockNumber`, `Dimensions.HasOwnDepth`: the lane of an unknown instrument, and its
  product, fit 32 bits

## Main results

* `floor_mul_add_half_lt`: rounded multiples of numbers from one on differ
* `depthIn_doubles_of_isExact`: exact doubles give the depth of rational numbers
* `Dimensions.depthIn_lane_lt`: blocks have different depths
* `Mapper.voxel_z_separates`: depths of voxels
-/

namespace VoxelScore

/-! ## Depths over numbers of any kind -/

section

variable {K : Type} [Add K] [Mul K] [OfScientific K]

/-- **The depth of a lane over numbers of any kind**: the nearest integer to a multiple of the
spacing, halves going up. -/
def depthIn (numbers : Numbers K) (spacing : K) (lane : ℤ) : ℤ :=
  numbers.floorWithin int32Low int32High (numbers.ofInt lane * spacing + 0.5)

end

variable {spacing : Float} {s : ℚ} {lane n m : ℤ}

theorem depthIn_rationals (s : ℚ) (lane : ℤ) :
    depthIn .rationals s lane = clamp int32Low int32High ⌊lane * s + 1 / 2⌋ := by
  have hhalf : (0.5 : ℚ) = 1 / 2 := by norm_num
  rw [depthIn, hhalf]
  rfl

/-- Neither the product nor the sum with the half is rounded. -/
structure IsExactDepth (spacing : Float) (s : ℚ) (lane : ℤ) : Prop where
  value : Double.value? spacing = some s
  depth : Double.value? (Float.ofInt lane * spacing + 0.5) = some (lane * s + 1 / 2)

/-- **Exact doubles give the depth of rational numbers.** -/
theorem depthIn_doubles_of_isExact (h : IsExactDepth spacing s lane) :
    depthIn .doubles spacing lane = depthIn .rationals s lane := by
  rw [depthIn_rationals]
  exact Double.floorWithin_of_value? h.depth int32Low int32High

/-- **Rounded multiples differ**, if what is multiplied is at least one. -/
theorem floor_mul_add_half_lt (hs : 1 ≤ s) (h : n < m) : ⌊n * s + 1 / 2⌋ < ⌊m * s + 1 / 2⌋ := by
  have hnext : (n + 1 : ℚ) ≤ m := by exact_mod_cast h
  -- a lane further the product is larger by the spacing, and so by one at least
  have hproduct : n * s + 1 / 2 + 1 ≤ m * s + 1 / 2 := by
    have hmul := mul_le_mul_of_nonneg_right hnext (zero_le_one.trans hs)
    linarith
  calc ⌊n * s + 1 / 2⌋ < ⌊n * s + 1 / 2⌋ + 1 := Int.lt_succ _
    _ = ⌊n * s + 1 / 2 + 1⌋ := (Int.floor_add_one _).symm
    _ ≤ ⌊m * s + 1 / 2⌋ := Int.floor_mono hproduct

/-! ## Lanes -/

namespace Dimensions

variable {d : Dimensions} {lanes : Lanes} {e f : Event}

/-- The number of the block of an event; what is beyond 32 signed bits is not told apart. -/
def blockNumber (e : Event) : ℤ := min e.lane int32High

/-- A known instrument has its own lane in all blocks. -/
theorem lane_eq_of_known (hinstrument : e.trigger.instrument = f.trigger.instrument)
    (hknown : (lanes.get? e.trigger.instrument).isSome) : d.lane lanes e = d.lane lanes f := by
  obtain ⟨known, hlane⟩ := Option.isSome_iff_exists.mp hknown
  unfold lane
  rw [← hinstrument, hlane]
  rfl

/-- An instrument has one lane in a block. -/
theorem lane_eq_of_block (hinstrument : e.trigger.instrument = f.trigger.instrument)
    (hblock : e.lane = f.lane) : d.lane lanes e = d.lane lanes f := by
  unfold lane
  rw [hinstrument, hblock]

/-- **An unknown instrument has a depth that fits 32 bits**, and so has its lane. -/
structure HasOwnDepth (d : Dimensions) (lanes : Lanes) (s : ℚ) (e : Event) : Prop where
  unknown : lanes.get? e.trigger.instrument = none
  lane_low : int32Low ≤ d.patternLaneBase + blockNumber e
  lane_high : d.patternLaneBase + blockNumber e ≤ int32High
  depth_low : int32Low ≤ ⌊((d.patternLaneBase + blockNumber e : ℤ) * s + 1 / 2 : ℚ)⌋
  depth_high : ⌊((d.patternLaneBase + blockNumber e : ℤ) * s + 1 / 2 : ℚ)⌋ ≤ int32High

theorem HasOwnDepth.lane_eq (h : d.HasOwnDepth lanes s e) :
    d.lane lanes e = d.patternLaneBase + blockNumber e := by
  unfold lane
  rw [h.unknown]
  exact clamp_of_mem h.lane_low h.lane_high

theorem HasOwnDepth.depthIn_eq (h : d.HasOwnDepth lanes s e) :
    depthIn .rationals s (d.lane lanes e) =
      ⌊((d.patternLaneBase + blockNumber e : ℤ) * s + 1 / 2 : ℚ)⌋ := by
  rw [depthIn_rationals, h.lane_eq, clamp_of_mem h.depth_low h.depth_high]

/-- **Blocks have different depths**, in the order of their numbers. -/
theorem depthIn_lane_lt (hs : 1 ≤ s) (he : d.HasOwnDepth lanes s e) (hf : d.HasOwnDepth lanes s f)
    (h : blockNumber e < blockNumber f) :
    depthIn .rationals s (d.lane lanes e) < depthIn .rationals s (d.lane lanes f) := by
  rw [he.depthIn_eq, hf.depthIn_eq]
  exact floor_mul_add_half_lt hs (by omega)

end Dimensions

/-! ## Voxels -/

namespace Mapper

open Dimensions (HasOwnDepth blockNumber)

variable (m : Mapper)

/-- The depth of a voxel is that of its lane over doubles. -/
theorem voxel_z (e : Event) : (m.voxel e).cell.z =
    depthIn .doubles m.dimensions.laneSpacing (m.dimensions.lane m.lanes e) := rfl

/-- **Depth separates blocks and depends on nothing else.** Whatever else differs between two
events, their voxels have the same depth if instrument and block agree, and a known instrument has
the same depth in all blocks. The depth is the nearest integer to a multiple of the spacing. Over
rational numbers it is different for unknown instruments of different blocks, if neither lanes nor
depths are moved into 32 bits and the spacing is at least one; and so it is over doubles that are
exact. -/
theorem voxel_z_separates :
    (∀ e f : Event, e.trigger.instrument = f.trigger.instrument →
      (e.lane = f.lane ∨ (m.lanes.get? e.trigger.instrument).isSome) →
        (m.voxel e).cell.z = (m.voxel f).cell.z) ∧
      (∀ e : Event, (m.voxel e).cell.z =
        depthIn .doubles m.dimensions.laneSpacing (m.dimensions.lane m.lanes e)) ∧
      ∀ (s : ℚ) (e f : Event), 1 ≤ s → m.dimensions.HasOwnDepth m.lanes s e →
        m.dimensions.HasOwnDepth m.lanes s f → blockNumber e ≠ blockNumber f →
          depthIn .rationals s (m.dimensions.lane m.lanes e) ≠
              depthIn .rationals s (m.dimensions.lane m.lanes f) ∧
            (IsExactDepth m.dimensions.laneSpacing s (m.dimensions.lane m.lanes e) →
              IsExactDepth m.dimensions.laneSpacing s (m.dimensions.lane m.lanes f) →
                (m.voxel e).cell.z ≠ (m.voxel f).cell.z) := by
  refine ⟨?_, m.voxel_z, ?_⟩
  · -- the depth is a function of the lane, and the two lanes are the same
    intro e f hinstrument h
    rw [m.voxel_z, m.voxel_z]
    rcases h with hblock | hknown
    · rw [Dimensions.lane_eq_of_block hinstrument hblock]
    · rw [Dimensions.lane_eq_of_known hinstrument hknown]
  · intro s e f hs he hf hblocks
    have hdepths : depthIn .rationals s (m.dimensions.lane m.lanes e) ≠
        depthIn .rationals s (m.dimensions.lane m.lanes f) := by
      rcases lt_or_gt_of_ne hblocks with hlt | hgt
      · exact (Dimensions.depthIn_lane_lt hs he hf hlt).ne
      · exact (Dimensions.depthIn_lane_lt hs hf he hgt).ne'
    refine ⟨hdepths, fun hexact hexact' => ?_⟩
    rwa [m.voxel_z, m.voxel_z, depthIn_doubles_of_isExact hexact,
      depthIn_doubles_of_isExact hexact']

/-- The usual mapper with another spacing and another first lane of unknown instruments. -/
def withLanes (spacing : Float) (base : ℤ) : Mapper :=
  ⟨{ Dimensions.standard with laneSpacing := spacing, patternLaneBase := base },
    .drumKit, .standard⟩

/-- A sound at the start of a block. -/
def hit (name : Text) (block : ℕ) : Event :=
  .ofTrigger 0 (.ofSlot 0 1) (.slotWidth 1) block (.sound name)

/-- Two blocks of claps, which are no part of the drum kit, in lanes in front of the origin that are
one and a half cells apart, so that a half goes up; and a kick, which is part of it. -/
theorem voxel_z_separates_halves :
    let m := withLanes 1.5 (-5)
    let e := hit "cp".toList 0
    let f := hit "cp".toList 1
    1 ≤ (3 / 2 : ℚ) ∧ m.dimensions.HasOwnDepth m.lanes (3 / 2) e ∧
      m.dimensions.HasOwnDepth m.lanes (3 / 2) f ∧ blockNumber e ≠ blockNumber f ∧
      IsExactDepth m.dimensions.laneSpacing (3 / 2) (m.dimensions.lane m.lanes e) ∧
      IsExactDepth m.dimensions.laneSpacing (3 / 2) (m.dimensions.lane m.lanes f) ∧
      (m.voxel e).cell.z ≠ (m.voxel f).cell.z ∧
      (m.voxel e).cell.z = -7 ∧ (m.voxel f).cell.z = -6 ∧
      (m.lanes.get? (hit "bd".toList 0).trigger.instrument).isSome ∧
      (m.voxel (hit "bd".toList 0)).cell.z = (m.voxel (hit "bd".toList 1)).cell.z := by
  intro m e f
  have hlane : m.dimensions.lane m.lanes e = -5 := by decide +kernel
  have hnext : m.dimensions.lane m.lanes f = -4 := by decide +kernel
  have hs : 1 ≤ (3 / 2 : ℚ) := by norm_num
  have hfirst : m.dimensions.HasOwnDepth m.lanes (3 / 2) e := by
    exact ⟨by decide +kernel, by decide, by decide, by decide +kernel, by decide +kernel⟩
  have hsecond : m.dimensions.HasOwnDepth m.lanes (3 / 2) f := by
    exact ⟨by decide +kernel, by decide, by decide, by decide +kernel, by decide +kernel⟩
  have hexact : IsExactDepth m.dimensions.laneSpacing (3 / 2) (m.dimensions.lane m.lanes e) := by
    rw [hlane]
    exact ⟨by decide +kernel, by decide +kernel⟩
  have hexact' : IsExactDepth m.dimensions.laneSpacing (3 / 2) (m.dimensions.lane m.lanes f) := by
    rw [hnext]
    exact ⟨by decide +kernel, by decide +kernel⟩
  have hblocks : blockNumber e ≠ blockNumber f := by decide
  have hkick : (m.lanes.get? (hit "bd".toList 0).trigger.instrument).isSome := by decide +kernel
  obtain ⟨hsame, -, hapart⟩ := voxel_z_separates m
  exact ⟨hs, hfirst, hsecond, hblocks, hexact, hexact',
    (hapart _ _ _ hs hfirst hsecond hblocks).2 hexact hexact', by decide +kernel, by decide +kernel,
    hkick, hsame (hit "bd".toList 0) (hit "bd".toList 1) rfl (.inr hkick)⟩

/-- **Blocks beyond 32 signed bits have the same depth**, even where the first lane is so low that
their own lanes would be 0 and 1. -/
theorem voxel_z_not_separated :
    let m := withLanes 1.0 int32Low
    let e := hit "cp".toList 2147483648
    let f := hit "cp".toList 2147483649
    Double.value? m.dimensions.laneSpacing = some 1 ∧
      m.lanes.get? e.trigger.instrument = none ∧ m.lanes.get? f.trigger.instrument = none ∧
      e.lane ≠ f.lane ∧
      m.dimensions.patternLaneBase + e.lane = 0 ∧ m.dimensions.patternLaneBase + f.lane = 1 ∧
      ⌊((0 : ℤ) * 1 + 1 / 2 : ℚ)⌋ = 0 ∧ ⌊((1 : ℤ) * 1 + 1 / 2 : ℚ)⌋ = 1 ∧
      depthIn .rationals 1 (m.dimensions.lane m.lanes e) =
        depthIn .rationals 1 (m.dimensions.lane m.lanes f) ∧
      (m.voxel e).cell.z = -1 ∧ (m.voxel f).cell.z = -1 := by
  intro m e f
  have hlane : m.dimensions.lane m.lanes e = -1 := by decide +kernel
  have hnext : m.dimensions.lane m.lanes f = -1 := by decide +kernel
  refine ⟨by decide +kernel, by decide +kernel, by decide +kernel, by decide, by decide, by decide,
    by norm_num, by norm_num, ?_, by decide +kernel, by decide +kernel⟩
  rw [hlane, hnext]

end Mapper

end VoxelScore
