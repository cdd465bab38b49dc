import Mathlib.Order.Bounds.Basic
import Mathlib.Tactic.Ring
import VoxelScore.Score
import VoxelScore.World.Platform

/-!
# The platform faces the world

Where the platform lies depends on the least and the greatest coordinates of the voxels alone, so
that it does not matter in which order they are listed, how often, or whether voxels that are not
seen are listed at all. Unless the world reaches the ends of the 32 bits, the platform is the four
columns next to it, and two cells deeper on either side.

## Main definitions

* `coordinates`: the coordinates of voxels along one axis
* `Cell.Fits`: a cell with coordinates of 32 signed bits
* `Cell.Precedes`: cells by rising x and then by rising z

## Main results

* `Platform.facing?_congr`: voxels that fill the same cells have the same platform
* `Platform.mem_cells`, `Platform.pairwise_cells`: the cells of a platform and their order
* `Platform.exists_facing?`: the platform in terms of the ends of the world
* `Platform.facing?_fronts_world`: all of this together
-/

namespace VoxelScore

variable {c : Cell} {v w : List Voxel} {n : ℤ}

/-! ## Coordinates -/

/-- The coordinates of voxels along an axis. -/
def coordinates (along : Cell → ℤ) (voxels : List Voxel) : Set ℤ :=
  {n | ∃ voxel ∈ voxels, along voxel.cell = n}

/-- The cell has coordinates of 32 signed bits. -/
structure Cell.Fits (c : Cell) : Prop where
  x : int32Low ≤ c.x ∧ c.x ≤ int32High
  y : int32Low ≤ c.y ∧ c.y ≤ int32High
  z : int32Low ≤ c.z ∧ c.z ≤ int32High

/-- The first cell lies further left, or as far left and further in front. -/
def Cell.Precedes (a b : Cell) : Prop := a.x < b.x ∨ a.x = b.x ∧ a.z < b.z

/-- The cells that voxels fill. -/
theorem coordinates_eq_of_map {cells : List Cell} (h : v.map (·.cell) = cells)
    (along : Cell → ℤ) : coordinates along v = {n | n ∈ cells.map along} := by
  ext n
  subst h
  simp [coordinates]

/-- **Events are laid out in cells of 32 bits**, wherever they lie in time, pitch and depth. -/
theorem Mapper.fits_voxel (m : Mapper) (e : Event) : (m.voxel e).cell.Fits := by
  have hrange : int32Low ≤ int32High := by decide
  refine ⟨⟨?_, ?_⟩, ⟨?_, ?_⟩, ⟨?_, ?_⟩⟩
  · exact low_le_clamp _ _ _
  · exact clamp_le_high hrange _
  · exact Double.low_le_within hrange _ _
  · exact Double.within_le_high hrange _ _
  · exact Double.low_le_within hrange _ _
  · exact Double.within_le_high hrange _ _

/-! ## Seen voxels -/

/-- A cell is filled by a voxel that is not occupied already exactly if it is filled and not
occupied. -/
theorem mem_cells_unoccupied (occupied : Std.HashSet Cell) (voxels : List Voxel) (c : Cell) :
    c ∈ (unoccupied occupied voxels).map (·.cell) ↔
      c ∈ voxels.map (·.cell) ∧ ¬ occupied.contains c := by
  fun_induction unoccupied occupied voxels with
  | case1 occupied => simp
  | case2 occupied v r hv ih =>
    rw [ih, List.map_cons, List.mem_cons]
    constructor
    · rintro ⟨hc, hfree⟩
      exact ⟨Or.inr hc, hfree⟩
    · rintro ⟨rfl | hc, hfree⟩
      · exact absurd hv hfree
      · exact ⟨hc, hfree⟩
  | case3 occupied v r hv ih =>
    rw [List.map_cons, List.mem_cons, ih, Std.HashSet.contains_insert, List.map_cons, List.mem_cons]
    by_cases hc : c = v.cell
    · subst hc
      simpa using hv
    · simp [hc, Ne.symm hc]

/-- **Every filled cell is seen.** -/
theorem mem_cells_firstPerCell (voxels : List Voxel) (c : Cell) :
    c ∈ (firstPerCell voxels).map (·.cell) ↔ c ∈ voxels.map (·.cell) := by
  rw [firstPerCell, mem_cells_unoccupied]
  simp

namespace Platform

/-! ## The ends of the world -/

/-- Going through numbers one finds the least one. -/
theorem isLeast_least (first : ℤ) (others : List ℤ) :
    IsLeast {n | n ∈ first :: others} (least first others) := by
  have hmin : (first :: others).min? = some (least first others) := List.min?_cons'
  obtain ⟨hmem, hle⟩ := List.min?_eq_some_iff.mp hmin
  exact ⟨hmem, hle⟩

theorem isGreatest_greatest (first : ℤ) (others : List ℤ) :
    IsGreatest {n | n ∈ first :: others} (greatest first others) := by
  have hmax : (first :: others).max? = some (greatest first others) := List.max?_cons'
  obtain ⟨hmem, hle⟩ := List.max?_eq_some_iff.mp hmax
  exact ⟨hmem, hle⟩

/-- **Voxels that fill the same cells have the same platform.** -/
theorem facing?_congr (h : ∀ c, c ∈ v.map (·.cell) ↔ c ∈ w.map (·.cell)) (baseHeight : ℤ) :
    facing? baseHeight v = facing? baseHeight w := by
  unfold facing?
  generalize v.map (·.cell) = a at h
  generalize w.map (·.cell) = b at h
  match a, b with
  | [], [] => rfl
  | [], first :: others => exact absurd ((h first).mpr List.mem_cons_self) List.not_mem_nil
  | first :: others, [] => exact absurd ((h first).mp List.mem_cons_self) List.not_mem_nil
  | first :: others, first' :: others' =>
    -- both have the same coordinates along every axis, and so the same ends
    have hset : ∀ along : Cell → ℤ, {n | n ∈ (first :: others).map along} =
        {n | n ∈ (first' :: others').map along} := by
      intro along
      ext n
      simp only [Set.mem_ofPred_eq, List.mem_map, h]
    have hleast : ∀ along : Cell → ℤ, least (along first) (others.map along) =
        least (along first') (others'.map along) := by
      intro along
      have hfirst := isLeast_least (along first) (others.map along)
      rw [← List.map_cons, hset along] at hfirst
      exact hfirst.unique (isLeast_least (along first') (others'.map along))
    have hgreatest : ∀ along : Cell → ℤ, greatest (along first) (others.map along) =
        greatest (along first') (others'.map along) := by
      intro along
      have hfirst := isGreatest_greatest (along first) (others.map along)
      rw [← List.map_cons, hset along] at hfirst
      exact hfirst.unique (isGreatest_greatest (along first') (others'.map along))
    simp only [hleast, hgreatest]

theorem facing?_eq_none_iff {baseHeight : ℤ} : facing? baseHeight v = none ↔ v = [] := by
  cases v with
  | nil => simp [facing?]
  | cons voxel voxels => simp [facing?]

/-- **The platform in terms of the ends of the world**, each moved into 32 bits. -/
theorem exists_facing? (h : v ≠ []) (baseHeight : ℤ) :
    ∃ p, facing? baseHeight v = some p ∧ ∃ lowX lowZ highZ,
      IsLeast (coordinates (·.x) v) lowX ∧ IsLeast (coordinates (·.z) v) lowZ ∧
      IsGreatest (coordinates (·.z) v) highZ ∧
      p.xStart = clamp32 (lowX - width) ∧ p.xEnd = clamp32 (p.xStart + (width - 1)) ∧
      p.zStart = clamp32 (lowZ - margin) ∧ p.zEnd = clamp32 (highZ + margin) := by
  obtain ⟨voxel, voxels, rfl⟩ := List.exists_cons_of_ne_nil h
  have hcells : (voxel :: voxels).map (·.cell) = voxel.cell :: voxels.map (·.cell) := List.map_cons
  simp only [coordinates_eq_of_map hcells]
  exact ⟨_, rfl, _, _, _, isLeast_least _ _, isLeast_least _ _, isGreatest_greatest _ _, rfl, rfl,
    rfl, rfl⟩

/-! ## Cells -/

theorem mem_interval {first last : ℤ} : n ∈ interval first last ↔ first ≤ n ∧ n ≤ last := by
  unfold interval
  rw [List.mem_map]
  constructor
  · rintro ⟨i, hi, rfl⟩
    have := List.mem_range.mp hi
    omega
  · rintro ⟨hfirst, hlast⟩
    refine ⟨(n - first).toNat, List.mem_range.mpr ?_, ?_⟩
    · omega
    · omega

theorem pairwise_interval (first last : ℤ) : (interval first last).Pairwise (· < ·) := by
  unfold interval
  refine List.pairwise_map.mpr (List.pairwise_lt_range.imp ?_)
  intro i j hij
  omega

theorem length_interval (first last : ℤ) :
    (interval first last).length = (last - first + 1).toNat := by
  simp [interval]

variable {p : Platform}

/-- **The cells of a platform** fill a rectangle at its height. -/
theorem mem_cells : c ∈ p.cells ↔
    c.y = p.y ∧ (p.xStart ≤ c.x ∧ c.x ≤ p.xEnd) ∧ (p.zStart ≤ c.z ∧ c.z ≤ p.zEnd) := by
  obtain ⟨x, y, z⟩ := c
  simp only [cells, List.mem_flatMap, List.mem_map, mem_interval, Cell.mk.injEq]
  constructor
  · rintro ⟨x', hx, z', hz, rfl, rfl, rfl⟩
    exact ⟨rfl, hx, hz⟩
  · rintro ⟨rfl, hx, hz⟩
    exact ⟨x, hx, z, hz, rfl, rfl, rfl⟩

/-- **The cells of a platform are in order**, column by column. -/
theorem pairwise_cells (p : Platform) : p.cells.Pairwise Cell.Precedes := by
  refine List.pairwise_flatMap.mpr ⟨?_, ?_⟩
  · intro x _
    refine List.pairwise_map.mpr ((pairwise_interval _ _).imp ?_)
    intro z z' hz
    exact Or.inr ⟨rfl, hz⟩
  · refine (pairwise_interval _ _).imp ?_
    intro x x' hx a ha b hb
    obtain ⟨_, -, rfl⟩ := List.mem_map.mp ha
    obtain ⟨_, -, rfl⟩ := List.mem_map.mp hb
    exact Or.inl hx

theorem length_cells (p : Platform) : p.cells.length =
    (p.xEnd - p.xStart + 1).toNat * (p.zEnd - p.zStart + 1).toNat := by
  simp [cells, List.length_flatMap, length_interval, List.map_const']

theorem nodup_cells (p : Platform) : p.cells.Nodup := by
  refine (pairwise_cells p).imp ?_
  rintro a b hab rfl
  unfold Cell.Precedes at hab
  omega

/-! ## In front of the world -/

/-- Without an end of the 32 bits in the way, the platform is the four columns next to the world,
and reaches two cells further on either side. -/
theorem ends_of_fits {lowX lowZ highZ : ℤ} (hx : int32Low + 4 ≤ lowX) (hx' : lowX ≤ int32High)
    (hz : int32Low ≤ lowZ - 2) (hz' : highZ + 2 ≤ int32High) (hle : lowZ ≤ highZ)
    (hxStart : p.xStart = clamp32 (lowX - width))
    (hxEnd : p.xEnd = clamp32 (p.xStart + (width - 1)))
    (hzStart : p.zStart = clamp32 (lowZ - margin)) (hzEnd : p.zEnd = clamp32 (highZ + margin)) :
    p.xStart = lowX - 4 ∧ p.xEnd = lowX - 1 ∧ p.zStart = lowZ - 2 ∧ p.zEnd = highZ + 2 := by
  unfold clamp32 width at hxStart hxEnd
  unfold clamp32 margin at hzStart hzEnd
  rw [clamp_of_mem (by omega) (by omega)] at hxStart hzStart hzEnd
  rw [hxStart, clamp_of_mem (by omega) (by omega)] at hxEnd
  exact ⟨hxStart, by omega, hzStart, hzEnd⟩

/-- **The platform fronts the world**, however the voxels are listed. There is one unless there are
no voxels. It is the same for any other order of the voxels, for a list that repeats some of them, and
for the voxels that are seen. Its cells are those of a rectangle, each of them once, by rising x and
then by rising z. Where the world keeps its distance from the ends of the 32 bits, the platform is the
four columns in front of it, shares no cell with it, and reaches two cells beyond every voxel on
either side. -/
theorem facing?_fronts_world (baseHeight : ℤ) (voxels : List Voxel)
    (hfits : ∀ voxel ∈ voxels, voxel.cell.Fits) :
    (facing? baseHeight voxels = none ↔ voxels = []) ∧
    (∀ other, voxels.Perm other → facing? baseHeight other = facing? baseHeight voxels) ∧
    (∀ other, voxels ⊆ other → other ⊆ voxels →
      facing? baseHeight other = facing? baseHeight voxels) ∧
    facing? baseHeight (firstPerCell voxels) = facing? baseHeight voxels ∧
    ∀ p, facing? baseHeight voxels = some p →
      (∀ c, c ∈ p.cells ↔
        c.y = p.y ∧ (p.xStart ≤ c.x ∧ c.x ≤ p.xEnd) ∧ (p.zStart ≤ c.z ∧ c.z ≤ p.zEnd)) ∧
      p.cells.Nodup ∧ p.cells.Pairwise Cell.Precedes ∧
      ∃ lowX lowZ highZ, IsLeast (coordinates (·.x) voxels) lowX ∧
        IsLeast (coordinates (·.z) voxels) lowZ ∧ IsGreatest (coordinates (·.z) voxels) highZ ∧
        (int32Low + 4 ≤ lowX → int32Low ≤ lowZ - 2 → highZ + 2 ≤ int32High →
          (p.xStart = lowX - 4 ∧ p.xEnd = lowX - 1) ∧
          (∀ c ∈ p.cells, ∀ voxel ∈ voxels, c ≠ voxel.cell) ∧
          (∀ voxel ∈ voxels, p.zStart + 2 ≤ voxel.cell.z ∧ voxel.cell.z + 2 ≤ p.zEnd) ∧
          (p.cells.length : ℤ) = 4 * (highZ - lowZ + 5)) := by
  refine ⟨facing?_eq_none_iff, ?_, ?_, ?_, ?_⟩
  · intro other hperm
    exact facing?_congr (fun c => (hperm.map (·.cell)).mem_iff.symm) baseHeight
  · intro other hsub hsup
    refine facing?_congr (fun c => ⟨?_, ?_⟩) baseHeight
    · exact fun hc => List.map_subset _ hsup hc
    · exact fun hc => List.map_subset _ hsub hc
  · exact facing?_congr (mem_cells_firstPerCell voxels) baseHeight
  · intro p hp
    have hne : voxels ≠ [] := by
      rintro rfl
      cases hp
    obtain ⟨q, hq, lowX, lowZ, highZ, hlowX, hlowZ, hhighZ, hxStart, hxEnd, hzStart, hzEnd⟩ :=
      exists_facing? hne baseHeight
    obtain rfl : q = p := Option.some.inj (hq.symm.trans hp)
    refine ⟨fun c => mem_cells, nodup_cells q, pairwise_cells q, lowX, lowZ, highZ, hlowX, hlowZ,
      hhighZ, ?_⟩
    intro hx hz hz'
    -- the least x is that of a voxel, and no voxel lies beyond the 32 bits
    have hx' : lowX ≤ int32High := by
      obtain ⟨voxel, hvoxel, rfl⟩ := hlowX.1
      exact (hfits voxel hvoxel).x.2
    have hle : lowZ ≤ highZ := hlowZ.2 hhighZ.1
    obtain ⟨hxs, hxe, hzs, hze⟩ := ends_of_fits hx hx' hz hz' hle hxStart hxEnd hzStart hzEnd
    refine ⟨⟨hxs, hxe⟩, ?_, ?_, ?_⟩
    · rintro c hc voxel hvoxel rfl
      obtain ⟨-, ⟨-, hright⟩, -⟩ := mem_cells.mp hc
      have hleft : lowX ≤ voxel.cell.x := hlowX.2 ⟨voxel, hvoxel, rfl⟩
      omega
    · intro voxel hvoxel
      have hfront : lowZ ≤ voxel.cell.z := hlowZ.2 ⟨voxel, hvoxel, rfl⟩
      have hback : voxel.cell.z ≤ highZ := hhighZ.2 ⟨voxel, hvoxel, rfl⟩
      omega
    · rw [length_cells, hxs, hxe, hzs, hze, Nat.cast_mul, Int.toNat_of_nonneg (by omega),
        Int.toNat_of_nonneg (by omega)]
      ring

/-- The first cycle of a pattern with two sounds in one slot, listed from its end. -/
theorem facing?_fronts_world_reversed :
    let voxels := Mapper.standard.voxels
      (Score.ofCode ⟨1, Modes.builtin⟩ "s(\"bd [sd,hh] cp bd*2\")".toList).events
    (∀ voxel ∈ voxels, voxel.cell.Fits) ∧
      facing? 4 voxels.reverse = facing? 4 voxels ∧
      ∃ p, facing? 4 voxels = some p ∧ p.xStart = -20 ∧ p.xEnd = -17 ∧
        (∀ c ∈ p.cells, ∀ voxel ∈ voxels, c ≠ voxel.cell) := by
  intro voxels
  have hfits : ∀ voxel ∈ voxels, voxel.cell.Fits := by
    intro voxel hvoxel
    obtain ⟨e, -, rfl⟩ := List.mem_map.mp hvoxel
    exact Mapper.fits_voxel _ e
  obtain ⟨-, hperm, -, -, hplatform⟩ := facing?_fronts_world 4 voxels hfits
  have hends : voxels.all (fun voxel => int32Low + 4 ≤ voxel.cell.x ∧
      int32Low ≤ voxel.cell.z - 2 ∧ voxel.cell.z + 2 ≤ int32High) = true := by decide +kernel
  have hcolumns : (facing? 4 voxels).map (fun p => (p.xStart, p.xEnd)) = some (-20, -17) := by
    decide +kernel
  obtain ⟨p, hp, hp'⟩ := Option.map_eq_some_iff.mp hcolumns
  obtain ⟨hxStart, hxEnd⟩ := Prod.mk.inj hp'
  obtain ⟨-, -, -, lowX, lowZ, highZ, hlowX, hlowZ, hhighZ, hfront⟩ := hplatform p hp
  obtain ⟨⟨left, hleft, rfl⟩, -⟩ := hlowX
  obtain ⟨⟨front, hfront', rfl⟩, -⟩ := hlowZ
  obtain ⟨⟨back, hback, rfl⟩, -⟩ := hhighZ
  have hfar := fun voxel hvoxel => of_decide_eq_true (List.all_eq_true.mp hends voxel hvoxel)
  obtain ⟨-, hshared, -, -⟩ :=
    hfront (hfar left hleft).1 (hfar front hfront').2.1 (hfar back hback).2.2
  exact ⟨hfits, hperm _ (List.reverse_perm voxels).symm, p, hp, hxStart, hxEnd, hshared⟩

end Platform

end VoxelScore
