import Mathlib.Tactic.Linarith
import VoxelScore.Proofs.Timeline.Slots
import VoxelScore.World.Layout

/-!
# The time axis

A cycle takes as many columns as the layout says, and an event stands in the column where the cycles
since the start, times that number, begin. The column is computed from whole parts in words of
64 bits; as long as these do not wrap around it is the exact one, moved by the centre and into
32 bits. So the columns of a lane follow one another, and cycles have bands of columns of their own.

## Main definitions

* `Dimensions.exactX`: the column of an event, over the rational numbers
* `Dimensions.Fits`: the end of the event's cycle and the centre lie within 64 signed bits
* `Dimensions.Reaches`: the exact column lies within 32 signed bits

## Main results

* `Grid.num_mul_lt_of_mem`: the scaled numerator of an event never overflows
* `Dimensions.x_eq_clamp32`: the column is the exact one, moved into 32 bits
* `Dimensions.exactX_mem_band`: the band of columns of a cycle
* `Mapper.voxel_x_exact`: exactness, order and bands of the voxels of events
-/

namespace VoxelScore

variable {d : Dimensions} {g : Grid} {e f : Event} {cycles : ℕ}

/-! ## Numbers of 64 bits -/

/-- The greatest number of 64 signed bits. -/
def int64High : ℤ := 0x7FFFFFFFFFFFFFFF

/-- An event starts with a slot of its grid, so that its numerator is small. -/
theorem Grid.num_lt_of_mem (h : e ∈ g.events cycles) : e.time.num < maxSlots := by
  obtain ⟨cycle, -, slot, hslot, he⟩ := mem_events h
  obtain ⟨trigger, -, rfl⟩ := mem_slotEvents he
  calc (CycleTime.ofSlot slot g.slots).num ≤ slot := CycleTime.num_ofSlot_le slot g.slots
    _ < g.slots := hslot
    _ ≤ maxSlots := slotCount_le _ _

/-- **The scaled numerator of an event fits 64 bits**, for every factor of 32 bits. -/
theorem Grid.num_mul_lt_of_mem (h : e ∈ g.events cycles) {factor : ℕ} (hf : factor < 2 ^ 32) :
    e.time.num * factor < words64 := by
  have hnum := num_lt_of_mem h
  calc e.time.num * factor ≤ maxSlots * 2 ^ 32 := Nat.mul_le_mul hnum.le hf.le
    _ < words64 := by norm_num [maxSlots, words64]

/-- An event lies within its cycle. -/
theorem Grid.time_mem_of_mem (h : e ∈ g.events cycles) :
    0 ≤ e.time.toRat ∧ e.time.toRat < 1 := by
  obtain ⟨-, -, slot, hslot⟩ := exists_playsAt h
  exact ⟨hslot.bounds.1, hslot.bounds.2.1⟩

theorem clamp32_mono {m n : ℤ} (h : m ≤ n) : clamp32 m ≤ clamp32 n := by
  unfold clamp32 clamp
  omega

namespace Dimensions

/-- **The column of an event**: the whole part of the cycles since the start times the columns of a
cycle, moved to the left by the cycles of the centre. -/
def exactX (d : Dimensions) (e : Event) : ℤ :=
  ⌊((e.cycle : ℚ) + e.time.toRat) * d.blocksPerCycle⌋ - d.centerCycles * d.blocksPerCycle

/-- The columns before the event's cycle together with those of the cycle, and the columns to the
left of the centre, are numbers of 64 signed bits. -/
structure Fits (d : Dimensions) (e : Event) : Prop where
  cycle : (e.cycle * d.blocksPerCycle + d.blocksPerCycle : ℤ) ≤ int64High
  center : (d.centerCycles * d.blocksPerCycle : ℤ) ≤ int64High

/-- The exact column is a number of 32 signed bits, so that it need not be moved. -/
structure Reaches (d : Dimensions) (e : Event) : Prop where
  low : int32Low ≤ d.exactX e
  high : d.exactX e ≤ int32High

/-! ## The exact column -/

/-- The cycles of an event and the part of its own cycle can be scaled one by one. -/
theorem exactX_eq (d : Dimensions) (e : Event) :
    d.exactX e = e.cycle * d.blocksPerCycle + ⌊e.time.toRat * d.blocksPerCycle⌋ -
      d.centerCycles * d.blocksPerCycle := by
  have hsplit : ((e.cycle : ℚ) + e.time.toRat) * d.blocksPerCycle =
      ((e.cycle * d.blocksPerCycle : ℕ) : ℚ) + e.time.toRat * d.blocksPerCycle := by
    rw [add_mul, Nat.cast_mul]
  rw [exactX, hsplit, Int.floor_natCast_add, Nat.cast_mul]

/-- The part of a cycle takes part of the columns of a cycle. -/
theorem floor_time_mem (ht : 0 ≤ e.time.toRat ∧ e.time.toRat < 1) :
    0 ≤ ⌊e.time.toRat * d.blocksPerCycle⌋ ∧
      ⌊e.time.toRat * d.blocksPerCycle⌋ ≤ (d.blocksPerCycle : ℤ) := by
  have hblocks : (0 : ℚ) ≤ d.blocksPerCycle := Nat.cast_nonneg _
  constructor
  · exact Int.floor_nonneg.mpr (mul_nonneg ht.1 hblocks)
  · have hle : e.time.toRat * d.blocksPerCycle ≤ ((d.blocksPerCycle : ℤ) : ℚ) := by
      rw [Int.cast_natCast]
      exact mul_le_of_le_one_left hblocks ht.2.le
    calc ⌊e.time.toRat * d.blocksPerCycle⌋ ≤ ⌊((d.blocksPerCycle : ℤ) : ℚ)⌋ := Int.floor_mono hle
      _ = d.blocksPerCycle := Int.floor_intCast _

/-- **The column is the exact one**, moved into 32 bits. No sum of 64 bits on the way to it wraps
around. -/
theorem x_eq_clamp32 (ht : 0 ≤ e.time.toRat ∧ e.time.toRat < 1)
    (hproduct : e.time.num * d.blocksPerCycle < words64) (h : d.Fits e) :
    d.x e = clamp32 (d.exactX e) := by
  obtain ⟨hlow, hhigh⟩ := floor_time_mem (d := d) ht
  obtain ⟨hcycle, hcenter⟩ := h
  have hstart : 0 ≤ (e.cycle * d.blocksPerCycle : ℤ) := by positivity
  have hleft : 0 ≤ (d.centerCycles * d.blocksPerCycle : ℤ) := by positivity
  have hoffset : d.centerOffset = d.centerCycles * d.blocksPerCycle := mul_comm _ _
  rw [exactX_eq, x, CycleTime.floorScaled_eq_floor hproduct, hoffset, wrap64_of_mem]
  · unfold int64High at hcenter
    omega
  · unfold int64High at hcycle
    omega

/-! ## Bands -/

/-- **The band of a cycle.** The column of an event lies among those of its cycle. -/
theorem exactX_mem_band (ht : 0 ≤ e.time.toRat ∧ e.time.toRat < 1) (hd : 1 ≤ d.blocksPerCycle) :
    ((e.cycle : ℤ) - d.centerCycles) * d.blocksPerCycle ≤ d.exactX e ∧
      d.exactX e < ((e.cycle : ℤ) + 1 - d.centerCycles) * d.blocksPerCycle := by
  have hblocks : (0 : ℚ) < d.blocksPerCycle := Nat.cast_pos.mpr hd
  have hlow : 0 ≤ ⌊e.time.toRat * d.blocksPerCycle⌋ :=
    Int.floor_nonneg.mpr (mul_nonneg ht.1 hblocks.le)
  have hhigh : ⌊e.time.toRat * d.blocksPerCycle⌋ < (d.blocksPerCycle : ℤ) := by
    rw [Int.floor_lt, Int.cast_natCast]
    exact mul_lt_of_lt_one_left hblocks ht.2
  rw [exactX_eq, sub_mul, sub_mul, add_mul, one_mul]
  constructor
  · linarith
  · linarith

/-- Bands of different cycles have no column in common. -/
theorem exactX_lt_of_cycle_lt (hte : 0 ≤ e.time.toRat ∧ e.time.toRat < 1)
    (htf : 0 ≤ f.time.toRat ∧ f.time.toRat < 1) (hd : 1 ≤ d.blocksPerCycle)
    (hcycle : e.cycle < f.cycle) : d.exactX e < d.exactX f := by
  obtain ⟨-, he⟩ := exactX_mem_band hte hd
  obtain ⟨hf, -⟩ := exactX_mem_band htf hd
  have hnext : (e.cycle : ℤ) + 1 - d.centerCycles ≤ f.cycle - d.centerCycles := by omega
  calc d.exactX e < ((e.cycle : ℤ) + 1 - d.centerCycles) * d.blocksPerCycle := he
    _ ≤ ((f.cycle : ℤ) - d.centerCycles) * d.blocksPerCycle :=
      mul_le_mul_of_nonneg_right hnext (Nat.cast_nonneg _)
    _ ≤ d.exactX f := hf

/-! ## Order -/

/-- Later events of a lane stand in no earlier column. -/
theorem exactX_le_of_precedes (he : e.time.toRat < 1) (hf : 0 ≤ f.time.toRat)
    (hlane : e.lane = f.lane) (h : e.Precedes f) : d.exactX e ≤ d.exactX f := by
  have htimes : (e.cycle : ℚ) + e.time.toRat ≤ f.cycle + f.time.toRat := by
    rcases h with hlt | ⟨-, hcycle | ⟨hcycle, htime⟩⟩
    · exact absurd hlane hlt.ne
    -- a whole cycle lies between the two, which outweighs the times
    · have hle : (e.cycle : ℚ) + 1 ≤ f.cycle := by exact_mod_cast hcycle
      linarith
    · rw [ne_eq, CycleTime.compare_eq_gt_iff, not_lt] at htime
      rw [hcycle]
      linarith
  have hblocks : (0 : ℚ) ≤ d.blocksPerCycle := Nat.cast_nonneg _
  exact sub_le_sub_right (Int.floor_mono (mul_le_mul_of_nonneg_right htimes hblocks)) _

end Dimensions

/-! ## Voxels -/

/-- **The time axis of voxels.** Whatever the layout, the scaled numerator of an event never
overflows. Where the sums of 64 bits do not either, the voxel stands in the exact column, moved into
32 bits, and the columns of a lane never go back. A column that need not be moved lies in the band
of its cycle, and events of different cycles have different columns, also across lanes. -/
theorem Mapper.voxel_x_exact (m : Mapper) (hblocks : m.dimensions.blocksPerCycle < 2 ^ 32)
    (g : Grid) (cycles : ℕ) :
    (∀ e ∈ g.events cycles,
      e.time.num * m.dimensions.blocksPerCycle < words64 ∧
        (m.dimensions.Fits e → (m.voxel e).cell.x = clamp32 (m.dimensions.exactX e)) ∧
        (m.dimensions.Fits e → m.dimensions.Reaches e → 1 ≤ m.dimensions.blocksPerCycle →
          ((e.cycle : ℤ) - m.dimensions.centerCycles) * m.dimensions.blocksPerCycle ≤
              (m.voxel e).cell.x ∧
            (m.voxel e).cell.x <
              ((e.cycle : ℤ) + 1 - m.dimensions.centerCycles) * m.dimensions.blocksPerCycle)) ∧
      (g.events cycles).Pairwise (fun e f => m.dimensions.Fits e → m.dimensions.Fits f →
        (m.voxel e).cell.x ≤ (m.voxel f).cell.x) ∧
      ∀ e ∈ g.events cycles, ∀ (h : Grid) (n : ℕ), ∀ f ∈ h.events n,
        m.dimensions.Fits e → m.dimensions.Fits f → m.dimensions.Reaches e →
          m.dimensions.Reaches f → 1 ≤ m.dimensions.blocksPerCycle → e.cycle ≠ f.cycle →
            (m.voxel e).cell.x ≠ (m.voxel f).cell.x := by
  -- what holds of an event of any grid
  have hexact : ∀ (h : Grid) (n : ℕ), ∀ e ∈ h.events n, m.dimensions.Fits e →
      (m.voxel e).cell.x = clamp32 (m.dimensions.exactX e) := by
    intro h n e he hfits
    exact Dimensions.x_eq_clamp32 (Grid.time_mem_of_mem he) (Grid.num_mul_lt_of_mem he hblocks) hfits
  have hreach : ∀ (h : Grid) (n : ℕ), ∀ e ∈ h.events n, m.dimensions.Fits e →
      m.dimensions.Reaches e → (m.voxel e).cell.x = m.dimensions.exactX e := by
    intro h n e he hfits hr
    rw [hexact h n e he hfits]
    exact clamp_of_mem hr.low hr.high
  refine ⟨?_, ?_, ?_⟩
  · intro e he
    refine ⟨Grid.num_mul_lt_of_mem he hblocks, hexact g cycles e he, ?_⟩
    intro hfits hr hd
    rw [hreach g cycles e he hfits hr]
    exact Dimensions.exactX_mem_band (Grid.time_mem_of_mem he) hd
  · refine (g.pairwise_events cycles).imp_of_mem ?_
    intro e f he hf hef hfe hff
    rw [hexact g cycles e he hfe, hexact g cycles f hf hff]
    refine clamp32_mono (Dimensions.exactX_le_of_precedes (Grid.time_mem_of_mem he).2
      (Grid.time_mem_of_mem hf).1 ?_ hef)
    rw [(Grid.exists_playsAt he).1, (Grid.exists_playsAt hf).1]
  · intro e he h n f hf hfe hff hre hrf hd hne
    rw [hreach g cycles e he hfe hre, hreach h n f hf hff hrf]
    have hte := Grid.time_mem_of_mem he
    have htf := Grid.time_mem_of_mem hf
    rcases Nat.lt_or_gt_of_ne hne with hlt | hlt
    · exact (Dimensions.exactX_lt_of_cycle_lt hte htf hd hlt).ne
    · exact (Dimensions.exactX_lt_of_cycle_lt htf hte hd hlt).ne'

/-- A kick in the first cycle behind the centre of the usual layout. -/
theorem Mapper.voxel_x_exact_kick :
    Mapper.standard.dimensions.blocksPerCycle < 2 ^ 32 ∧
      ∃ e ∈ (Grid.mk #[["bd".toList]] 1.0 ⟨.sound, none⟩ 0).events 3,
        Mapper.standard.dimensions.Fits e ∧ Mapper.standard.dimensions.Reaches e ∧
          e.cycle = 2 ∧ 0 ≤ (Mapper.standard.voxel e).cell.x ∧
            (Mapper.standard.voxel e).cell.x < 8 := by
  have hblocks : Mapper.standard.dimensions.blocksPerCycle = 8 := rfl
  have hcenter : Mapper.standard.dimensions.centerCycles = 2 := rfl
  have hbound : Mapper.standard.dimensions.blocksPerCycle < 2 ^ 32 := by omega
  obtain ⟨hevents, -, -⟩ :=
    voxel_x_exact .standard hbound (Grid.mk #[["bd".toList]] 1.0 ⟨.sound, none⟩ 0) 3
  obtain ⟨e, he, hcycle⟩ :
      ∃ e ∈ (Grid.mk #[["bd".toList]] 1.0 ⟨.sound, none⟩ 0).events 3, e.cycle = 2 := by
    refine ⟨_, Grid.mem_events_of_mem_slotEvents (show 2 < max 3 1 by omega) (Grid.slots_pos _)
      (List.mem_map.mpr ⟨.sound "bd".toList, ?_, rfl⟩), rfl⟩
    exact List.mem_singleton.mpr rfl
  have hfits : Mapper.standard.dimensions.Fits e := by
    constructor
    · simp [hcycle, hblocks, int64High]
    · simp [hcenter, hblocks, int64High]
  have hband := Dimensions.exactX_mem_band (d := Mapper.standard.dimensions)
    (Grid.time_mem_of_mem he) (by omega)
  simp only [hcycle, hblocks, hcenter] at hband
  have hreaches : Mapper.standard.dimensions.Reaches e := by
    exact ⟨by unfold int32Low; omega, by unfold int32High; omega⟩
  have hx := (hevents e he).2.2 hfits hreaches (by omega)
  simp only [hcycle, hblocks, hcenter] at hx
  exact ⟨hbound, e, he, hfits, hreaches, hcycle, by omega, by omega⟩

end VoxelScore
