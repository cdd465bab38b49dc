import Mathlib
import VoxelScore.Proofs.Number.Value
import VoxelScore.Proofs.Timeline.Slots
import VoxelScore.Score

/-!
# Bounded grids

A grid has at least one slot and at most the greatest number of them, at every rate: rates below the
least one and not-a-number count as the least one, and a product that is infinite or not a number is
brought into the range like any other. In between, a whole rate is a number of slots for every step,
since no product of such numbers is rounded. A part therefore has no more events than its cycles,
the greatest number of slots and the tokens of its fullest step allow, whatever its modifiers say.

## Main definitions

* `Mini.mostTokens`: the number of tokens of the fullest step

## Main results

* `minRate_lt_of_isWhole`: every whole rate is above the least one
* `slotCount_of_whole`: as many slots for every step as the rate says
* `Grid.length_events_le`: the number of events of a grid
* `Part.bounded`: slots and events of all parts
-/

namespace VoxelScore

open Double (IsWhole IsWholeAs isWhole_ofNat)

variable {n k m : ℕ}

/-! ## Slots of whole rates -/

/-- The least rate, with a mantissa of 53 bits. -/
theorem unpack_minRate :
    minRate.toModel.unpack = .finite .positive 7378697629483821 (-66) (by decide) := rfl

/-- **Every whole rate is above the least one**, which is below 1. -/
theorem minRate_lt_of_isWhole {rate : Float} (hrate : IsWhole rate k) (hk : 1 ≤ k) :
    minRate < rate := by
  refine decide_eq_true ?_
  show (minRate.toModel.unpack.compare rate.toModel.unpack == some .lt) = true
  rw [unpack_minRate]
  unfold IsWhole at hrate
  generalize rate.toModel.unpack = u at hrate
  generalize hwhole : (k : ℤ) = whole at hrate
  cases hrate with
  | zero => omega
  | @finite s l whole j pos normal exact =>
    -- both have 53 bits, and the exponent of the whole rate is at least -52
    have hlog := Double.log2_add_eq normal exact
    have hsign := Double.sign_eq pos exact
    rw [if_pos (by omega)] at hsign
    subst hsign
    have hexponent : compare (-66 : ℤ) (-j) = .lt := compare_lt_iff_lt.mpr (by omega)
    show (some ((compare (-66 : ℤ) (-j)).then _) == some Ordering.lt) = true
    rw [hexponent]
    rfl

/-- **As many slots for every step as the rate says**, if there are no more of them than the
greatest number. -/
theorem slotCount_of_whole (hn : 1 ≤ n) (hk : 1 ≤ k) (h : n * k ≤ maxSlots) :
    slotCount n (Float.ofNat k) = n * k := by
  have hsteps : n ≤ n * k := Nat.le_mul_of_pos_right n hk
  have hrate : k ≤ n * k := Nat.le_mul_of_pos_left k hn
  unfold maxSlots at h
  have hwhole := isWhole_ofNat (n := k) (by omega)
  have hproduct : IsWhole (Float.ofNat n * Float.ofNat k) (n * k : ℕ) := by
    have hmul := (isWhole_ofNat (n := n) (by omega)).mul hwhole (by omega) (by omega)
    rwa [← Nat.cast_mul] at hmul
  have hvalue := hproduct.value?_eq
  unfold slotCount
  rw [effectiveRate, if_pos (minRate_lt_of_isWhole hwhole hk),
    Double.nearestWithin_of_value? (n := (n * k : ℕ)) (by exact_mod_cast hvalue),
    clamp_of_mem (by omega) (by unfold maxSlots; omega), Int.toNat_natCast]

/-! ## Events -/

namespace Mini

/-- **The number of tokens of the fullest step**; none if there are no steps. -/
def mostTokens (steps : List Step) : ℕ :=
  ((steps.map List.length).max?).getD 0

theorem length_le_mostTokens {steps : List Step} {step : Step} (h : step ∈ steps) :
    step.length ≤ mostTokens steps := by
  have hlength : step.length ∈ steps.map List.length := List.mem_map_of_mem h
  unfold mostTokens
  cases hmax : (steps.map List.length).max? with
  | none =>
    rw [List.max?_eq_none_iff.mp hmax] at hlength
    cases hlength
  | some most => exact (List.max?_eq_some_iff.mp hmax).2 _ hlength

end Mini

/-- So many lists of a bounded length. -/
theorem length_flatMap_range_le {α : Type} {f : ℕ → List α} (n : ℕ)
    (h : ∀ i, (f i).length ≤ m) : ((List.range n).flatMap f).length ≤ n * m := by
  rw [List.length_flatMap]
  calc ((List.range n).map fun i => (f i).length).sum
      ≤ ((List.range n).map fun i => (f i).length).length • m := by
        refine List.sum_le_card_nsmul _ _ fun length hlength => ?_
        obtain ⟨i, -, rfl⟩ := List.mem_map.mp hlength
        exact h i
    _ = n * m := by rw [List.length_map, List.length_range, smul_eq_mul]

namespace Grid

variable (g : Grid)

/-- A slot has at most one event for every token of its step. -/
theorem length_slotEvents_le (slots cycle slot : ℕ) :
    (g.slotEvents slots cycle slot).length ≤ Mini.mostTokens g.steps.toList := by
  rw [slotEvents, List.length_map, slotTriggers]
  cases hstep : g.steps[slot % g.steps.size]? with
  | none => exact Nat.zero_le _
  | some step =>
    refine (List.length_filterMap_le _ _).trans (Mini.length_le_mostTokens ?_)
    exact Array.mem_toList_iff.mpr (Array.mem_of_getElem? hstep)

/-- **The number of events** is bounded by cycles, slots and the fullest step. -/
theorem length_events_le (cycles : ℕ) :
    (g.events cycles).length ≤ max 1 cycles * (g.slots * Mini.mostTokens g.steps.toList) := by
  unfold events
  split
  · exact Nat.zero_le _
  · rw [max_comm]
    refine length_flatMap_range_le _ fun cycle => ?_
    exact length_flatMap_range_le _ (g.length_slotEvents_le g.slots cycle)

end Grid

/-- **Grids and parts are bounded.** Whatever the rate, not-a-number and infinities included, a
cycle has at least one slot and at most 4096. At a whole rate every step has as many slots as the
rate says, if there are no more than 4096. A part, whatever its block and so its modifiers, has no
more events than its cycles, at least one, times 4096 times the tokens of its fullest step. -/
theorem Part.bounded :
    (∀ (steps : ℕ) (rate : Float), 1 ≤ slotCount steps rate ∧ slotCount steps rate ≤ 4096) ∧
      (∀ n k : ℕ, 1 ≤ n → 1 ≤ k → n * k ≤ 4096 → slotCount n (Float.ofNat k) = n * k) ∧
      ∀ (modes : Modes) (block : Script.Block) (lane cycles : ℕ),
        ((Part.ofBlock modes block lane).grid.events cycles).length ≤
          max 1 cycles * 4096 * Mini.mostTokens (Mini.steps block.body) := by
  refine ⟨?_, ?_, ?_⟩
  · intro steps rate
    exact ⟨slotCount_pos steps rate, slotCount_le steps rate⟩
  · intro n k hn hk h
    exact slotCount_of_whole hn hk h
  · intro modes block lane cycles
    have hslots : (Part.ofBlock modes block lane).grid.slots ≤ 4096 := slotCount_le _ _
    have hsteps : (Part.ofBlock modes block lane).grid.steps.toList = Mini.steps block.body :=
      List.toList_toArray
    have hevents := (Part.ofBlock modes block lane).grid.length_events_le cycles
    rw [hsteps] at hevents
    refine hevents.trans ?_
    rw [mul_assoc]
    exact Nat.mul_le_mul_left _ (Nat.mul_le_mul_right _ hslots)

/-- Three steps at the highest whole rate that is played as it is, and at an infinite one; and a
part that asks for a billion turns of a step and a chord. -/
theorem Part.bounded_fast :
    1 ≤ 3 ∧ 1 ≤ 1365 ∧ 3 * 1365 ≤ 4096 ∧ slotCount 3 (Float.ofNat 1365) = 3 * 1365 ∧
      slotCount 3 Double.infinity ≤ 4096 ∧
      ((Part.ofBlock Modes.builtin ⟨.sound, "bd [sd hh]".toList, ".fast(1e9)".toList⟩
        0).grid.events 2).length ≤ 2 * 4096 * 2 := by
  obtain ⟨range, whole, events⟩ := Part.bounded
  refine ⟨by decide, by decide, by decide, ?_, (range 3 Double.infinity).2, ?_⟩
  · exact whole 3 1365 (by decide) (by decide) (by decide)
  · have hmost : Mini.mostTokens (Mini.steps "bd [sd hh]".toList) = 2 := by decide +kernel
    have hevents := events Modes.builtin ⟨.sound, "bd [sd hh]".toList, ".fast(1e9)".toList⟩ 0 2
    rw [hmost] at hevents
    exact hevents

end VoxelScore
