import Mathlib.Data.List.Basic
import Mathlib.Data.List.Nodup
import VoxelScore.Proofs.Score.Order

/-!
# Scores of more or fewer cycles

A score is played cycle by cycle on every lane, and every cycle is played alike. How many cycles
are asked for decides where each lane stops and nothing else: a shorter score consists of the events
of a longer one up to its last cycle.

## Main definitions

* `Event.inCycle`: an event at the same time of another cycle

## Main results

* `Grid.filter_events`: events chosen by their cycles are those of the chosen cycles
* `Grid.cycleEvents_eq_map`: every cycle of a grid repeats the first one
* `Score.ofResolved_cycles`: scores of one source with different numbers of cycles
-/

namespace VoxelScore

/-- The event at the same time of another cycle. -/
def Event.inCycle (cycle : ℕ) (e : Event) : Event := { e with cycle := cycle }

/-! ## The cycles that are played -/

theorem filter_range_lt {m n : ℕ} (h : m ≤ n) : (List.range n).filter (· < m) = List.range m := by
  obtain ⟨k, rfl⟩ := Nat.exists_eq_add_of_le h
  rw [List.range_add, List.filter_append]
  have hkept : (List.range m).filter (· < m) = List.range m := by
    refine List.filter_eq_self.mpr ?_
    intro c hc
    simpa using hc
  have hdropped : ((List.range k).map (m + ·)).filter (· < m) = [] := by
    refine List.filter_eq_nil_iff.mpr ?_
    intro c hc
    obtain ⟨d, -, rfl⟩ := List.mem_map.mp hc
    simp
  rw [hkept, hdropped, List.append_nil]

theorem filter_range_eq {c n : ℕ} (h : c < n) : (List.range n).filter (· = c) = [c] := by
  rw [List.filter_eq, List.count_eq_one_of_mem List.nodup_range (List.mem_range.mpr h)]
  rfl

/-! ## One grid -/

namespace Grid

variable {g : Grid} {e : Event} {c m n : ℕ}

theorem cycle_of_mem_cycleEvents (h : e ∈ g.cycleEvents c) : e.cycle = c := by
  obtain ⟨slot, -, h⟩ := List.mem_flatMap.mp h
  obtain ⟨trigger, -, rfl⟩ := mem_slotEvents h
  rfl

/-- Choosing events by their cycles is choosing the cycles. -/
theorem filter_flatMap_cycleEvents (g : Grid) (p : ℕ → Bool) (cycles : List ℕ) :
    (cycles.flatMap g.cycleEvents).filter (fun e => p e.cycle) =
      (cycles.filter p).flatMap g.cycleEvents := by
  refine filter_flatMap_of_whole (fun c e he => ?_) cycles
  rw [cycle_of_mem_cycleEvents he]

/-- **Events chosen by their cycles** are those of the chosen cycles, in the same order. -/
theorem filter_events (g : Grid) (p : ℕ → Bool) (n : ℕ) :
    (g.events n).filter (fun e => p e.cycle) =
      if g.steps.isEmpty then [] else ((List.range (max n 1)).filter p).flatMap g.cycleEvents := by
  unfold events
  split
  · rfl
  · exact filter_flatMap_cycleEvents g p _

/-- Fewer cycles are the first ones of more. -/
theorem filter_events_lt (g : Grid) (hm : 1 ≤ m) (hmn : m ≤ n) :
    (g.events n).filter (fun e => e.cycle < m) = g.events m := by
  have hrange : (List.range (max n 1)).filter (· < m) = List.range (max m 1) := by
    rw [max_eq_left hm, filter_range_lt (hmn.trans (le_max_left n 1))]
  rw [filter_events g (· < m) n, hrange]
  rfl

/-- **Every cycle repeats the first one.** Slots, times and tokens do not depend on the cycle. -/
theorem cycleEvents_eq_map (g : Grid) (c : ℕ) :
    g.cycleEvents c = (g.cycleEvents 0).map (Event.inCycle c) := by
  unfold cycleEvents
  rw [List.map_flatMap]
  refine List.flatMap_congr ?_
  intro slot _
  unfold slotEvents
  rw [List.map_map]
  rfl

/-- The events of a cycle that is played are those of the first one, in that cycle. -/
theorem filter_events_eq (g : Grid) (hc : c < max n 1) :
    (g.events n).filter (·.cycle = c) =
      ((g.events n).filter (·.cycle = 0)).map (Event.inCycle c) := by
  have hzero : 0 < max n 1 := by omega
  rw [filter_events g (· = c) n, filter_events g (· = 0) n, filter_range_eq hc,
    filter_range_eq hzero]
  split
  · rfl
  · rw [List.flatMap_singleton, List.flatMap_singleton]
    exact cycleEvents_eq_map g c

end Grid

/-! ## All lanes -/

namespace Score

variable {m n c : ℕ}

theorem filter_eventsOf_lt (hm : 1 ≤ m) (hmn : m ≤ n) (parts : List Part) :
    (eventsOf n parts).filter (fun e => e.cycle < m) = eventsOf m parts := by
  unfold eventsOf
  rw [List.filter_flatMap]
  refine List.flatMap_congr ?_
  intro p _
  exact p.grid.filter_events_lt hm hmn

theorem filter_eventsOf_eq (hc : c < max n 1) (parts : List Part) :
    (eventsOf n parts).filter (·.cycle = c) =
      ((eventsOf n parts).filter (·.cycle = 0)).map (Event.inCycle c) := by
  unfold eventsOf
  rw [List.filter_flatMap, List.filter_flatMap, List.map_flatMap]
  refine List.flatMap_congr ?_
  intro p _
  exact p.grid.filter_events_eq hc

/-- The cycle of an event does not tell its lane, so that what holds of all lanes holds of each. -/
theorem filter_eventsOf_lane (hc : c < max n 1) (parts : List Part) (lane : ℕ) :
    (eventsOf n parts).filter (fun e => e.lane = lane ∧ e.cycle = c) =
      ((eventsOf n parts).filter (fun e => e.lane = lane ∧ e.cycle = 0)).map
        (Event.inCycle c) := by
  have hsplit : ∀ d, (eventsOf n parts).filter (fun e => e.lane = lane ∧ e.cycle = d) =
      ((eventsOf n parts).filter (·.cycle = d)).filter (·.lane = lane) := by
    intro d
    rw [List.filter_filter]
    simp only [Bool.decide_and]
  rw [hsplit c, hsplit 0, filter_eventsOf_eq hc, List.filter_map]
  rfl

/-- **Scores of one source with different numbers of cycles.** A score of fewer cycles has the
events of a score of more cycles that lie in its cycles, in the same order. Code, status and parts,
which hold blocks, steps, rates and scales, are the same for every number. Within a score every
cycle of a lane repeats the first one, and no cycles are played as one. -/
theorem ofResolved_cycles (modes : Modes) (source : Source.Resolved) (hm : 1 ≤ m) (hmn : m ≤ n) :
    (ofResolved ⟨m, modes⟩ source).events =
        (ofResolved ⟨n, modes⟩ source).events.filter (fun e => e.cycle < m) ∧
      (∀ k l,
        (ofResolved ⟨k, modes⟩ source).code = (ofResolved ⟨l, modes⟩ source).code ∧
        (ofResolved ⟨k, modes⟩ source).status = (ofResolved ⟨l, modes⟩ source).status ∧
        (ofResolved ⟨k, modes⟩ source).parts = (ofResolved ⟨l, modes⟩ source).parts) ∧
      (∀ k c lane, c < max k 1 →
        (ofResolved ⟨k, modes⟩ source).events.filter (fun e => e.lane = lane ∧ e.cycle = c) =
          ((ofResolved ⟨k, modes⟩ source).events.filter
            (fun e => e.lane = lane ∧ e.cycle = 0)).map (Event.inCycle c)) ∧
      ofResolved ⟨0, modes⟩ source = ofResolved ⟨1, modes⟩ source := by
  refine ⟨(filter_eventsOf_lt hm hmn _).symm, ?_, ?_, ?_⟩
  · intro k l
    exact ⟨rfl, rfl, rfl⟩
  · intro k c lane hc
    exact filter_eventsOf_lane hc _ lane
  · rfl

/-- Two cycles of three, and the last one of three on the second lane, which has a rate of its
own. -/
theorem ofResolved_cycles_two_lanes :
    1 ≤ 2 ∧ 2 ≤ 3 ∧ 2 < max 3 1 ∧
      (ofCode ⟨2, Modes.builtin⟩ "$: s('bd sd')\n$: n('0 [2 4]').fast(3)".toList).events =
        (ofCode ⟨3, Modes.builtin⟩
          "$: s('bd sd')\n$: n('0 [2 4]').fast(3)".toList).events.filter (fun e => e.cycle < 2) ∧
      (ofCode ⟨3, Modes.builtin⟩ "$: s('bd sd')\n$: n('0 [2 4]').fast(3)".toList).events.filter
          (fun e => e.lane = 1 ∧ e.cycle = 2) =
        ((ofCode ⟨3, Modes.builtin⟩
          "$: s('bd sd')\n$: n('0 [2 4]').fast(3)".toList).events.filter
            (fun e => e.lane = 1 ∧ e.cycle = 0)).map (Event.inCycle 2) := by
  obtain ⟨hfewer, -, hperiod, -⟩ := ofResolved_cycles Modes.builtin
    (.inline "$: s('bd sd')\n$: n('0 [2 4]').fast(3)".toList)
    (show 1 ≤ 2 by omega) (show 2 ≤ 3 by omega)
  exact ⟨by omega, by omega, by omega, hfewer, hperiod 3 2 1 (by omega)⟩

end Score

end VoxelScore
