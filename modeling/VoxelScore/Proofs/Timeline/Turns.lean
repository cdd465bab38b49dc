import Mathlib.Algebra.BigOperators.Fin
import Mathlib.Data.List.Sort
import Mathlib.Data.Rat.Floor
import VoxelScore.Proofs.Score.Cycles

/-!
# The turns of a step

A grid with `S` slots and `n` steps plays step `j` in the slots `j`, `j + n`, `j + 2 * n` and so on,
as far as there are slots. These are the *turns* of the step. With fewer slots than steps the last
steps have none, and with a number of slots that is no multiple of the steps the first ones have one
more than the others. In each of its turns a step sounds whole, one event for each of its tokens that
the voice can read, and nothing else sounds.

## Main definitions

* `Grid.turns`: how many turns a step has in a cycle

## Main results

* `Grid.lt_turns_iff`: the turns that a step has are those whose slot is there
* `Grid.filter_range_turns`: the slots of the turns of a step
* `Grid.filter_events_slot`: the events at the time of a slot
* `Grid.sum_slots`: sums over the slots are sums over the steps and their turns
* `Grid.events_by_turns`: the events of a grid by steps and turns, and their number
-/

namespace VoxelScore

namespace Grid

variable (g : Grid) {cycles c j q slot : ℕ}

/-- How many slots of a cycle play a step: of those from its own on, every one at a distance of a
multiple of the number of steps. -/
def turns (j : ℕ) : ℕ :=
  if j < g.slots then ⌈((g.slots : ℚ) - j) / g.steps.size⌉₊ else 0

/-- A step has a turn as long as there is a slot for it. -/
theorem lt_turns_iff (hj : j < g.steps.size) : q < g.turns j ↔ j + q * g.steps.size < g.slots := by
  have hsteps : (0 : ℚ) < g.steps.size := Nat.cast_pos.mpr (Nat.zero_lt_of_lt hj)
  unfold turns
  split
  · rw [Nat.lt_ceil, lt_div_iff₀ hsteps, lt_sub_iff_add_lt, add_comm]
    norm_cast
  · constructor
    · intro h
      exact absurd h (Nat.not_lt_zero q)
    · intro h
      omega

/-- **The slots of the turns of a step**, in order. -/
theorem filter_range_turns (hj : j < g.steps.size) :
    (List.range g.slots).filter (· % g.steps.size = j) =
      (List.range (g.turns j)).map (j + · * g.steps.size) := by
  have hsteps : 0 < g.steps.size := Nat.zero_lt_of_lt hj
  have rising : ((List.range (g.turns j)).map (j + · * g.steps.size)).Pairwise (· < ·) := by
    refine List.pairwise_map.mpr (List.pairwise_lt_range.imp fun h => ?_)
    exact Nat.add_lt_add_left (Nat.mul_lt_mul_of_pos_right h hsteps) j
  refine (List.pairwise_lt_range.filter _).eq_of_mem_iff rising fun s => ?_
  -- Both lists rise, so that it is enough to compare what is in them.
  rw [List.mem_filter, List.mem_range, decide_eq_true_eq, List.mem_map]
  constructor
  · rintro ⟨hs, rfl⟩
    have hslot : s % g.steps.size + s / g.steps.size * g.steps.size = s := Nat.mod_add_div' ..
    refine ⟨s / g.steps.size, List.mem_range.mpr ((g.lt_turns_iff hj).mpr ?_), hslot⟩
    rwa [hslot]
  · rintro ⟨q, hq, rfl⟩
    refine ⟨(g.lt_turns_iff hj).mp (List.mem_range.mp hq), ?_⟩
    rw [Nat.add_mul_mod_self_right, Nat.mod_eq_of_lt hj]

/-- In a turn of a step its tokens are read. -/
theorem slotTriggers_turn (hj : j < g.steps.size) (q : ℕ) :
    g.slotTriggers (j + q * g.steps.size) = g.steps[j].filterMap g.voice.trigger? := by
  rw [slotTriggers, Nat.add_mul_mod_self_right, Nat.mod_eq_of_lt hj, Array.getElem?_eq_getElem hj]
  rfl

/-! ## Events at the time of a slot -/

theorem time_of_mem_slotEvents {e : Event} (h : e ∈ g.slotEvents g.slots c slot) :
    e.time.toRat = slot / g.slots := by
  obtain ⟨trigger, -, rfl⟩ := mem_slotEvents h
  exact CycleTime.toRat_ofSlot g.slots_pos

/-- **The events at the time of a slot** of a cycle that is played are those of the slot. -/
theorem filter_events_slot (hsteps : 0 < g.steps.size) (hc : c < max cycles 1)
    (hslot : slot < g.slots) :
    (g.events cycles).filter (fun e : Event => e.cycle = c ∧ e.time.toRat = slot / g.slots) =
      g.slotEvents g.slots c slot := by
  have hS : (g.slots : ℚ) ≠ 0 := Nat.cast_ne_zero.mpr g.slots_pos.ne'
  have cycle : (g.events cycles).filter (·.cycle = c) = g.cycleEvents c := by
    rw [events_eq_flatMap hsteps, filter_flatMap_cycleEvents g (· = c), filter_range_eq hc,
      List.flatMap_singleton]
  -- no other slot of the cycle has the same time
  have time : (g.cycleEvents c).filter (fun e : Event => e.time.toRat = slot / g.slots) =
      g.slotEvents g.slots c slot := by
    have whole : ∀ i, ∀ e ∈ g.slotEvents g.slots c i,
        decide (e.time.toRat = (slot : ℚ) / g.slots) = decide (i = slot) := by
      intro i e he
      simp only [g.time_of_mem_slotEvents he, div_left_inj' hS, Nat.cast_inj]
    rw [cycleEvents, filter_flatMap_of_whole whole, filter_range_eq hslot, List.flatMap_singleton]
  rw [← time, ← cycle, List.filter_filter]
  simp only [Bool.decide_and, Bool.and_comm]

/-! ## Counting -/

/-- **Sums over the slots of a cycle** are sums over the steps, each as often as it has turns. -/
theorem sum_slots (hsteps : 0 < g.steps.size) (f : ℕ → ℕ) :
    ∑ slot ∈ Finset.range g.slots, f (slot % g.steps.size) =
      ∑ j ∈ Finset.range g.steps.size, g.turns j * f j := by
  have step : ∀ slot ∈ Finset.range g.slots, slot % g.steps.size ∈ Finset.range g.steps.size :=
    fun slot _ => Finset.mem_range.mpr (Nat.mod_lt slot hsteps)
  rw [← Finset.sum_fiberwise_of_maps_to step]
  refine Finset.sum_congr rfl fun j hj => ?_
  -- in all turns of a step the summand is that of the step
  have same : ∀ slot ∈ {slot ∈ Finset.range g.slots | slot % g.steps.size = j},
      f (slot % g.steps.size) = f j := by
    intro slot hslot
    rw [(Finset.mem_filter.mp hslot).2]
  have count : Finset.card {slot ∈ Finset.range g.slots | slot % g.steps.size = j} = g.turns j := by
    have listed := congrArg List.length (g.filter_range_turns (Finset.mem_range.mp hj))
    rw [List.length_map, List.length_range] at listed
    exact listed
  rw [Finset.sum_congr rfl same, Finset.sum_const, count, smul_eq_mul]

/-- A cycle has the events of all turns of all steps. -/
theorem length_cycleEvents (hsteps : 0 < g.steps.size) (c : ℕ) :
    (g.cycleEvents c).length =
      ∑ j ∈ Finset.range g.steps.size, g.turns j * (g.slotTriggers j).length := by
  have slots : (g.cycleEvents c).length =
      ∑ slot ∈ Finset.range g.slots, (g.slotTriggers (slot % g.steps.size)).length := by
    have events : ∀ slot, (g.slotEvents g.slots c slot).length =
        (g.slotTriggers (slot % g.steps.size)).length := by
      intro slot
      rw [slotEvents, List.length_map, slotTriggers, slotTriggers, Nat.mod_mod]
    rw [cycleEvents, List.length_flatMap]
    simp only [events]
    rfl
  rw [slots, g.sum_slots hsteps fun j => (g.slotTriggers j).length]

/-- All cycles have the same number of events. -/
theorem length_events (cycles : ℕ) :
    (g.events cycles).length =
      max 1 cycles * ∑ j ∈ Finset.range g.steps.size, g.turns j * (g.slotTriggers j).length := by
  rcases Nat.eq_zero_or_pos g.steps.size with hnone | hsteps
  · rw [events_of_no_steps hnone, hnone, Finset.range_zero, Finset.sum_empty, List.length_nil,
      Nat.mul_zero]
  · rw [events_eq_flatMap hsteps, List.length_flatMap]
    simp only [g.length_cycleEvents hsteps]
    rw [List.map_const', List.length_range, List.sum_replicate_nat, Nat.max_comm]

/-- **The events of a grid by steps and turns.** The slots that play a step are those of its turns: its
own slot and every one at a distance of a multiple of the number of steps. At the time of a turn, in
every cycle that is played, stand the tokens of the step that the voice can read, in order, one event
each, all of them as long as the slot; and every event stands in a turn. So there are as many events
as the cycles times the sum of turns times readable tokens of all steps, which is none without
steps. -/
theorem events_by_turns (cycles : ℕ) :
    (∀ j (hj : j < g.steps.size),
      (List.range g.slots).filter (· % g.steps.size = j) =
          (List.range (g.turns j)).map (j + · * g.steps.size) ∧
        ∀ c < max 1 cycles, ∀ q < g.turns j,
          (g.events cycles).filter (fun e : Event => e.cycle = c ∧
              e.time.toRat = ((j + q * g.steps.size : ℕ) : ℚ) / g.slots) =
            (g.steps[j].filterMap g.voice.trigger?).map
              (.ofTrigger c (.ofSlot (j + q * g.steps.size) g.slots) (.slotWidth g.slots)
                g.lane)) ∧
      (∀ e ∈ g.events cycles, e.cycle < max 1 cycles ∧ ∃ j < g.steps.size, ∃ q < g.turns j,
        e.time.toRat = ((j + q * g.steps.size : ℕ) : ℚ) / g.slots ∧
          e.duration.toRat = 1 / g.slots) ∧
      (g.events cycles).length = max 1 cycles * ∑ j : Fin g.steps.size,
        g.turns j * g.steps[j].countP fun token => (g.voice.trigger? token).isSome := by
  refine ⟨?_, ?_, ?_⟩
  · intro j hj
    refine ⟨g.filter_range_turns hj, ?_⟩
    intro c hc q hq
    have hsteps : 0 < g.steps.size := Nat.zero_lt_of_lt hj
    rw [max_comm] at hc
    rw [g.filter_events_slot hsteps hc ((g.lt_turns_iff hj).mp hq), slotEvents,
      g.slotTriggers_turn hj]
  · intro e he
    obtain ⟨-, hc, slot, hplays⟩ := exists_playsAt he
    obtain ⟨step, hstep, -⟩ := hplays.source
    have hj : slot % g.steps.size < g.steps.size := (Array.getElem?_eq_some_iff.mp hstep).1
    have hslot : slot % g.steps.size + slot / g.steps.size * g.steps.size = slot :=
      Nat.mod_add_div' ..
    rw [max_comm] at hc
    refine ⟨hc, slot % g.steps.size, hj, slot / g.steps.size, ?_, ?_, hplays.duration⟩
    · rw [g.lt_turns_iff hj, hslot]
      exact hplays.slot_lt
    · rw [hslot]
      exact hplays.time
  · have readable : ∀ j : Fin g.steps.size, (g.slotTriggers j).length =
        g.steps[j].countP fun token => (g.voice.trigger? token).isSome := by
      intro j
      have turn := g.slotTriggers_turn j.isLt 0
      rw [Nat.zero_mul, Nat.add_zero] at turn
      rw [turn, List.length_filterMap_eq_countP]
      rfl
    rw [g.length_events, Finset.sum_range]
    simp only [readable]

/-- Four slots for three steps: the first step has a second turn, which starts at three quarters of
the cycle, and a token that is no note is left out. -/
theorem events_by_turns_partial :
    let g : Grid := ⟨#[["c4".toList], ["xyz".toList, "e4".toList], []], 1.3, ⟨.note, none⟩, 0⟩
    g.slots = 4 ∧ g.turns 0 = 2 ∧ g.turns 1 = 1 ∧ g.turns 2 = 1 ∧
      (g.events 2).filter (fun e : Event => e.cycle = 1 ∧ e.time.toRat = 3 / 4) =
        [.ofTrigger 1 (.ofSlot 3 4) (.slotWidth 4) 0
          (.pitched "note".toList (Float.ofInt 60) "c4".toList)] ∧
      (g.events 2).length = 6 := by
  intro g
  have hslots : g.slots = 4 := by decide +kernel
  have hturns : g.turns 0 = 2 ∧ g.turns 1 = 1 ∧ g.turns 2 = 1 := by
    unfold turns
    rw [hslots]
    decide +kernel
  obtain ⟨turns, -, number⟩ := g.events_by_turns 2
  refine ⟨hslots, hturns.1, hturns.2.1, hturns.2.2, ?_, ?_⟩
  · have second := (turns 0 (by decide)).2 1 (by decide) 1 (by rw [hturns.1]; decide)
    rw [hslots] at second
    exact second
  · have sum : ∑ j : Fin g.steps.size,
        g.turns j * g.steps[j].countP (fun token => (g.voice.trigger? token).isSome) =
          2 * 1 + 1 * 1 + 1 * 0 := by
      refine (Fin.sum_univ_three _).trans ?_
      change g.turns 0 * _ + g.turns 1 * _ + g.turns 2 * _ = _
      rw [hturns.1, hturns.2.1, hturns.2.2]
      decide +kernel
    rw [number, sum]
    rfl

end Grid

end VoxelScore
