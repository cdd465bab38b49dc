import Mathlib.Tactic.FieldSimp
import VoxelScore.Proofs.Timeline.Slots

/-!
# Whole factors of speed

A grid that is played a whole number of times as fast has that many times as many slots, and plays
its steps over and over in one cycle. It plays what the slow grid plays in as many cycles: a cycle
of the fast grid is a *bundle* of cycles of the slow one, each squeezed into its part of the cycle.
This is exact, event by event and in lowest terms, not up to rounding.

## Main definitions

* `CycleTime.bundled`, `CycleTime.shortened`: times and lengths in a bundle of cycles
* `Event.bundled`: an event of one of the cycles of a bundle
* `Grid.atRate`: a grid at another rate

## Main results

* `CycleTime.toRat_bundled`, `CycleTime.toRat_shortened`: both as rational numbers
* `Grid.cycleEvents_bundled`: a cycle of the fast grid
* `Grid.events_speedUp`: the events of the fast grid
-/

namespace VoxelScore

namespace CycleTime

variable {count : ℕ}

/-- The time at which a time of a cycle falls when bundles of so many cycles are played as one: the
cycles of its bundle that are over, and the time itself, by the number of cycles. -/
def bundled (count cycle : ℕ) (t : CycleTime) : CycleTime :=
  ofFraction (cycle % count * t.den + t.num) (count * t.den)

/-- A length in a bundle of so many cycles. -/
def shortened (count : ℕ) (t : CycleTime) : CycleTime := ofFraction t.num (count * t.den)

theorem toRat_bundled (h : 0 < count) (cycle : ℕ) (t : CycleTime) :
    (t.bundled count cycle).toRat = ((cycle % count : ℕ) + t.toRat) / count := by
  have hden : (t.den : ℚ) ≠ 0 := t.den_cast_pos.ne'
  rw [bundled, toRat_ofFraction (Nat.mul_pos h t.den_pos), toRat]
  push_cast
  field_simp

theorem toRat_shortened (h : 0 < count) (t : CycleTime) :
    (t.shortened count).toRat = t.toRat / count := by
  have hden : (t.den : ℚ) ≠ 0 := t.den_cast_pos.ne'
  rw [shortened, toRat_ofFraction (Nat.mul_pos h t.den_pos), toRat]
  push_cast
  field_simp

/-- A slot of a cycle of a bundle is a slot of the bundle. -/
theorem bundled_ofSlot {part slot slots : ℕ} (hpart : part < count) (hslots : 0 < slots)
    (cycle : ℕ) :
    (ofSlot slot slots).bundled count (cycle * count + part) =
      ofSlot (part * slots + slot) (count * slots) := by
  have hcount : 0 < count := Nat.zero_lt_of_lt hpart
  have hmod : (cycle * count + part) % count = part := by
    rw [Nat.mul_add_mod_self_right, Nat.mod_eq_of_lt hpart]
  have hslots' : (slots : ℚ) ≠ 0 := Nat.cast_ne_zero.mpr hslots.ne'
  refine toRat_injective ?_
  rw [toRat_bundled hcount, hmod, toRat_ofSlot hslots, toRat_ofSlot (Nat.mul_pos hcount hslots)]
  push_cast
  field_simp

theorem shortened_slotWidth {slots : ℕ} (hcount : 0 < count) (hslots : 0 < slots) :
    (slotWidth slots).shortened count = slotWidth (count * slots) := by
  refine toRat_injective ?_
  rw [toRat_shortened hcount, toRat_slotWidth hslots, toRat_slotWidth (Nat.mul_pos hcount hslots)]
  push_cast
  field_simp

end CycleTime

/-- The event in a bundle of so many cycles: in the cycle that its bundle is played as, at its time
there, and shortened. -/
def Event.bundled (count : ℕ) (e : Event) : Event :=
  { e with
    cycle := e.cycle / count
    time := e.time.bundled count e.cycle
    duration := e.duration.shortened count }

/-- Numbers below a product, as so many runs of one length. -/
theorem flatMap_range_mul {α : Type} (m n : ℕ) (f : ℕ → List α) :
    (List.range (m * n)).flatMap f =
      (List.range m).flatMap fun i => (List.range n).flatMap fun j => f (i * n + j) := by
  induction m with
  | zero => rw [Nat.zero_mul, List.range_zero, List.flatMap_nil, List.flatMap_nil]
  | succ m ih =>
    rw [Nat.succ_mul, List.range_add, List.flatMap_append, ih, List.range_succ,
      List.flatMap_append, List.flatMap_map, List.flatMap_singleton]

namespace Grid

variable (g : Grid) {count slots : ℕ}

/-- The grid at another rate. -/
def atRate (rate : Float) : Grid := { g with rate := rate }

/-- The steps are played again after as many slots as there are steps. -/
theorem slotTriggers_add (again slot : ℕ) :
    g.slotTriggers (again * g.steps.size + slot) = g.slotTriggers slot := by
  rw [slotTriggers, Nat.mul_add_mod_self_right, slotTriggers]

theorem slotEvents_bundled {part : ℕ} (hpart : part < count) (hsteps : 0 < g.steps.size)
    (cycle slot : ℕ) :
    g.slotEvents (count * g.steps.size) cycle (part * g.steps.size + slot) =
      (g.slotEvents g.steps.size (cycle * count + part) slot).map (Event.bundled count) := by
  have hcount : 0 < count := Nat.zero_lt_of_lt hpart
  have hcycle : (cycle * count + part) / count = cycle := by
    rw [Nat.mul_comm, Nat.mul_add_div hcount, Nat.div_eq_of_lt hpart, Nat.add_zero]
  rw [slotEvents, slotTriggers_add, slotEvents, List.map_map]
  refine List.map_congr_left fun trigger _ => ?_
  rw [← CycleTime.bundled_ofSlot hpart hsteps cycle, ← CycleTime.shortened_slotWidth hcount hsteps]
  simp only [Function.comp_apply, Event.bundled, Event.ofTrigger, hcycle]

variable {g} {unit fast : Float}

/-- A cycle with so many times as many slots as there are steps is a bundle of cycles in which every
step has its slot. -/
theorem cycleEvents_bundled (once : slotCount g.steps.size unit = g.steps.size)
    (often : slotCount g.steps.size fast = count * g.steps.size) (cycle : ℕ) :
    (g.atRate fast).cycleEvents cycle =
      (List.range count).flatMap fun part =>
        ((g.atRate unit).cycleEvents (cycle * count + part)).map (Event.bundled count) := by
  have hsteps : 0 < g.steps.size := once ▸ slotCount_pos _ _
  have hfast : (g.atRate fast).cycleEvents cycle =
      (List.range (count * g.steps.size)).flatMap
        (g.slotEvents (count * g.steps.size) cycle) := by
    rw [← often]
    rfl
  have hunit : ∀ c, (g.atRate unit).cycleEvents c =
      (List.range g.steps.size).flatMap (g.slotEvents g.steps.size c) := by
    intro c
    unfold cycleEvents
    rw [show (g.atRate unit).slots = g.steps.size from once]
    rfl
  rw [hfast, flatMap_range_mul]
  refine List.flatMap_congr fun part hpart => ?_
  rw [hunit, List.map_flatMap]
  refine List.flatMap_congr fun slot _ => ?_
  exact g.slotEvents_bundled (List.mem_range.mp hpart) hsteps cycle slot

/-- **Playing a whole number of times as fast** is playing bundles of cycles as one. If every step has
one slot at one rate, and so many at another, the events at the second rate are those of as many
times the cycles at the first rate, one by one: each in the cycle of its bundle, at its time in the
bundle, and shortened, all else unchanged. -/
theorem events_speedUp (once : slotCount g.steps.size unit = g.steps.size)
    (often : slotCount g.steps.size fast = count * g.steps.size) {cycles : ℕ}
    (played : 1 ≤ cycles) :
    (g.atRate fast).events cycles =
        ((g.atRate unit).events (cycles * count)).map (Event.bundled count) ∧
      ∀ e : Event,
        (e.bundled count).cycle = e.cycle / count ∧
        (e.bundled count).time.toRat = ((e.cycle % count : ℕ) + e.time.toRat) / count ∧
        (e.bundled count).duration.toRat = e.duration.toRat / count ∧
        (e.bundled count).velocity = e.velocity ∧ (e.bundled count).trigger = e.trigger ∧
        (e.bundled count).lane = e.lane := by
  have hsteps : 0 < g.steps.size := once ▸ slotCount_pos _ _
  have hcount : 0 < count := by
    refine Nat.pos_of_mul_pos_right (b := g.steps.size) ?_
    exact often ▸ slotCount_pos _ _
  constructor
  · rw [events_eq_flatMap (g := g.atRate fast) hsteps, events_eq_flatMap (g := g.atRate unit) hsteps,
      max_eq_left played, max_eq_left (Nat.mul_pos played hcount), flatMap_range_mul,
      List.map_flatMap]
    refine List.flatMap_congr fun cycle _ => ?_
    rw [cycleEvents_bundled once often, List.map_flatMap]
  · intro e
    exact ⟨rfl, CycleTime.toRat_bundled hcount e.cycle e.time,
      CycleTime.toRat_shortened hcount e.duration, rfl, rfl, rfl⟩

/-- Three steps, one of them a rest and one a chord, played twice as fast for two cycles. -/
theorem events_speedUp_twice :
    slotCount 3 1.0 = 3 ∧ slotCount 3 2.0 = 2 * 3 ∧ 1 ≤ 2 ∧
      Grid.events ⟨#[["bd".toList], [], ["sd".toList, "hh".toList]], 2.0, ⟨.sound, none⟩, 1⟩ 2 =
        (Grid.events ⟨#[["bd".toList], [], ["sd".toList, "hh".toList]], 1.0, ⟨.sound, none⟩, 1⟩
          4).map (Event.bundled 2) := by
  have once : slotCount 3 1.0 = 3 := by decide +kernel
  have often : slotCount 3 2.0 = 2 * 3 := by decide +kernel
  refine ⟨once, often, by decide, ?_⟩
  exact (events_speedUp
    (g := ⟨#[["bd".toList], [], ["sd".toList, "hh".toList]], 1.0, ⟨.sound, none⟩, 1⟩)
    once often (show 1 ≤ 2 by decide)).1

end Grid

end VoxelScore
