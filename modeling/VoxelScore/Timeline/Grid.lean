import VoxelScore.Mini.Reading
import VoxelScore.Tone.Voice

/-!
# The slot grid

The steps of a block are laid out on a grid of equal slots that repeats every cycle. The rate scales
the number of slots, and slot `i` plays step `i` modulo the number of steps, so that a higher rate
plays the steps again and a lower one cuts them off.

## Main definitions

* `slotCount` — the number of slots of a cycle.
* `Grid` — steps, number of slots, voice and lane.
* `Grid.events` — the events of so many cycles.
-/

namespace VoxelScore

/-- The least rate. -/
def minRate : Float := 0.0001

/-- The greatest number of slots of a cycle. -/
def maxSlots : Nat := 4096

/-- A rate that is at least the least one; not-a-number counts as the least one. -/
def effectiveRate (rate : Float) : Float :=
  if minRate < rate then rate else minRate

/-- The number of slots of a cycle: the steps times the rate, rounded with halves going up, but at
least one and at most the greatest number. -/
def slotCount (steps : Nat) (rate : Float) : Nat :=
  (Double.nearestWithin 1 maxSlots (Float.ofNat steps * effectiveRate rate)).toNat

theorem slotCount_pos (steps : Nat) (rate : Float) : 0 < slotCount steps rate := by
  have := Double.low_le_within (show (1 : Int) ≤ maxSlots by decide) Dyadic.nearest
    (Float.ofNat steps * effectiveRate rate)
  unfold slotCount Double.nearestWithin
  omega

theorem slotCount_le (steps : Nat) (rate : Float) : slotCount steps rate ≤ maxSlots := by
  have := Double.within_le_high (show (1 : Int) ≤ maxSlots by decide) Dyadic.nearest
    (Float.ofNat steps * effectiveRate rate)
  unfold slotCount Double.nearestWithin
  omega

/-- The steps of a block on their grid. -/
structure Grid where
  steps : Array Mini.Step
  rate : Float
  voice : Voice
  lane : Nat

namespace Grid

/-- The number of slots of a cycle. -/
def slots (g : Grid) : Nat :=
  slotCount g.steps.size g.rate

/-- What sounds in a slot: the triggers of the tokens that the voice can read, in order. -/
def slotTriggers (g : Grid) (slot : Nat) : List Trigger :=
  (g.steps[slot % g.steps.size]?.getD []).filterMap g.voice.trigger?

/-- The events of a slot of a cycle with so many slots. -/
def slotEvents (g : Grid) (slots cycle slot : Nat) : List Event :=
  (g.slotTriggers slot).map (.ofTrigger cycle (.ofSlot slot slots) (.slotWidth slots) g.lane)

/-- The events of a cycle. -/
def cycleEvents (g : Grid) (cycle : Nat) : List Event :=
  let slots := g.slots
  (List.range slots).flatMap (g.slotEvents slots cycle)

/-- The events of so many cycles, at least one; none if there are no steps. -/
def events (g : Grid) (cycles : Nat) : List Event :=
  if g.steps.isEmpty then []
  else (List.range (max cycles 1)).flatMap g.cycleEvents

end Grid

end VoxelScore
