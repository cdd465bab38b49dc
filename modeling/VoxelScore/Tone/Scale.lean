import VoxelScore.Number.Double

/-!
# Scales

A scale is a root and the semitones of the steps of one octave. A degree counts steps from the root,
zero being the root itself: whole degrees wrap into octaves, and a fractional degree goes on from
the whole degree below it by a part of a span.

## Main definitions

* `Intervals` — steps that start at 0, rise strictly and stay below 12.
* `Scale` — a root with intervals.
* `Scale.pitch` — the pitch of a degree.
-/

namespace VoxelScore

/-- The steps of an octave start at 0, rise strictly and stay below 12. -/
def AreIntervals (steps : List Int) : Prop :=
  steps.head? = some 0 ∧ steps.Pairwise (· < ·) ∧ ∀ s ∈ steps, s < 12

instance (steps : List Int) : Decidable (AreIntervals steps) := by
  unfold AreIntervals; infer_instance

/-- The steps of one octave of a scale. -/
structure Intervals where
  steps : List Int
  valid : AreIntervals steps

namespace Intervals

instance : DecidableEq Intervals := fun a b =>
  decidable_of_iff (a.steps = b.steps) (by cases a; cases b; simp)

/-- The intervals with the given steps, if they are valid. -/
def ofSteps? (steps : List Int) : Option Intervals :=
  if h : AreIntervals steps then some ⟨steps, h⟩ else none

theorem steps_ne_nil (i : Intervals) : i.steps ≠ [] := by
  intro h
  have := i.valid.1
  simp [h] at this

/-- How many steps an octave has. -/
def size (i : Intervals) : Nat :=
  i.steps.length

theorem size_pos (i : Intervals) : 0 < i.size :=
  List.length_pos_iff.2 i.steps_ne_nil

/-- The semitones of a step. -/
def get (i : Intervals) (index : Nat) (h : index < i.size) : Int :=
  i.steps[index]

/-- The index of a whole degree within its octave. -/
def index (i : Intervals) (degree : Int) : Nat :=
  (degree % i.size).toNat

theorem index_lt (i : Intervals) (degree : Int) : i.index degree < i.size := by
  have pos := i.size_pos
  have := Int.emod_lt_of_pos degree (b := i.size) (by omega)
  unfold index
  omega

/-- The semitones of a whole degree above the c of its octave. -/
def semitones (i : Intervals) (degree : Int) : Int :=
  i.get (i.index degree) (i.index_lt degree)

/-- The octave of a whole degree. -/
def octave (i : Intervals) (degree : Int) : Int :=
  degree / i.size

end Intervals

/-- A root and the steps of an octave. -/
structure Scale where
  root : Int
  intervals : Intervals
  deriving DecidableEq

namespace Scale

/-- Degrees are counted with 64 signed bits. -/
def degreeLow : Int := -9223372036854775808

/-- The greatest degree that is told apart from its neighbours. -/
def degreeHigh : Int := 9223372036854775807

/-- The pitch of a whole degree, in double arithmetic. -/
def wholePitch (s : Scale) (degree : Int) : Float :=
  Float.ofInt s.root + Float.ofInt (s.intervals.semitones degree) +
    12.0 * Float.ofInt (s.intervals.octave degree)

/-- What the step after a whole degree reaches, without the root: the next interval, the octave of
the degree, and another octave after the last step. -/
def nextStep (s : Scale) (degree : Int) : Float :=
  let wrap := if s.intervals.index degree + 1 ≥ s.intervals.size then 12.0 else 0.0
  Float.ofInt (s.intervals.semitones (degree + 1)) +
    12.0 * Float.ofInt (s.intervals.octave degree) + wrap

/-- The pitch of a degree. A fractional degree adds its fraction of the span from the interval of
the whole degree to what the next step reaches. -/
def pitch (s : Scale) (degree : Float) : Float :=
  let fraction := degree - Double.floor degree
  let whole := Double.floorWithin degreeLow degreeHigh degree
  let base := s.wholePitch whole
  if fraction == 0.0 then base
  else
    base + fraction * (s.nextStep whole - Float.ofInt (s.intervals.semitones whole))

end Scale

end VoxelScore
