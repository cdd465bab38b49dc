import VoxelScore.Text
import VoxelScore.Timeline.CycleTime

/-!
# Events

An event is one sounding token at an exact time: what it *triggers*, and when, how long and in which
lane it sounds.

## Main definitions

* `Trigger` — instrument, pitch and label.
* `Event` — a trigger in time.
* `Event.position` — cycles since the start.
-/

namespace VoxelScore

/-- What a token triggers. -/
structure Trigger where
  instrument : Text
  /-- In semitones, middle c being 60; none for sounds without pitch. -/
  pitch : Option Float
  /-- The token itself. -/
  label : Text

namespace Trigger

/-- A pitched trigger. -/
def pitched (instrument : Text) (pitch : Float) (label : Text) : Trigger :=
  ⟨instrument, some pitch, label⟩

/-- A sound without pitch, named by its token. -/
def sound (name : Text) : Trigger :=
  ⟨name, none, name⟩

end Trigger

/-- A trigger at a time. -/
structure Event where
  /-- The number of the cycle, from zero. -/
  cycle : Nat
  /-- The time within the cycle. -/
  time : CycleTime
  duration : CycleTime
  velocity : Float
  trigger : Trigger
  /-- The number of the block that the event comes from. -/
  lane : Nat

namespace Event

/-- The velocity of every event. -/
def fullVelocity : Float := 1.0

/-- A trigger at a time, at full velocity. -/
def ofTrigger (cycle : Nat) (time duration : CycleTime) (lane : Nat) (trigger : Trigger) : Event :=
  ⟨cycle, time, duration, fullVelocity, trigger, lane⟩

/-- The cycles since the start, in double arithmetic. -/
def position (e : Event) : Float :=
  Float.ofNat e.cycle + e.time.toFloat

end Event

end VoxelScore
