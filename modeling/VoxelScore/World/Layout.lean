import VoxelScore.Number.Double
import VoxelScore.Timeline.Event
import VoxelScore.World.Tables
import VoxelScore.World.Voxel

/-!
# Laying out events

Every event fills one cell: time runs along x, pitch is the height y, and the lane of the instrument
gives the depth z. Coordinates are numbers of 32 signed bits; what lies beyond is moved to the end
of that range.

## Main definitions

* `Dimensions` — the constants of the layout.
* `Mapper` — the constants with lanes and palette.
* `Mapper.voxel`, `Mapper.voxels` — the voxel of an event, and those of many.
-/

namespace VoxelScore

/-- The constants of a layout. -/
structure Dimensions where
  /-- How many cells a cycle is long. -/
  blocksPerCycle : Nat
  /-- The pitch at the base height. -/
  pitchBase : Float
  /-- How many cells neighbouring lanes are apart. -/
  laneSpacing : Float
  baseHeight : Int
  /-- The first lane of instruments that are not known. -/
  patternLaneBase : Int
  /-- How many cycles lie to the left of the origin. -/
  centerCycles : Nat
  /-- The pitch of sounds without pitch. -/
  defaultPitch : Float
  /-- How many cells a semitone is high. -/
  pitchScale : Float

namespace Dimensions

/-- The usual constants. -/
def standard : Dimensions where
  blocksPerCycle := 8
  pitchBase := 36.0
  laneSpacing := 2.0
  baseHeight := 4
  patternLaneBase := 12
  centerCycles := 2
  defaultPitch := 60.0
  pitchScale := 0.25

/-- How far everything is moved to the left. -/
def centerOffset (d : Dimensions) : Int :=
  d.blocksPerCycle * d.centerCycles

/-- The coordinate of a double: the nearest integer, halves going up. -/
def roundHalfUp (v : Float) : Int :=
  Double.floorWithin int32Low int32High (v + 0.5)

/-- Where an event lies in time, counted in 64 signed bits. -/
def x (d : Dimensions) (e : Event) : Int :=
  clamp32 <| wrap64 <|
    e.cycle * d.blocksPerCycle + e.time.floorScaled d.blocksPerCycle - d.centerOffset

/-- The height of an event. -/
def y (d : Dimensions) (e : Event) : Int :=
  let pitch := e.trigger.pitch.getD d.defaultPitch
  roundHalfUp (Float.ofInt d.baseHeight + (pitch - d.pitchBase) * d.pitchScale)

/-- The lane of an event: that of its instrument if it is known, else one of its block's own. -/
def lane (d : Dimensions) (lanes : Lanes) (e : Event) : Int :=
  (lanes.get? e.trigger.instrument).getD
    (clamp32 (d.patternLaneBase + min (e.lane : Int) int32High))

/-- The depth of an event. -/
def z (d : Dimensions) (lanes : Lanes) (e : Event) : Int :=
  roundHalfUp (Float.ofInt (d.lane lanes e) * d.laneSpacing)

end Dimensions

/-- Everything that decides how events fill the world. -/
structure Mapper where
  dimensions : Dimensions
  lanes : Lanes
  palette : Palette

namespace Mapper

/-- The usual constants, lanes and colours. -/
def standard : Mapper := ⟨.standard, Lanes.drumKit, .standard⟩

/-- The voxel of an event. -/
def voxel (m : Mapper) (e : Event) : Voxel where
  cell := ⟨m.dimensions.x e, m.dimensions.y e, m.dimensions.z m.lanes e⟩
  instrument := e.trigger.instrument
  label := e.trigger.label
  color := m.palette.colorOf e.trigger.instrument

/-- The voxels of events, in the same order. -/
def voxels (m : Mapper) (events : List Event) : List Voxel :=
  events.map m.voxel

end Mapper

end VoxelScore
