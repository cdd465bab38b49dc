import VoxelScore.Score
import VoxelScore.World.Layout

/-!
# Settings

Everything that compiling and laying out can be tuned with.

## Main definitions

* `Settings` — the settings; `Settings.default` are the usual ones.
* `Settings.options`, `Settings.mapper` — what compiling and laying out take from them.
* `Settings.agrees` — equality of settings, numbers being compared as doubles.
-/

namespace VoxelScore

/-- What compiling and laying out can be tuned with. -/
structure Settings where
  /-- How many cycles are played; none counts as one. -/
  cycles : Nat
  dimensions : Dimensions
  lanes : Lanes
  palette : Palette
  modes : Modes

namespace Settings

/-- The usual settings. -/
def default : Settings where
  cycles := defaultCycles
  dimensions := .standard
  lanes := Lanes.drumKit
  palette := .standard
  modes := Modes.builtin

/-- What compiling takes from settings. -/
def options (s : Settings) : Options :=
  ⟨max s.cycles 1, s.modes⟩

/-- What laying out takes from settings. -/
def mapper (s : Settings) : Mapper :=
  ⟨s.dimensions, s.lanes, s.palette⟩

end Settings

/-- The same constants; not-a-number differs from itself. -/
def Dimensions.agrees (a b : Dimensions) : Bool :=
  a.blocksPerCycle = b.blocksPerCycle && a.pitchBase == b.pitchBase &&
    a.laneSpacing == b.laneSpacing && a.baseHeight = b.baseHeight &&
    a.patternLaneBase = b.patternLaneBase && a.centerCycles = b.centerCycles &&
    a.defaultPitch == b.defaultPitch && a.pitchScale == b.pitchScale

/-- The same settings; not-a-number differs from itself. -/
def Settings.agrees (a b : Settings) : Bool :=
  a.cycles = b.cycles && a.dimensions.agrees b.dimensions && a.lanes = b.lanes &&
    a.palette = b.palette && a.modes = b.modes

end VoxelScore
