import VoxelScore.Link.Source
import VoxelScore.Script.Block
import VoxelScore.Score.Modifiers
import VoxelScore.Timeline.Grid

/-!
# Scores

The score of a code text is the list of its *parts*, one per block, and the events that they play.
Compiling never fails: code without a block plays the default block, and a source that cannot be
resolved plays the default code.

## Main definitions

* `Part` — a block with its steps, rate and scale.
* `Score` — parts, events and the status line.
* `Score.ofCode`, `Score.ofSource` — compiling code, or what a source refers to.
-/

namespace VoxelScore

/-- A block ready to be played. -/
structure Part where
  block : Script.Block
  /-- The number of the block in its code. -/
  lane : Nat
  steps : List Mini.Step
  rate : Float
  scale : Option Scale

namespace Part

/-- The part of a block. -/
def ofBlock (modes : Modes) (block : Script.Block) (lane : Nat) : Part :=
  let modifiers := Modifiers.ofText modes block.modifiers
  ⟨block, lane, Mini.steps block.body, modifiers.rate, modifiers.scale⟩

/-- The number of slots of a cycle of the part. -/
def slots (p : Part) : Nat :=
  slotCount p.steps.length p.rate

/-- The grid that the part is played on. -/
def grid (p : Part) : Grid :=
  ⟨p.steps.toArray, p.rate, ⟨p.block.kind, p.scale⟩, p.lane⟩

end Part

/-- What compiling is told besides the code. -/
structure Options where
  /-- How many cycles are played; none counts as one. -/
  cycles : Nat
  modes : Modes

/-- How many cycles are played unless something else is asked for. -/
def defaultCycles : Nat := 6

/-- The usual options. -/
def Options.default : Options := ⟨defaultCycles, Modes.builtin⟩

/-- A compiled code text. -/
structure Score where
  code : Text
  status : String
  parts : List Part
  events : List Event

namespace Score

/-- The parts of a code text, one lane each. -/
def partsOf (modes : Modes) (code : Text) : List Part :=
  (Script.blocks code).mapIdx fun lane block => .ofBlock modes block lane

/-- The events of parts, lane by lane. -/
def eventsOf (cycles : Nat) (parts : List Part) : List Event :=
  parts.flatMap (·.grid.events cycles)

/-- The score of resolved code. -/
def ofResolved (options : Options) (resolved : Source.Resolved) : Score :=
  let parts := partsOf options.modes resolved.code
  ⟨resolved.code, Source.statusLine resolved.description parts.length, parts,
    eventsOf options.cycles parts⟩

/-- The score of a code text. -/
def ofCode (options : Options) (code : Text) : Score :=
  ofResolved options (.inline code)

/-- The score of what a source refers to. -/
def ofSource (options : Options) (source : Option Source) : Score :=
  ofResolved options (Source.resolve source)

end Score

end VoxelScore
