import VoxelScore.Settings
import VoxelScore.Yaml.Reading
import VoxelScore.Yaml.Writing

/-!
# Settings as documents

Settings are kept in a document with a field for each section. Missing sections and missing
constants have their usual values. Reading also brings them into form: no cycles become one, and
modes go through the table of modes, which drops what are no intervals and ignores case.

## Main definitions

* `Settings.ofNode`, `Settings.ofText` — settings of a document.
* `Settings.toNode`, `Settings.render` — the document of settings.
-/

namespace VoxelScore

open Yaml (Node Datum Fault)

/-- The greatest number of 32 bits without sign. -/
def nat32High : Nat := 0xffffffff

namespace Yaml.Node

/-- A number of 32 bits without sign. -/
def natural32 : Node → Except Fault Nat :=
  natural nat32High

/-- A number of 32 signed bits. -/
def integer32 : Node → Except Fault Int :=
  integer int32Low int32High

/-- The table of a mapping's entries; the last one of a name counts. -/
def table {α : Type} (read : Node → Except Fault α) (node : Node) : Except Fault (Table α) := do
  let entries ← (← node.entries).mapM fun (name, value) => (read value).map ((name, ·))
  return Table.ofList entries

/-- A list of numbers of 32 signed bits. -/
def integers (node : Node) : Except Fault (List Int) := do
  (← node.items).mapM integer32

/-- The mapping of a table. -/
def ofTable {α : Type} (write : α → Node) (t : Table α) : Node :=
  mapping (t.entries.map fun (name, value) => (scalar (.quoted name), write value))

/-- A whole number. -/
def ofInt (n : Int) : Node :=
  scalar (.ofInt n)

/-- A double. -/
def ofDouble (x : Float) : Node :=
  scalar (.ofDouble x)

/-- The mapping of named fields. -/
def record (fields : List (String × Node)) : Node :=
  mapping (fields.map fun (name, value) => (scalar (.quoted name.toList), value))

end Yaml.Node

namespace Dimensions

/-- The names of the constants, in the order in which they are written. -/
def fieldNames : List Text :=
  ["time_blocks_per_cycle", "pitch_base", "lane_spacing", "base_height", "pattern_lane_base",
    "center_cycles", "default_pitch", "pitch_scale"].map String.toList

/-- The constants that a section gives; those that it leaves out are the usual ones. -/
def ofNode (node : Node) : Except Fault Dimensions := do
  let fields ← node.fields fieldNames
  let usual := standard
  return {
    blocksPerCycle :=
      ← Yaml.field fields "time_blocks_per_cycle" usual.blocksPerCycle Node.natural32
    pitchBase := ← Yaml.field fields "pitch_base" usual.pitchBase Node.number
    laneSpacing := ← Yaml.field fields "lane_spacing" usual.laneSpacing Node.number
    baseHeight := ← Yaml.field fields "base_height" usual.baseHeight Node.integer32
    patternLaneBase := ← Yaml.field fields "pattern_lane_base" usual.patternLaneBase Node.integer32
    centerCycles := ← Yaml.field fields "center_cycles" usual.centerCycles Node.natural32
    defaultPitch := ← Yaml.field fields "default_pitch" usual.defaultPitch Node.number
    pitchScale := ← Yaml.field fields "pitch_scale" usual.pitchScale Node.number }

/-- The section of constants. -/
def toNode (d : Dimensions) : Node :=
  .record [
    ("time_blocks_per_cycle", .ofInt d.blocksPerCycle),
    ("pitch_base", .ofDouble d.pitchBase),
    ("lane_spacing", .ofDouble d.laneSpacing),
    ("base_height", .ofInt d.baseHeight),
    ("pattern_lane_base", .ofInt d.patternLaneBase),
    ("center_cycles", .ofInt d.centerCycles),
    ("default_pitch", .ofDouble d.defaultPitch),
    ("pitch_scale", .ofDouble d.pitchScale)]

end Dimensions

/-- The section of modes. -/
def Modes.toNode (modes : Modes) : Node :=
  .ofTable (fun intervals => .sequence (intervals.steps.map Node.ofInt)) modes

namespace Settings

/-- The names of the sections, in the order in which they are written. -/
def fieldNames : List Text :=
  ["cycles", "mapping", "lanes", "palette", "scales"].map String.toList

/-- The settings of a document. -/
def ofNode (node : Node) : Except Fault Settings := do
  let fields ← node.fields fieldNames
  let usual := Settings.default
  let cycles ← Yaml.field fields "cycles" usual.cycles Node.natural32
  return {
    cycles := max cycles 1
    dimensions := ← Yaml.field fields "mapping" usual.dimensions Dimensions.ofNode
    lanes := ← Yaml.field fields "lanes" usual.lanes (Node.table Node.integer32)
    palette := ← Yaml.field fields "palette" usual.palette fun node =>
      (node.table Node.natural32).map Palette.mk
    modes := ← Yaml.field fields "scales" usual.modes fun node =>
      (node.table Node.integers).map Modes.ofTable }

/-- The document of settings. -/
def toNode (s : Settings) : Node :=
  .record [
    ("cycles", .ofInt s.cycles),
    ("mapping", s.dimensions.toNode),
    ("lanes", .ofTable Node.ofInt s.lanes),
    ("palette", .ofTable (fun (color : Nat) => Node.ofInt color) s.palette.colors),
    ("scales", Modes.toNode s.modes)]

/-- The settings that a text holds. -/
def ofText (t : Text) : Except Fault Settings := do
  ofNode (← Node.ofText t)

/-- The text that holds settings. -/
def render (s : Settings) : Text :=
  s.toNode.render

end Settings

end VoxelScore
