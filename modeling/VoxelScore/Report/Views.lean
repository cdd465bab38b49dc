import VoxelScore.Report
import VoxelScore.Score
import VoxelScore.World.Platform

/-!
# Views of a score

A score is looked at in four ways: as the list of its events, as voxels, as the list of its blocks,
and as a summary with the platform on which the player starts.

## Main definitions

* `View` — the views.
* `View.report` — what a view shows of a score.
-/

namespace VoxelScore

/-- A way to look at a score. -/
inductive View where
  | events
  /-- The voxels, all of them or the first of every cell. -/
  | voxels (firstOnly : Bool)
  | blocks
  | summary
  deriving DecidableEq, Repr

namespace View

open Report (whole double text list record optional)

/-- An event with its times as doubles. -/
def event (e : Event) : Report :=
  record [
    ("cycle", whole e.cycle),
    ("time", double e.time.toFloat),
    ("duration", double e.duration.toFloat),
    ("velocity", double e.velocity),
    ("pitch", optional double e.trigger.pitch),
    ("instrument", text e.trigger.instrument),
    ("label", text e.trigger.label),
    ("lane", whole e.lane)]

/-- A voxel. -/
def voxel (v : Voxel) : Report :=
  record [
    ("x", whole v.cell.x),
    ("y", whole v.cell.y),
    ("z", whole v.cell.z),
    ("instrument", text v.instrument),
    ("label", text v.label),
    ("color", whole v.color)]

/-- A part: its block and how it is played. -/
def part (p : Part) : Report :=
  record [
    ("lane", whole p.lane),
    ("kind", text p.block.kind.label.toList),
    ("body", text p.block.body),
    ("modifiers", text p.block.modifiers),
    ("rate", double p.rate),
    ("slots_per_cycle", whole p.slots),
    ("steps", list (p.steps.map fun step => list (step.map text)))]

/-- The platform and the place of the player. -/
def platform (p : Platform) : Report :=
  record [
    ("x_start", whole p.xStart),
    ("x_end", whole p.xEnd),
    ("z_start", whole p.zStart),
    ("z_end", whole p.zEnd),
    ("platform_y", whole p.y),
    ("player_position", list [double p.player.1, double p.player.2.1, double p.player.2.2])]

/-- The counts of a score and the platform in front of its voxels. -/
def counts (mapper : Mapper) (score : Score) : Report :=
  let voxels := mapper.voxels score.events
  record [
    ("status", text score.status.toList),
    ("blocks", whole score.parts.length),
    ("events", whole score.events.length),
    ("voxels", whole voxels.length),
    ("occupied", whole (firstPerCell voxels).length),
    ("spawn", optional platform (Platform.facing? mapper.dimensions.baseHeight voxels))]

/-- What a view shows of a score that is laid out by a mapper. -/
def report (mapper : Mapper) (score : Score) : View → Report
  | events =>
    record [("status", text score.status.toList), ("events", list (score.events.map event))]
  | voxels firstOnly =>
    let all := mapper.voxels score.events
    list ((if firstOnly then firstPerCell all else all).map voxel)
  | blocks => list (score.parts.map part)
  | summary => counts mapper score

end View

end VoxelScore
