import VoxelScore.World.Layout

/-!
# The spawn platform

The player starts on a platform to the left of the world: four cells wide, as deep as the world and
two cells more on each side. It lies one cell below the lowest voxel, or one cell below the base
height if that is higher.

## Main definitions

* `Platform` — where the platform lies and where the player stands.
* `Platform.facing?` — the platform in front of voxels.
* `Platform.cells` — its cells.
-/

namespace VoxelScore

/-- A platform of cells at one height, and the place of the player. -/
structure Platform where
  xStart : Int
  xEnd : Int
  zStart : Int
  zEnd : Int
  y : Int
  player : Float × Float × Float

namespace Platform

/-- How many cells the platform is wide. -/
def width : Int := 4

/-- How far the platform is deeper than the world on each side. -/
def margin : Int := 2

/-- How high the eyes of the player are above the platform. -/
def eyeHeight : Float := 2.0

/-- The least of a number and those of a list. -/
def least (first : Int) (others : List Int) : Int :=
  others.foldl min first

/-- The greatest of a number and those of a list. -/
def greatest (first : Int) (others : List Int) : Int :=
  others.foldl max first

/-- The middle of two coordinates. -/
def middle (a b : Int) : Float :=
  (Float.ofInt a + Float.ofInt b) / 2.0

/-- The platform in front of voxels; none if there are no voxels. -/
def facing? (baseHeight : Int) (voxels : List Voxel) : Option Platform :=
  match voxels.map (·.cell) with
  | [] => none
  | first :: others =>
    let xStart := clamp32 (least first.x (others.map (·.x)) - width)
    let xEnd := clamp32 (xStart + (width - 1))
    let zStart := clamp32 (least first.z (others.map (·.z)) - margin)
    let zEnd := clamp32 (greatest first.z (others.map (·.z)) + margin)
    let floor := clamp32 (least first.y (others.map (·.y)) - 1)
    let y := max floor (clamp32 (baseHeight - 1))
    some ⟨xStart, xEnd, zStart, zEnd, y,
      middle xStart xEnd, Float.ofInt y + eyeHeight, middle zStart zEnd⟩

/-- The integers from one to another, both included. -/
def interval (first last : Int) : List Int :=
  (List.range (last - first + 1).toNat).map fun (i : Nat) => first + i

/-- The cells of the platform, by rising x and then by rising z. -/
def cells (p : Platform) : List Cell :=
  (interval p.xStart p.xEnd).flatMap fun x =>
    (interval p.zStart p.zEnd).map fun z => ⟨x, p.y, z⟩

end Platform

end VoxelScore
