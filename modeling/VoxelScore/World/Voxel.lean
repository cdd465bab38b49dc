import VoxelScore.Text
import Std.Data.HashSet

/-!
# Voxels

A voxel is a cell of the world with the event that put it there. Where several voxels share a cell,
the first one is seen.

## Main definitions

* `Cell`, `Voxel` — cells, and what fills them.
* `firstPerCell` — the voxels that are seen.
-/

namespace VoxelScore

/-- A cell of the world, by its coordinates. -/
structure Cell where
  x : Int
  y : Int
  z : Int
  deriving DecidableEq, Hashable, Repr

/-- A filled cell. -/
structure Voxel where
  cell : Cell
  instrument : Text
  label : Text
  /-- Red, green and blue, a byte each, red the highest. -/
  color : Nat
  deriving DecidableEq, Repr

/-- The voxels whose cells are neither occupied nor filled by an earlier one. -/
def unoccupied (occupied : Std.HashSet Cell) : List Voxel → List Voxel
  | [] => []
  | v :: r =>
    if occupied.contains v.cell then unoccupied occupied r
    else v :: unoccupied (occupied.insert v.cell) r

/-- The first voxel of every cell, in order. -/
def firstPerCell (voxels : List Voxel) : List Voxel :=
  unoccupied ∅ voxels

end VoxelScore
