import Mathlib.Data.List.Induction
import VoxelScore.Proofs.World.Platform

/-!
# The first voxels of cells

Which voxels are seen is decided by going through them with a set of the cells filled so far, which
grows on the way. Every set on the way can be traded for a filter behind the way, so that in the end
no set is left: of a list are seen its first voxel, and those voxels that are seen of the others
and lie in other cells. All laws of the seen voxels follow from this equation.

## Main definitions

* `KeepsFirst`: a list of voxels with the first one of every cell of another list

## Main results

* `unoccupied_eq_filter`: occupied cells are a filter
* `firstPerCell_cons`, `firstPerCell_append`: the seen voxels of joined lists
* `firstPerCell_eq_self_iff`: voxels that are all seen
* `firstPerCell_eq_filter_zipIdx`: a voxel is seen if no voxel in front of it has its cell
* `firstPerCell_keepsFirst`: all of this together
-/

namespace VoxelScore

variable {v w : List Voxel} {x y : Voxel}

/-! ## Sets of cells are filters -/

/-- No voxel is seen in a cell that is occupied. -/
theorem contains_of_mem_unoccupied {occupied : Std.HashSet Cell} (h : x ∈ unoccupied occupied v) :
    occupied.contains x.cell = false := by
  have hcell := (mem_cells_unoccupied occupied v x.cell).mp (List.mem_map_of_mem h)
  exact Bool.eq_false_iff.mpr hcell.2

/-- With more cells occupied fewer voxels are seen, and no others. -/
theorem unoccupied_eq_filter (fewer more : Std.HashSet Cell) (v : List Voxel)
    (hsub : ∀ c, fewer.contains c → more.contains c) :
    unoccupied more v = (unoccupied fewer v).filter fun x => !more.contains x.cell := by
  induction v generalizing fewer more with
  | nil => rfl
  | cons x v ih =>
    by_cases hfewer : fewer.contains x.cell
    · rw [unoccupied, if_pos (hsub _ hfewer), unoccupied, if_pos hfewer]
      exact ih fewer more hsub
    · rw [unoccupied.eq_2 fewer, if_neg hfewer]
      by_cases hmore : more.contains x.cell
      · -- the voxel is the only difference, and it is filtered out
        rw [unoccupied, if_pos hmore, List.filter_cons_of_neg (by simpa using hmore)]
        refine ih _ more fun c hc => ?_
        rw [Std.HashSet.contains_insert, Bool.or_eq_true, beq_iff_eq] at hc
        rcases hc with rfl | hc
        · exact hmore
        · exact hsub c hc
      · rw [unoccupied, if_neg hmore, List.filter_cons_of_pos (by simpa using hmore)]
        have hstep := ih (fewer.insert x.cell) (more.insert x.cell) fun c hc => by
          rw [Std.HashSet.contains_insert, Bool.or_eq_true] at hc ⊢
          exact hc.imp_right (hsub c)
        rw [hstep]
        -- behind the voxel its cell is not seen again, whether it is filtered out or not
        congr 1
        refine List.filter_congr fun y hy => ?_
        have hother := contains_of_mem_unoccupied hy
        rw [Std.HashSet.contains_insert, Bool.or_eq_false_iff] at hother
        rw [Std.HashSet.contains_insert, hother.1, Bool.false_or]

/-- **The first voxel, and of the others those in other cells.** -/
theorem firstPerCell_cons (x : Voxel) (v : List Voxel) :
    firstPerCell (x :: v) = x :: (firstPerCell v).filter (·.cell ≠ x.cell) := by
  have hfree : ¬ (∅ : Std.HashSet Cell).contains x.cell := by simp
  rw [firstPerCell, unoccupied, if_neg hfree,
    unoccupied_eq_filter ∅ (Std.HashSet.insert ∅ x.cell) v fun c hc => by simp at hc]
  congr 1
  refine List.filter_congr fun y _ => ?_
  have hempty : (∅ : Std.HashSet Cell).contains y.cell = false := by simp
  rw [Std.HashSet.contains_insert, hempty, Bool.or_false, beq_eq_decide, ← decide_not]
  exact decide_eq_decide.mpr ne_comm

theorem firstPerCell_nil : firstPerCell [] = [] := rfl

/-! ## What is kept -/

theorem sublist_firstPerCell (v : List Voxel) : (firstPerCell v).Sublist v := by
  induction v with
  | nil => exact List.Sublist.refl _
  | cons x v ih =>
    rw [firstPerCell_cons]
    exact (List.filter_sublist.trans ih).cons_cons x

theorem nodup_cells_firstPerCell (v : List Voxel) : ((firstPerCell v).map (·.cell)).Nodup := by
  induction v with
  | nil => exact List.nodup_nil
  | cons x v ih =>
    rw [firstPerCell_cons, List.map_cons, List.nodup_cons]
    constructor
    · -- the other voxels of the cell are filtered out
      intro hmem
      obtain ⟨y, hy, hcell⟩ := List.mem_map.mp hmem
      exact of_decide_eq_true (List.mem_filter.mp hy).2 hcell
    · exact ih.sublist (List.filter_sublist.map _)

/-- What is seen in a cell is the first voxel that is found there. -/
theorem find?_of_mem_firstPerCell (h : x ∈ firstPerCell v) :
    v.find? (·.cell = x.cell) = some x := by
  induction v with
  | nil => cases h
  | cons y v ih =>
    rw [firstPerCell_cons, List.mem_cons] at h
    rcases h with rfl | h
    · exact List.find?_cons_of_pos (by simp)
    · -- the first voxel lies in another cell, so that the search goes on behind it
      obtain ⟨hmem, hcell⟩ := List.mem_filter.mp h
      have hne : y.cell ≠ x.cell := Ne.symm (of_decide_eq_true hcell)
      rw [List.find?_cons_of_neg (by simpa using hne)]
      exact ih hmem

/-- **All voxels are seen** exactly if no two of them share a cell. -/
theorem firstPerCell_eq_self_iff : firstPerCell v = v ↔ (v.map (·.cell)).Nodup := by
  constructor
  · intro h
    rw [← h]
    exact nodup_cells_firstPerCell v
  · intro h
    induction v with
    | nil => rfl
    | cons x v ih =>
      rw [List.map_cons, List.nodup_cons] at h
      rw [firstPerCell_cons, ih h.2]
      congr 1
      refine List.filter_eq_self.mpr fun y hy => ?_
      rw [decide_eq_true_eq]
      rintro hcell
      exact h.1 (List.mem_map.mpr ⟨y, hy, hcell⟩)

/-! ## Joined lists -/

/-- **Of joined lists** are seen the voxels of the first one, and those of the second one in cells
that the first one does not fill. -/
theorem firstPerCell_append (v w : List Voxel) :
    firstPerCell (v ++ w) =
      firstPerCell v ++ (firstPerCell w).filter (·.cell ∉ v.map (·.cell)) := by
  induction v with
  | nil => exact (List.filter_eq_self.mpr fun _ _ => decide_eq_true List.not_mem_nil).symm
  | cons x v ih =>
    rw [List.cons_append, firstPerCell_cons, ih, firstPerCell_cons, List.filter_append,
      List.filter_filter, List.cons_append]
    congr 2
    -- the cells that are filled are that of the first voxel and those of the voxels behind it
    refine List.filter_congr fun y _ => ?_
    rw [List.map_cons, ← Bool.decide_and]
    exact decide_eq_decide.mpr (by rw [List.mem_cons, not_or])

/-- **A voxel is seen** exactly if no voxel in front of it has its cell. -/
theorem firstPerCell_eq_filter_zipIdx (v : List Voxel) :
    firstPerCell v =
      (v.zipIdx.filter fun p => p.1.cell ∉ (v.take p.2).map (·.cell)).map Prod.fst := by
  induction v using List.reverseRecOn with
  | nil => rfl
  | append_singleton v x ih =>
    -- in front of the last voxel the list is the same with it and without it
    have hfront : (v.zipIdx.filter fun p => p.1.cell ∉ ((v ++ [x]).take p.2).map (·.cell)) =
        v.zipIdx.filter fun p => p.1.cell ∉ (v.take p.2).map (·.cell) := by
      refine List.filter_congr fun p hp => ?_
      rw [List.take_append_of_le_length (List.snd_lt_of_mem_zipIdx hp).le]
    have hlast : (v ++ [x]).take (0 + v.length) = v := by rw [Nat.zero_add, List.take_left]
    rw [firstPerCell_append, List.zipIdx_append, List.filter_append, List.map_append, hfront, ← ih]
    congr 1
    rw [firstPerCell_cons, firstPerCell_nil, List.filter_nil, List.zipIdx_singleton,
      List.filter_cons, List.filter_cons, hlast]
    split <;> rfl

/-! ## The laws of the seen voxels -/

/-- **The second list holds the first voxel of every cell of the first list**, in the same order,
and nothing else. -/
structure KeepsFirst (v kept : List Voxel) : Prop where
  sublist : kept.Sublist v
  apart : (kept.map (·.cell)).Nodup
  covers : ∀ c ∈ v.map (·.cell), c ∈ kept.map (·.cell)
  earliest : ∀ x ∈ kept, v.find? (·.cell = x.cell) = some x
  /-- A voxel is kept at its own place exactly if no voxel in front of it has its cell. -/
  places : kept = (v.zipIdx.filter fun p => p.1.cell ∉ (v.take p.2).map (·.cell)).map Prod.fst

/-- **The laws of the seen voxels.** Of every list they are the first voxels of its cells. Looking
at seen voxels again shows all of them, and joined lists show the seen voxels of the first one and
those of the second one in cells that the first one does not fill. -/
theorem firstPerCell_keepsFirst :
    (∀ v, KeepsFirst v (firstPerCell v)) ∧
      (∀ v, firstPerCell (firstPerCell v) = firstPerCell v) ∧
      ∀ v w, firstPerCell (v ++ w) =
        firstPerCell v ++ (firstPerCell w).filter (·.cell ∉ v.map (·.cell)) := by
  refine ⟨?_, ?_, firstPerCell_append⟩
  · intro v
    exact {
      sublist := sublist_firstPerCell v
      apart := nodup_cells_firstPerCell v
      covers := fun c hc => (mem_cells_firstPerCell v c).mpr hc
      earliest := fun _ => find?_of_mem_firstPerCell
      places := firstPerCell_eq_filter_zipIdx v }
  · intro v
    exact firstPerCell_eq_self_iff.mpr (nodup_cells_firstPerCell v)

end VoxelScore
