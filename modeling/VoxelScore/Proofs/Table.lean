import Mathlib.Data.List.Basic
import VoxelScore.Table

/-!
# Tables from their own entries

Entries that are put into a table one after the other, each under a name behind those before, stay
in the order in which they come. The entries of a table are in this order, so a table that is listed
and built again is the same table.

## Main results

* `Table.insertEntry_append`: an entry behind all others
* `Table.entries_ofList`: entries in increasing order of their names
* `Table.get?_eq_some_iff`, `Table.isSome_get?_iff`: what is found, and under which names
* `Table.mem_of_mem_ofList`: entries in any order
-/

namespace VoxelScore.Table

variable {α β : Type} {entries more : List (Text × α)} {name : Text} {value : α}

/-- An entry under a name behind all others is put at the end. -/
theorem insertEntry_append (h : ∀ e ∈ entries, e.1 < name) :
    insertEntry name value entries = entries ++ [(name, value)] := by
  induction entries with
  | nil => rfl
  | cons e entries ih =>
    rw [List.forall_mem_cons] at h
    unfold insertEntry
    rw [if_neg (List.lt_asymm h.1), if_neg (Std.ne_of_lt h.1).symm, ih h.2, List.cons_append]

/-- Entries in order, behind those of a table. -/
theorem entries_foldl_insert {t : Table α}
    (h : (t.entries ++ more).Pairwise fun a b => a.1 < b.1) :
    (more.foldl (fun t (name, value) => t.insert name value) t).entries = t.entries ++ more := by
  induction more generalizing t with
  | nil => simp
  | cons e more ih =>
    obtain ⟨name, value⟩ := e
    have hbehind : ∀ e ∈ t.entries, e.1 < name := by
      intro e he
      exact (List.pairwise_append.mp h).2.2 e he (name, value) List.mem_cons_self
    have hinsert : (t.insert name value).entries = t.entries ++ [(name, value)] :=
      insertEntry_append hbehind
    have hsplit : t.entries ++ (name, value) :: more =
        (t.insert name value).entries ++ more := by
      rw [hinsert, List.append_assoc, List.singleton_append]
    rw [hsplit] at h ⊢
    exact ih h

/-- **Entries in order stay as they are.** -/
theorem entries_ofList (h : entries.Pairwise fun a b => a.1 < b.1) :
    (ofList entries).entries = entries :=
  entries_foldl_insert (t := empty) h

/-- Two tables with the same entries are the same. -/
theorem ext_entries {t u : Table α} (h : t.entries = u.entries) : t = u := by
  cases t
  cases u
  cases h
  rfl

/-- A table that is listed and built again is the same table. -/
theorem ofList_entries (t : Table α) : ofList t.entries = t :=
  ext_entries (entries_ofList t.sorted)

/-- A table with other values under its names is in order as well. -/
theorem sorted_map (t : Table α) (f : α → β) :
    (t.entries.map fun e => (e.1, f e.2)).Pairwise fun a b => a.1 < b.1 :=
  List.pairwise_map.mpr t.sorted

/-- An entry was there before, or was put in. -/
theorem mem_or_mem_of_mem_foldl_insert {t : Table α} {e : Text × α}
    (h : e ∈ (more.foldl (fun t (name, value) => t.insert name value) t).entries) :
    e ∈ t.entries ∨ e ∈ more := by
  induction more generalizing t with
  | nil => exact Or.inl h
  | cons x more ih =>
    rcases ih h with h | h
    · rcases eq_or_mem_of_mem_insertEntry h with rfl | h
      · exact Or.inr List.mem_cons_self
      · exact Or.inl h
    · exact Or.inr (List.mem_cons_of_mem _ h)

/-- What is found in a table is the value of one of its entries. -/
theorem exists_of_get?_eq_some {t : Table α} (h : t.get? name = some value) :
    ∃ e ∈ t.entries, e.1 = name ∧ e.2 = value := by
  obtain ⟨e, he, rfl⟩ := Option.map_eq_some_iff.mp h
  refine ⟨e, List.mem_of_find?_eq_some he, ?_, rfl⟩
  simpa using List.find?_some he

/-- **What is found under a name** is what stands beside it, as no name stands twice. -/
theorem get?_eq_some_iff {t : Table α} : t.get? name = some value ↔ (name, value) ∈ t.entries := by
  constructor
  · intro h
    obtain ⟨e, he, rfl, rfl⟩ := exists_of_get?_eq_some h
    exact he
  · obtain ⟨entries, sorted⟩ := t
    unfold get?
    dsimp only
    intro h
    induction sorted with
    | nil => cases h
    | @cons e entries hfirst _ ih =>
      rcases List.mem_cons.mp h with rfl | h
      · rw [List.find?_cons_of_pos (by simp)]
        rfl
      · -- the name stands further down, so the first entry has another one
        have hne : e.1 ≠ name := Std.ne_of_lt (hfirst (name, value) h)
        rw [List.find?_cons_of_neg (by simpa using hne)]
        exact ih h

/-- A value is found under the names of the entries. -/
theorem isSome_get?_iff {t : Table α} : (t.get? name).isSome ↔ ∃ e ∈ t.entries, e.1 = name := by
  rw [get?, Option.isSome_map, List.find?_isSome]
  simp

/-- **Every entry of a table was put in.** -/
theorem mem_of_mem_ofList {e : Text × α} (h : e ∈ (ofList entries).entries) : e ∈ entries := by
  rcases mem_or_mem_of_mem_foldl_insert h with h | h
  · cases h
  · exact h

end VoxelScore.Table
