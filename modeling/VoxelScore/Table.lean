import VoxelScore.Text

/-!
# Tables by name

Maps from names to values whose entries are always listed in increasing order of the names, by code
points. Two tables with the same entries are equal.

## Main definitions

* `Table` — entries in strictly increasing order of their names.
* `Table.insert`, `Table.get?` — writing and looking up.
* `Table.ofList` — insertion of entries in turn.

## Main results

* `Table.get?_insert` — looking up after a write.
-/

namespace VoxelScore

/-- A map from names to values, its entries in increasing order of the names. -/
structure Table (α : Type) where
  entries : List (Text × α)
  sorted : entries.Pairwise fun a b => a.1 < b.1

namespace Table

variable {α : Type}

/-- Puts a value under a name into entries, in place of the entry of that name if there is one. -/
def insertEntry (name : Text) (value : α) : List (Text × α) → List (Text × α)
  | [] => [(name, value)]
  | (n, v) :: r =>
    if name < n then (name, value) :: (n, v) :: r
    else if name = n then (name, value) :: r
    else (n, v) :: insertEntry name value r

/-- An entry is the one that was put in, or was there before. -/
theorem eq_or_mem_of_mem_insertEntry {name : Text} {value : α} {entries : List (Text × α)}
    {e : Text × α} (h : e ∈ insertEntry name value entries) : e = (name, value) ∨ e ∈ entries := by
  induction entries with
  | nil => exact Or.inl (List.mem_singleton.1 h)
  | cons x r ih =>
    unfold insertEntry at h
    split at h
    · rcases List.mem_cons.1 h with rfl | h
      · exact Or.inl rfl
      · exact Or.inr h
    · split at h
      · rcases List.mem_cons.1 h with rfl | h
        · exact Or.inl rfl
        · exact Or.inr (List.mem_cons_of_mem _ h)
      · rcases List.mem_cons.1 h with rfl | h
        · exact Or.inr List.mem_cons_self
        · exact (ih h).imp_right (List.mem_cons_of_mem _)

theorem pairwise_insertEntry (name : Text) (value : α) {entries : List (Text × α)}
    (h : entries.Pairwise fun a b => a.1 < b.1) :
    (insertEntry name value entries).Pairwise fun a b => a.1 < b.1 := by
  induction entries with
  | nil => simp [insertEntry]
  | cons x r ih =>
    obtain ⟨hx, hr⟩ := List.pairwise_cons.1 h
    unfold insertEntry
    split
    · next hlt =>
      refine List.pairwise_cons.2 ⟨fun e he => ?_, h⟩
      rcases List.mem_cons.1 he with rfl | he
      · exact hlt
      · exact List.lt_trans hlt (hx e he)
    · split
      · next heq =>
        refine List.pairwise_cons.2 ⟨fun e he => ?_, hr⟩
        simpa [heq] using hx e he
      · next hlt hne =>
        refine List.pairwise_cons.2 ⟨fun e he => ?_, ih hr⟩
        rcases eq_or_mem_of_mem_insertEntry he with rfl | he
        · rcases Std.lt_trichotomy name x.1 with h | h | h
          · exact absurd h hlt
          · exact absurd h hne
          · exact h
        · exact hx e he

/-- The table without entries. -/
def empty : Table α := ⟨[], .nil⟩

/-- The table with a value under a name, in place of what was there. -/
def insert (t : Table α) (name : Text) (value : α) : Table α :=
  ⟨insertEntry name value t.entries, pairwise_insertEntry name value t.sorted⟩

/-- The value under a name. -/
def get? (t : Table α) (name : Text) : Option α :=
  (t.entries.find? (·.1 = name)).map (·.2)

/-- The number of entries. -/
def size (t : Table α) : Nat :=
  t.entries.length

/-- The table of entries that are inserted in turn. -/
def ofList (entries : List (Text × α)) : Table α :=
  entries.foldl (fun t (name, value) => t.insert name value) empty

/-- Looking up the name that was written gives the value, any other name what it gave before. -/
theorem get?_insert (t : Table α) (name other : Text) (value : α) :
    (t.insert name value).get? other = if other = name then some value else t.get? other := by
  obtain ⟨entries, sorted⟩ := t
  simp only [get?, insert]
  induction entries with
  | nil => by_cases h : other = name <;> simp [insertEntry, h, eq_comm]
  | cons x r ih =>
    obtain ⟨hx, hr⟩ := List.pairwise_cons.1 sorted
    specialize ih hr
    unfold insertEntry
    split
    · by_cases h : other = name
      · simp [h]
      · simp [h, Ne.symm h]
    · split
      · next heq =>
        by_cases h : other = name
        · simp [h]
        · simp [h, Ne.symm h, ← heq]
      · next hne =>
        by_cases h : x.1 = other
        · have : other ≠ name := fun ho => hne (ho ▸ h.symm)
          simp [h, this]
        · simpa [List.find?_cons, h] using ih

@[simp]
theorem get?_empty (name : Text) : (empty : Table α).get? name = none := rfl

end Table

/-- Tables are equal when their entries are. -/
instance {α : Type} [DecidableEq α] : DecidableEq (Table α) := fun a b =>
  decidable_of_iff (a.entries = b.entries) (by cases a; cases b; simp)

end VoxelScore
