import Mathlib.Data.List.Forall2
import VoxelScore.Proofs.Success
import VoxelScore.Proofs.Table
import VoxelScore.Settings.Document

/-!
# Documents that are read back

A tree is written as a text, and the text is read. The tree that comes back says what was written,
but it may say more: a name that is spelled like a number comes back as one, and it is a name as
well. For everything that settings are read from, numbers, lists, tables and records, the difference
does not show.

## Main definitions

* `Datum.ReadsAs`, `Node.ReadsAs`: what may come back for a scalar, and for a tree
* `Node.Yields`: a reader gives one value for everything that may come back
* `Node.Gives`: what all values of a reader have in common
* `Codec`: how trees are written and read; `Codec.ReadsBack` says that a tree comes back

## Main results

* `Node.yields_natural`, `Node.yields_integer`, `Node.yields_number`, `Node.yields_items`,
  `Node.yields_table`: numbers, lists and tables
* `Node.ReadsAs.fields`, `Node.FieldsReadAs.field`: the fields of a record
* `Node.Gives.table`, `Node.Gives.field`: what tables and fields are read as
-/

namespace VoxelScore.Yaml

/-- A datum that says what another one does, and possibly more. -/
structure Datum.ReadsAs (written read : Datum) : Prop where
  text : read.text = written.text
  natural : ∀ n ∈ written.natural, read.natural = some n
  integer : ∀ n ∈ written.integer, read.integer = some n
  number : ∀ x ∈ written.number, read.number = some x

/-- A tree of the same form whose scalars say what those of another one do. -/
inductive Node.ReadsAs : (written read : Node) → Prop
  | scalar {d e : Datum} (h : d.ReadsAs e) : ReadsAs (.scalar d) (.scalar e)
  | sequence {ws rs : List Node} (items : List.Forall₂ ReadsAs ws rs) :
      ReadsAs (.sequence ws) (.sequence rs)
  | mapping {ws rs : List (Node × Node)}
      (keys : List.Forall₂ ReadsAs (ws.map (·.1)) (rs.map (·.1)))
      (values : List.Forall₂ ReadsAs (ws.map (·.2)) (rs.map (·.2))) :
      ReadsAs (.mapping ws) (.mapping rs)

/-- A tree yields a value to a reader if everything that may come back for it is read as that
value. -/
def Node.Yields {α : Type} (written : Node) (read : Node → Except Fault α) (value : α) : Prop :=
  ∀ back, ReadsAs written back → read back = .ok value

theorem Node.Yields.map {α β : Type} {written : Node} {read : Node → Except Fault α} {value : α}
    (h : written.Yields read value) (f : α → β) :
    written.Yields (fun node => (read node).map f) (f value) := by
  intro back hback
  exact Except.map_eq_ok_iff.mpr ⟨value, h back hback, rfl⟩

/-- How trees are written as texts and read from them. -/
structure Codec where
  write : Node → Text
  read : Text → Except Fault Node

/-- What is written for a tree is read as that tree. -/
def Codec.ReadsBack (codec : Codec) (node : Node) : Prop :=
  ∃ back, codec.read (codec.write node) = .ok back ∧ node.ReadsAs back

/-! ## Whether a tree comes back -/

instance (written read : Datum) : Decidable (written.ReadsAs read) :=
  decidable_of_iff
    (read.text = written.text ∧ (∀ n ∈ written.natural, read.natural = some n) ∧
      (∀ n ∈ written.integer, read.integer = some n) ∧
      ∀ x ∈ written.number, read.number = some x)
    ⟨fun ⟨text, natural, integer, number⟩ => ⟨text, natural, integer, number⟩,
      fun ⟨text, natural, integer, number⟩ => ⟨text, natural, integer, number⟩⟩

namespace Node

mutual

/-- Whether a tree may come back for another one. -/
def readsAs : Node → Node → Bool
  | scalar d, scalar e => decide (d.ReadsAs e)
  | sequence ws, sequence rs => itemsReadAs ws rs
  | mapping ws, mapping rs => entriesReadAs ws rs
  | _, _ => false

/-- Whether items may come back for others. -/
def itemsReadAs : List Node → List Node → Bool
  | [], [] => true
  | w :: ws, r :: rs => w.readsAs r && itemsReadAs ws rs
  | _, _ => false

/-- Whether entries may come back for others. -/
def entriesReadAs : List (Node × Node) → List (Node × Node) → Bool
  | [], [] => true
  | (key, value) :: ws, r :: rs => key.readsAs r.1 && value.readsAs r.2 && entriesReadAs ws rs
  | _, _ => false

end

mutual

theorem readsAs_iff (w r : Node) : w.readsAs r = true ↔ ReadsAs w r := by
  constructor
  · intro h
    cases w with
    | absent => simp [readsAs] at h
    | scalar d =>
      cases r with
      | scalar e => exact .scalar (by simpa [readsAs] using h)
      | _ => simp [readsAs] at h
    | sequence ws =>
      cases r with
      | sequence rs => exact .sequence ((itemsReadAs_iff ws rs).mp (by simpa [readsAs] using h))
      | _ => simp [readsAs] at h
    | mapping ws =>
      cases r with
      | mapping rs =>
        obtain ⟨keys, values⟩ := (entriesReadAs_iff ws rs).mp (by simpa [readsAs] using h)
        exact .mapping keys values
      | _ => simp [readsAs] at h
  · intro h
    cases w with
    | absent => cases h
    | scalar d =>
      cases h with
      | scalar h => simpa [readsAs] using h
    | sequence ws =>
      cases h with
      | @sequence _ rs items => simpa [readsAs] using (itemsReadAs_iff ws rs).mpr items
    | mapping ws =>
      cases h with
      | @mapping _ rs keys values =>
        simpa [readsAs] using (entriesReadAs_iff ws rs).mpr ⟨keys, values⟩

theorem itemsReadAs_iff (ws rs : List Node) :
    itemsReadAs ws rs = true ↔ List.Forall₂ ReadsAs ws rs := by
  cases ws with
  | nil => cases rs <;> simp [itemsReadAs]
  | cons w ws =>
    cases rs with
    | nil => simp [itemsReadAs]
    | cons r rs => simp [itemsReadAs, readsAs_iff w r, itemsReadAs_iff ws rs]

theorem entriesReadAs_iff (ws rs : List (Node × Node)) :
    entriesReadAs ws rs = true ↔ List.Forall₂ ReadsAs (ws.map (·.1)) (rs.map (·.1)) ∧
      List.Forall₂ ReadsAs (ws.map (·.2)) (rs.map (·.2)) := by
  cases ws with
  | nil => cases rs <;> simp [entriesReadAs]
  | cons w ws =>
    obtain ⟨key, value⟩ := w
    cases rs with
    | nil => simp [entriesReadAs]
    | cons r rs =>
      simp only [entriesReadAs, Bool.and_eq_true, readsAs_iff key r.1, readsAs_iff value r.2,
        entriesReadAs_iff ws rs, List.map_cons, List.forall₂_cons]
      tauto

end

instance (written read : Node) : Decidable (written.ReadsAs read) :=
  decidable_of_iff _ (readsAs_iff written read)

end Node

instance (codec : Codec) (node : Node) : Decidable (codec.ReadsBack node) :=
  match h : codec.read (codec.write node) with
  | .ok back => decidable_of_iff (node.ReadsAs back) (by simp [Codec.ReadsBack, h])
  | .error _ => .isFalse (by simp [Codec.ReadsBack, h])

namespace Node

/-! ## Scalars -/

theorem yields_natural {n high : Nat} (hn : n ≤ high) : (ofInt n).Yields (natural high) n := by
  intro back h
  cases h with
  | @scalar _ e h =>
    have hread : e.natural = some n := h.natural n (by simp [Datum.ofInt])
    simp [natural, hread, Option.filter_some, hn]

theorem yields_integer {n low high : Int} (hlow : low ≤ n) (hhigh : n ≤ high) :
    (ofInt n).Yields (integer low high) n := by
  intro back h
  cases h with
  | @scalar _ e h =>
    have hread : e.integer = some n := h.integer n rfl
    simp [integer, hread, Option.filter_some, hlow, hhigh]

theorem yields_number (x : Float) : (ofDouble x).Yields number x := by
  intro back h
  cases h with
  | @scalar _ e h =>
    have hread : e.number = some x := h.number x rfl
    simp [number, hread]

theorem ReadsAs.text? {name : Text} {back : Node} (h : ReadsAs (.scalar (.quoted name)) back) :
    back.text? = some name := by
  cases h with
  | scalar h => exact congrArg some h.text

/-! ## Lists and tables -/

/-- The mapping of entries. -/
def ofEntries (entries : List (Text × Node)) : Node :=
  mapping (entries.map fun (name, value) => (scalar (.quoted name), value))

/-- Entries come back in their order and under their names. -/
theorem ReadsAs.entries {written : List (Text × Node)} {back : Node}
    (h : ReadsAs (ofEntries written) back) :
    ∃ read, back.entries = .ok read ∧
      List.Forall₂ (fun w r => r.1 = w.1 ∧ ReadsAs w.2 r.2) written read := by
  unfold ofEntries at h
  cases h with
  | mapping keys values =>
    simp only [List.map_map, List.forall₂_map_left_iff, List.forall₂_map_right_iff] at keys values
    refine Except.exists_mapM_eq_ok
      (keys.mp (fun _ _ hkey hvalue => And.intro hkey hvalue) values) ?_
    rintro ⟨name, value⟩ ⟨key, back⟩ ⟨hkey, hvalue⟩
    -- whatever scalar the key comes back as, its text is the name
    have hname : key.text? = some name := hkey.text?
    exact ⟨(name, back), by simp [hname], rfl, hvalue⟩

section Tables

variable {α β : Type} {write : α → Node} {read : Node → Except Fault β} {f : α → β}

/-- A list yields the list of what its items yield. -/
theorem yields_items {xs : List α} (h : ∀ x ∈ xs, (write x).Yields read (f x)) :
    (sequence (xs.map write)).Yields (fun node => node.items >>= List.mapM read) (xs.map f) := by
  intro back hback
  cases hback with
  | sequence items => exact Except.mapM_eq_ok_map (List.forall₂_map_left_iff.mp items) h

/-- **A table** yields the table of what its entries yield. -/
theorem yields_table {t : Table α} (h : ∀ e ∈ t.entries, (write e.2).Yields read (f e.2)) :
    (ofTable write t).Yields (table read) (.ofList (t.entries.map fun e => (e.1, f e.2))) := by
  intro back hback
  have hentries : ofTable write t = ofEntries (t.entries.map fun e => (e.1, write e.2)) := by
    unfold ofTable ofEntries
    rw [List.map_map]
    rfl
  rw [hentries] at hback
  obtain ⟨entries, hentries, hread⟩ := hback.entries
  have hvalues : entries.mapM (fun (name, value) => (read value).map ((name, ·))) =
      .ok (t.entries.map fun e => (e.1, f e.2)) := by
    refine Except.mapM_eq_ok_map (List.forall₂_map_left_iff.mp hread) ?_
    rintro e he ⟨name, value⟩ ⟨rfl, hvalue⟩
    exact Except.map_eq_ok_iff.mpr ⟨f e.2, h e he value hvalue, rfl⟩
  exact Except.bind_eq_ok_iff.mpr
    ⟨entries, hentries, Except.bind_eq_ok_iff.mpr ⟨_, hvalues, rfl⟩⟩

/-- A table whose entries yield what they are written for yields itself. -/
theorem yields_table_self {read : Node → Except Fault α} {t : Table α}
    (h : ∀ e ∈ t.entries, (write e.2).Yields read e.2) :
    (ofTable write t).Yields (table read) t := by
  have hsame : t.entries.map (fun e => (e.1, id e.2)) = t.entries := List.map_id _
  have htable : (ofTable write t).Yields (table read)
      (.ofList (t.entries.map fun e => (e.1, id e.2))) := yields_table h
  rwa [hsame, Table.ofList_entries] at htable

end Tables

/-! ## Records -/

theorem repeated?_eq_none {names : List Text} (h : names.Nodup) : repeated? names = none := by
  induction h with
  | nil => rfl
  | @cons name names hname _ ih =>
    have hnew : name ∉ names := fun h => hname name h rfl
    unfold repeated?
    rw [if_neg (by simpa using hnew), ih]

/-- The fields of a record, all under different names, and what comes back for them. -/
structure FieldsReadAs (written : List (String × Node)) (fields : List (Text × Node)) : Prop where
  fields : List.Forall₂ (fun w r => r.1 = w.1.toList ∧ ReadsAs w.2 r.2) written fields
  nodup : (written.map (·.1.toList)).Nodup

/-- A record comes back with all its fields. -/
theorem ReadsAs.fields {written : List (String × Node)} {back : Node}
    (h : ReadsAs (record written) back) (hnodup : (written.map (·.1.toList)).Nodup) :
    ∃ fields, back.fields (written.map (·.1.toList)) = .ok fields ∧
      FieldsReadAs written fields := by
  have hentries : record written = ofEntries (written.map fun f => (f.1.toList, f.2)) := by
    unfold record ofEntries
    rw [List.map_map]
    rfl
  rw [hentries] at h
  obtain ⟨fields, hentries, hfields⟩ := h.entries
  rw [List.forall₂_map_left_iff] at hfields
  refine ⟨fields, ?_, hfields, hnodup⟩
  have hnames : fields.map (·.1) = written.map (·.1.toList) := by
    have hsame : List.Forall₂ (· = ·) (written.map (·.1.toList)) (fields.map (·.1)) := by
      rw [List.forall₂_map_left_iff, List.forall₂_map_right_iff]
      exact hfields.imp fun _ _ h => h.1.symm
    rw [List.forall₂_eq_eq_eq] at hsame
    exact hsame.symm
  -- all fields are known, and none of them is given twice
  have hknown :
      fields.filter (fun (name, _) => (written.map (·.1.toList)).contains name) = fields := by
    refine List.filter_eq_self.mpr ?_
    intro e he
    rw [← hnames]
    simpa using ⟨e.2, he⟩
  refine Except.bind_eq_ok_iff.mpr ⟨fields, hentries, ?_⟩
  dsimp only
  rw [hknown, hnames, repeated?_eq_none hnodup]

/-- **A field of a record that comes back** has the value that was written under its name. -/
theorem FieldsReadAs.field {α : Type} {written : List (String × Node)}
    {fields : List (Text × Node)} {name : String} {node : Node} {missing value : α}
    {read : Node → Except Fault α} (h : FieldsReadAs written fields)
    (hmem : (name, node) ∈ written) (hread : node.Yields read value) :
    Yaml.field fields name missing read = .ok value := by
  obtain ⟨h, hnodup⟩ := h
  unfold Yaml.field
  induction h with
  | nil => cases hmem
  | @cons w r written fields hwr hrest ih =>
    obtain ⟨key, back⟩ := r
    obtain ⟨hname, hback⟩ := hwr
    rw [List.map_cons, List.nodup_cons] at hnodup
    rcases List.mem_cons.mp hmem with rfl | hmem
    · obtain rfl : key = name.toList := hname
      rw [List.lookup_cons_self]
      exact hread back hback
    · -- The name stands further down, and not here as well.
      have hne : (name.toList == key) = false := by
        rw [beq_eq_false_iff_ne]
        rintro rfl
        exact hnodup.1 (hname ▸ List.mem_map_of_mem hmem)
      rw [List.lookup_cons, hne]
      exact ih hmem hnodup.2

/-! ## What readers give -/

/-- Every value that a reader gives has a property. -/
def Gives {α : Type} (read : Node → Except Fault α) (P : α → Prop) : Prop :=
  ∀ node value, read node = .ok value → P value

theorem of_elim_filter {α : Type} {o : Option α} {p : α → Bool} {fault : Fault} {value : α}
    (h : (o.filter p).elim (.error fault) .ok = Except.ok value) : p value := by
  cases hf : o.filter p with
  | none =>
    rw [hf] at h
    cases h
  | some a =>
    rw [hf] at h
    obtain rfl := Except.ok.inj h
    exact (Option.filter_eq_some_iff.mp hf).2

theorem gives_natural (high : Nat) : Gives (natural high) (· ≤ high) := by
  intro node n h
  cases node with
  | scalar d => simpa using of_elim_filter h
  | _ => cases h

theorem gives_integer (low high : Int) :
    Gives (integer low high) (fun n => low ≤ n ∧ n ≤ high) := by
  intro node n h
  cases node with
  | scalar d => simpa using of_elim_filter h
  | _ => cases h

section Gives

variable {α : Type} {read : Node → Except Fault α} {P : α → Prop}

/-- The values of a table are read one by one. -/
theorem Gives.table (h : Gives read P) :
    Gives (Node.table read) (fun t => ∀ e ∈ t.entries, P e.2) := by
  intro node t ht e he
  obtain ⟨entries, -, ht⟩ := Except.bind_eq_ok_iff.mp ht
  obtain ⟨values, hvalues, ht⟩ := Except.bind_eq_ok_iff.mp ht
  obtain rfl := Except.ok.inj ht
  obtain ⟨entry, -, hentry⟩ := Except.exists_of_mem_mapM hvalues (Table.mem_of_mem_ofList he)
  obtain ⟨value, hvalue, rfl⟩ := Except.map_eq_ok_iff.mp hentry
  exact h _ _ hvalue

/-- A field that is left out has its usual value. -/
theorem Gives.field {fields : List (Text × Node)} {name : String} {missing value : α}
    (h : Gives read P) (hmissing : P missing)
    (hvalue : Yaml.field fields name missing read = .ok value) : P value := by
  unfold Yaml.field at hvalue
  split at hvalue
  · exact h _ _ hvalue
  · exact Except.ok.inj hvalue ▸ hmissing

end Gives

end Node

end VoxelScore.Yaml
