import VoxelScore.Proofs.Settings.SaveLoad

/-!
# Colours of 24 bits

A colour is a byte each of red, green and blue. Of a colour that is inserted into a palette these
three bytes are kept and nothing else. The colours of a document are numbers of 32 bits, and they are
taken over as they are: a palette shows no wider colour than 24 bits exactly if every wide colour of
its document has been replaced by an insertion.

## Main definitions

* `IsRgb`: colours of 24 bits
* `Palette.Start`: the ways in which a palette starts, and `Palette.Start.wideNames`, the names with
  wider colours there
* `Palette.after`: the palette after insertions

## Main results

* `Palette.get?_insertAll`: what a palette holds after insertions
* `Palette.forall_isRgb_iff`, `Mapper.forall_isRgb_voxels_iff`: palettes and voxels of 24 bits
* `Settings.exists_palette_iff`: the palettes of documents
* `Palette.isRgb_after_iff`: colours after any start and any insertions
-/

namespace VoxelScore

/-- A colour with a byte each of red, green and blue, and nothing above them. -/
def IsRgb (color : ℕ) : Prop := color ≤ 0xffffff

instance : DecidablePred IsRgb := fun color => inferInstanceAs (Decidable (color ≤ 0xffffff))

namespace Palette

variable {p : Palette} {inserts : List (Text × ℕ)} {name : Text}

/-! ## Insertions -/

/-- **One insertion** keeps the lower 24 bits of its colour and leaves all other names alone. -/
theorem get?_insert (p : Palette) (name other : Text) (color : ℕ) :
    (p.insert name color).colors.get? other =
      if other = name then some (color % 0x1000000) else p.colors.get? other :=
  Table.get?_insert p.colors name other (color % 0x1000000)

/-- The palette with further colours inserted in turn. -/
def insertAll (p : Palette) (inserts : List (Text × ℕ)) : Palette :=
  inserts.foldl (fun p (name, color) => p.insert name color) p

/-- The lower 24 bits of the colour that is inserted last under a name. -/
def latest? (inserts : List (Text × ℕ)) (name : Text) : Option ℕ :=
  ((inserts.filter (·.1 = name)).getLast?).map (·.2 % 0x1000000)

theorem latest?_append (inserts : List (Text × ℕ)) (name other : Text) (color : ℕ) :
    latest? (inserts ++ [(name, color)]) other =
      if other = name then some (color % 0x1000000) else latest? inserts other := by
  unfold latest?
  rw [List.filter_append]
  by_cases h : other = name
  · rw [List.filter_cons_of_pos (by simp [h]), if_pos h]
    simp
  · rw [List.filter_cons_of_neg (by simpa using Ne.symm h), if_neg h]
    simp

/-- **Any number of insertions.** The latest one under a name counts; without one the palette has
what it had before. -/
theorem get?_insertAll (p : Palette) (inserts : List (Text × ℕ)) (name : Text) :
    (insertAll p inserts).colors.get? name = (latest? inserts name).or (p.colors.get? name) := by
  induction inserts using List.reverseRecOn with
  | nil => rfl
  | append_singleton inserts insert ih =>
    obtain ⟨other, color⟩ := insert
    rw [insertAll, List.foldl_append, latest?_append]
    refine (get?_insert _ other name color).trans ?_
    split
    · rfl
    · exact ih

/-- Nothing wider than 24 bits is inserted. -/
theorem isRgb_of_latest? {color : ℕ} (h : latest? inserts name = some color) : IsRgb color := by
  obtain ⟨insert, -, rfl⟩ := Option.map_eq_some_iff.mp h
  exact Nat.le_of_lt_succ (Nat.mod_lt _ (by decide))

theorem latest?_eq_none_iff : latest? inserts name = none ↔ name ∉ inserts.map Prod.fst := by
  rw [latest?, Option.map_eq_none_iff, List.getLast?_eq_none_iff, List.filter_eq_nil_iff]
  constructor
  · intro h hmem
    obtain ⟨insert, hinsert, rfl⟩ := List.mem_map.mp hmem
    exact h insert hinsert (decide_eq_true rfl)
  · intro h insert hinsert hname
    obtain rfl : insert.1 = name := of_decide_eq_true hname
    exact h (List.mem_map_of_mem hinsert)

/-! ## Colours that are shown -/

/-- **All colours that a palette shows have 24 bits** exactly if all that it holds do: what it does
not hold is shown in white. -/
theorem forall_isRgb_iff :
    (∀ name, IsRgb (p.colorOf name)) ↔ ∀ name, ∀ color ∈ p.colors.get? name, IsRgb color := by
  constructor
  · intro h name color hcolor
    have hshown : p.colorOf name = color := by
      rw [colorOf, hcolor]
      rfl
    exact hshown ▸ h name
  · intro h name
    unfold colorOf
    cases hname : p.colors.get? name with
    | some color => exact h name color hname
    | none =>
      cases hdefault : p.colors.get? defaultName with
      | some color => exact h defaultName color hdefault
      | none => exact Nat.le_refl white

end Palette

/-- **Voxels have colours of 24 bits** exactly if the palette shows no others: there are events of
every instrument. -/
theorem Mapper.forall_isRgb_voxels_iff {m : Mapper} :
    (∀ events, ∀ v ∈ m.voxels events, IsRgb v.color) ↔ ∀ name, IsRgb (m.palette.colorOf name) := by
  constructor
  · intro h name
    exact h [.ofTrigger 0 (.ofSlot 0 1) (.slotWidth 1) 0 (.sound name)] _ List.mem_cons_self
  · intro h events v hv
    obtain ⟨e, -, rfl⟩ := List.mem_map.mp hv
    exact h e.trigger.instrument

/-! ## Starts -/

namespace Palette

/-- How a palette starts. -/
inductive Start where
  | empty
  | standard
  /-- With colours by name that were read from elsewhere, of 24 bits or not. -/
  | loaded (colors : Table ℕ)

namespace Start

/-- The palette at the start. -/
def palette : Start → Palette
  | empty => Palette.empty
  | standard => Palette.standard
  | loaded colors => ⟨colors⟩

/-- The names that have a colour wider than 24 bits at the start. -/
def wideNames (start : Start) : List Text :=
  (start.palette.colors.entries.filter fun e => ¬ IsRgb e.2).map Prod.fst

theorem mem_wideNames_iff {start : Start} {name : Text} :
    name ∈ start.wideNames ↔ ∃ color ∈ start.palette.colors.get? name, ¬ IsRgb color := by
  simp [wideNames, Table.get?_eq_some_iff]

end Start

/-- **The palette after a start and insertions.** -/
def after (start : Start) (inserts : List (Text × ℕ)) : Palette :=
  insertAll start.palette inserts

/-- **Wide colours are those of the start** that no insertion has replaced. -/
theorem forall_isRgb_after_iff (start : Start) (inserts : List (Text × ℕ)) :
    (∀ name, IsRgb ((after start inserts).colorOf name)) ↔
      start.wideNames ⊆ inserts.map Prod.fst := by
  rw [forall_isRgb_iff]
  constructor
  · intro h name hwide
    obtain ⟨color, hcolor, hnot⟩ := Start.mem_wideNames_iff.mp hwide
    by_contra hnew
    -- without an insertion the wide colour is still there
    have hkept : color ∈ (after start inserts).colors.get? name := by
      rw [after, get?_insertAll, latest?_eq_none_iff.mpr hnew, Option.none_or]
      exact hcolor
    exact hnot (h name color hkept)
  · intro h name color hcolor
    rw [after, get?_insertAll] at hcolor
    cases hlatest : latest? inserts name with
    | some inserted =>
      rw [hlatest] at hcolor
      obtain rfl : inserted = color := Option.some.inj hcolor
      exact isRgb_of_latest? hlatest
    | none =>
      rw [hlatest, Option.none_or] at hcolor
      by_contra hnot
      exact latest?_eq_none_iff.mp hlatest (h (Start.mem_wideNames_iff.mpr ⟨color, hcolor, hnot⟩))

end Palette

/-! ## Documents -/

open Yaml (Node Datum)

theorem Yaml.Datum.ReadsAs.refl (d : Datum) : d.ReadsAs d :=
  ⟨rfl, fun _ h => h, fun _ h => h, fun _ h => h⟩

/-- A table of scalars comes back as itself. -/
theorem Yaml.Node.readsAs_ofTable {α : Type} {write : α → Datum} (t : Table α) :
    (ofTable (fun value => scalar (write value)) t).ReadsAs
      (ofTable (fun value => scalar (write value)) t) := by
  refine .mapping (List.forall₂_same.mpr ?_) (List.forall₂_same.mpr ?_)
  · intro key hkey
    simp only [List.map_map, List.mem_map] at hkey
    obtain ⟨e, -, rfl⟩ := hkey
    exact .scalar (Datum.ReadsAs.refl _)
  · intro value hvalue
    simp only [List.map_map, List.mem_map] at hvalue
    obtain ⟨e, -, rfl⟩ := hvalue
    exact .scalar (Datum.ReadsAs.refl _)

namespace Settings

open Yaml.Node in
/-- **The palettes of documents** are the tables of colours of 32 bits, wide or not. -/
theorem exists_palette_iff {colors : Table ℕ} :
    (∃ node s, ofNode node = .ok s ∧ s.palette = ⟨colors⟩) ↔
      ∀ e ∈ colors.entries, e.2 ≤ nat32High := by
  constructor
  · rintro ⟨node, s, hs, hpalette⟩
    have hrange := (gives_inForm node s hs).palette
    rwa [hpalette] at hrange
  · intro hrange
    -- a document with a palette and nothing else
    have hcolors : (table natural32 (ofTable (fun (color : ℕ) => ofInt color) colors)) =
        .ok colors :=
      yields_table_self (fun e he => yields_natural32 (hrange e he)) _ (readsAs_ofTable colors)
    refine ⟨record [("palette", ofTable (fun (color : ℕ) => ofInt color) colors)],
      { Settings.default with palette := ⟨colors⟩ }, ?_, rfl⟩
    refine Except.bind_eq_ok_iff.mpr ⟨_, rfl, ?_⟩
    refine Except.bind_eq_ok_iff.mpr ⟨_, rfl, ?_⟩
    refine Except.bind_eq_ok_iff.mpr ⟨_, rfl, ?_⟩
    refine Except.bind_eq_ok_iff.mpr ⟨_, rfl, ?_⟩
    refine Except.bind_eq_ok_iff.mpr ⟨_, Except.map_eq_ok_iff.mpr ⟨_, hcolors, rfl⟩, ?_⟩
    exact Except.bind_eq_ok_iff.mpr ⟨_, rfl, rfl⟩

end Settings

/-! ## Colours after a start and insertions -/

/-- **Colours have 24 bits but for those of a document.** After any start and any insertions a
palette holds, under every name, the lower 24 bits of the colour that was inserted last, or else
what it held at the start. All colours that it shows have 24 bits, and so have those of the voxels
of any events, exactly if every name with a wider colour at the start was inserted. There is no such
name without a document. The palettes of documents are all tables of colours of 32 bits. -/
theorem Palette.isRgb_after_iff (start : Start) (inserts : List (Text × ℕ)) :
    (∀ name, (after start inserts).colors.get? name =
      (latest? inserts name).or (start.palette.colors.get? name)) ∧
    ((∀ name, IsRgb ((after start inserts).colorOf name)) ↔
      start.wideNames ⊆ inserts.map Prod.fst) ∧
    (∀ dimensions lanes,
      (∀ events, ∀ v ∈ (Mapper.mk dimensions lanes (after start inserts)).voxels events,
        IsRgb v.color) ↔ start.wideNames ⊆ inserts.map Prod.fst) ∧
    Start.empty.wideNames = [] ∧ Start.standard.wideNames = [] ∧
    ∀ colors : Table ℕ,
      (∃ node s, Settings.ofNode node = .ok s ∧
        s.mapper.palette = (Start.loaded colors).palette) ↔
      ∀ e ∈ colors.entries, e.2 ≤ nat32High := by
  have hshown := forall_isRgb_after_iff start inserts
  refine ⟨get?_insertAll start.palette inserts, hshown, ?_, rfl, by decide +kernel,
    fun colors => Settings.exists_palette_iff⟩
  intro dimensions lanes
  exact Mapper.forall_isRgb_voxels_iff.trans hshown

/-- A document with a colour of 32 bits: it is wide until it is inserted, and then it is its lower
24 bits. -/
theorem Palette.isRgb_after_iff_replaced :
    let start := Start.loaded (.ofList [("bd".toList, 0xff00ff00), ("sd".toList, 0xc0c0c0)])
    ¬ (∀ name, IsRgb ((after start [("sd".toList, 0xff00ff00)]).colorOf name)) ∧
      (∀ name, IsRgb ((after start [("bd".toList, 0xff00ff00)]).colorOf name)) ∧
      (after start [("bd".toList, 0xff00ff00)]).colors.get? "bd".toList = some 0x00ff00 := by
  intro start
  obtain ⟨-, hkept, -⟩ := isRgb_after_iff start [("sd".toList, 0xff00ff00)]
  obtain ⟨hget, hreplaced, -⟩ := isRgb_after_iff start [("bd".toList, 0xff00ff00)]
  refine ⟨?_, ?_, ?_⟩
  · rw [hkept]
    decide +kernel
  · rw [hreplaced]
    decide +kernel
  · rw [hget]
    rfl

/-- The voxels of a document's palette have its colours, and these may be wider than 24 bits. -/
theorem Palette.not_isRgb_of_document :
    ∃ s, Settings.ofText "palette:\n  bd: 4278255360\n".toList = .ok s ∧
      ¬ IsRgb (s.palette.colorOf "bd".toList) ∧
      ¬ IsRgb (s.mapper.voxel
        (.ofTrigger 0 (.ofSlot 0 1) (.slotWidth 1) 0 (.sound "bd".toList))).color := by
  let s : Settings :=
    { Settings.default with palette := ⟨.ofList [("bd".toList, 4278255360)]⟩ }
  have hload : Settings.ofText "palette:\n  bd: 4278255360\n".toList = .ok s := by decide +kernel
  have hcolor : ¬ IsRgb (s.palette.colorOf "bd".toList) := by decide +kernel
  exact ⟨s, hload, hcolor, hcolor⟩

end VoxelScore
