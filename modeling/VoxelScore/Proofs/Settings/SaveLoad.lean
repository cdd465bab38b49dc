import VoxelScore.CommandLine.Run
import VoxelScore.Proofs.Text.Utf8
import VoxelScore.Proofs.Tone.Modes
import VoxelScore.Proofs.Yaml.ReadBack

/-!
# Settings that are saved and loaded

Loading brings settings into form: what is left out is filled in, no cycles become one, the names of
modes are put in small letters, and steps that are no intervals are dropped. Saving writes settings
as they are. Settings in form are therefore those that come back as they were, and everything that
was loaded is in form, so that loading, saving and loading again is loading once.

## Main definitions

* `Settings.InForm`: settings that loading leaves as they are
* `Yaml.Codec.save`, `Yaml.Codec.load`: settings as texts

## Main results

* `Settings.InForm.yields_ofNode`: settings in form come back from their document
* `Settings.gives_inForm`: what is read from a document is in form
* `Settings.InForm.load?_render`: settings through a file
* `Yaml.Codec.load_save`: saving and loading
-/

namespace VoxelScore

open Yaml (Node Datum Fault Codec)

/-! ## Modes -/

namespace Intervals

/-- The steps of an octave lie between its ends. -/
theorem bounds_of_mem_steps {i : Intervals} {s : Int} (h : s ∈ i.steps) : 0 ≤ s ∧ s < 12 := by
  obtain ⟨hhead, hrise, htop⟩ := i.valid
  refine ⟨?_, htop s h⟩
  cases hs : i.steps with
  | nil => exact absurd hs i.steps_ne_nil
  | cons first rest =>
    rw [hs] at h hhead hrise
    obtain rfl : first = 0 := Option.some.inj hhead
    rcases List.mem_cons.mp h with rfl | h
    · exact Int.le_refl 0
    · exact Int.le_of_lt ((List.pairwise_cons.mp hrise).1 s h)

end Intervals

namespace Modes

/-- All names are in small letters. -/
def AreSmall (modes : Modes) : Prop :=
  ∀ e ∈ modes.entries, Text.lower e.1 = e.1

theorem areSmall_after (start : Start) (inserts : List (Text × List Int)) :
    (after start inserts).AreSmall := by
  intro e he
  exact (holds_after start inserts e he).1

theorem areSmall_ofTable (steps : Table (List Int)) : (ofTable steps).AreSmall :=
  areSmall_after (.loaded steps) []

theorem insert_steps {name : Text} (h : Text.lower name = name) (modes : Modes) (i : Intervals) :
    insert modes name i.steps = Table.insert modes name i := by
  rw [insert_of_accepted (areIntervals_iff.mp i.valid), h]

/-- **Modes under small names are accepted again as they are**, none refused and none renamed. -/
theorem ofTable_steps {modes : Modes} (h : modes.AreSmall) :
    ofTable (.ofList (modes.entries.map fun e => (e.1, e.2.steps))) = modes := by
  unfold ofTable
  rw [Table.entries_ofList (Table.sorted_map modes Intervals.steps), List.foldl_map]
  -- neither check of an insertion does anything here, which leaves the insertions of a table
  have hinsert : ∀ (t : Modes), ∀ e ∈ modes.entries,
      insert t e.1 e.2.steps = Table.insert t e.1 e.2 := by
    intro t e he
    exact insert_steps (h e he) t e.2
  exact (List.foldl_ext _ _ _ hinsert).trans (Table.ofList_entries modes)

end Modes

/-! ## Settings in form -/

/-- The whole numbers among the constants are numbers of 32 bits. -/
structure Dimensions.InRange (d : Dimensions) : Prop where
  blocksPerCycle : d.blocksPerCycle ≤ nat32High
  baseHeight : int32Low ≤ d.baseHeight ∧ d.baseHeight ≤ int32High
  patternLaneBase : int32Low ≤ d.patternLaneBase ∧ d.patternLaneBase ≤ int32High
  centerCycles : d.centerCycles ≤ nat32High

namespace Settings

/-- All whole numbers among the settings are numbers of 32 bits. -/
structure InRange (s : Settings) : Prop where
  cycles : s.cycles ≤ nat32High
  dimensions : s.dimensions.InRange
  lanes : ∀ e ∈ s.lanes.entries, int32Low ≤ e.2 ∧ e.2 ≤ int32High
  palette : ∀ e ∈ s.palette.colors.entries, e.2 ≤ nat32High

/-- Settings that loading leaves as they are: besides, there is a cycle, and the names of modes are
small. -/
structure InForm (s : Settings) : Prop extends InRange s where
  one_le_cycles : 1 ≤ s.cycles
  modes : s.modes.AreSmall

end Settings

/-! ## From settings to a document and back -/

namespace Yaml.Node

theorem yields_natural32 {n : Nat} (h : n ≤ nat32High) : (ofInt n).Yields natural32 n :=
  yields_natural h

theorem yields_integer32 {n : Int} (h : int32Low ≤ n ∧ n ≤ int32High) :
    (ofInt n).Yields integer32 n :=
  yields_integer h.1 h.2

end Yaml.Node

open Yaml.Node in
/-- Constants come back from their section. -/
theorem Dimensions.InRange.yields_ofNode {d : Dimensions} (hd : d.InRange) :
    d.toNode.Yields ofNode d := by
  intro node h
  obtain ⟨fields, hfields, hback⟩ := h.fields (show fieldNames.Nodup by decide)
  -- The fields are read in the order in which they are written.
  refine Except.bind_eq_ok_iff.mpr ⟨fields, hfields, ?_⟩
  refine Except.bind_eq_ok_iff.mpr
    ⟨_, hback.field (by simp) (yields_natural32 hd.blocksPerCycle), ?_⟩
  refine Except.bind_eq_ok_iff.mpr ⟨_, hback.field (by simp) (yields_number d.pitchBase), ?_⟩
  refine Except.bind_eq_ok_iff.mpr ⟨_, hback.field (by simp) (yields_number d.laneSpacing), ?_⟩
  refine Except.bind_eq_ok_iff.mpr ⟨_, hback.field (by simp) (yields_integer32 hd.baseHeight), ?_⟩
  refine Except.bind_eq_ok_iff.mpr
    ⟨_, hback.field (by simp) (yields_integer32 hd.patternLaneBase), ?_⟩
  refine Except.bind_eq_ok_iff.mpr ⟨_, hback.field (by simp) (yields_natural32 hd.centerCycles), ?_⟩
  refine Except.bind_eq_ok_iff.mpr ⟨_, hback.field (by simp) (yields_number d.defaultPitch), ?_⟩
  refine Except.bind_eq_ok_iff.mpr ⟨_, hback.field (by simp) (yields_number d.pitchScale), ?_⟩
  rfl

/-- Modes come back from their section. -/
theorem Modes.AreSmall.yields_ofTable {modes : Modes} (h : modes.AreSmall) :
    modes.toNode.Yields (fun node => (node.table Node.integers).map ofTable) modes := by
  have hsteps : ∀ e ∈ modes.entries,
      (Node.sequence (e.2.steps.map Node.ofInt)).Yields Node.integers e.2.steps := by
    intro e _
    have hitems : (Node.sequence (e.2.steps.map Node.ofInt)).Yields Node.integers
        (e.2.steps.map id) := by
      refine Node.yields_items ?_
      intro s hs
      -- an octave is far from the ends of the 32 bits
      obtain ⟨hlow, hhigh⟩ := Intervals.bounds_of_mem_steps hs
      exact Node.yields_integer32 (by unfold int32Low int32High; omega)
    rwa [List.map_id] at hitems
  have htable : modes.toNode.Yields (Node.table Node.integers)
      (.ofList (modes.entries.map fun e => (e.1, e.2.steps))) := Node.yields_table hsteps
  have hmodes := htable.map ofTable
  rwa [ofTable_steps h] at hmodes

namespace Settings

open Yaml.Node in
/-- **Settings in form come back from their document.** -/
theorem InForm.yields_ofNode {s : Settings} (hs : s.InForm) : s.toNode.Yields ofNode s := by
  intro node h
  obtain ⟨fields, hfields, hback⟩ := h.fields (show fieldNames.Nodup by decide)
  have hlanes : (ofTable ofInt s.lanes).Yields (table integer32) s.lanes :=
    yields_table_self fun e he => yields_integer32 (hs.lanes e he)
  have hpalette : (ofTable (fun (color : Nat) => ofInt color) s.palette.colors).Yields
      (table natural32) s.palette.colors :=
    yields_table_self fun e he => yields_natural32 (hs.palette e he)
  refine Except.bind_eq_ok_iff.mpr ⟨fields, hfields, ?_⟩
  refine Except.bind_eq_ok_iff.mpr ⟨_, hback.field (by simp) (yields_natural32 hs.cycles), ?_⟩
  refine Except.bind_eq_ok_iff.mpr ⟨_, hback.field (by simp) hs.dimensions.yields_ofNode, ?_⟩
  refine Except.bind_eq_ok_iff.mpr ⟨_, hback.field (by simp) hlanes, ?_⟩
  refine Except.bind_eq_ok_iff.mpr ⟨_, hback.field (by simp) (hpalette.map Palette.mk), ?_⟩
  refine Except.bind_eq_ok_iff.mpr ⟨_, hback.field (by simp) hs.modes.yields_ofTable, ?_⟩
  -- only the number of cycles is changed behind its field
  rw [max_eq_left hs.one_le_cycles]
  rfl

end Settings

/-! ## From a document into form -/

namespace Yaml.Node

theorem gives_natural32 : Gives natural32 (· ≤ nat32High) :=
  gives_natural nat32High

theorem gives_integer32 : Gives integer32 (fun n => int32Low ≤ n ∧ n ≤ int32High) :=
  gives_integer int32Low int32High

end Yaml.Node

open Yaml.Node in
theorem Dimensions.gives_inRange : Gives ofNode InRange := by
  intro node d h
  obtain ⟨fields, -, h⟩ := Except.bind_eq_ok_iff.mp h
  obtain ⟨blocks, hblocks, h⟩ := Except.bind_eq_ok_iff.mp h
  obtain ⟨pitchBase, -, h⟩ := Except.bind_eq_ok_iff.mp h
  obtain ⟨laneSpacing, -, h⟩ := Except.bind_eq_ok_iff.mp h
  obtain ⟨height, hheight, h⟩ := Except.bind_eq_ok_iff.mp h
  obtain ⟨lane, hlane, h⟩ := Except.bind_eq_ok_iff.mp h
  obtain ⟨center, hcenter, h⟩ := Except.bind_eq_ok_iff.mp h
  obtain ⟨defaultPitch, -, h⟩ := Except.bind_eq_ok_iff.mp h
  obtain ⟨pitchScale, -, h⟩ := Except.bind_eq_ok_iff.mp h
  obtain rfl := Except.ok.inj h
  exact ⟨gives_natural32.field (by decide) hblocks, gives_integer32.field (by decide) hheight,
    gives_integer32.field (by decide) hlane, gives_natural32.field (by decide) hcenter⟩

theorem Dimensions.inRange_standard : Dimensions.standard.InRange :=
  ⟨by decide, by decide, by decide, by decide⟩

namespace Settings

open Yaml.Node in
/-- **What is read from a document is in form**, whatever it is. -/
theorem gives_inForm : Gives ofNode InForm := by
  intro node s h
  obtain ⟨fields, -, h⟩ := Except.bind_eq_ok_iff.mp h
  obtain ⟨cycles, hcycles, h⟩ := Except.bind_eq_ok_iff.mp h
  obtain ⟨dimensions, hdimensions, h⟩ := Except.bind_eq_ok_iff.mp h
  obtain ⟨lanes, hlanes, h⟩ := Except.bind_eq_ok_iff.mp h
  obtain ⟨palette, hpalette, h⟩ := Except.bind_eq_ok_iff.mp h
  obtain ⟨modes, hmodes, h⟩ := Except.bind_eq_ok_iff.mp h
  obtain rfl := Except.ok.inj h
  have hcolors : Gives (fun node => (node.table natural32).map Palette.mk)
      (fun palette => ∀ e ∈ palette.colors.entries, e.2 ≤ nat32High) := by
    intro node palette h
    obtain ⟨colors, hcolors, rfl⟩ := Except.map_eq_ok_iff.mp h
    exact gives_natural32.table _ _ hcolors
  have hsmall : Gives (fun node => (node.table integers).map Modes.ofTable) Modes.AreSmall := by
    intro node modes h
    obtain ⟨steps, -, rfl⟩ := Except.map_eq_ok_iff.mp h
    exact Modes.areSmall_ofTable steps
  -- raising no cycles to one stays within the 32 bits
  have hmax := gives_natural32.field (by decide) hcycles
  exact {
    cycles := max_le hmax (by decide)
    dimensions := Dimensions.gives_inRange.field Dimensions.inRange_standard hdimensions
    lanes := gives_integer32.table.field (by decide +kernel) hlanes
    palette := hcolors.field (by decide +kernel) hpalette
    one_le_cycles := le_max_right _ _
    modes := hsmall.field (by unfold Modes.AreSmall; decide +kernel) hmodes }

end Settings

/-! ## Saving and loading -/

namespace Yaml.Codec

/-- Settings as a text. -/
def save (codec : Codec) (s : Settings) : Text :=
  codec.write s.toNode

/-- The settings of a text. -/
def load (codec : Codec) (t : Text) : Except Fault Settings :=
  codec.read t >>= Settings.ofNode

/-- The reading and writing of documents in this library. -/
def documents : Codec := ⟨Node.render, Node.ofText⟩

/-- **Settings in form come back** if their document does. -/
theorem load_save_of_inForm {codec : Codec} {s : Settings} (hs : s.InForm)
    (hback : codec.ReadsBack s.toNode) : codec.load (codec.save s) = .ok s := by
  obtain ⟨node, hread, hnode⟩ := hback
  exact Except.bind_eq_ok_iff.mpr ⟨node, hread, hs.yields_ofNode node hnode⟩

theorem inForm_of_load {codec : Codec} {s : Settings} {t : Text} (h : codec.load t = .ok s) :
    s.InForm := by
  obtain ⟨node, -, hnode⟩ := Except.bind_eq_ok_iff.mp h
  exact Settings.gives_inForm node s hnode

end Yaml.Codec

/-- A file with the text of settings in form is loaded as these settings. -/
theorem Settings.InForm.load?_render {s : Settings} (hs : s.InForm)
    (hback : Codec.documents.ReadsBack s.toNode) :
    Settings.load? (.bytes (Utf8.encode s.render)) = some s := by
  have hload : Settings.ofText s.render = .ok s := Codec.load_save_of_inForm hs hback
  change ((Utf8.decode (Utf8.encode s.render)).toOption.bind fun t =>
    (Settings.ofText t).toOption) = some s
  rw [Utf8.decode_encode]
  exact congrArg Except.toOption hload

/-! ## Equality of doubles -/

theorem Double.beq_self {x : Float} (h : x.isNaN = false) : (x == x) = true := by
  change x.toModel.unpack.isNaN = false at h
  change x.toModel.unpack.beq x.toModel.unpack = true
  generalize x.toModel.unpack = value at h ⊢
  cases value with
  | notANumber => cases h
  | infinity sign => cases sign <;> rfl
  | zero sign => rfl
  | finite sign mantissa exponent =>
    -- exponents are compared first, then mantissas, and for negative numbers all is turned round
    have hsame : (compare exponent exponent).then (compare mantissa mantissa) = .eq := by
      rw [Std.compare_self, Std.compare_self]
      rfl
    cases sign with
    | positive =>
      change (some ((compare exponent exponent).then (compare mantissa mantissa)) ==
        some Ordering.eq) = true
      rw [hsame]
      rfl
    | negative =>
      change (some ((compare exponent exponent).then (compare mantissa mantissa)).swap ==
        some Ordering.eq) = true
      rw [hsame]
      rfl

/-- One of the doubles among the constants is not-a-number. -/
def Dimensions.hasNaN (d : Dimensions) : Bool :=
  d.pitchBase.isNaN || d.laneSpacing.isNaN || d.defaultPitch.isNaN || d.pitchScale.isNaN

namespace Settings

variable {s : Settings}

/-- Without not-a-number settings agree with themselves. -/
theorem agrees_self (h : s.dimensions.hasNaN = false) : s.agrees s = true := by
  simp only [Dimensions.hasNaN, Bool.or_eq_false_iff] at h
  obtain ⟨⟨⟨hbase, hspacing⟩, hpitch⟩, hscale⟩ := h
  simp only [agrees, Dimensions.agrees, Double.beq_self hbase, Double.beq_self hspacing,
    Double.beq_self hpitch, Double.beq_self hscale, decide_true, Bool.and_self]

theorem InRange.inForm (h : s.InRange) (hcycles : 1 ≤ s.cycles) {start : Modes.Start}
    {inserts : List (Text × List Int)} (hmodes : s.modes = .after start inserts) : s.InForm where
  toInRange := h
  one_le_cycles := hcycles
  modes := hmodes ▸ Modes.areSmall_after start inserts

end Settings

/-- **Settings survive saving and loading.** Provided that their document is read back as it is
written, settings with at least one cycle, without not-a-number, and with a table of modes that was
built by insertions are loaded as they were saved. So is everything that was itself loaded, from any
text whatsoever: what loading fills in, raises, renames and drops is settled the first time. -/
theorem Yaml.Codec.load_save (codec : Codec) :
    (∀ s : Settings, s.InRange → 1 ≤ s.cycles → s.dimensions.hasNaN = false →
      (∃ start inserts, s.modes = Modes.after start inserts) → codec.ReadsBack s.toNode →
        codec.load (codec.save s) = .ok s ∧ s.agrees s) ∧
      ∀ (t : Text) (s : Settings), codec.load t = .ok s → s.dimensions.hasNaN = false →
        codec.ReadsBack s.toNode →
          s.InForm ∧ codec.load (codec.save s) = .ok s ∧ s.agrees s := by
  constructor
  · rintro s hrange hcycles hnumbers ⟨start, inserts, hmodes⟩ hback
    have hform := hrange.inForm hcycles hmodes
    exact ⟨load_save_of_inForm hform hback, Settings.agrees_self hnumbers⟩
  · intro t s hload hnumbers hback
    have hform := inForm_of_load hload
    exact ⟨hform, load_save_of_inForm hform hback, Settings.agrees_self hnumbers⟩

deriving instance DecidableEq for Dimensions, Settings

/-- A text without cycles and without colours, which spells the name of a mode in two ways and holds
steps that are no intervals, and the settings that it is loaded as. -/
theorem Yaml.Codec.load_save_documents :
    let t := ("cycles: 0\npalette: \x7b\x7d\nlanes:\n  0x10: -7\n" ++
      "scales:\n  Major: [0, 4]\n  MAJOR: [0, 5]\n  bad: [1]\n").toList
    let s : Settings :=
      { Settings.default with
        cycles := 1
        lanes := Table.empty.insert "0x10".toList (-7)
        palette := Palette.empty
        modes := Modes.after .empty [("MAJOR".toList, [0, 5]), ("Major".toList, [0, 4])] }
    documents.load t = .ok s ∧ s.InRange ∧ s.dimensions.hasNaN = false ∧
      documents.ReadsBack s.toNode ∧ documents.load (documents.save s) = .ok s ∧ s.agrees s := by
  intro t s
  have hload : documents.load t = .ok s := by decide +kernel
  have hrange : s.InRange :=
    ⟨by decide, Dimensions.inRange_standard, by decide +kernel, by decide +kernel⟩
  have hnumbers : s.dimensions.hasNaN = false := by decide +kernel
  have hback : documents.ReadsBack s.toNode := by decide +kernel
  obtain ⟨hbuilt, hloaded⟩ := load_save documents
  obtain ⟨-, -, hagrees⟩ := hloaded t s hload hnumbers hback
  obtain ⟨hsaved, -⟩ := hbuilt s hrange (by decide) hnumbers ⟨.empty, _, rfl⟩ hback
  exact ⟨hload, hrange, hnumbers, hback, hsaved, hagrees⟩

end VoxelScore
