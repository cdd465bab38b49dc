import Mathlib.Data.Set.Card
import VoxelScore.Proofs.Text.ByteOrder
import VoxelScore.Proofs.Text.Trimming
import VoxelScore.Proofs.Tone.Modes

/-!
# The latest modes

A table of modes is a map in which names are told apart up to case, and in which the last accepted
offer of a name counts. What is offered under other names does not matter, nor what is refused. A
spec picks the latest steps of its mode from this map, else those of the fallback mode, else the
usual minor ones, and sees neither blanks around its parts nor the case of the mode.

## Main definitions

* `Modes.accepted`, `Modes.latest?`: the offers that count, and the last of them for a name
* `Modes.Names`: specs, with the root and the mode that they name
* `Modes.IsLatest`: a table that holds the latest offers, and nothing else

## Main results

* `Modes.steps_get?_insert`, `Modes.steps_get?_insertAll`: looking up after one insertion, and after
  any number of them
* `Modes.size_eq_ncard`: a table is as large as its names are many
* `Modes.resolve_of_names`: what a spec resolves to
* `Modes.after_isLatest`: tables after any start and any insertions
-/

namespace VoxelScore

open Text (EqUpToCase IsBlankText IsPadded)

namespace Modes

variable {offers : List (Text × List ℤ)} {modes : Modes} {name other : Text} {steps : List ℤ}

/-! ## Looking up after an insertion -/

/-- **Looking up after an insertion.** An accepted one is found under all spellings of its name, and
nothing else is changed. -/
theorem steps_get?_insert (modes : Modes) (name other : Text) (steps : List ℤ) :
    (get? (insert modes name steps) other).map Intervals.steps =
      if IsOctave steps ∧ EqUpToCase name other then some steps
      else (get? modes other).map Intervals.steps := by
  -- the table compares names in small letters
  have hnames : Text.lower other = Text.lower name ↔ EqUpToCase name other := by
    rw [eq_comm, Text.lower_eq_lower_iff]
  by_cases hsteps : IsOctave steps
  · rw [insert_of_accepted hsteps, get?, Table.get?_insert]
    by_cases hname : EqUpToCase name other
    · rw [if_pos (hnames.mpr hname), if_pos ⟨hsteps, hname⟩]
      rfl
    · rw [if_neg (mt hnames.mp hname), if_neg fun h => hname h.2]
      rfl
  · rw [insert_of_refused hsteps, if_neg fun h => hsteps h.1]

/-! ## The latest offers -/

/-- The offers that are accepted. -/
def accepted (offers : List (Text × List ℤ)) : List (Text × List ℤ) :=
  offers.filter fun offer => IsOctave offer.2

/-- **The steps that are offered last** under a spelling of a name, of those that are accepted. -/
def latest? (offers : List (Text × List ℤ)) (name : Text) : Option (List ℤ) :=
  (((accepted offers).filter fun offer => EqUpToCase offer.1 name).getLast?).map Prod.snd

/-- A further offer counts for the spellings of its name, if it is accepted. -/
theorem latest?_append (offers : List (Text × List ℤ)) (name other : Text) (steps : List ℤ) :
    latest? (offers ++ [(name, steps)]) other =
      if IsOctave steps ∧ EqUpToCase name other then some steps else latest? offers other := by
  unfold latest? accepted
  rw [List.filter_append, List.filter_append]
  by_cases hsteps : IsOctave steps
  · rw [List.filter_cons_of_pos (by simpa using hsteps)]
    by_cases hname : EqUpToCase name other
    · rw [List.filter_cons_of_pos (by simpa using hname), if_pos ⟨hsteps, hname⟩]
      simp
    · rw [List.filter_cons_of_neg (by simpa using hname), if_neg fun h => hname h.2]
      simp
  · rw [List.filter_cons_of_neg (by simpa using hsteps), if_neg fun h => hsteps h.1]
    simp

/-- **Looking up after any number of insertions** gives the latest accepted offer of the name. -/
theorem steps_get?_insertAll (offers : List (Text × List ℤ)) (name : Text) :
    (get? (insertAll Table.empty offers) name).map Intervals.steps = latest? offers name := by
  induction offers using List.reverseRecOn with
  | nil => rfl
  | append_singleton offers offer ih =>
    -- the last offer is the last insertion, and both sides change in the same way
    obtain ⟨other, steps⟩ := offer
    rw [insertAll, List.foldl_append, latest?_append, ← ih]
    exact steps_get?_insert _ other name steps

/-! ## The number of names -/

/-- The names of the accepted offers, each with all its spellings. -/
def acceptedNames (offers : List (Text × List ℤ)) : Set (Set Text) :=
  {names | ∃ offer ∈ accepted offers, Text.spellings offer.1 = names}

theorem isSome_latest?_iff : (latest? offers name).isSome ↔
    ∃ offer ∈ accepted offers, EqUpToCase offer.1 name := by
  rw [latest?, Option.isSome_map, List.getLast?_isSome, ne_eq, List.filter_eq_nil_iff]
  simp

/-- There is an entry for exactly the accepted names. -/
theorem exists_entry_iff : (∃ e ∈ (insertAll Table.empty offers).entries, e.1 = Text.lower name) ↔
    ∃ offer ∈ accepted offers, EqUpToCase offer.1 name := by
  rw [← isSome_latest?_iff, ← steps_get?_insertAll, Option.isSome_map, get?, Table.isSome_get?_iff]

/-- The names of the entries are in small letters. -/
theorem lower_of_mem_entries {e : Text × Intervals}
    (h : e ∈ (insertAll Table.empty offers).entries) : Text.lower e.1 = e.1 :=
  ((holds_empty offers).insertAll (List.Subset.refl _) e h).1

/-- The accepted names are those of the entries, with their spellings. -/
theorem acceptedNames_eq_image (offers : List (Text × List ℤ)) :
    acceptedNames offers =
      Text.spellings '' {name | name ∈ (insertAll Table.empty offers).entries.map Prod.fst} := by
  ext names
  constructor
  · rintro ⟨offer, hoffer, rfl⟩
    obtain ⟨e, he, hname⟩ := exists_entry_iff.mpr ⟨offer, hoffer, EqUpToCase.refl _⟩
    refine ⟨e.1, List.mem_map_of_mem he, ?_⟩
    rw [hname, Text.spellings_eq_iff, ← Text.lower_eq_lower_iff, Text.lower_lower]
  · rintro ⟨name, hname, rfl⟩
    obtain ⟨e, he, rfl⟩ := List.mem_map.mp hname
    obtain ⟨offer, hoffer, hspelling⟩ := exists_entry_iff.mp ⟨e, he, (lower_of_mem_entries he).symm⟩
    exact ⟨offer, hoffer, Text.spellings_eq_iff.mpr hspelling⟩

/-- No two entries have names that are spellings of each other. -/
theorem injOn_spellings (offers : List (Text × List ℤ)) : Set.InjOn Text.spellings
    {name | name ∈ (insertAll Table.empty offers).entries.map Prod.fst} := by
  intro name hname other hother h
  obtain ⟨e, he, rfl⟩ := List.mem_map.mp hname
  obtain ⟨f, hf, rfl⟩ := List.mem_map.mp hother
  rw [Text.spellings_eq_iff, ← Text.lower_eq_lower_iff] at h
  rwa [lower_of_mem_entries he, lower_of_mem_entries hf] at h

/-- **A table is as large as its names are many**, if those that differ in case only are counted
once. -/
theorem size_eq_ncard (offers : List (Text × List ℤ)) :
    (insertAll Table.empty offers).size = (acceptedNames offers).ncard := by
  have hnodup : ((insertAll Table.empty offers).entries.map Prod.fst).Nodup :=
    List.pairwise_map.mpr ((insertAll Table.empty offers).sorted.imp Std.ne_of_lt)
  -- as many sets of spellings as names, and as many names as entries
  rw [acceptedNames_eq_image, (injOn_spellings offers).ncard_image, ← List.coe_toFinset,
    Set.ncard_coe_finset, List.toFinset_card_of_nodup hnodup, List.length_map]
  rfl

/-! ## Specs -/

/-- **A spec names a root and a mode**, with a colon between the two and blanks around each. Without
a mode, with or without the colon, it names the major one. -/
inductive Names : Text → Text → Text → Prop
  | ofRoot {spec root : Text} (padded : IsPadded root spec) (colon : ':' ∉ spec) :
      Names spec root "major".toList
  | ofBlank {front back root : Text} (padded : IsPadded root front) (colon : ':' ∉ front)
      (blank : IsBlankText back) : Names (front ++ ':' :: back) root "major".toList
  | ofMode {front back root mode : Text} (padded : IsPadded root front) (colon : ':' ∉ front)
      (padded' : IsPadded mode back) (named : mode ≠ []) :
      Names (front ++ ':' :: back) root mode

variable {spec root mode : Text}

/-- Every spec names a root and a mode. -/
theorem exists_names (spec : Text) : ∃ root mode, Names spec root mode := by
  by_cases hcolon : ':' ∈ spec
  · obtain ⟨front, back, rfl, hfront⟩ := List.eq_append_cons_of_mem hcolon
    -- a mode of blanks only is none
    by_cases hmode : Text.trim back = []
    · exact ⟨_, _, .ofBlank (Text.trim_eq_iff.mp rfl) hfront (Text.trim_eq_nil_iff.mp hmode)⟩
    · exact ⟨_, _, .ofMode (Text.trim_eq_iff.mp rfl) hfront (Text.trim_eq_iff.mp rfl) hmode⟩
  · exact ⟨_, _, .ofRoot (Text.trim_eq_iff.mp rfl) hcolon⟩

/-- What a spec resolves to, from the texts on both sides of its colon. -/
theorem resolve_eq {front back : Text}
    (h : (Text.splitOnce? ':' spec).getD (spec, []) = (front, back)) :
    resolve modes spec = ⟨(Note.number? (Text.trim front)).getD defaultRoot,
      intervals modes (if (Text.trim back).isEmpty then defaultMode else Text.trim back)⟩ := by
  unfold resolve
  rw [h]

/-- **What a spec resolves to**: the root and the intervals of the mode that it names. -/
theorem resolve_of_names (h : Names spec root mode) :
    resolve modes spec = ⟨(Note.number? root).getD defaultRoot, intervals modes mode⟩ := by
  cases h with
  | ofRoot padded colon =>
    rw [resolve_eq (congrArg (Option.getD · _) (Text.splitOnce?_eq_none colon)),
      Text.trim_eq_iff.mpr padded]
    rfl
  | ofBlank padded colon blank =>
    rw [resolve_eq (congrArg (Option.getD · _) (Text.splitOnce?_append colon _)),
      Text.trim_eq_iff.mpr padded, Text.trim_eq_nil_iff.mpr blank]
    rfl
  | ofMode padded colon padded' named =>
    rw [resolve_eq (congrArg (Option.getD · _) (Text.splitOnce?_append colon _)),
      Text.trim_eq_iff.mpr padded, Text.trim_eq_iff.mpr padded', if_neg (by simpa using named)]

/-- Spellings of a name have the same intervals. -/
theorem get?_of_eqUpToCase (h : EqUpToCase name other) : get? modes name = get? modes other := by
  rw [get?, Text.lower_eq_lower_iff.mpr h]
  rfl

/-- Neither blanks nor the case of the mode matter. -/
theorem resolve_of_eqUpToCase {spec' mode' : Text} (h : Names spec root mode)
    (h' : Names spec' root mode') (hmode : EqUpToCase mode mode') :
    resolve modes spec = resolve modes spec' := by
  rw [resolve_of_names h, resolve_of_names h', intervals, intervals, get?_of_eqUpToCase hmode]

/-- The steps of a mode, of the fallback mode, or those of the usual minor mode. -/
theorem steps_intervals (modes : Modes) (mode : Text) :
    (intervals modes mode).steps =
      (((get? modes mode).map Intervals.steps).or
        ((get? modes fallbackMode).map Intervals.steps)).getD minor.steps := by
  unfold intervals
  cases get? modes mode with
  | some i => rfl
  | none =>
    cases get? modes fallbackMode with
    | some i => rfl
    | none => rfl

/-! ## Histories -/

/-- **A table that keeps the latest offers**, and counts the names that were accepted. Specs resolve
to them, whatever their blanks and the case of their modes. -/
structure KeepsLatest (offers : List (Text × List ℤ)) (modes : Modes) : Prop where
  get : ∀ name, (get? modes name).map Intervals.steps = latest? offers name
  size : modes.size = (acceptedNames offers).ncard
  resolves : ∀ spec root mode, Names spec root mode →
    (resolve modes spec).root = (Note.number? root).getD 60 ∧
      (resolve modes spec).intervals.steps =
        ((latest? offers mode).or (latest? offers "minor".toList)).getD [0, 2, 3, 5, 7, 8, 10]
  spelling : ∀ spec spec' root mode mode', Names spec root mode → Names spec' root mode' →
    EqUpToCase mode mode' → resolve modes spec = resolve modes spec'

/-- **The run of insertions** keeps the latest of them. -/
theorem keepsLatest_insertAll (offers : List (Text × List ℤ)) :
    KeepsLatest offers (insertAll Table.empty offers) where
  get := steps_get?_insertAll offers
  size := size_eq_ncard offers
  resolves := by
    intro spec root mode h
    rw [resolve_of_names h, steps_intervals, steps_get?_insertAll, steps_get?_insertAll]
    exact ⟨rfl, rfl⟩
  spelling := by
    intro spec spec' root mode mode' h h' hmode
    exact resolve_of_eqUpToCase h h' hmode

/-- Every start is a run of insertions into the empty table. -/
theorem Start.modes_eq (start : Start) : start.modes = insertAll Table.empty start.offers := by
  cases start with
  | empty => rfl
  | builtin => decide +kernel
  | loaded steps => rfl

/-- A start with insertions is a longer run of them. -/
theorem after_eq_insertAll (start : Start) (inserts : List (Text × List ℤ)) :
    after start inserts = insertAll Table.empty (start.offers ++ inserts) := by
  rw [after, start.modes_eq, insertAll, insertAll, insertAll, List.foldl_append]

/-- **A table of modes is a map in which the last accepted offer of a name counts.** An insertion is
accepted exactly if its steps start at 0, rise and end below 12, and a refused one changes nothing.
A table that was read from elsewhere is one of insertions in the order of the bytes of its names.
After any start and any insertions, looking up a name gives the latest accepted steps of a spelling
of it, there are as many entries as accepted names of different spelling, and every spec resolves to
the latest steps of its mode, of the fallback mode, or of the usual minor mode. -/
theorem after_keepsLatest :
    (∀ (modes : Modes) (name : Text) (steps : List ℤ),
      ((insert? modes name steps).isSome ↔ IsOctave steps) ∧
        (¬ IsOctave steps → insert modes name steps = modes)) ∧
      (∀ steps : Table (List ℤ),
        (steps.entries.Pairwise fun a b => Utf8.encode a.1 < Utf8.encode b.1) ∧
          (Start.loaded steps).modes = insertAll Table.empty steps.entries) ∧
      (∀ spec : Text, ∃ root mode, Names spec root mode) ∧
      ∀ (start : Start) (inserts : List (Text × List ℤ)),
        KeepsLatest (start.offers ++ inserts) (after start inserts) := by
  refine ⟨?_, ?_, exists_names, ?_⟩
  · intro modes name steps
    exact ⟨isSome_insert?_iff, insert_of_refused⟩
  · intro steps
    exact ⟨steps.pairwise_encode_lt, rfl⟩
  · intro start inserts
    rw [after_eq_insertAll]
    exact keepsLatest_insertAll _

/-- Three spellings that are read in the order of their bytes, the second one with steps that are
refused. -/
def minors : Table (List ℤ) :=
  .ofList [("minor".toList, [0, 7]), ("Minor".toList, [0, 12]), ("MINOR".toList, [0, 3])]

/-- Three spellings that are inserted, the second one with steps that are refused. -/
def blues : List (Text × List ℤ) :=
  [("Blues".toList, [0, 3, 5]), ("blues".toList, [3, 2]), ("BLUES".toList, [0, 5])]

/-- Names that differ in case only, with refused steps in between: the last accepted steps count,
the table has two entries, and an unknown mode falls back to the minor one that was read last. -/
theorem after_keepsLatest_collisions :
    let modes := after (.loaded minors) blues
    ¬ IsOctave [3, 2] ∧ insert modes "blues".toList [3, 2] = modes ∧
      Names (" d ".toList ++ ':' :: " bLuEs ".toList) "d".toList "bLuEs".toList ∧
      Names ("c".toList ++ ':' :: "bebop".toList) "c".toList "bebop".toList ∧
      Names ("d".toList ++ ':' :: "BLUES".toList) "d".toList "BLUES".toList ∧
      EqUpToCase "bLuEs".toList "BLUES".toList ∧
      (get? modes "bLuEs".toList).map Intervals.steps = some [0, 5] ∧
      (resolve modes (" d ".toList ++ ':' :: " bLuEs ".toList)).root = 62 ∧
      (resolve modes (" d ".toList ++ ':' :: " bLuEs ".toList)).intervals.steps = [0, 5] ∧
      (resolve modes ("c".toList ++ ':' :: "bebop".toList)).intervals.steps = [0, 7] ∧
      resolve modes (" d ".toList ++ ':' :: " bLuEs ".toList) =
        resolve modes ("d".toList ++ ':' :: "BLUES".toList) := by
  intro modes
  have hrefused : ¬ IsOctave [3, 2] := by decide
  have hblues : Names (" d ".toList ++ ':' :: " bLuEs ".toList) "d".toList "bLuEs".toList :=
    .ofMode (Text.trim_eq_iff.mp rfl) (by decide) (Text.trim_eq_iff.mp rfl) (by decide)
  have hbebop : Names ("c".toList ++ ':' :: "bebop".toList) "c".toList "bebop".toList :=
    .ofMode (Text.trim_eq_iff.mp rfl) (by decide) (Text.trim_eq_iff.mp rfl) (by decide)
  have hcapitals : Names ("d".toList ++ ':' :: "BLUES".toList) "d".toList "BLUES".toList :=
    .ofMode (Text.trim_eq_iff.mp rfl) (by decide) (Text.trim_eq_iff.mp rfl) (by decide)
  have hspelling : EqUpToCase "bLuEs".toList "BLUES".toList := by decide
  obtain ⟨hinsert, -, -, hafter⟩ := after_keepsLatest
  obtain ⟨hget, -, hresolves, hspellings⟩ := hafter (.loaded minors) blues
  refine ⟨hrefused, (hinsert modes _ _).2 hrefused, hblues, hbebop, hcapitals, hspelling,
    ?_, ?_, ?_, ?_, hspellings _ _ _ _ _ hblues hcapitals hspelling⟩
  · rw [hget]
    decide +kernel
  · rw [(hresolves _ _ _ hblues).1]
    decide +kernel
  · rw [(hresolves _ _ _ hblues).2]
    decide +kernel
  · rw [(hresolves _ _ _ hbebop).2]
    decide +kernel

end Modes

end VoxelScore
