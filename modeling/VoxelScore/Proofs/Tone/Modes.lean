import VoxelScore.Proofs.Table
import VoxelScore.Proofs.Text.Case
import VoxelScore.Proofs.Tone.Degrees
import VoxelScore.Tone.Modes

/-!
# Tables of modes

A table of modes starts without modes, with the usual ones, or with those of a table of step lists
that somebody wrote, and is then added to. What is offered to it on the way may be anything; what it
holds afterwards was offered under a name that it keeps in small letters, and is a list of
intervals. A spec therefore always resolves to a scale on which every degree has a pitch, also in a
table that knows neither the mode of the spec nor the fallback mode.

## Main definitions

* `Modes.Start`: the ways in which a table starts, and `Modes.Start.offers`, what it is offered there
* `Modes.after`: the table after insertions
* `Modes.Holds`: a table that holds nothing but offers, under names in small letters

## Main results

* `Modes.isSome_insert?_iff`: which insertions are accepted
* `Modes.Holds.insert`: one insertion, accepted or refused
* `Modes.holds_after`: any number of them
* `Modes.resolve_usable`: stored lists, resolved lists and their degrees
-/

namespace VoxelScore

namespace Modes

/-! ## One insertion -/

section Insertion

variable {modes : Modes} {name : Text} {steps : List ℤ}

/-- **An insertion is accepted** exactly if its steps are those of an octave. -/
theorem isSome_insert?_iff : (insert? modes name steps).isSome ↔ IsOctave steps := by
  rw [← areIntervals_iff, insert?, Option.isSome_map, Intervals.ofSteps?]
  split
  · next h => simp [h]
  · next h => simp [h]

theorem insert_of_refused (h : ¬ IsOctave steps) : insert modes name steps = modes := by
  rw [insert, Option.not_isSome_iff_eq_none.mp (mt isSome_insert?_iff.mp h)]
  rfl

theorem insert_of_accepted (h : IsOctave steps) : insert modes name steps =
    Table.insert modes (Text.lower name) ⟨steps, areIntervals_iff.mpr h⟩ := by
  rw [insert, insert?, Intervals.ofSteps?, dif_pos (areIntervals_iff.mpr h)]
  rfl

end Insertion

/-! ## Histories -/

/-- How a table of modes starts. -/
inductive Start where
  | empty
  | builtin
  /-- From step lists by name that were read from elsewhere, valid or not. -/
  | loaded (steps : Table (List ℤ))

namespace Start

/-- The table at the start. -/
def modes : Start → Modes
  | empty => Table.empty
  | builtin => Modes.builtin
  | loaded steps => ofTable steps

/-- The names and step lists that a start offers. -/
def offers : Start → List (Text × List ℤ)
  | empty => []
  | builtin => Modes.builtin.entries.map fun e => (e.1, e.2.steps)
  | loaded steps => steps.entries

end Start

/-- The table with further names and step lists inserted in turn, as far as they are accepted. -/
def insertAll (modes : Modes) (inserts : List (Text × List ℤ)) : Modes :=
  inserts.foldl (fun modes (name, steps) => insert modes name steps) modes

/-- **The table after a start and insertions.** -/
def after (start : Start) (inserts : List (Text × List ℤ)) : Modes :=
  insertAll start.modes inserts

/-- Every entry of the table stands under a name in small letters, and its steps were offered under
that name in some case. -/
def Holds (offers : List (Text × List ℤ)) (modes : Modes) : Prop :=
  ∀ e ∈ modes.entries, Text.lower e.1 = e.1 ∧
    ∃ offer ∈ offers, Text.lower offer.1 = e.1 ∧ offer.2 = e.2.steps

section Histories

variable {offers more : List (Text × List ℤ)} {modes : Modes} {name : Text} {steps : List ℤ}

theorem Holds.mono (h : Holds offers modes) (hsub : offers ⊆ more) : Holds more modes := by
  intro e he
  obtain ⟨hname, offer, hoffer, hfrom⟩ := h e he
  exact ⟨hname, offer, hsub hoffer, hfrom⟩

/-- **One insertion.** A refused one leaves the table as it is; an accepted one adds an entry for
what it offers. -/
theorem Holds.insert (h : Holds offers modes) (hoffer : (name, steps) ∈ offers) :
    Holds offers (insert modes name steps) := by
  by_cases hsteps : IsOctave steps
  · rw [insert_of_accepted hsteps]
    intro e he
    rcases Table.eq_or_mem_of_mem_insertEntry he with rfl | he
    · exact ⟨Text.lower_lower name, (name, steps), hoffer, rfl, rfl⟩
    · exact h e he
  · rw [insert_of_refused hsteps]
    exact h

/-- **Any number of insertions.** -/
theorem Holds.insertAll {inserts : List (Text × List ℤ)} (h : Holds offers modes)
    (hoffers : inserts ⊆ offers) : Holds offers (insertAll modes inserts) := by
  induction inserts generalizing modes with
  | nil => exact h
  | cons offer inserts ih =>
    rw [List.cons_subset] at hoffers
    exact ih (h.insert hoffers.1) hoffers.2

end Histories

theorem holds_builtin : Holds Start.builtin.offers Modes.builtin := by
  have hnames : ∀ e ∈ Modes.builtin.entries, Text.lower e.1 = e.1 := by decide
  intro e he
  exact ⟨hnames e he, (e.1, e.2.steps), List.mem_map_of_mem he, hnames e he, rfl⟩

theorem holds_empty (offers : List (Text × List ℤ)) : Holds offers Table.empty := by
  intro e he
  cases he

theorem holds_start (start : Start) : Holds start.offers start.modes := by
  cases start with
  | empty => exact holds_empty _
  | builtin => exact holds_builtin
  | loaded steps => exact (holds_empty _).insertAll (List.Subset.refl _)

/-- **A table holds only what it was offered**, whatever its start and its insertions. -/
theorem holds_after (start : Start) (inserts : List (Text × List ℤ)) :
    Holds (start.offers ++ inserts) (after start inserts) :=
  ((holds_start start).mono (List.subset_append_left _ _)).insertAll (List.subset_append_right _ _)

/-! ## Specs -/

/-- A mode resolves to an entry of the table, or to the usual minor mode. -/
theorem intervals_cases (modes : Modes) (mode : Text) :
    (∃ e ∈ modes.entries, e.2 = intervals modes mode) ∨ intervals modes mode = minor := by
  unfold intervals
  cases hmode : get? modes mode with
  | some i =>
    obtain ⟨e, he, -, hi⟩ := Table.exists_of_get?_eq_some hmode
    exact Or.inl ⟨e, he, hi⟩
  | none =>
    cases hfallback : get? modes fallbackMode with
    | some i =>
      obtain ⟨e, he, -, hi⟩ := Table.exists_of_get?_eq_some hfallback
      exact Or.inl ⟨e, he, hi⟩
    | none => exact Or.inr rfl

/-- **No table holds an unusable scale, and no spec resolves to one.** After any start and any
insertions, every entry stands under its name in small letters, and its steps were offered under that
name, start at 0, rise strictly and end below 12. Every spec resolves to such a list, which is one of
the table or that of the usual minor mode, and on it every degree has a pitch: nothing is divided by
zero, and no step is looked for beyond the ends of the list. -/
theorem resolve_usable (start : Start) (inserts : List (Text × List ℤ)) :
    (∀ e ∈ (after start inserts).entries,
      Text.lower e.1 = e.1 ∧ IsOctave e.2.steps ∧
        ∃ offer ∈ start.offers ++ inserts, Text.lower offer.1 = e.1 ∧ offer.2 = e.2.steps) ∧
      ∀ spec : Text, ∃ scale, resolve (after start inserts) spec = scale ∧
        IsOctave scale.intervals.steps ∧
        ((∃ e ∈ (after start inserts).entries, e.2 = scale.intervals) ∨ scale.intervals = minor) ∧
        ∀ degree, Scale.pitch? scale.root scale.intervals.steps degree =
          some (scale.pitch degree) := by
  constructor
  · intro e he
    obtain ⟨hname, hoffer⟩ := holds_after start inserts e he
    exact ⟨hname, areIntervals_iff.mp e.2.valid, hoffer⟩
  · intro spec
    refine ⟨_, rfl, areIntervals_iff.mp (Intervals.valid _), ?_, ?_⟩
    · exact intervals_cases _ _
    · exact Scale.pitch?_eq_some _

end Modes

end VoxelScore
