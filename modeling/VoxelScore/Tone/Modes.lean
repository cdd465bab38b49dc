import VoxelScore.Table
import VoxelScore.Text.Blank
import VoxelScore.Tone.Note
import VoxelScore.Tone.Scale

/-!
# Modes

A mode is a named set of intervals. Names are kept in small ASCII letters, so that case does not
matter, and a set of steps that are no intervals is refused. A *spec* such as `d:major` names a root
and a mode; whatever it says, it resolves to a scale.

## Main definitions

* `Modes` — the modes by name.
* `Modes.insert?`, `Modes.get?` — adding, unless refused, and looking up.
* `Modes.builtin` — the modes that are known from the start.
* `Modes.resolve` — the scale of a spec.
-/

namespace VoxelScore

/-- Modes by name, in small letters. -/
abbrev Modes := Table Intervals

namespace Modes

/-- The table with a mode added or replaced; nothing if the steps are no intervals. -/
def insert? (modes : Modes) (name : Text) (steps : List Int) : Option Modes :=
  (Intervals.ofSteps? steps).map (Table.insert modes (Text.lower name))

/-- The table with a mode added or replaced, or unchanged if the steps are no intervals. -/
def insert (modes : Modes) (name : Text) (steps : List Int) : Modes :=
  (insert? modes name steps).getD modes

/-- The intervals of a mode; case does not matter. -/
def get? (modes : Modes) (name : Text) : Option Intervals :=
  Table.get? modes (Text.lower name)

/-- The modes of a table of steps, added in the order of its names. -/
def ofTable (steps : Table (List Int)) : Modes :=
  steps.entries.foldl (fun modes (name, steps) => insert modes name steps) Table.empty

/-- The intervals of the major mode. -/
def major : Intervals := ⟨[0, 2, 4, 5, 7, 9, 11], by decide⟩

/-- The intervals of the minor mode. -/
def minor : Intervals := ⟨[0, 2, 3, 5, 7, 8, 10], by decide⟩

/-- The modes that are known from the start. -/
def builtin : Modes :=
  .ofList [
    ("major".toList, major),
    ("minor".toList, minor),
    ("ionian".toList, major),
    ("aeolian".toList, minor),
    ("dorian".toList, ⟨[0, 2, 3, 5, 7, 9, 10], by decide⟩),
    ("phrygian".toList, ⟨[0, 1, 3, 5, 7, 8, 10], by decide⟩),
    ("lydian".toList, ⟨[0, 2, 4, 6, 7, 9, 11], by decide⟩),
    ("mixolydian".toList, ⟨[0, 2, 4, 5, 7, 9, 10], by decide⟩),
    ("locrian".toList, ⟨[0, 1, 3, 5, 6, 8, 10], by decide⟩),
    ("pentatonic".toList, ⟨[0, 2, 4, 7, 9], by decide⟩),
    ("chromatic".toList, ⟨[0, 1, 2, 3, 4, 5, 6, 7, 8, 9, 10, 11], by decide⟩)]

/-- The root of a spec whose root is no note name. -/
def defaultRoot : Int := 60

/-- The mode of a spec without a mode. -/
def defaultMode : Text := "major".toList

/-- The mode that stands in for an unknown one. -/
def fallbackMode : Text := "minor".toList

/-- The intervals of a mode, of the fallback mode if it is unknown, or of the usual minor mode if
that is unknown too. -/
def intervals (modes : Modes) (mode : Text) : Intervals :=
  ((get? modes mode).or (get? modes fallbackMode)).getD minor

/-- The scale of a spec: a note name and, behind a colon, a mode. -/
def resolve (modes : Modes) (spec : Text) : Scale :=
  let (root, mode) := (Text.splitOnce? ':' spec).getD (spec, [])
  let mode := Text.trim mode
  ⟨(Note.number? (Text.trim root)).getD defaultRoot,
    intervals modes (if mode.isEmpty then defaultMode else mode)⟩

end Modes

end VoxelScore
