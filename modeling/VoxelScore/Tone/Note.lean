import VoxelScore.Number.Numeral

/-!
# Note names

A note name is a letter from `a` to `g` in either case, an optional accidental, `#` or a small `b`,
and an optional octave, a whole number with an optional minus sign. Middle c is `c4`, the octave
that is assumed when none is written, and has the number 60; every semitone counts one.

## Main definitions

* `Note.number?` — the number of a note name.
-/

namespace VoxelScore.Note

/-- The semitones from c up to a letter. -/
def letter? (c : Char) : Option Int :=
  match c.toLower with
  | 'c' => some 0
  | 'd' => some 2
  | 'e' => some 4
  | 'f' => some 5
  | 'g' => some 7
  | 'a' => some 9
  | 'b' => some 11
  | _ => none

/-- The accidental that a text starts with, and the rest. -/
def splitAccidental : Text → Int × Text
  | '#' :: r => (1, r)
  | 'b' :: r => (-1, r)
  | r => (0, r)

/-- The octave of a name without one. -/
def defaultOctave : Int := 4

/-- A run of digits. -/
def digits? (t : Text) : Option Int :=
  if t.isEmpty || !t.all Char.isDigit then none else some (Numeral.digitsValue t)

/-- The octave that the whole text writes. -/
def octave? : Text → Option Int
  | [] => some defaultOctave
  | '-' :: r => (digits? r).map (-·)
  | r => digits? r

/-- A number of 32 signed bits. -/
def isInt32 (n : Int) : Bool :=
  int32Low ≤ n && n ≤ int32High

/-- The number of a note, from its octave and the semitones above the c of that octave. Both the
number and that of the c have to fit in 32 bits. -/
def atOctave? (octave semitones : Int) : Option Int :=
  let base := 12 * (octave + 1)
  if isInt32 base && isInt32 (base + semitones) then some (base + semitones) else none

/-- The number of the note that the whole text names. -/
def number? : Text → Option Int
  | [] => none
  | c :: r => do
    let base ← letter? c
    let (accidental, r) := splitAccidental r
    let octave ← octave? r
    atOctave? octave (base + accidental)

example : number? "c4".toList = some 60 ∧ number? "bb".toList = some 70 := by decide

example : number? "eb-1".toList = some 3 ∧ number? "h4".toList = none := by decide

end VoxelScore.Note
