import VoxelScore.Text.Blank
import VoxelScore.Text.Letter

/-!
# Normal form of pattern bodies

Before a body is read, marks that do not matter here are removed: commas and angle brackets count
as blanks, a weight such as `@2` is dropped, and blanks collapse to single spaces.

## Main definitions

* `Mini.normalize` — the normal form of a body.
-/

namespace VoxelScore.Mini

/-- A character of a weight. -/
def isWeightChar (c : Char) : Bool :=
  Text.isAlphanumeric c || c = '_' || c = '.'

/-- Commas, angle brackets and blanks separate words. -/
def isSeparator (c : Char) : Bool :=
  c = ',' || c = '<' || c = '>' || Text.isBlank c

/-- The body with a space for every separator and without weights: an at sign before a weight
character is dropped together with the run of weight characters after it. The flag tells whether
such a run is being dropped. -/
def clean : Bool → Text → Text
  | _, [] => []
  | dropping, c :: r =>
    if dropping && isWeightChar c then clean true r
    else if c = '@' && r.head?.any isWeightChar then clean true r
    else (if isSeparator c then ' ' else c) :: clean false r

/-- The normal form of a body: words without separators and weights, one space between
neighbours. -/
def normalize (body : Text) : Text :=
  Text.squeeze (clean false body)

example : normalize " bd@2,, <sd hh>\n@ x@@1".toList = "bd sd hh @ x@".toList := by rfl

end VoxelScore.Mini
