import VoxelScore.Text

/-!
# Figures and steps

A pattern body is a list of *figures*: rests, words, groups of words that sound together, and
repetitions. Figures expand into *steps*, the slots of a cycle, each with the words that sound in
it.

## Main definitions

* `Figure`, `Step` — the two forms.
* `Figure.steps` — the steps of a figure.
* `Figure.stacked` — the words of a figure inside a group.
-/

namespace VoxelScore.Mini

/-- A unit of a pattern body. -/
inductive Figure where
  | rest
  | word (text : Text)
  /-- Words that sound together. -/
  | group (words : List Text)
  /-- Consecutive copies of a figure. -/
  | times (figure : Figure) (count : Nat)
  deriving DecidableEq, Repr

/-- The words that sound in one slot; none in a rest. -/
abbrev Step := List Text

namespace Figure

/-- The steps of a figure in order. -/
def steps : Figure → List Step
  | rest => [[]]
  | word text => [[text]]
  | group words => [words]
  | times figure count => (List.replicate count figure.steps).flatten

/-- The words that a figure adds to the group that it stands in. -/
def stacked : Figure → List Text
  | rest => []
  | word text => [text]
  | group words => words
  | times figure count => (List.replicate count figure.stacked).flatten

/-- The figure under suffixes, the first one innermost. -/
def repeated (figure : Figure) (counts : List Nat) : Figure :=
  counts.foldl times figure

end Figure

end VoxelScore.Mini
