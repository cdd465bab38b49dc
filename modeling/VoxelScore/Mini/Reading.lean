import VoxelScore.Mini.Figure
import VoxelScore.Mini.Normal
import VoxelScore.Number.Numeral

/-!
# Reading pattern bodies

A body in normal form is a sequence of words and of groups in square brackets, each of which may
carry suffixes `*n` and `!n` that repeat it. Groups nest, and a group in a group adds its words to
the outer one. Nothing is an error: a closing bracket without an opening one is skipped, a group
that is not closed runs to the end, and a suffix without a usable count is an ordinary word.

The text is first cut into *marks*, then the marks are folded over the stack of open groups.

## Main definitions

* `Mark`, `marks` — the cut of a body.
* `Reader` — the figures read so far and the words of the open groups.
* `Mini.figures` — the figures of a body.
* `Mini.steps` — the steps of a body.
-/

namespace VoxelScore.Mini

/-! ## Suffixes -/

/-- The greatest count of one suffix; greater ones count as this. -/
def maxRepeat : Nat := 1024

/-- A character that makes digits behind it a suffix. -/
def isRepeatMark (c : Char) : Bool :=
  c = '*' || c = '!'

/-- The count that a run of digits writes. It has to fit in 64 bits to be a count at all. -/
def count? (digits : Text) : Option Nat :=
  let n := Numeral.digitsValue digits
  if digits.isEmpty || words64 ≤ n then none else some (min n maxRepeat)

/-- The counts of the suffixes that a text starts with, and the rest. -/
def splitSuffixes : Text → List Nat × Text
  | [] => ([], [])
  | c :: r =>
    match isRepeatMark c, count? (r.takeWhile Char.isDigit) with
    | true, some n =>
      let (counts, rest) := splitSuffixes (r.dropWhile Char.isDigit)
      (n :: counts, rest)
    | _, _ => ([], c :: r)
termination_by t => t.length
decreasing_by
  have := (List.dropWhile_sublist (l := r) Char.isDigit).length_le
  simp
  omega

theorem length_splitSuffixes (t : Text) : (splitSuffixes t).2.length ≤ t.length := by
  fun_induction splitSuffixes t with
  | case1 => simp
  | case2 c r _ n _ counts rest h ih =>
    have := (List.dropWhile_sublist (l := r) Char.isDigit).length_le
    simp_all
    omega
  | case3 => simp

/-- The word before the last suffix of a word, and the count of that suffix. -/
def splitRepeat? (word : Text) : Option (Text × Nat) :=
  let digits := (word.reverse.takeWhile Char.isDigit).reverse
  match word.reverse.dropWhile Char.isDigit with
  | c :: base => if isRepeatMark c then (count? digits).map (base.reverse, ·) else none
  | [] => none

theorem length_of_splitRepeat? {word base : Text} {n : Nat}
    (h : splitRepeat? word = some (base, n)) : base.length < word.length := by
  unfold splitRepeat? at h
  split at h
  · next c r hr =>
    have shorter := (List.dropWhile_sublist (l := word.reverse) Char.isDigit).length_le
    split at h
    · obtain ⟨m, -, he⟩ := Option.map_eq_some_iff.1 h
      obtain ⟨rfl, rfl⟩ := by simpa using he
      simp [hr] at shorter ⊢
      omega
    · simp at h
  · simp at h

/-- The word without its suffixes, and their counts, the innermost one first. -/
def peel (word : Text) : Text × List Nat :=
  match _h : splitRepeat? word with
  | some (base, n) =>
    let (core, counts) := peel base
    (core, counts ++ [n])
  | none => (word, [])
termination_by word.length
decreasing_by exact length_of_splitRepeat? _h

/-- A word that stands for silence outside groups: `~`, `.`, or nothing before a suffix. -/
def isRest (word : Text) : Bool :=
  word = [] || word = ['.'] || word = ['~']

/-- The figure of a word outside groups. -/
def wordFigure (word : Text) : Figure :=
  let (core, counts) := peel word
  (if isRest core then Figure.rest else .word core).repeated counts

/-- The figure of a word in a group, where rests are words like any other. -/
def stackedFigure (word : Text) : Figure :=
  let (core, counts) := peel word
  (Figure.word core).repeated counts

/-! ## Marks -/

/-- A part of a body. -/
inductive Mark where
  | word (text : Text)
  | opening
  /-- The end of a group and the counts of its suffixes. -/
  | closing (counts : List Nat)
  deriving DecidableEq, Repr

/-- A character of a word. -/
def isWordChar (c : Char) : Bool :=
  c ≠ ' ' && c ≠ '[' && c ≠ ']'

/-- The marks of a body inside so many open groups. Suffixes are read behind a bracket that closes
a group; a bracket that closes none is skipped. -/
def marksFrom (depth : Nat) (t : Text) : List Mark :=
  match t, depth with
  | [], _ => []
  | ' ' :: r, depth => marksFrom depth r
  | '[' :: r, depth => .opening :: marksFrom (depth + 1) r
  | ']' :: r, 0 => marksFrom 0 r
  | ']' :: r, depth + 1 =>
    .closing (splitSuffixes r).1 :: marksFrom depth (splitSuffixes r).2
  | c :: r, depth =>
    .word (c :: r.takeWhile isWordChar) :: marksFrom depth (r.dropWhile isWordChar)
termination_by t.length
decreasing_by
  all_goals simp
  · have := length_splitSuffixes r
    omega
  · have := (List.dropWhile_sublist (l := r) isWordChar).length_le
    omega

/-- The marks of a body in normal form. -/
def marks (t : Text) : List Mark :=
  marksFrom 0 t

/-! ## Reading -/

/-- The figures read so far, the latest first, and the words of the open groups, the innermost
group first. -/
structure Reader where
  figures : List Figure
  groups : List (List Text)
  deriving DecidableEq, Repr

namespace Reader

/-- Nothing read yet. -/
def start : Reader := ⟨[], []⟩

/-- Adds a figure to the body, or its words to the innermost open group. -/
def add (r : Reader) (outer inner : Figure) : Reader :=
  match r.groups with
  | [] => ⟨outer :: r.figures, []⟩
  | words :: groups => ⟨r.figures, (words ++ inner.stacked) :: groups⟩

/-- Closes the innermost group. A group without words is a rest outside groups. -/
def close (r : Reader) (counts : List Nat) : Reader :=
  match r.groups with
  | [] => r
  | words :: groups =>
    let group := (Figure.group words).repeated counts
    let outer := if words.isEmpty then Figure.rest.repeated counts else group
    add ⟨r.figures, groups⟩ outer group

/-- Reads a mark. -/
def read (r : Reader) : Mark → Reader
  | .word text => r.add (wordFigure text) (stackedFigure text)
  | .opening => ⟨r.figures, [] :: r.groups⟩
  | .closing counts => r.close counts

/-- Closes all open groups. -/
def finish (r : Reader) : List Figure :=
  (r.groups.foldl (fun r _ => r.close []) r).figures.reverse

end Reader

/-- The figures of a body. -/
def figures (body : Text) : List Figure :=
  ((marks (normalize body)).foldl Reader.read .start).finish

/-- The steps of a body in order. -/
def steps (body : Text) : List Step :=
  (figures body).flatMap Figure.steps

end VoxelScore.Mini
