import Mathlib
import VoxelScore.Proofs.Mini.Marks

/-!
# Bodies side by side

A reader has as many open groups as a plain count of brackets says, whatever else stands in the
text. Where no group is open, what has been read is complete: a reader that goes on adds figures
behind it and changes nothing in front. So two bodies with a space between them have the figures of
the first one and then those of the second, if the first one closes the groups that it opens. Neither
has to be well-formed otherwise.

## Main definitions

* `Reader.behind`: the reader that has read some figures already

## Main results

* `Reader.length_groups_foldl_read`: the open groups of a reader are those that brackets count
* `Reader.foldl_read_behind`: figures read before do not matter
* `figures_steps_juxtaposed`: the figures and the steps of two bodies side by side
-/

namespace VoxelScore.Mini

namespace Reader

variable (r : Reader)

/-! ## Open groups -/

theorem length_groups_add (outer inner : Figure) :
    (r.add outer inner).groups.length = r.groups.length := by
  rcases r with ⟨figures, _ | ⟨words, groups⟩⟩
  · rfl
  · rfl

theorem length_groups_close (counts : List ℕ) :
    (r.close counts).groups.length = r.groups.length - 1 := by
  rcases r with ⟨figures, _ | ⟨words, groups⟩⟩
  · rfl
  · exact length_groups_add ⟨figures, groups⟩ _ _

/-- **A reader has as many open groups as brackets count**, in any text. -/
theorem length_groups_foldl_read {d : ℕ} (hd : r.groups.length = d) (t : Text) :
    ((marksFrom d t).foldl read r).groups.length = depthAfter d t := by
  -- Only brackets open and close; the suffixes and words that a mark takes in have none.
  induction d, t using marks_induction generalizing r with
  | nil d =>
    rw [marksFrom_nil]
    exact hd
  | space d t ih =>
    rw [marksFrom_space, ih r hd]
    rfl
  | opening d t ih =>
    rw [marksFrom_opening, List.foldl_cons, ih _ (congrArg (· + 1) hd)]
    rfl
  | stray t ih =>
    rw [marksFrom_stray, ih r hd]
    rfl
  | closing d t ih =>
    have closed : (r.read (.closing (splitSuffixes t).1)).groups.length = d := by
      rw [read, length_groups_close, hd, Nat.add_sub_cancel]
    rw [marksFrom_closing, List.foldl_cons, ih _ closed, depthAfter_splitSuffixes]
    rfl
  | word d w t hne hw ht ih =>
    have kept : (r.read (.word w)).groups.length = d := by
      rw [read, length_groups_add, hd]
    rw [marksFrom_word_append hw hne ht, List.foldl_cons, ih _ kept, depthAfter_word hw]

/-- Closing a group at the end is what the end does anyway. -/
theorem finish_close : (r.close []).finish = r.finish := by
  have closes : ∀ r : Reader,
      r.finish = ((fun r => close r [])^[r.groups.length] r).figures.reverse := by
    intro r
    rw [finish, List.foldl_const]
  rw [closes, closes r, length_groups_close]
  rcases r with ⟨figures, _ | ⟨words, groups⟩⟩
  · rfl
  · rfl

/-- **Induction on open groups**, closed one by one. -/
theorem closing_induction {P : Reader → Prop} (closed : ∀ figures, P ⟨figures, []⟩)
    (closing : ∀ r : Reader, P (r.close []) → P r) (r : Reader) : P r := by
  induction h : r.groups.length generalizing r with
  | zero =>
    rcases r with ⟨figures, groups⟩
    obtain rfl : groups = [] := List.length_eq_zero_iff.mp h
    exact closed figures
  | succ n ih =>
    refine closing r (ih (r.close []) ?_)
    rw [length_groups_close, h, Nat.add_sub_cancel]

/-! ## Figures read before -/

/-- The reader, with figures read before it started. -/
def behind (fs : List Figure) : Reader := ⟨r.figures ++ fs, r.groups⟩

variable (fs : List Figure)

theorem add_behind (outer inner : Figure) :
    (r.behind fs).add outer inner = (r.add outer inner).behind fs := by
  rcases r with ⟨figures, _ | ⟨words, groups⟩⟩
  · rfl
  · rfl

theorem close_behind (counts : List ℕ) :
    (r.behind fs).close counts = (r.close counts).behind fs := by
  rcases r with ⟨figures, _ | ⟨words, groups⟩⟩
  · rfl
  · exact add_behind ⟨figures, groups⟩ fs _ _

theorem read_behind (mark : Mark) : (r.behind fs).read mark = (r.read mark).behind fs := by
  cases mark with
  | word text => exact r.add_behind fs _ _
  | opening => rfl
  | closing counts => exact r.close_behind fs counts

/-- **Figures read before do not matter** for what a reader adds. -/
theorem foldl_read_behind (marks : List Mark) :
    marks.foldl read (r.behind fs) = (marks.foldl read r).behind fs := by
  induction marks generalizing r with
  | nil => rfl
  | cons mark marks ih => rw [List.foldl_cons, List.foldl_cons, read_behind, ih]

/-- Closing open groups adds figures behind those read before. -/
theorem finish_behind : (r.behind fs).finish = fs.reverse ++ r.finish := by
  induction r using closing_induction with
  | closed figures => exact List.reverse_append
  | closing r ih => rw [← finish_close, close_behind, ih, finish_close]

end Reader

variable {a : Text}

/-- Where the brackets of a body leave no group open, a space cuts the body off. -/
theorem marks_normalize_append (closed : depthAfter 0 a = 0) (b : Text) :
    marks (normalize (a ++ ' ' :: b)) = marks (normalize a) ++ marks (normalize b) := by
  rw [marks_normalize_clean, marks_normalize_clean, marks_normalize_clean,
    clean_append_separator rfl, marks, marksFrom_append _ (Text.stopsRun_cons rfl),
    depthAfter_clean, closed, marksFrom_space]
  rfl

/-- Behind such a body, a reader has nothing but figures that are complete. -/
theorem exists_foldl_read_eq_behind (closed : depthAfter 0 a = 0) :
    ∃ fs, (marks (normalize a)).foldl Reader.read .start = Reader.start.behind fs := by
  have count := Reader.start.length_groups_foldl_read (d := 0) rfl (clean false a)
  rw [depthAfter_clean, closed, List.length_eq_zero_iff] at count
  rw [marks_normalize_clean, marks]
  -- A reader without open groups is what its figures make of the start.
  generalize (marksFrom 0 (clean false a)).foldl Reader.read .start = r at count
  rcases r with ⟨fs, groups⟩
  obtain rfl : groups = [] := count
  exact ⟨fs, rfl⟩

/-- **Bodies side by side.** If the brackets of a body leave no group open, then the body and another
one behind a space have the figures and the steps of both, whatever else stands in them. -/
theorem figures_steps_juxtaposed (closed : depthAfter 0 a = 0) (b : Text) :
    figures (a ++ ' ' :: b) = figures a ++ figures b ∧
      steps (a ++ ' ' :: b) = steps a ++ steps b := by
  obtain ⟨fs, hfs⟩ := exists_foldl_read_eq_behind closed
  have first : figures a = fs.reverse := by
    rw [figures, hfs, Reader.finish_behind]
    exact List.append_nil _
  have figures_eq : figures (a ++ ' ' :: b) = figures a ++ figures b := by
    rw [first, figures, marks_normalize_append closed, List.foldl_append, hfs,
      Reader.foldl_read_behind, Reader.finish_behind]
    rfl
  refine ⟨figures_eq, ?_⟩
  rw [steps, figures_eq, List.flatMap_append]
  rfl

/-- Stray brackets, at signs and a dangling suffix in the first body, open groups in the second one. -/
theorem figures_steps_juxtaposed_malformed :
    depthAfter 0 "]@@3@ [a,<b]*2]!2*".toList = 0 ∧
      figures ("]@@3@ [a,<b]*2]!2*".toList ++ ' ' :: "*2 c] [d [e".toList) =
        [.word ['@', '@'], .times (.group [['a'], ['b']]) 2, .word ['!', '2', '*'],
          .times .rest 2, .word ['c'], .group [['d'], ['e']]] ∧
      steps ("]@@3@ [a,<b]*2]!2*".toList ++ ' ' :: "*2 c] [d [e".toList) =
        [[['@', '@']], [['a'], ['b']], [['a'], ['b']], [['!', '2', '*']],
          [], [], [['c']], [['d'], ['e']]] := by
  have closed : depthAfter 0 "]@@3@ [a,<b]*2]!2*".toList = 0 := by decide
  have first : figures "]@@3@ [a,<b]*2]!2*".toList =
      [.word ['@', '@'], .times (.group [['a'], ['b']]) 2, .word ['!', '2', '*']] := by cbv
  have second : figures "*2 c] [d [e".toList =
      [.times .rest 2, .word ['c'], .group [['d'], ['e']]] := by cbv
  obtain ⟨figures_eq, steps_eq⟩ := figures_steps_juxtaposed closed "*2 c] [d [e".toList
  refine ⟨closed, ?_, ?_⟩
  · rw [figures_eq, first, second]
    rfl
  · rw [steps_eq, steps, steps, first, second]
    rfl

end VoxelScore.Mini
