import VoxelScore.Proofs.Mini.Marks
import VoxelScore.Proofs.Mini.Notation

/-!
# Reading what trees write

A reader that passes over a body which writes a list of trees adds just what the trees stand for:
their leaves when a group is open, their figures when none is. Suffixes behind a word and behind a
bracket are found by different scanners, which agree here.

## Main definitions

* `Reader.addTree`: the reader behind a tree

## Main results

* `steps_figure`: the steps of a tree are those of its figure
* `foldl_read_written`: the reader behind written trees
* `figures_steps_of_written`: the figures and the steps of a body
-/

namespace VoxelScore.Mini

variable {t u : Text} {ts : List Tree} {w : Text}

/-! ## Repetition -/

theorem flatten_replicate_mul {α : Type} (m n : ℕ) (xs : List α) :
    (List.replicate m (List.replicate n xs).flatten).flatten =
      (List.replicate (n * m) xs).flatten := by
  induction m with
  | zero => rfl
  | succ m ih =>
    rw [List.replicate_succ, List.flatten_cons, ih, Nat.mul_succ, Nat.add_comm,
      List.replicate_add, List.flatten_append]

theorem repeated_eq_under (f : Figure) (ss : List Suffix) :
    f.repeated (ss.map Suffix.value) = under f ss := by
  induction ss generalizing f with
  | nil => rfl
  | cons s ss ih => exact ih (.times f s.value)

/-- Suffixes repeat the steps of a figure as often as their counts say together. -/
theorem steps_under (f : Figure) (ss : List Suffix) :
    (under f ss).steps = (List.replicate (copies ss) f.steps).flatten := by
  induction ss generalizing f with
  | nil => simp [under, copies]
  | cons s ss ih =>
    rw [under, ih, Figure.steps, flatten_replicate_mul]
    rfl

/-- Suffixes repeat the words of a figure as often as their counts say together. -/
theorem stacked_under (f : Figure) (ss : List Suffix) :
    (under f ss).stacked = (List.replicate (copies ss) f.stacked).flatten := by
  induction ss generalizing f with
  | nil => simp [under, copies]
  | cons s ss ih =>
    rw [under, ih, Figure.stacked, flatten_replicate_mul]
    rfl

/-- **The steps of a tree are those of its figure.** -/
theorem steps_figure (tree : Tree) : tree.figure.steps = tree.steps := by
  cases tree with
  | word w ss =>
    rw [Tree.figure, steps_under, Figure.steps, List.flatten_replicate_singleton, Tree.steps]
  | rest m ss =>
    rw [Tree.figure, steps_under, Figure.steps, List.flatten_replicate_singleton, Tree.steps]
  | group ts ss =>
    rw [Tree.figure, steps_under, Tree.steps]
    -- A group without words takes the empty step of a rest.
    split
    · next h => rw [Figure.steps, List.flatten_replicate_singleton, h]
    · rw [Figure.steps, List.flatten_replicate_singleton]

/-! ## Words -/

theorem wordFigure_append (h : splitRepeat? w = none) (ss : List Suffix) :
    wordFigure (w ++ suffixText ss) = under (if isRest w then .rest else .word w) ss := by
  rw [wordFigure, peel_append_suffixText h]
  exact repeated_eq_under _ ss

theorem stackedFigure_append (h : splitRepeat? w = none) (ss : List Suffix) :
    stackedFigure (w ++ suffixText ss) = under (.word w) ss := by
  rw [stackedFigure, peel_append_suffixText h]
  exact repeated_eq_under _ ss

theorem stacked_stackedFigure (h : splitRepeat? w = none) (ss : List Suffix) :
    (stackedFigure (w ++ suffixText ss)).stacked = List.replicate (copies ss) w := by
  rw [stackedFigure_append h, stacked_under, Figure.stacked, List.flatten_replicate_singleton]

theorem Word.splitRepeat?_text (w : Word) : splitRepeat? w.text = none :=
  splitRepeat?_eq_none w.not_endsInRepeat

theorem RestMark.splitRepeat?_text (m : RestMark) : splitRepeat? m.text = none := by
  cases m <;> rfl

theorem Word.isRest_text (w : Word) : isRest w.text = false := by
  have tilde := w.ne_restMark .tilde
  have dot := w.ne_restMark .dot
  simp [isRest, w.text_ne_nil, show w.text ≠ ['.'] from dot, show w.text ≠ ['~'] from tilde]

theorem RestMark.isRest_text (m : RestMark) : isRest m.text = true := by
  cases m <;> rfl

/-! ## Steps of the reader -/

/-- The reader behind a tree. -/
def Reader.addTree (r : Reader) (tree : Tree) : Reader :=
  match r.groups with
  | [] => ⟨tree.figure :: r.figures, []⟩
  | words :: groups => ⟨r.figures, (words ++ tree.leaves) :: groups⟩

namespace Reader

theorem length_groups_addTree (r : Reader) (tree : Tree) :
    (r.addTree tree).groups.length = r.groups.length := by
  unfold addTree
  split
  · next h => rw [h]
  · next h => rw [h]; rfl

/-- Trees outside groups add their figures. -/
theorem foldl_addTree_outside (figures : List Figure) (ts : List Tree) :
    ts.foldl addTree ⟨figures, []⟩ = ⟨(ts.map Tree.figure).reverse ++ figures, []⟩ := by
  induction ts generalizing figures with
  | nil => rfl
  | cons t ts ih =>
    rw [List.foldl_cons, addTree, ih, List.map_cons, List.reverse_cons, List.append_assoc]
    rfl

/-- Trees in a group add their leaves to it. -/
theorem foldl_addTree_inside (figures : List Figure) (words : List Text)
    (groups : List (List Text)) (ts : List Tree) :
    ts.foldl addTree ⟨figures, words :: groups⟩ = ⟨figures, (words ++ leavesOf ts) :: groups⟩ := by
  induction ts generalizing words with
  | nil => rw [List.foldl_nil, leavesOf, List.append_nil]
  | cons t ts ih =>
    rw [List.foldl_cons, addTree, ih, leavesOf, List.append_assoc]

/-- The two figures of a unit, outside groups and in them, are all that a reader adds. -/
theorem add_eq_addTree (r : Reader) {outer inner : Figure} {tree : Tree}
    (ho : outer = tree.figure) (hi : inner.stacked = tree.leaves) :
    r.add outer inner = r.addTree tree := by
  rcases r with ⟨figures, _ | ⟨words, groups⟩⟩
  · show Reader.mk (outer :: figures) [] = ⟨tree.figure :: figures, []⟩
    rw [ho]
  · show Reader.mk figures ((words ++ inner.stacked) :: groups) =
      ⟨figures, (words ++ tree.leaves) :: groups⟩
    rw [hi]

theorem read_suffixed (r : Reader) (h : splitRepeat? w = none) {ss : List Suffix} {tree : Tree}
    (hf : under (if isRest w then .rest else .word w) ss = tree.figure)
    (hl : List.replicate (copies ss) w = tree.leaves) :
    r.read (.word (w ++ suffixText ss)) = r.addTree tree := by
  refine r.add_eq_addTree ?_ ?_
  · rw [wordFigure_append h, hf]
  · rw [stacked_stackedFigure h, hl]

theorem read_word (r : Reader) (w : Word) (ss : List Suffix) :
    r.read (.word (w.text ++ suffixText ss)) = r.addTree (.word w ss) := by
  refine r.read_suffixed w.splitRepeat?_text ?_ ?_
  · rw [w.isRest_text]
    rfl
  · rw [Tree.leaves]

theorem read_rest (r : Reader) (m : RestMark) (ss : List Suffix) :
    r.read (.word (m.text ++ suffixText ss)) = r.addTree (.rest m ss) := by
  refine r.read_suffixed m.splitRepeat?_text ?_ ?_
  · rw [m.isRest_text]
    rfl
  · rw [Tree.leaves]

/-- A group is read when its closing bracket is. -/
theorem read_closing (r : Reader) (ts : List Tree) (ss : List Suffix) :
    Reader.read ⟨r.figures, leavesOf ts :: r.groups⟩ (.closing (ss.map Suffix.value)) =
      r.addTree (.group ts ss) := by
  refine r.add_eq_addTree ?_ ?_
  · simp only [repeated_eq_under, List.isEmpty_iff, Tree.figure]
    split <;> rfl
  · rw [repeated_eq_under, stacked_under, Figure.stacked, Tree.leaves]

end Reader

/-! ## Runs of the reader -/

theorem IsSpaced.append (h : IsSpaced t) (hu : Text.StopsRun isWordChar u) :
    Text.StopsRun isWordChar (t ++ u) := by
  refine Text.StopsRun.append (fun c hc => ?_) hu
  rw [h c hc]
  rfl

/-- A word with its suffixes is one mark. -/
theorem marksFrom_suffixed (hw : ∀ c ∈ w, isWordChar c) (hne : w ≠ [])
    (ht : Text.StopsRun isWordChar t) (ss : List Suffix) (d : ℕ) :
    marksFrom d (w ++ suffixText ss ++ t) = .word (w ++ suffixText ss) :: marksFrom d t := by
  refine marksFrom_word_append (fun c hc => ?_) (by simp [hne]) ht d
  rcases List.mem_append.mp hc with hc | hc
  · exact hw c hc
  · exact (isPlain_of_mem_suffixText hc).isWordChar

/-- A reader that passes over a word with its suffixes adds the tree that the word is. -/
theorem foldl_read_suffixed (r : Reader) {ss : List Suffix} {tree : Tree}
    (hw : ∀ c ∈ w, isWordChar c) (hne : w ≠ []) (ht : Text.StopsRun isWordChar t)
    (hr : r.read (.word (w ++ suffixText ss)) = r.addTree tree) (n : ℕ) :
    (marksFrom r.groups.length (List.replicate n ' ' ++ (w ++ suffixText ss ++ t))).foldl
        Reader.read r =
      (marksFrom (r.addTree tree).groups.length t).foldl Reader.read (r.addTree tree) := by
  rw [marksFrom_spaces, marksFrom_suffixed hw hne ht, List.foldl_cons, hr,
    r.length_groups_addTree tree]

/-- **A reader that passes over written trees adds the trees**, whichever groups are open. -/
theorem foldl_read_written (h : Written ts t) (hu : Text.StopsRun isWordChar u) (r : Reader) :
    (marksFrom r.groups.length (t ++ u)).foldl Reader.read r =
      (marksFrom r.groups.length u).foldl Reader.read (ts.foldl Reader.addTree r) := by
  -- Induction on how the trees are written: a group has its items and the later trees to offer.
  induction h generalizing u r with
  | nil n => rw [marksFrom_spaces, List.foldl_nil]
  | @word n w ss ts t later spaced ih =>
    have plain : ∀ c ∈ w.text, isWordChar c := fun c hc => (w.plain c hc).isWordChar
    rw [List.append_assoc, List.append_assoc, foldl_read_suffixed r plain w.text_ne_nil
      (spaced.append hu) (r.read_word w ss), ih hu, r.length_groups_addTree, List.foldl_cons]
  | @rest n m ss ts t later spaced ih =>
    have plain : ∀ c ∈ m.text, isWordChar c := fun c hc => (m.plain c hc).isWordChar
    have hne : m.text ≠ [] := by cases m <;> decide
    rw [List.append_assoc, List.append_assoc, foldl_read_suffixed r plain hne
      (spaced.append hu) (r.read_rest m ss), ih hu, r.length_groups_addTree, List.foldl_cons]
  | @group n items s ss ts t inner later spaced ihi ihl =>
    obtain ⟨hd, hm⟩ := stopsRun_of_stops_wordChar (spaced.append hu)
    have closes : ∀ v, Text.StopsRun isWordChar (']' :: v) := fun _ => Text.stopsRun_cons rfl
    -- The items are read with one more group open, which the bracket behind them closes.
    have items_read := ihi (closes (suffixText ss ++ (t ++ u))) ⟨r.figures, [] :: r.groups⟩
    rw [Reader.foldl_addTree_inside, List.nil_append] at items_read
    have bracket : List.replicate n ' ' ++ ('[' :: s ++ (']' :: suffixText ss ++ t)) ++ u =
        List.replicate n ' ' ++ '[' :: (s ++ ']' :: (suffixText ss ++ (t ++ u))) := by simp
    -- The opening bracket opens the group ...
    rw [bracket, marksFrom_spaces, marksFrom_opening, List.foldl_cons]
    refine items_read.trans ?_
    -- ... and the closing one adds it, with the suffixes that are read forward.
    rw [List.length_cons, marksFrom_closing, splitSuffixes_suffixText ss hd hm, List.foldl_cons,
      r.read_closing, ← r.length_groups_addTree (.group items ss), ihl hu, List.foldl_cons]

/-! ## Exactness -/

/-- **The reader is exact on mini-notation.** A body that writes a list of trees is read as the
figures of the trees, and expands into their steps. -/
theorem figures_steps_of_written (h : Written ts t) :
    figures t = ts.map Tree.figure ∧ steps t = ts.flatMap Tree.steps := by
  have read : (marks (normalize t)).foldl Reader.read .start =
      ⟨(ts.map Tree.figure).reverse, []⟩ := by
    have run := foldl_read_written h Text.stopsRun_nil .start
    rw [List.append_nil] at run
    rw [marks_normalize h.isTidy, marks]
    refine run.trans ?_
    rw [marksFrom_nil, List.foldl_nil, Reader.start, Reader.foldl_addTree_outside,
      List.append_nil]
  have figures_eq : figures t = ts.map Tree.figure := by
    rw [figures, read, Reader.finish, List.foldl_nil, List.reverse_reverse]
  refine ⟨figures_eq, ?_⟩
  rw [steps, figures_eq, List.flatMap_map]
  simp only [steps_figure]

theorem figures_steps_of_nested :
    ∃ ts, Written ts " [ a [ b ~*2]!3]*2 c*1025!0".toList ∧
      figures " [ a [ b ~*2]!3]*2 c*1025!0".toList =
        [.times (.group (["a", "b", "~", "~", "b", "~", "~", "b", "~", "~"].map String.toList)) 2,
          .times (.times (.word "c".toList) 1024) 0] ∧
      steps " [ a [ b ~*2]!3]*2 c*1025!0".toList =
        List.replicate 2
          (["a", "b", "~", "~", "b", "~", "~", "b", "~", "~"].map String.toList) := by
  let a := Word.ofChar 'a' (by decide) rfl (by rintro (_ | _) <;> decide)
  let b := Word.ofChar 'b' (by decide) rfl (by rintro (_ | _) <;> decide)
  let c := Word.ofChar 'c' (by decide) rfl (by rintro (_ | _) <;> decide)
  let ts : List Tree :=
    [.group [.word a [], .group [.word b [], .rest .tilde [⟨.star, 0, 2, by decide⟩]]
      [⟨.bang, 0, 3, by decide⟩]] [⟨.star, 0, 2, by decide⟩],
     .word c [⟨.star, 0, 1025, by decide⟩, ⟨.bang, 0, 0, by decide⟩]]
  have text : textOf ts = " [ a [ b ~*2]!3]*2 c*1025!0".toList := by rfl
  have h : Written ts " [ a [ b ~*2]!3]*2 c*1025!0".toList := text ▸ written_textOf ts
  obtain ⟨hf, hs⟩ := figures_steps_of_written h
  exact ⟨ts, h, hf, hs⟩

end VoxelScore.Mini
