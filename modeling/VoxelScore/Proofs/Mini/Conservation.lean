import VoxelScore.Proofs.Mini.Exactness
import VoxelScore.Proofs.Mini.Juxtaposition

/-!
# Words are kept

Without suffixes, a body is read word by word: every word turns up in the steps, once and in its
place, except for rests outside groups, and every word and every group outside groups is one step.
This does not need well-formed brackets. A group that another one takes in hands its words over, a
group that runs to the end hands them over at the end, and neither makes a step of its own in a
group.

## Main definitions

* `runs`: the words of a body, at the depths at which they stand
* `Run.sounds`: the words that are no rests outside groups
* `Reader.words`, `Reader.size`: what a reader has so far
* `Reader.Adds`: the words and the steps that a reader comes by

## Main results

* `Reader.adds_foldl_read`: what a reader comes by in any text without suffixes
* `flatten_steps_conserved`: the words in the steps of a body, and the number of the steps
-/

namespace VoxelScore.Mini

variable {c : Char} {t w : Text}

/-! ## Words at their depths -/

/-- The characters of a body, each with the number of groups that are open in front of it. -/
def withDepth : ℕ → Text → List (Char × ℕ)
  | _, [] => []
  | d, c :: t => (c, d) :: withDepth (depthAfter d [c]) t

/-- A space or a bracket, at any depth. -/
def isGap (x : Char × ℕ) : Bool := !isWordChar x.1

/-- A word of a body, with the depths of its characters. -/
abbrev Run := List (Char × ℕ)

/-- The maximal runs of characters other than spaces and brackets, in order. -/
def runs (depth : ℕ) (t : Text) : List Run :=
  ((withDepth depth t).splitOnP isGap).filter (!·.isEmpty)

namespace Run

/-- The run without the depths. -/
def text (run : Run) : Text := run.map Prod.fst

/-- The run stands outside groups. -/
def isOuter (run : Run) : Bool := run.all (·.2 = 0)

/-- The run is no rest, or it stands in a group, where rests are words like any other. -/
def sounds (run : Run) : Bool := !(run.isOuter && (run.text = ['.'] || run.text = ['~']))

end Run

/-- The texts of the runs that sound. -/
def soundingWords (depth : ℕ) (t : Text) : List Text :=
  ((runs depth t).filter Run.sounds).map Run.text

/-- The runs outside groups, and the brackets that open a group there. -/
def outerCount (depth : ℕ) (t : Text) : ℕ :=
  (runs depth t).countP Run.isOuter + (withDepth depth t).count ('[', 0)

theorem withDepth_append (d : ℕ) (s t : Text) :
    withDepth d (s ++ t) = withDepth d s ++ withDepth (depthAfter d s) t := by
  induction s generalizing d with
  | nil => rfl
  | cons c s ih =>
    rw [List.cons_append, withDepth, ih, withDepth]
    rfl

/-- All of a word stands at one depth. -/
theorem withDepth_word (hw : ∀ c ∈ w, isWordChar c) (d : ℕ) : withDepth d w = w.map (·, d) := by
  induction w with
  | nil => rfl
  | cons c w ih =>
    obtain ⟨hc, hw⟩ := List.forall_mem_cons.mp hw
    have same : depthAfter d [c] = d :=
      depthAfter_cons (isWordChar_iff.mp hc).2.1 (isWordChar_iff.mp hc).2.2 d []
    rw [withDepth, same, ih hw]
    rfl

@[simp] theorem runs_nil (d : ℕ) : runs d [] = [] := rfl

/-- A space or a bracket belongs to no run, and separates those around it. -/
theorem runs_append_cons (hc : isWordChar c = false) (d : ℕ) (s t : Text) :
    runs d (s ++ c :: t) = runs d s ++ runs (depthAfter d (s ++ [c])) t := by
  have gap : isGap (c, depthAfter d s) = true := by rw [isGap, hc]; rfl
  have behind : depthAfter d (s ++ [c]) = depthAfter (depthAfter d s) [c] := List.foldl_append
  rw [runs, withDepth_append, withDepth, List.splitOnP_append_cons _ _ gap, List.filter_append,
    behind]
  rfl

theorem runs_cons (hc : isWordChar c = false) (d : ℕ) (t : Text) :
    runs d (c :: t) = runs (depthAfter d [c]) t := runs_append_cons hc d [] t

theorem runs_word (hw : ∀ c ∈ w, isWordChar c) (hne : w ≠ []) (d : ℕ) :
    runs d w = [w.map (·, d)] := by
  have whole : ∀ x ∈ w.map (·, d), isGap x = false := by
    intro x hx
    obtain ⟨c, hc, rfl⟩ := List.mem_map.mp hx
    rw [isGap, hw c hc]
    rfl
  rw [runs, withDepth_word hw, List.splitOnP_eq_singleton whole]
  exact List.filter_cons_of_pos (by simpa using hne)

/-- A word up to the next space or bracket is a run. -/
theorem runs_word_append (hw : ∀ c ∈ w, isWordChar c) (hne : w ≠ [])
    (ht : Text.StopsRun isWordChar t) (d : ℕ) : runs d (w ++ t) = w.map (·, d) :: runs d t := by
  cases t with
  | nil => rw [List.append_nil, runs_word hw hne, runs_nil]
  | cons c t =>
    -- the first character behind the word is a gap, which belongs to no run
    have hc : isWordChar c = false := ht c rfl
    rw [runs_append_cons hc, runs_word hw hne, depthAfter_word hw, runs_cons hc]
    rfl

theorem Run.text_word (w : Text) (d : ℕ) : Run.text (w.map (·, d)) = w := by
  rw [Run.text, List.map_map]
  exact List.map_id w

theorem Run.isOuter_word (hne : w ≠ []) (d : ℕ) : Run.isOuter (w.map (·, d)) = decide (d = 0) := by
  rw [Run.isOuter, Bool.eq_iff_iff, List.all_eq_true, decide_eq_true_eq]
  constructor
  · intro h
    obtain ⟨c, hc⟩ := List.exists_mem_of_ne_nil w hne
    exact of_decide_eq_true (h (c, d) (List.mem_map_of_mem hc))
  · rintro rfl x hx
    obtain ⟨c, -, rfl⟩ := List.mem_map.mp hx
    rfl

theorem Run.sounds_word (hne : w ≠ []) (d : ℕ) :
    Run.sounds (w.map (·, d)) = !decide (d = 0 ∧ isRest w) := by
  rw [Run.sounds, Run.isOuter_word hne, Run.text_word]
  simp [isRest, hne]

theorem soundingWords_cons (hc : isWordChar c = false) (d : ℕ) (t : Text) :
    soundingWords d (c :: t) = soundingWords (depthAfter d [c]) t := by
  rw [soundingWords, runs_cons hc, soundingWords]

theorem soundingWords_word_append (hw : ∀ c ∈ w, isWordChar c) (hne : w ≠ [])
    (ht : Text.StopsRun isWordChar t) (d : ℕ) :
    soundingWords d (w ++ t) =
      (if d = 0 ∧ isRest w then [] else [w]) ++ soundingWords d t := by
  rw [soundingWords, runs_word_append hw hne ht, List.filter_cons, Run.sounds_word hne]
  by_cases h : d = 0 ∧ isRest w
  · rw [if_pos h, decide_eq_true h]
    rfl
  · rw [if_neg h, decide_eq_false h]
    exact congrArg (· :: soundingWords d t) (Run.text_word w d)

theorem outerCount_cons (hc : isWordChar c = false) (d : ℕ) (t : Text) :
    outerCount d (c :: t) =
      (if c = '[' ∧ d = 0 then 1 else 0) + outerCount (depthAfter d [c]) t := by
  rw [outerCount, runs_cons hc, withDepth, List.count_cons, outerCount, ← Nat.add_assoc, Nat.add_comm]
  simp

theorem outerCount_word_append (hw : ∀ c ∈ w, isWordChar c) (hne : w ≠ [])
    (ht : Text.StopsRun isWordChar t) (d : ℕ) :
    outerCount d (w ++ t) = (if d = 0 then 1 else 0) + outerCount d t := by
  have unopened : (w.map (·, d)).count ('[', 0) = 0 := by
    refine List.count_eq_zero.mpr fun h => ?_
    obtain ⟨c, hc, he⟩ := List.mem_map.mp h
    obtain ⟨rfl, -⟩ := Prod.mk.inj he
    exact (isWordChar_iff.mp (hw _ hc)).2.1 rfl
  have same : depthAfter d w = d := by simpa using depthAfter_word hw d []
  rw [outerCount, runs_word_append hw hne ht, withDepth_append, withDepth_word hw, List.count_append,
    unopened, same, List.countP_cons, Run.isOuter_word hne, outerCount]
  simp only [decide_eq_true_eq]
  omega

/-! ## What a reader has -/

namespace Reader

variable (r : Reader)

/-- The words read so far, in order: those of the figures, then those of the open groups. -/
def words : List Text := (r.figures.reverse.flatMap Figure.steps).flatten ++ r.groups.reverse.flatten

/-- The steps read so far. The open groups are one step, whatever they will hold. -/
def size : ℕ := (r.figures.reverse.flatMap Figure.steps).length + if r.groups = [] then 0 else 1

/-- The second reader has these words and so many steps more than the first one. -/
structure Adds (r s : Reader) (added : List Text) (count : ℕ) : Prop where
  words : s.words = r.words ++ added
  size : s.size = r.size + count

variable {r} {s u : Reader} {added more : List Text} {m n : ℕ}

theorem Adds.refl (r : Reader) : r.Adds r [] 0 := ⟨(List.append_nil _).symm, rfl⟩

theorem Adds.trans (h : r.Adds s added m) (h' : s.Adds u more n) :
    r.Adds u (added ++ more) (m + n) where
  words := by rw [h'.words, h.words, List.append_assoc]
  size := by rw [h'.size, h.size, Nat.add_assoc]

theorem adds_outside (figures : List Figure) (outer inner : Figure) :
    Adds ⟨figures, []⟩ (add ⟨figures, []⟩ outer inner) outer.steps.flatten outer.steps.length := by
  constructor
  · simp [Reader.words, add]
  · simp [Reader.size, add]

theorem adds_inside (figures : List Figure) (group : List Text) (groups : List (List Text))
    (outer inner : Figure) :
    Adds ⟨figures, group :: groups⟩ (add ⟨figures, group :: groups⟩ outer inner) inner.stacked 0 := by
  constructor
  · simp [Reader.words, add]
  · simp [Reader.size, add]

/-- A word without suffixes is added, as a step of its own if no group is open. -/
theorem adds_read_word (r : Reader) (h : splitRepeat? w = none) :
    r.Adds (r.read (.word w)) (if r.groups.length = 0 ∧ isRest w then [] else [w])
      (if r.groups.length = 0 then 1 else 0) := by
  have outer := wordFigure_append h []
  have inner := stacked_stackedFigure h []
  rw [suffixText, List.flatMap_nil, List.append_nil] at outer inner
  rcases r with ⟨figures, _ | ⟨group, groups⟩⟩
  · have added := adds_outside figures (wordFigure w) (stackedFigure w)
    rw [outer] at added
    -- a rest is a step as well, without a word
    by_cases hr : isRest w
    · simpa [hr, under, Figure.steps, read, outer] using added
    · simpa [hr, under, Figure.steps, read, outer] using added
  · have added := adds_inside figures group groups (wordFigure w) (stackedFigure w)
    rw [inner] at added
    exact added

/-- An opening bracket adds no words, and a step if no group is open. -/
theorem adds_read_opening (r : Reader) :
    r.Adds (r.read .opening) [] (if r.groups.length = 0 then 1 else 0) := by
  rcases r with ⟨figures, _ | ⟨group, groups⟩⟩
  · constructor <;> simp [Reader.words, Reader.size, read]
  · constructor <;> simp [Reader.words, Reader.size, read]

/-- Closing a group without suffixes adds nothing: its words and its step are there already. -/
theorem adds_close (r : Reader) : r.Adds (r.close []) [] 0 := by
  rcases r with ⟨figures, _ | ⟨group, _ | ⟨outer, groups⟩⟩⟩
  · exact .refl _
  · -- A group without words becomes a rest, which is a step without words as well.
    have step : (if group = [] then Figure.rest.repeated [] else
        (Figure.group group).repeated []).steps = [group] := by
      split
      · next h =>
        rw [h]
        rfl
      · rfl
    constructor
    · simp [Reader.words, close, add, step]
    · simp [Reader.size, close, add, step]
  · constructor <;> simp [Reader.words, Reader.size, close, add, Figure.repeated, Figure.stacked]

/-- The figures at the end have the words and the steps that have been read. -/
theorem flatten_steps_finish (r : Reader) :
    (r.finish.flatMap Figure.steps).flatten = r.words ∧
      (r.finish.flatMap Figure.steps).length = r.size := by
  induction r using closing_induction with
  | closed figures => exact ⟨(List.append_nil _).symm, rfl⟩
  | closing r ih =>
    rw [finish_close, r.adds_close.words, r.adds_close.size, List.append_nil] at ih
    exact ih

/-- **What a reader comes by in a text without suffixes**: the runs that sound, and the steps that
start outside groups. -/
theorem adds_foldl_read {d : ℕ} {t : Text} (r : Reader) (hd : r.groups.length = d)
    (plain : ∀ c ∈ t, isRepeatMark c = false) :
    r.Adds ((marksFrom d t).foldl read r) (soundingWords d t) (outerCount d t) := by
  -- As many groups are open as the depth says, so that the reader and the runs agree on what is
  -- outside groups.
  induction d, t using marks_induction generalizing r with
  | nil d =>
    rw [marksFrom_nil]
    exact .refl r
  | space d t ih =>
    have added := ih r hd (List.forall_mem_cons.mp plain).2
    rw [marksFrom_space, soundingWords_cons rfl, outerCount_cons rfl, if_neg (by simp), Nat.zero_add]
    exact added
  | opening d t ih =>
    have added := ih (r.read .opening) (congrArg (· + 1) hd) (List.forall_mem_cons.mp plain).2
    have step := r.adds_read_opening
    rw [hd] at step
    rw [marksFrom_opening, soundingWords_cons rfl, outerCount_cons rfl]
    simpa using step.trans added
  | stray t ih =>
    have added := ih r hd (List.forall_mem_cons.mp plain).2
    rw [marksFrom_stray, soundingWords_cons rfl, outerCount_cons rfl, if_neg (by simp), Nat.zero_add]
    exact added
  | closing d t ih =>
    have rest := (List.forall_mem_cons.mp plain).2
    have bare := splitSuffixes_of_stops fun c hc => rest c (List.mem_of_mem_head? hc)
    rw [bare] at ih
    have closed : (r.close []).groups.length = d := by
      rw [length_groups_close, hd, Nat.add_sub_cancel]
    have added := r.adds_close.trans (ih (r.close []) closed rest)
    rw [marksFrom_closing, bare, soundingWords_cons rfl, outerCount_cons rfl, if_neg (by simp)]
    exact added
  | word d w t hne hw ht ih =>
    obtain ⟨inside, rest⟩ := List.forall_mem_append.mp plain
    have kept : (r.read (.word w)).groups.length = d := by
      rw [read, length_groups_add, hd]
    have step := r.adds_read_word (splitRepeat?_of_no_sign inside)
    rw [hd] at step
    rw [marksFrom_word_append hw hne ht, List.foldl_cons, soundingWords_word_append hw hne ht,
      outerCount_word_append hw hne ht]
    exact step.trans (ih _ kept rest)

end Reader

/-! ## Conservation -/

variable {body : Text}

/-- **No word is lost, comes in or changes its place.** Without suffixes, the words in the steps of
a body are its words, except for the rests outside groups; and there are as many steps as there are
words outside groups and brackets that open a group there. -/
theorem flatten_steps_conserved (star : '*' ∉ body) (bang : '!' ∉ body) :
    (steps body).flatten = ((runs 0 (normalize body)).filter Run.sounds).map Run.text ∧
      (steps body).length = (runs 0 (normalize body)).countP Run.isOuter +
        (withDepth 0 (normalize body)).count ('[', 0) := by
  have plain : ∀ c ∈ normalize body, isRepeatMark c = false := by
    intro c hc
    rcases mem_normalize hc with rfl | ⟨hc, -⟩
    · rfl
    · rw [isRepeatMark, Bool.or_eq_false_iff, decide_eq_false_iff_not, decide_eq_false_iff_not]
      constructor
      · rintro rfl
        exact star hc
      · rintro rfl
        exact bang hc
  have run := Reader.adds_foldl_read .start (d := 0) rfl plain
  obtain ⟨words, size⟩ := ((marks (normalize body)).foldl Reader.read .start).flatten_steps_finish
  constructor
  · exact words.trans run.words
  · exact size.trans (run.size.trans (Nat.zero_add _))

/-- A stray bracket, a group in a group and groups that run to the end; `~` is a rest in front and a
word at the end. -/
theorem flatten_steps_conserved_unbalanced :
    '*' ∉ "] ~ [a,. [b]@2]c] [d [~".toList ∧ '!' ∉ "] ~ [a,. [b]@2]c] [d [~".toList ∧
      (steps "] ~ [a,. [b]@2]c] [d [~".toList).flatten =
        [['a'], ['.'], ['b'], ['c'], ['d'], ['~']] ∧
      (steps "] ~ [a,. [b]@2]c] [d [~".toList).length = 4 := by
  have star : '*' ∉ "] ~ [a,. [b]@2]c] [d [~".toList := by decide
  have bang : '!' ∉ "] ~ [a,. [b]@2]c] [d [~".toList := by decide
  obtain ⟨words, size⟩ := flatten_steps_conserved star bang
  have normal : normalize "] ~ [a,. [b]@2]c] [d [~".toList = "] ~ [a . [b]]c] [d [~".toList := rfl
  rw [normal] at words size
  exact ⟨star, bang, words, size⟩

end VoxelScore.Mini
