import Mathlib.Algebra.BigOperators.Group.List.Basic
import VoxelScore.Proofs.Mini.Marks

/-!
# Mini-notation as syntax trees

Bodies are written from words, rest marks and groups, each with suffixes behind it. A list of trees
says which, a body writes the list out, with as many spaces between two trees as one likes. Trees
are read without a reader: what a tree stands for follows from its parts alone.

## Main definitions

* `Tree`: a word, a rest mark or a group, with its suffixes
* `Written`: the bodies that write a list of trees
* `Tree.leaves`: the words that a tree adds to the group around it
* `Tree.figure`: the figure of a tree outside groups
* `Tree.steps`: its steps

## Main results

* `Written.isTidy`: such a body has no separators but spaces, and no weights
* `written_textOf`: every list of trees is written by a body
-/

namespace VoxelScore.Mini

/-! ## Trees -/

/-- No blank, no comma, no bracket and no at sign. -/
def IsPlain (c : Char) : Prop :=
  Text.isBlank c = false ∧ c ∉ [',', '<', '>', '[', ']', '@']

instance : DecidablePred IsPlain := fun _ => inferInstanceAs (Decidable (_ ∧ _))

theorem IsPlain.isWordChar {c : Char} (h : IsPlain c) : isWordChar c := by
  obtain ⟨hb, hc⟩ := h
  simp only [List.mem_cons, not_or] at hc
  refine isWordChar_iff.mpr ⟨?_, hc.2.2.2.1, hc.2.2.2.2.1⟩
  rintro rfl
  cases hb

theorem isPlain_of_mem_suffixText {ss : List Suffix} {c : Char} (h : c ∈ suffixText ss) :
    IsPlain c := by
  rcases sign_or_digit_of_mem_suffixText h with h | h
  · obtain rfl | rfl : c = '*' ∨ c = '!' := by simpa [isRepeatMark] using h
    · exact ⟨rfl, by decide⟩
    · exact ⟨rfl, by decide⟩
  · -- The digits are the code points from 48 to 57, where no blank lies.
    obtain ⟨lower, upper⟩ := Char.isDigit_iff_toNat.mp h
    constructor
    · change 48 ≤ c.toNat at lower
      change c.toNat ≤ 57 at upper
      simp only [Text.isBlank, Bool.or_eq_false_iff, Bool.and_eq_false_imp, decide_eq_true_eq,
        decide_eq_false_iff_not]
      omega
    · intro hc
      simp only [List.mem_cons, List.not_mem_nil, or_false] at hc
      rcases hc with rfl | rfl | rfl | rfl | rfl | rfl <;> cases h

theorem isTidy_of_plain {t : Text} (h : ∀ c ∈ t, IsPlain c) : IsTidy t := by
  intro c hc
  obtain ⟨hb, hm⟩ := h c hc
  simp only [List.mem_cons, not_or] at hm
  refine ⟨hm.2.2.2.2.2.1, fun hs => ?_⟩
  simp [isSeparator, hb, hm.1, hm.2.1, hm.2.2.1] at hs

/-- The marks that stand for silence outside groups. -/
inductive RestMark where
  | tilde
  | dot
  deriving DecidableEq, Repr

/-- A rest mark as written. -/
def RestMark.text : RestMark → Text
  | tilde => ['~']
  | dot => ['.']

theorem RestMark.plain (m : RestMark) : ∀ c ∈ m.text, IsPlain c := by
  intro c hc
  cases m with
  | tilde => rw [List.mem_singleton.mp hc]; decide
  | dot => rw [List.mem_singleton.mp hc]; decide

/-- A word of plain characters that does not end in a suffix and is not a rest mark. -/
structure Word where
  text : Text
  text_ne_nil : text ≠ []
  plain : ∀ c ∈ text, IsPlain c
  not_endsInRepeat : ¬ EndsInRepeat text
  ne_restMark : ∀ m : RestMark, text ≠ m.text

/-- The word of one character. -/
def Word.ofChar (c : Char) (plain : IsPlain c) (notDigit : c.isDigit = false)
    (ne_restMark : ∀ m : RestMark, [c] ≠ m.text) : Word where
  text := [c]
  text_ne_nil := List.cons_ne_nil c []
  plain := List.forall_mem_singleton.mpr plain
  not_endsInRepeat := not_endsInRepeat_of_concat (w := []) notDigit
  ne_restMark := ne_restMark

/-- A unit of mini-notation with its suffixes, the innermost one first. -/
inductive Tree where
  | word (word : Word) (suffixes : List Suffix)
  | rest (mark : RestMark) (suffixes : List Suffix)
  | group (trees : List Tree) (suffixes : List Suffix)

/-! ## What trees stand for -/

/-- How often suffixes repeat a unit together. -/
def copies (ss : List Suffix) : ℕ := (ss.map Suffix.value).prod

/-- The figure under suffixes. -/
def under : Figure → List Suffix → Figure
  | f, [] => f
  | f, s :: ss => under (.times f s.value) ss

mutual

/-- The words that a tree adds to the group around it. A rest mark is a word there, and a group adds
its own words. -/
def Tree.leaves : Tree → List Text
  | .word w ss => List.replicate (copies ss) w.text
  | .rest m ss => List.replicate (copies ss) m.text
  | .group ts ss => (List.replicate (copies ss) (leavesOf ts)).flatten

/-- The words that trees add in reading order. -/
def leavesOf : List Tree → List Text
  | [] => []
  | t :: ts => t.leaves ++ leavesOf ts

end

/-- The figure of a tree outside groups. A group without words is a rest. -/
def Tree.figure : Tree → Figure
  | .word w ss => under (.word w.text) ss
  | .rest _ ss => under .rest ss
  | .group ts ss => under (if leavesOf ts = [] then .rest else .group (leavesOf ts)) ss

/-- The steps of a tree outside groups: as many copies of one step as its suffixes ask for. -/
def Tree.steps : Tree → List Step
  | .word w ss => List.replicate (copies ss) [w.text]
  | .rest _ ss => List.replicate (copies ss) []
  | .group ts ss => List.replicate (copies ss) (leavesOf ts)

/-! ## Writing trees -/

/-- Nothing, or something behind a space. -/
def IsSpaced (t : Text) : Prop := ∀ c ∈ t.head?, c = ' '

/-- The bodies that write a list of trees: spaces may stand anywhere around a tree with its
suffixes, and at least one stands between two trees. -/
inductive Written : List Tree → Text → Prop
  | nil (n : ℕ) : Written [] (List.replicate n ' ')
  | word (n : ℕ) (w : Word) (ss : List Suffix) {ts : List Tree} {t : Text}
      (later : Written ts t) (spaced : IsSpaced t) :
      Written (.word w ss :: ts) (List.replicate n ' ' ++ (w.text ++ suffixText ss ++ t))
  | rest (n : ℕ) (m : RestMark) (ss : List Suffix) {ts : List Tree} {t : Text}
      (later : Written ts t) (spaced : IsSpaced t) :
      Written (.rest m ss :: ts) (List.replicate n ' ' ++ (m.text ++ suffixText ss ++ t))
  | group (n : ℕ) {items : List Tree} {s : Text} (ss : List Suffix) {ts : List Tree} {t : Text}
      (inner : Written items s) (later : Written ts t) (spaced : IsSpaced t) :
      Written (.group items ss :: ts)
        (List.replicate n ' ' ++ ('[' :: s ++ (']' :: suffixText ss ++ t)))

/-- Written bodies are tidy. -/
theorem Written.isTidy {ts : List Tree} {t : Text} (h : Written ts t) : IsTidy t := by
  have suffixes : ∀ ss, IsTidy (suffixText ss) :=
    fun ss => isTidy_of_plain fun c hc => isPlain_of_mem_suffixText hc
  induction h with
  | nil n => exact isTidy_spaces n
  | word n w ss later spaced ih =>
    exact (isTidy_spaces n).append (((isTidy_of_plain w.plain).append (suffixes ss)).append ih)
  | rest n m ss later spaced ih =>
    exact (isTidy_spaces n).append (((isTidy_of_plain m.plain).append (suffixes ss)).append ih)
  | group n ss inner later spaced ihi ihl =>
    refine (isTidy_spaces n).append (IsTidy.append ?_ (IsTidy.append ?_ ihl))
    · exact ihi.cons ⟨by decide, fun h => nomatch h⟩
    · exact (suffixes ss).cons ⟨by decide, fun h => nomatch h⟩

mutual

/-- A tree with one space between neighbours. -/
def Tree.text : Tree → Text
  | .word w ss => w.text ++ suffixText ss
  | .rest m ss => m.text ++ suffixText ss
  | .group ts ss => '[' :: textOf ts ++ (']' :: suffixText ss)

/-- Trees with one space in front of each. -/
def textOf : List Tree → Text
  | [] => []
  | t :: ts => ' ' :: (t.text ++ textOf ts)

end

theorem isSpaced_textOf (ts : List Tree) : IsSpaced (textOf ts) := by
  intro c hc
  cases ts with
  | nil => rw [textOf] at hc; cases hc
  | cons t ts => rw [textOf] at hc; cases hc; rfl

/-- Every list of trees is written by a body. -/
theorem written_textOf : ∀ ts : List Tree, Written ts (textOf ts)
  | [] => by
    rw [textOf]
    exact Written.nil 0
  | .word w ss :: ts => by
    rw [textOf, Tree.text]
    exact Written.word 1 w ss (written_textOf ts) (isSpaced_textOf ts)
  | .rest m ss :: ts => by
    rw [textOf, Tree.text]
    exact Written.rest 1 m ss (written_textOf ts) (isSpaced_textOf ts)
  | .group items ss :: ts => by
    have h := Written.group 1 ss (written_textOf items) (written_textOf ts) (isSpaced_textOf ts)
    rw [textOf, Tree.text]
    simpa using h

end VoxelScore.Mini
