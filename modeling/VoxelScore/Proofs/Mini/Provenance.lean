import VoxelScore.Proofs.Mini.Conservation

/-!
# Where tokens are written

Every token in the steps of a body is written in its normal form, as a word or the part of a word in
front of suffixes. Groups hand words on and suffixes copy them, but nothing is put together and
nothing is made up, whatever the brackets and suffixes are. So a token has no blank, no separator and
no bracket. It may be empty, since a suffix in a group can stand behind nothing.

## Main definitions

* `IsWrittenIn`: the pieces of the words of a text

## Main results

* `Figure.flatten_steps`: a figure has the same words in its steps and in a group
* `peel_front`: a word without its suffixes is its front
* `Reader.forall_words_foldl_read`: a reader comes by no words but those of the marks
* `isWrittenIn_of_mem_marksFrom`: the words of the marks are written in the text
* `token_written`: the tokens of a body
-/

namespace VoxelScore.Mini

variable {c : Char} {body s t v w text token : Text} {d : ℕ}

/-! ## Pieces of words -/

/-- The text stands in another one, without a space or a bracket, and so within one word. -/
structure IsWrittenIn (w t : Text) : Prop where
  piece : w <:+: t
  wordChars : ∀ c ∈ w, isWordChar c

theorem IsWrittenIn.mono (h : IsWrittenIn w s) (hs : s <:+: t) : IsWrittenIn w t :=
  ⟨h.piece.trans hs, h.wordChars⟩

theorem IsWrittenIn.front (h : IsWrittenIn w t) (hv : v <+: w) : IsWrittenIn v t where
  piece := hv.isInfix.trans h.piece
  wordChars c hc := h.wordChars c (hv.subset hc)

/-! ## Suffixes -/

/-- What stands in front of the last suffix is the front of the word. -/
theorem prefix_of_splitRepeat? {base : Text} {n : ℕ} (h : splitRepeat? w = some (base, n)) :
    base <+: w := by
  unfold splitRepeat? at h
  split at h
  · next c back hback =>
    split at h
    · obtain ⟨count, -, he⟩ := Option.map_eq_some_iff.mp h
      obtain ⟨rfl, rfl⟩ := Prod.mk.inj he
      -- Reversed, it is what is left behind the digits and the sign.
      have behind : back <:+ w.reverse :=
        (List.suffix_cons c back).trans (hback ▸ List.dropWhile_suffix _)
      rw [← List.reverse_suffix, List.reverse_reverse]
      exact behind
    · cases h
  · cases h

/-- **A word without its suffixes is its front.** -/
theorem peel_front (w : Text) : (peel w).1 <+: w := by
  fun_induction peel w with
  | case1 w base n h core counts hpeel ih =>
    rw [hpeel] at ih
    exact ih.trans (prefix_of_splitRepeat? h)
  | case2 w h => exact List.prefix_rfl

/-- Behind the suffixes of a group stands the rest of the text. -/
theorem splitSuffixes_suffix (t : Text) : (splitSuffixes t).2 <:+ t := by
  fun_induction splitSuffixes t with
  | case1 => exact List.suffix_rfl
  | case2 c r n hn hc counts rest hr ih =>
    rw [hr] at ih
    exact (ih.trans (List.dropWhile_suffix _)).trans (List.suffix_cons c r)
  | case3 => exact List.suffix_rfl

/-! ## Words of figures -/

namespace Figure

/-- **A figure has the same words in its steps and in a group.** -/
theorem flatten_steps (f : Figure) : f.steps.flatten = f.stacked := by
  induction f with
  | rest => rfl
  | word text => rfl
  | group words => exact List.append_nil words
  | times f n ih => rw [steps, List.flatten_flatten, List.map_replicate, ih, stacked]

/-- Suffixes only copy words. -/
theorem mem_stacked_repeated {f : Figure} {counts : List ℕ}
    (h : w ∈ (f.repeated counts).stacked) : w ∈ f.stacked := by
  induction counts generalizing f with
  | nil => exact h
  | cons n counts ih =>
    obtain ⟨copy, hcopy, hw⟩ := List.mem_flatten.mp (ih h)
    rwa [List.eq_of_mem_replicate hcopy] at hw

end Figure

theorem eq_peel_of_mem_wordFigure (h : w ∈ (wordFigure text).stacked) : w = (peel text).1 := by
  have hw := Figure.mem_stacked_repeated h
  split at hw
  · cases hw
  · exact List.mem_singleton.mp hw

theorem eq_peel_of_mem_stackedFigure (h : w ∈ (stackedFigure text).stacked) :
    w = (peel text).1 :=
  List.mem_singleton.mp (Figure.mem_stacked_repeated h)

/-! ## Words of readers -/

namespace Reader

variable {r : Reader} {P : Text → Prop}

theorem words_cons (figures : List Figure) (group : List Text) (groups : List (List Text)) :
    words ⟨figures, group :: groups⟩ = words ⟨figures, groups⟩ ++ group := by
  simp [words]

theorem forall_words_add {outer inner : Figure} (hr : ∀ w ∈ r.words, P w)
    (houter : ∀ w ∈ outer.stacked, P w) (hinner : ∀ w ∈ inner.stacked, P w) :
    ∀ w ∈ (r.add outer inner).words, P w := by
  rcases r with ⟨figures, _ | ⟨group, groups⟩⟩
  · rw [(adds_outside figures outer inner).words, outer.flatten_steps]
    exact List.forall_mem_append.mpr ⟨hr, houter⟩
  · rw [(adds_inside figures group groups outer inner).words]
    exact List.forall_mem_append.mpr ⟨hr, hinner⟩

/-- Closing a group hands on, copies or drops its words. -/
theorem forall_words_close (hr : ∀ w ∈ r.words, P w) (counts : List ℕ) :
    ∀ w ∈ (r.close counts).words, P w := by
  rcases r with ⟨figures, _ | ⟨group, groups⟩⟩
  · exact hr
  · rw [words_cons] at hr
    obtain ⟨hr, hgroup⟩ := List.forall_mem_append.mp hr
    have copied : ∀ w ∈ ((Figure.group group).repeated counts).stacked, P w :=
      fun w hw => hgroup w (Figure.mem_stacked_repeated hw)
    refine forall_words_add hr ?_ copied
    split
    · intro w hw
      cases Figure.mem_stacked_repeated hw
    · exact copied

/-- A mark adds no words but its own, without suffixes. -/
theorem forall_words_read {mark : Mark} (hr : ∀ w ∈ r.words, P w)
    (hmark : ∀ text, mark = .word text → P (peel text).1) : ∀ w ∈ (r.read mark).words, P w := by
  cases mark with
  | word text =>
    have core : P (peel text).1 := hmark text rfl
    refine forall_words_add hr ?_ ?_
    · intro w hw
      rwa [eq_peel_of_mem_wordFigure hw]
    · intro w hw
      rwa [eq_peel_of_mem_stackedFigure hw]
  | opening =>
    rw [read, words_cons, List.append_nil]
    exact hr
  | closing counts => exact forall_words_close hr counts

/-- **A reader comes by no words but those of the marks**, without their suffixes. -/
theorem forall_words_foldl_read {marks : List Mark} (hr : ∀ w ∈ r.words, P w)
    (hmarks : ∀ text, .word text ∈ marks → P (peel text).1) :
    ∀ w ∈ (marks.foldl read r).words, P w := by
  induction marks generalizing r with
  | nil => exact hr
  | cons mark marks ih =>
    refine ih (forall_words_read hr ?_) fun text h => hmarks text (List.mem_cons_of_mem _ h)
    rintro text rfl
    exact hmarks text List.mem_cons_self

end Reader

/-! ## Words of marks -/

/-- **The words of the marks of a text are written in it.** -/
theorem isWrittenIn_of_mem_marksFrom (h : .word text ∈ marksFrom d t) : IsWrittenIn text t := by
  induction d, t using marks_induction with
  | nil d =>
    rw [marksFrom_nil] at h
    cases h
  | space d t ih =>
    rw [marksFrom_space] at h
    exact (ih h).mono (List.suffix_cons _ t).isInfix
  | opening d t ih =>
    rw [marksFrom_opening] at h
    rcases List.mem_cons.mp h with he | h
    · cases he
    · exact (ih h).mono (List.suffix_cons _ t).isInfix
  | stray t ih =>
    rw [marksFrom_stray] at h
    exact (ih h).mono (List.suffix_cons _ t).isInfix
  | closing d t ih =>
    rw [marksFrom_closing] at h
    rcases List.mem_cons.mp h with he | h
    · cases he
    · have rest := (splitSuffixes_suffix t).trans (List.suffix_cons ']' t)
      exact (ih h).mono rest.isInfix
  | word d w t hne hw ht ih =>
    rw [marksFrom_word_append hw hne ht] at h
    rcases List.mem_cons.mp h with he | h
    · obtain rfl := Mark.word.inj he
      exact ⟨(List.prefix_append text t).isInfix, hw⟩
    · exact (ih h).mono (List.suffix_append w t).isInfix

/-! ## Tokens -/

theorem isWrittenIn_of_mem_steps {step : Step} (hstep : step ∈ steps body) (htoken : token ∈ step) :
    IsWrittenIn token (normalize body) := by
  have read : ∀ w ∈ ((marks (normalize body)).foldl Reader.read .start).words,
      IsWrittenIn w (normalize body) := by
    refine Reader.forall_words_foldl_read ?_ ?_
    · intro w hw
      cases hw
    · intro text htext
      exact (isWrittenIn_of_mem_marksFrom htext).front (peel_front text)
  refine read token ?_
  rw [← (Reader.flatten_steps_finish _).1]
  exact List.mem_flatten.mpr ⟨step, hstep, htoken⟩

/-- **The tokens of a body** are pieces of its normal form, without blanks, separators and
brackets. -/
theorem token_written {step : Step} (hstep : step ∈ steps body) (htoken : token ∈ step) :
    token <:+: normalize body ∧ Text.IsSolid token ∧ ∀ c ∈ [',', '<', '>', '[', ']'], c ∉ token := by
  have written := isWrittenIn_of_mem_steps hstep htoken
  have plain : ∀ c ∈ token, isSeparator c = false := by
    intro c hc
    have hword := isWordChar_iff.mp (written.wordChars c hc)
    exact ((mem_normalize (written.piece.subset hc)).resolve_left hword.1).2
  refine ⟨written.piece, ?_, ?_⟩
  · intro c hc
    rw [Bool.eq_false_iff]
    intro hblank
    have := plain c hc
    rw [isSeparator_of_isBlank hblank] at this
    cases this
  · intro c hmark hc
    have hword := isWordChar_iff.mp (written.wordChars c hc)
    have := plain c hc
    simp only [List.mem_cons, List.not_mem_nil, or_false] at hmark
    rcases hmark with rfl | rfl | rfl | rfl | rfl
    · cases this
    · cases this
    · cases this
    · exact hword.2.1 rfl
    · exact hword.2.2 rfl

/-- A suffix behind nothing makes empty tokens in a group, and a rest outside groups. -/
example : steps "[*3] !2".toList = [[[], [], []], [], []] := by cbv

end VoxelScore.Mini
