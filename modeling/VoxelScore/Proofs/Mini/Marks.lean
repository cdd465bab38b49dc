import VoxelScore.Proofs.Mini.NormalForm
import VoxelScore.Proofs.Mini.Suffix

/-!
# Cutting a body into marks

A body is cut into words and brackets. Text that starts with a space or a bracket does not change
the cut of what stands in front of it, so bodies are cut piece by piece, with the number of open
groups handed on. The cut does not see how many spaces stand between words.

## Main definitions

* `depthAfter`: the number of groups that are open behind a text
* `IsTidy`: the bodies whose only separators are spaces

## Main results

* `marks_induction`: induction on the cut of a body
* `marksFrom_append`: the cut of a text and another one
* `marksFrom_squeeze`: the cut does not see the number of spaces
* `depthAfter_clean`, `marks_normalize_clean`: the cut of a body is that of its cleaned text
-/

namespace VoxelScore.Mini

variable {c : Char} {s t w : Text} {d : ℕ}

/-! ## Equations of the cut -/

@[simp] theorem marksFrom_nil (d : ℕ) : marksFrom d [] = [] := by rw [marksFrom]

@[simp] theorem marksFrom_space (d : ℕ) (t : Text) : marksFrom d (' ' :: t) = marksFrom d t := by
  rw [marksFrom]

@[simp] theorem marksFrom_opening (d : ℕ) (t : Text) :
    marksFrom d ('[' :: t) = .opening :: marksFrom (d + 1) t := by
  rw [marksFrom]

@[simp] theorem marksFrom_stray (t : Text) : marksFrom 0 (']' :: t) = marksFrom 0 t := by
  rw [marksFrom]

@[simp] theorem marksFrom_closing (d : ℕ) (t : Text) :
    marksFrom (d + 1) (']' :: t) =
      .closing (splitSuffixes t).1 :: marksFrom d (splitSuffixes t).2 := by
  rw [marksFrom]

theorem isWordChar_iff : isWordChar c ↔ c ≠ ' ' ∧ c ≠ '[' ∧ c ≠ ']' := by
  simp [isWordChar, and_assoc]

theorem marksFrom_wordChar (hc : isWordChar c) (d : ℕ) (t : Text) :
    marksFrom d (c :: t) =
      .word (c :: t.takeWhile isWordChar) :: marksFrom d (t.dropWhile isWordChar) := by
  have h := isWordChar_iff.mp hc
  rw [marksFrom]
  · exact h.1
  · exact h.2.1
  · intro _ he
    exact h.2.2 he
  · intro _ _ he
    exact h.2.2 he

theorem marksFrom_spaces (d n : ℕ) (t : Text) :
    marksFrom d (List.replicate n ' ' ++ t) = marksFrom d t := by
  induction n with
  | zero => rfl
  | succ n ih => rw [List.replicate_succ, List.cons_append, marksFrom_space, ih]

/-- A word goes on to the next space or bracket. -/
theorem marksFrom_word_append (hw : ∀ c ∈ w, isWordChar c) (hne : w ≠ [])
    (ht : Text.StopsRun isWordChar t) (d : ℕ) :
    marksFrom d (w ++ t) = .word w :: marksFrom d t := by
  cases w with
  | nil => exact absurd rfl hne
  | cons c w =>
    have rest : ∀ d ∈ w, isWordChar d := fun d hd => hw d (List.mem_cons_of_mem c hd)
    rw [List.cons_append, marksFrom_wordChar (hw c List.mem_cons_self),
      Text.takeWhile_run_append rest ht, Text.dropWhile_run_append rest ht]

/-! ## Pieces of a body -/

/-- The number of groups that are open behind a text, when so many were open in front of it. -/
def depthAfter (depth : ℕ) (t : Text) : ℕ :=
  t.foldl (fun d c => if c = '[' then d + 1 else if c = ']' then d - 1 else d) depth

@[simp] theorem depthAfter_nil (d : ℕ) : depthAfter d [] = d := rfl

@[simp] theorem depthAfter_opening (d : ℕ) (t : Text) :
    depthAfter d ('[' :: t) = depthAfter (d + 1) t := rfl

@[simp] theorem depthAfter_closing (d : ℕ) (t : Text) :
    depthAfter d (']' :: t) = depthAfter (d - 1) t := rfl

/-- Other characters than brackets open and close nothing. -/
theorem depthAfter_cons (ho : c ≠ '[') (hc : c ≠ ']') (d : ℕ) (t : Text) :
    depthAfter d (c :: t) = depthAfter d t := by
  simp [depthAfter, ho, hc]

theorem depthAfter_dropWhile {p : Char → Bool} (hp : ∀ c, p c → c ≠ '[' ∧ c ≠ ']') (d : ℕ)
    (t : Text) : depthAfter d (t.dropWhile p) = depthAfter d t := by
  induction t with
  | nil => rfl
  | cons c t ih =>
    by_cases hc : p c
    · rw [List.dropWhile_cons_of_pos hc, ih, depthAfter_cons (hp c hc).1 (hp c hc).2]
    · rw [List.dropWhile_cons_of_neg hc]

/-- Suffixes have no brackets. -/
theorem depthAfter_splitSuffixes (d : ℕ) (t : Text) :
    depthAfter d (splitSuffixes t).2 = depthAfter d t := by
  fun_induction splitSuffixes t with
  | case1 => rfl
  | case2 c r n hn hc counts rest hr ih =>
    have digits : ∀ c, Char.isDigit c → c ≠ '[' ∧ c ≠ ']' := by
      intro c hc
      constructor <;> rintro rfl <;> cases hc
    have sign : c ≠ '[' ∧ c ≠ ']' := by
      constructor <;> rintro rfl <;> cases hc
    rw [hr] at ih
    rw [ih, depthAfter_dropWhile digits, depthAfter_cons sign.1 sign.2]
  | case3 => rfl

/-- Words have no brackets. -/
theorem depthAfter_word (hw : ∀ c ∈ w, isWordChar c) (d : ℕ) (t : Text) :
    depthAfter d (w ++ t) = depthAfter d t := by
  induction w with
  | nil => rfl
  | cons c w ih =>
    obtain ⟨hc, hw⟩ := List.forall_mem_cons.mp hw
    have h := isWordChar_iff.mp hc
    rw [List.cons_append, depthAfter_cons h.2.1 h.2.2, ih hw]

/-- **Induction on the cut of a body.** A text is empty, or starts with a space, with a bracket, whose
suffixes go with it if it closes a group, or with a whole word. -/
theorem marks_induction {P : ℕ → Text → Prop} (nil : ∀ d, P d [])
    (space : ∀ d t, P d t → P d (' ' :: t)) (opening : ∀ d t, P (d + 1) t → P d ('[' :: t))
    (stray : ∀ t, P 0 t → P 0 (']' :: t))
    (closing : ∀ d t, P d (splitSuffixes t).2 → P (d + 1) (']' :: t))
    (word : ∀ d w t, w ≠ [] → (∀ c ∈ w, isWordChar c) → Text.StopsRun isWordChar t → P d t →
      P d (w ++ t))
    (d : ℕ) (t : Text) : P d t := by
  fun_induction marksFrom d t with
  | case1 d => exact nil d
  | case2 t d ih => exact space d t ih
  | case3 t d ih => exact opening d t ih
  | case4 t ih => exact stray t ih
  | case5 t d ih => exact closing d t ih
  | case6 c t d hs ho hz hc ih =>
    have hcw : isWordChar c := by
      refine isWordChar_iff.mpr ⟨hs, ho, ?_⟩
      cases d with
      | zero => exact hz rfl
      | succ d => exact hc d rfl
    have hw : ∀ e ∈ c :: t.takeWhile isWordChar, isWordChar e :=
      List.forall_mem_cons.mpr ⟨hcw, fun _ => List.mem_takeWhile_imp⟩
    have h := word d _ _ (List.cons_ne_nil c _) hw (Text.stopsRun_dropWhile isWordChar t) ih
    rwa [List.cons_append, List.takeWhile_append_dropWhile] at h

/-- No word and no suffix goes on into the text. -/
theorem stopsRun_of_stops_wordChar (h : Text.StopsRun isWordChar t) :
    Text.StopsRun Char.isDigit t ∧ Text.StopsRun isRepeatMark t := by
  constructor
  · refine h.mono fun c hc => isWordChar_iff.mpr ?_
    refine ⟨?_, ?_, ?_⟩ <;> rintro rfl <;> cases hc
  · refine h.mono fun c hc => isWordChar_iff.mpr ?_
    refine ⟨?_, ?_, ?_⟩ <;> rintro rfl <;> cases hc

/-- **A space or a bracket does not change the marks in front of it.** -/
theorem marksFrom_append (s : Text) (ht : Text.StopsRun isWordChar t) (d : ℕ) :
    marksFrom d (s ++ t) = marksFrom d s ++ marksFrom (depthAfter d s) t := by
  obtain ⟨hd, hm⟩ := stopsRun_of_stops_wordChar ht
  -- Words and suffixes are the marks that could go on into `t`, and both stop there.
  induction d, s using marks_induction with
  | nil d => simp
  | space d s ih => simpa [depthAfter_cons] using ih
  | opening d s ih => simpa using ih
  | stray s ih => simpa using ih
  | closing d s ih =>
    rw [List.cons_append, marksFrom_closing, splitSuffixes_append s hd hm, ih,
      depthAfter_splitSuffixes, marksFrom_closing]
    rfl
  | word d w s hne hw hs ih =>
    rw [List.append_assoc, marksFrom_word_append hw hne (hs.append ht), ih,
      marksFrom_word_append hw hne hs, depthAfter_word hw]
    rfl

/-! ## The normal form of a body -/

/-- The cut does not see how many spaces stand between words. -/
theorem marksFrom_squeeze (ht : ∀ c ∈ t, Text.isBlank c → c = ' ') (d : ℕ) :
    marksFrom d (Text.squeeze t) = marksFrom d t := by
  -- Every word in front of a blank may change the number of open groups.
  induction t using Text.separator_induction Text.isBlank generalizing d with
  | last w hw => rw [Text.squeeze_of_solid hw]
  | separator w c t hw hc ih =>
    have rest : ∀ d, marksFrom d (Text.squeeze t) = marksFrom d t :=
      ih fun c h => ht c (by simp [h])
    obtain rfl : c = ' ' := ht c (by simp) hc
    have stops : ∀ u, Text.StopsRun isWordChar (' ' :: u) := fun _ => Text.stopsRun_cons rfl
    rcases eq_or_ne w [] with rfl | hne
    · rw [List.nil_append, Text.squeeze_cons_blank t hc, marksFrom_space, rest]
    · rw [Text.squeeze_word_append hw hne t hc, marksFrom_append w (stops t), marksFrom_space]
      split
      · next he =>
        -- A text without words has no marks.
        have none : marksFrom (depthAfter d w) t = [] := by
          rw [← rest, Text.squeeze, he]
          exact marksFrom_nil _
        rw [none, List.append_nil, List.append_nil]
      · rw [marksFrom_append w (stops _), marksFrom_space, rest]

/-- Spaces are the only separators, and there are no weights. -/
def IsTidy (t : Text) : Prop := ∀ c ∈ t, c ≠ '@' ∧ (isSeparator c → c = ' ')

theorem IsTidy.append {s : Text} (hs : IsTidy s) (ht : IsTidy t) : IsTidy (s ++ t) := by
  intro c hc
  rcases List.mem_append.mp hc with hc | hc
  · exact hs c hc
  · exact ht c hc

theorem IsTidy.cons {c : Char} (hc : c ≠ '@' ∧ (isSeparator c → c = ' ')) (ht : IsTidy t) :
    IsTidy (c :: t) := List.forall_mem_cons.mpr ⟨hc, ht⟩

theorem isTidy_spaces (n : ℕ) : IsTidy (List.replicate n ' ') := by
  intro c hc
  rw [List.eq_of_mem_replicate hc]
  exact ⟨by decide, fun _ => rfl⟩

theorem clean_of_tidy (h : IsTidy t) : clean false t = t :=
  clean_eq_self (fun c hc => (h c hc).2) fun _ _ hp =>
    (h '@' (hp.subset List.mem_cons_self)).1 rfl

/-- Cleaning leaves the brackets where they are. -/
theorem depthAfter_clean (dropping : Bool) (d : ℕ) (t : Text) :
    depthAfter d (clean dropping t) = depthAfter d t := by
  induction t generalizing dropping d with
  | nil => rfl
  | cons c r ih =>
    -- the brackets are neither separators nor characters of a weight
    have passed : ∀ p : Char → Bool, p '[' = false → p ']' = false → p c →
        depthAfter d (c :: r) = depthAfter d r := by
      intro p ho hc hp
      refine depthAfter_cons ?_ ?_ d r
      · rintro rfl
        rw [ho] at hp
        cases hp
      · rintro rfl
        rw [hc] at hp
        cases hp
    rw [clean]
    split
    · next h =>
      rw [ih, passed isWeightChar rfl rfl (Bool.and_eq_true_iff.mp h).2]
    split
    · next h =>
      rw [ih, passed (· = '@') rfl rfl (Bool.and_eq_true_iff.mp h).1]
    split
    · next h =>
      rw [depthAfter_cons (by decide) (by decide), ih, passed isSeparator rfl rfl h]
    · exact ih false _

/-- **A body is cut as its cleaned text.** -/
theorem marks_normalize_clean (t : Text) : marks (normalize t) = marks (clean false t) := by
  refine marksFrom_squeeze (fun c hc hb => ?_) 0
  rcases mem_clean hc with he | ⟨-, hs⟩
  · exact he
  · rw [isSeparator_of_isBlank hb] at hs
    cases hs

/-- **A tidy body is cut as it is written.** -/
theorem marks_normalize (h : IsTidy t) : marks (normalize t) = marks t := by
  rw [marks_normalize_clean, clean_of_tidy h]

end VoxelScore.Mini
