import VoxelScore.Mini.Reading
import VoxelScore.Proofs.Script.CallText
import VoxelScore.Proofs.Text.Words

/-!
# Bodies in normal form

A body is cleaned in one pass: separators become spaces, and an at sign is dropped together with the
weight behind it. Dropping a weight can bring an at sign that was kept next to text that stood
further behind, as in `@@3x`. What follows the weight is no character of a weight, however, and so
no new weight comes about: one pass is enough.

The normal forms are the texts with single spaces between words, without separators in the words and
without weights. The pass leaves them as they are.

## Main definitions

* `IsNormal`: the bodies in normal form
* `Respaced`: bodies in which runs of separators have been put in the place of single ones

## Main results

* `not_infix_clean`: a cleaned body has no weights
* `normalize_eq_self_iff`: the bodies in normal form are those that normalization keeps
* `normalize_respaced`: how many separators stand between words, and which, does not matter
* `normalize_projects`: normalization is a projection onto the bodies in normal form
-/

namespace VoxelScore.Mini

variable {c : Char} {body s t : Text}

/-! ## Separators and weights -/

/-- A blank is no character of a weight. -/
theorem isWeightChar_of_isBlank (hc : Text.isBlank c) : isWeightChar c = false := by
  have hname := Script.isNameChar_of_isBlank hc
  have hpoint : c ≠ '.' := by
    rintro rfl
    cases hc
  simp only [Script.isNameChar, Bool.or_eq_false_iff] at hname
  simp [isWeightChar, hname, hpoint]

theorem isSeparator_of_isBlank (hc : Text.isBlank c) : isSeparator c := by
  simp [isSeparator, hc]

theorem isSeparator_iff : isSeparator c ↔ c = ',' ∨ c = '<' ∨ c = '>' ∨ Text.isBlank c := by
  simp [isSeparator, or_assoc]

/-- A separator is no character of a weight. -/
theorem isWeightChar_of_isSeparator (hc : isSeparator c) : isWeightChar c = false := by
  rcases isSeparator_iff.mp hc with rfl | rfl | rfl | hb
  · decide
  · decide
  · decide
  · exact isWeightChar_of_isBlank hb

theorem stopsRun_iff {p : Char → Bool} : Text.StopsRun p t ↔ t.head?.any p = false := by
  cases t with
  | nil => simp [Text.StopsRun]
  | cons c t => simp [Text.StopsRun]

/-! ## Cleaning -/

/-- A separator ends a weight, and becomes a space. -/
theorem clean_append_separator (hc : isSeparator c) (dropping : Bool) (w t : Text) :
    clean dropping (w ++ c :: t) = clean dropping w ++ ' ' :: clean false t := by
  have hweight := isWeightChar_of_isSeparator hc
  induction w generalizing dropping with
  | nil =>
    have hat : c ≠ '@' := by
      rintro rfl
      cases hc
    simp [clean, hweight, hat, hc]
  | cons d w ih =>
    -- the separator is no character of a weight: an at sign in front of it is kept, as at the end
    have hhead : (w ++ c :: t).head?.any isWeightChar = w.head?.any isWeightChar := by
      cases w with
      | nil => simp [hweight]
      | cons e w => rfl
    simp only [List.cons_append, clean, hhead, ih]
    split
    · rfl
    · split
      · rfl
      · rfl

/-- Cleaning brings in no characters but spaces, and leaves no other separators. -/
theorem mem_clean {dropping : Bool} (h : c ∈ clean dropping t) :
    c = ' ' ∨ c ∈ t ∧ isSeparator c = false := by
  induction t generalizing dropping with
  | nil => cases h
  | cons d r ih =>
    have behind : ∀ {dropping}, c ∈ clean dropping r → c = ' ' ∨ c ∈ d :: r ∧ isSeparator c = false :=
      fun h => (ih h).imp_right fun ⟨hr, hc⟩ => ⟨List.mem_cons_of_mem d hr, hc⟩
    rw [clean] at h
    split at h
    · exact behind h
    split at h
    · exact behind h
    rcases List.mem_cons.mp h with rfl | h
    · split
      · exact Or.inl rfl
      · next hd => exact Or.inr ⟨List.mem_cons_self, Bool.eq_false_iff.mpr hd⟩
    · exact behind h

/-- Where no character of a weight follows, there is nothing left to drop. -/
theorem clean_of_stops (h : Text.StopsRun isWeightChar t) : clean true t = clean false t := by
  cases t with
  | nil => rfl
  | cons c r =>
    rw [clean, clean, h c rfl]
    rfl

/-- Behind a weight that has been dropped, a cleaned body starts with no character of a weight. -/
theorem stopsRun_clean (t : Text) : Text.StopsRun isWeightChar (clean true t) := by
  induction t with
  | nil => exact Text.stopsRun_nil
  | cons c r ih =>
    rw [clean]
    split
    · exact ih
    next hc =>
    split
    · exact ih
    refine Text.stopsRun_cons ?_
    split
    · rfl
    · simpa using hc

/-- **A cleaned body has no weights.** -/
theorem not_infix_clean (hc : isWeightChar c) (dropping : Bool) (t : Text) :
    ¬ ['@', c] <:+: clean dropping t := by
  induction t generalizing dropping with
  | nil => simp [clean]
  | cons d r ih =>
    rw [clean]
    split
    · exact ih true
    split
    · exact ih true
    next hat =>
    rw [List.infix_cons_iff, not_or]
    refine ⟨fun hp => ?_, ih false⟩
    -- an at sign is kept in front of a text that starts with no character of a weight
    obtain ⟨hd, hnext⟩ := List.cons_prefix_cons.mp hp
    have hd : d = '@' := by
      split at hd
      · cases hd
      · exact hd.symm
    have hstops : Text.StopsRun isWeightChar r := by
      rw [stopsRun_iff]
      simpa [hd] using hat
    rw [← clean_of_stops hstops] at hnext
    obtain ⟨u, hu⟩ := hnext
    have hfalse := stopsRun_clean r c (by rw [← hu]; rfl)
    rw [hc] at hfalse
    cases hfalse

/-- A body without weights, whose only separators are spaces, is clean. -/
theorem clean_eq_self (hs : ∀ c ∈ t, isSeparator c → c = ' ')
    (hw : ∀ c, isWeightChar c → ¬ ['@', c] <:+: t) : clean false t = t := by
  induction t with
  | nil => rfl
  | cons c r ih =>
    have hr : clean false r = r := by
      refine ih (fun d hd => hs d (List.mem_cons_of_mem c hd)) fun d hd h => hw d hd ?_
      exact List.infix_cons h
    have hat : ¬ (c = '@' && r.head?.any isWeightChar) := by
      rw [Bool.and_eq_true, decide_eq_true_eq, Option.any_eq_true]
      rintro ⟨rfl, d, hd, hweight⟩
      obtain ⟨u, rfl⟩ := List.head?_eq_some_iff.mp hd
      exact hw d hweight (List.prefix_append ['@', d] u).isInfix
    rw [clean, Bool.false_and, if_neg Bool.false_ne_true, if_neg hat, hr]
    split
    · next hc => rw [hs c List.mem_cons_self hc]
    · rfl

/-! ## Normal forms -/

/-- **A body in normal form**: words with one space between neighbours, no other separators, and no
at sign with a character of a weight behind it. -/
structure IsNormal (t : Text) : Prop where
  spaced : ∃ ws : List Text, t = [' '].intercalate ws ∧ ∀ w ∈ ws, w ≠ [] ∧ Text.IsSolid w
  separators : ',' ∉ t ∧ '<' ∉ t ∧ '>' ∉ t
  weights : ∀ c, isWeightChar c → ¬ ['@', c] <:+: t

theorem IsNormal.squeeze (h : IsNormal t) : Text.squeeze t = t := by
  obtain ⟨ws, rfl, hws⟩ := h.spaced
  rw [Text.squeeze, Text.words_intercalate hws]

theorem IsNormal.eq_space (h : IsNormal t) (hc : c ∈ t) (hs : isSeparator c) : c = ' ' := by
  rcases isSeparator_iff.mp hs with rfl | rfl | rfl | hb
  · exact absurd hc h.separators.1
  · exact absurd hc h.separators.2.1
  · exact absurd hc h.separators.2.2
  · rw [← h.squeeze] at hc
    exact Text.eq_space_of_mem_squeeze hc hb

theorem IsNormal.clean (h : IsNormal t) : clean false t = t :=
  clean_eq_self (fun _ hc hs => h.eq_space hc hs) h.weights

theorem mem_normalize (h : c ∈ normalize body) : c = ' ' ∨ c ∈ body ∧ isSeparator c = false := by
  by_cases hb : Text.isBlank c
  · exact Or.inl (Text.eq_space_of_mem_squeeze h hb)
  · have hsolid : Text.IsSolid [c] := List.forall_mem_singleton.mpr (Bool.eq_false_iff.mpr hb)
    have hinfix : [c] <:+: normalize body := (List.singleton_infix_iff c _).mpr h
    exact mem_clean ((List.singleton_infix_iff c _).mp (Text.infix_of_squeeze hsolid hinfix))

/-- **Normalization ends in normal forms.** -/
theorem isNormal_normalize (body : Text) : IsNormal (normalize body) where
  spaced := ⟨Text.words (clean false body), rfl, fun _ hw => Text.solid_of_mem_words hw⟩
  separators := by
    have hnone : ∀ c, isSeparator c → c ≠ ' ' → c ∉ normalize body := by
      intro c hs hne hc
      rcases mem_normalize hc with he | ⟨-, hf⟩
      · exact hne he
      · rw [hs] at hf
        cases hf
    exact ⟨hnone ',' rfl (by decide), hnone '<' rfl (by decide), hnone '>' rfl (by decide)⟩
  weights := by
    intro c hc h
    have hsolid : Text.IsSolid ['@', c] := by
      refine List.forall_mem_cons.mpr ⟨rfl, List.forall_mem_singleton.mpr ?_⟩
      rw [Bool.eq_false_iff]
      intro hb
      rw [isWeightChar_of_isBlank hb] at hc
      cases hc
    exact not_infix_clean hc false body (Text.infix_of_squeeze hsolid h)

/-- **The bodies in normal form** are those that normalization keeps. -/
theorem normalize_eq_self_iff : normalize t = t ↔ IsNormal t := by
  constructor
  · intro h
    rw [← h]
    exact isNormal_normalize t
  · intro h
    rw [normalize, h.clean, h.squeeze]

/-! ## Runs of separators -/

/-- **A body written with other separators**: in the place of some separators stand runs of them, one
or more, and all else is as it was. -/
inductive Respaced : Text → Text → Prop
  | last (w : Text) : Respaced w w
  | separator (w : Text) {c : Char} {run s t : Text} (separates : isSeparator c)
      (run_ne_nil : run ≠ []) (run_separates : ∀ d ∈ run, isSeparator d) (behind : Respaced s t) :
      Respaced (w ++ c :: s) (w ++ run ++ t)

/-- The words in front of a run of separators and those behind it. -/
theorem words_clean_run {run : Text} (hne : run ≠ []) (hrun : ∀ d ∈ run, isSeparator d)
    (w t : Text) : Text.words (clean false (w ++ run ++ t)) =
      Text.words (clean false w) ++ Text.words (clean false t) := by
  induction run generalizing w with
  | nil => exact absurd rfl hne
  | cons c run ih =>
    obtain ⟨hc, hrun⟩ := List.forall_mem_cons.mp hrun
    rw [List.append_assoc, List.cons_append, clean_append_separator hc,
      Text.words_append_blank _ _ rfl]
    rcases eq_or_ne run [] with rfl | hnil
    · rfl
    · -- there is no word between the first separator and the others
      have behind := ih hnil hrun []
      rw [List.nil_append] at behind
      rw [behind]
      rfl

/-- **Which separators stand between words, and how many, does not matter.** -/
theorem normalize_respaced (h : Respaced s t) : normalize t = normalize s := by
  have hwords : Text.words (clean false t) = Text.words (clean false s) := by
    induction h with
    | last w => rfl
    | @separator w c run s t hc hne hrun _ ih =>
      have single := words_clean_run (List.cons_ne_nil c []) (List.forall_mem_singleton.mpr hc) w s
      rw [words_clean_run hne hrun, ih, ← single, List.append_assoc, List.singleton_append]
  rw [normalize, normalize, Text.squeeze, Text.squeeze, hwords]

/-! ## Projection -/

/-- **Normalization is a projection onto the bodies in normal form.** A second pass changes nothing,
so that a body and its normal form have the same steps, and neither do the separators that the
body is written with. -/
theorem normalize_projects (body : Text) :
    normalize (normalize body) = normalize body ∧ IsNormal (normalize body) ∧
      steps (normalize body) = steps body ∧
      ∀ respaced, Respaced body respaced → normalize respaced = normalize body := by
  have fixed : normalize (normalize body) = normalize body :=
    normalize_eq_self_iff.mpr (isNormal_normalize body)
  refine ⟨fixed, isNormal_normalize body, ?_, fun _ => normalize_respaced⟩
  rw [steps, figures, fixed]
  rfl

/-- Dropping the first weight brings an at sign that is kept in front of the second one. -/
theorem normalize_projects_weights :
    Respaced "@@3@@x.y,z".toList "@@3@@x.y\t,<z".toList ∧
      normalize "@@3@@x.y\t,<z".toList = "@@ z".toList := by
  have hrun : ∀ d ∈ "\t,<".toList, isSeparator d := List.all_eq_true.mp rfl
  have respaced : Respaced ("@@3@@x.y".toList ++ ',' :: "z".toList)
      ("@@3@@x.y".toList ++ "\t,<".toList ++ "z".toList) :=
    .separator _ rfl (by decide) hrun (.last _)
  have normal : normalize "@@3@@x.y,z".toList = "@@ z".toList := rfl
  obtain ⟨-, -, -, same⟩ := normalize_projects "@@3@@x.y,z".toList
  exact ⟨respaced, (same _ respaced).trans normal⟩

end VoxelScore.Mini
