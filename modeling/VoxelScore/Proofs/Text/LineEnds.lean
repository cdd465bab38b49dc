import VoxelScore.Proofs.Text.Trimming

/-!
# Line ends

A line ends in a line feed, or in a carriage return and a line feed. Both characters are blanks, and
no class of characters that a scanner looks for tells them apart. So a carriage return in front of
every line feed neither moves the places where a text is cut nor changes its words.

## Main definitions

* `crlf`: the text with a carriage return in front of every line feed

## Main results

* `takeWhile_crlf`, `dropWhile_crlf`: runs of a class that holds both characters or neither
* `prefix_of_crlf`, `infix_of_crlf`: what is found in the text with carriage returns, is found
  without them
* `splitOnce?_crlf`: cutting at a separator
* `trim_crlf`, `words_crlf`: trimming, and the words of a text
-/

namespace VoxelScore.Text

/-- The text with a carriage return in front of every line feed. -/
def crlf (t : Text) : Text := t.flatMap fun c => if c = '\n' then ['\r', '\n'] else [c]

variable {p : Char → Bool} {s t u : Text} {c : Char}

@[simp] theorem crlf_nil : crlf [] = [] := rfl

@[simp] theorem crlf_newline (t : Text) : crlf ('\n' :: t) = '\r' :: '\n' :: crlf t := rfl

theorem crlf_cons (hc : c ≠ '\n') (t : Text) : crlf (c :: t) = c :: crlf t := by
  unfold crlf
  rw [List.flatMap_cons, if_neg hc]
  rfl

@[simp] theorem crlf_append (s t : Text) : crlf (s ++ t) = crlf s ++ crlf t := List.flatMap_append

example : crlf "a\n\r\n".toList = "a\r\n\r\r\n".toList := by rfl

/-- A text of one line stays as it is. -/
theorem crlf_of_not_mem (h : '\n' ∉ t) : crlf t = t := by
  induction t with
  | nil => rfl
  | cons c t ih =>
    rw [List.mem_cons, not_or] at h
    rw [crlf_cons (Ne.symm h.1), ih h.2]

theorem newline_mem_crlf (h : '\n' ∈ t) : '\n' ∈ crlf t := by
  obtain ⟨s, r, rfl⟩ := List.append_of_mem h
  simp

theorem crlf_eq_nil_iff : crlf t = [] ↔ t = [] := by
  constructor
  · intro h
    cases t with
    | nil => rfl
    | cons c t =>
      by_cases hc : c = '\n'
      · simp [hc] at h
      · simp [crlf_cons hc] at h
  · rintro rfl
    rfl

/-! ## Runs -/

/-- A class that holds both characters or neither of them is cut at the same place. -/
theorem run_crlf (hp : p '\r' = p '\n') (t : Text) :
    (crlf t).takeWhile p = crlf (t.takeWhile p) ∧ (crlf t).dropWhile p = crlf (t.dropWhile p) := by
  induction t with
  | nil => exact ⟨rfl, rfl⟩
  | cons c t ih =>
    by_cases hc : c = '\n'
    · by_cases hn : p '\n'
      · simp [hc, hp, hn, ih]
      · simp [hc, hp, hn]
    · by_cases hpc : p c
      · simp [crlf_cons hc, hpc, ih]
      · simp [crlf_cons hc, hpc]

theorem takeWhile_crlf (hp : p '\r' = p '\n') (t : Text) :
    (crlf t).takeWhile p = crlf (t.takeWhile p) := (run_crlf hp t).1

theorem dropWhile_crlf (hp : p '\r' = p '\n') (t : Text) :
    (crlf t).dropWhile p = crlf (t.dropWhile p) := (run_crlf hp t).2

/-- A run of a class without line ends lies within one line. -/
theorem takeWhile_crlf_of_not (hr : p '\r' = false) (hn : p '\n' = false) (t : Text) :
    (crlf t).takeWhile p = t.takeWhile p := by
  rw [takeWhile_crlf (hr.trans hn.symm)]
  refine crlf_of_not_mem ?_
  intro hm
  have h := List.mem_takeWhile_imp hm
  rw [hn] at h
  cases h

theorem takeWhile_isDigit_crlf (t : Text) :
    (crlf t).takeWhile Char.isDigit = t.takeWhile Char.isDigit := takeWhile_crlf_of_not rfl rfl t

theorem dropWhile_isDigit_crlf (t : Text) :
    (crlf t).dropWhile Char.isDigit = crlf (t.dropWhile Char.isDigit) := dropWhile_crlf rfl t

theorem dropEndWhile_crlf (hp : p '\r' = p '\n') (t : Text) :
    dropEndWhile p (crlf t) = crlf (dropEndWhile p t) := by
  -- the characters are dropped from the end, so that is where the induction starts
  induction t using List.reverseRecOn with
  | nil => rfl
  | append_singleton t c ih =>
    by_cases hpc : p c
    · have hall : ∀ d ∈ crlf [c], p d := by
        by_cases hc : c = '\n'
        · subst hc
          simp [hp, hpc]
        · simp [crlf_cons hc, hpc]
      rw [crlf_append, dropEndWhile_append_of_all hall, ih,
        dropEndWhile_append_of_all (by simpa using hpc)]
    · have hkept : ∀ s : Text, dropEndWhile p (s ++ [c]) = s ++ [c] :=
        fun s => List.rdropWhile_concat_neg p s c hpc
      rw [hkept t]
      by_cases hc : c = '\n'
      · subst hc
        have hlast := hkept (crlf t ++ ['\r'])
        simpa using hlast
      · rw [crlf_append, crlf_cons hc, crlf_nil, hkept]

/-! ## Beginnings and parts -/

/-- What the text with carriage returns starts with, it starts with itself. -/
theorem prefix_of_crlf (hr : '\r' ∉ u) (h : u <+: crlf t) : u <+: t := by
  induction u generalizing t with
  | nil => exact List.nil_prefix
  | cons d u ih =>
    rw [List.mem_cons, not_or] at hr
    cases t with
    | nil => simp at h
    | cons c t =>
      by_cases hc : c = '\n'
      · rw [hc, crlf_newline, List.cons_prefix_cons] at h
        exact absurd h.1.symm hr.1
      · rw [crlf_cons hc, List.cons_prefix_cons] at h
        exact List.cons_prefix_cons.mpr ⟨h.1, ih hr.2 h.2⟩

/-- What stands in the text with carriage returns, stands in the text itself. -/
theorem infix_of_crlf (hr : '\r' ∉ u) (hn : '\n' ∉ u) (h : u <:+: crlf t) : u <:+: t := by
  induction t with
  | nil => simpa using h
  | cons c t ih =>
    rw [List.infix_cons_iff]
    by_cases hc : c = '\n'
    · rw [hc, crlf_newline, List.infix_cons_iff, List.infix_cons_iff] at h
      rcases h with h | h | h
      -- it cannot start with either character of the line end
      · exact Or.inl (by rw [hc]; exact prefix_of_crlf hr h)
      · cases u with
        | nil => exact Or.inl List.nil_prefix
        | cons d u =>
          rw [List.cons_prefix_cons] at h
          exact absurd (h.1 ▸ List.mem_cons_self) hn
      · exact Or.inr (ih h)
    · rw [crlf_cons hc, List.infix_cons_iff] at h
      rcases h with h | h
      · exact Or.inl (prefix_of_crlf hr (by rwa [crlf_cons hc]))
      · exact Or.inr (ih h)

/-- A beginning of one line is found, or not, in front of the same text. -/
theorem isPrefixOf?_crlf (hr : '\r' ∉ u) (hn : '\n' ∉ u) (t : Text) :
    u.isPrefixOf? (crlf t) = (u.isPrefixOf? t).map crlf := by
  induction u generalizing t with
  | nil => rfl
  | cons d u ih =>
    rw [List.mem_cons, not_or] at hr hn
    cases t with
    | nil => rfl
    | cons c t =>
      by_cases hc : c = '\n'
      · have hdr : ¬ (d == '\r') = true := fun he => hr.1 (eq_of_beq he).symm
        have hdn : ¬ (d == '\n') = true := fun he => hn.1 (eq_of_beq he).symm
        subst hc
        show (if d == '\r' then u.isPrefixOf? _ else none) =
          (if d == '\n' then u.isPrefixOf? t else none).map crlf
        rw [if_neg hdr, if_neg hdn]
        rfl
      · rw [crlf_cons hc]
        show (if d == c then u.isPrefixOf? (crlf t) else none) =
          (if d == c then u.isPrefixOf? t else none).map crlf
        split
        · exact ih hr.2 hn.2 t
        · rfl

/-- A separator other than the characters of a line end separates the same texts. -/
theorem splitOnce?_crlf {separator : Char} (hr : separator ≠ '\r') (hn : separator ≠ '\n')
    (t : Text) : splitOnce? separator (crlf t) =
      (splitOnce? separator t).map fun (before, after) => (crlf before, crlf after) := by
  induction t with
  | nil => rfl
  | cons c t ih =>
    by_cases hc : c = '\n'
    · rw [hc, crlf_newline, splitOnce?, if_neg hr.symm, splitOnce?, if_neg hn.symm, ih, splitOnce?,
        if_neg hn.symm]
      simp only [Option.map_map]
      rfl
    · rw [crlf_cons hc, splitOnce?, splitOnce?]
      split
      · rfl
      · rw [ih]
        rcases splitOnce? separator t with _ | ⟨before, after⟩
        · rfl
        · simp [crlf_cons hc]

/-! ## Blanks and words -/

theorem trimStart_crlf (t : Text) : trimStart (crlf t) = crlf (trimStart t) :=
  dropWhile_crlf rfl t

/-- **Trimming does not tell line ends apart.** -/
theorem trim_crlf (t : Text) : trim (crlf t) = crlf (trim t) := by
  unfold trim
  rw [trimStart_crlf, dropEndWhile_crlf rfl]

/-- **The words of a text** do not depend on its line ends. -/
theorem words_crlf (t : Text) : words (crlf t) = words t := by
  induction t using separator_induction (· == '\n') with
  | last w hw =>
    have hn : '\n' ∉ w := by
      intro hm
      simpa using hw '\n' hm
    rw [crlf_of_not_mem hn]
  | separator w c t hw hc ih =>
    have hn : '\n' ∉ w := by
      intro hm
      simpa using hw '\n' hm
    obtain rfl : c = '\n' := eq_of_beq hc
    -- between the two characters of a line end there is no word
    have hempty := words_append_blank [] (crlf t) (show isBlank '\n' from rfl)
    rw [crlf_append, crlf_newline, crlf_of_not_mem hn, words_append_blank _ _ rfl,
      words_append_blank _ _ rfl, ← ih, ← List.nil_append ('\n' :: crlf t), hempty]
    rfl

theorem squeeze_crlf (t : Text) : squeeze (crlf t) = squeeze t := by
  unfold squeeze
  rw [words_crlf]

end VoxelScore.Text
