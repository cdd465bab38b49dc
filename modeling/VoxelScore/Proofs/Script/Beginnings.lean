import VoxelScore.Proofs.Script.CallText
import VoxelScore.Proofs.Script.Scanning

/-!
# Beginnings of texts

A token is read to its end and no further, so that it depends on the text behind it only as far as
that text might go on with it. Neither a name, a number nor the start of a comment goes on over a
blank or a closing parenthesis. Two texts that start alike up to such a character therefore follow
the same tokens: one is a beginning of the other, or both agree up to a closing parenthesis, or one
has a blank where the other one has a comment.

## Main definitions

* `isBreak`: a character that nothing but a literal or a comment goes on over
* `StartsLike`: a text that starts like another one, up to a break

## Main results

* `token?_startsLike`, `splitTrivia_startsLike`: a token in front of either text and its gap
* `Scan.ofText_token_startsLike`: a piece in front of either text
-/

namespace VoxelScore.Script

variable {b c : Char} {t u v w r rest gap written : Text} {token : Token}

/-- A blank or a closing parenthesis. -/
def isBreak (c : Char) : Bool := Text.isBlank c || c = ')'

/-- **The text starts like another one**: what it starts with is what the other one starts with, up
to a break. -/
def StartsLike (v rest : Text) : Prop :=
  ∀ w, (∀ c ∈ w, isBreak c = false) → w <+: v → w <+: rest

namespace StartsLike

theorem of_isPrefix (h : v <+: rest) : StartsLike v rest := fun _ _ hw => hw.trans h

/-- Behind a break anything may stand. -/
theorem of_break (hb : isBreak b) (v rest : Text) : StartsLike (b :: v) rest := by
  intro w hw hp
  cases w with
  | nil => exact List.nil_prefix
  | cons d w =>
    have hd := hw d List.mem_cons_self
    rw [(List.cons_prefix_cons.mp hp).1, hb] at hd
    cases hd

theorem cons (h : StartsLike v rest) (c : Char) : StartsLike (c :: v) (c :: rest) := by
  intro w hw hp
  cases w with
  | nil => exact List.nil_prefix
  | cons d w =>
    obtain ⟨rfl, hp'⟩ := List.cons_prefix_cons.mp hp
    exact List.cons_prefix_cons.mpr ⟨rfl, h w (fun e he => hw e (List.mem_cons_of_mem _ he)) hp'⟩

theorem append (h : StartsLike v rest) (front : Text) :
    StartsLike (front ++ v) (front ++ rest) := by
  induction front with
  | nil => exact h
  | cons c front ih => exact ih.cons c

/-- Texts that agree up to a closing parenthesis. -/
theorem closing (front v rest : Text) :
    StartsLike (front ++ ')' :: v) (front ++ ')' :: rest) :=
  (of_break rfl v (')' :: rest)).append front

end StartsLike

/-! ## Tokens -/

/-- A run without breaks stops in front of both texts. -/
theorem stopsRun_startsLike {p : Char → Bool} (h : Text.StopsRun p rest)
    (hp : ∀ c, p c → isBreak c = false) (hv : StartsLike v rest) : Text.StopsRun p v := by
  intro c hc
  by_contra hpc
  rw [Bool.not_eq_false] at hpc
  obtain ⟨v, rfl⟩ := List.head?_eq_some_iff.mp hc
  -- the character would stand at the start of the other text too
  obtain ⟨u, rfl⟩ := hv [c] (by simpa using hp c hpc) ⟨v, rfl⟩
  rw [h c rfl] at hpc
  cases hpc

theorem StopsTrivia.startsLike (h : StopsTrivia (c :: rest)) (hv : StartsLike v rest) :
    StopsTrivia (c :: v) where
  blank := h.blank
  lineComment := by
    intro hp
    obtain ⟨hc, hslash⟩ := List.cons_prefix_cons.mp hp
    refine h.lineComment (List.cons_prefix_cons.mpr ⟨hc, hv _ ?_ hslash⟩)
    exact List.forall_mem_singleton.mpr rfl
  blockComment := by
    intro hp
    obtain ⟨hc, hstar⟩ := List.cons_prefix_cons.mp hp
    refine h.blockComment (List.cons_prefix_cons.mpr ⟨hc, hv _ ?_ hstar⟩)
    exact List.forall_mem_singleton.mpr rfl

theorem isBreak_of_isDigit (h : c.isDigit) : isBreak c = false := by
  have hcode : 48 ≤ c.toNat ∧ c.toNat ≤ 57 := by
    simp only [Char.isDigit, Bool.and_eq_true, decide_eq_true_eq, UInt32.le_iff_toNat_le] at h
    exact h
  rw [isBreak, Bool.or_eq_false_iff, decide_eq_false_iff_not]
  constructor
  · simp only [Text.isBlank, Bool.or_eq_false_iff, Bool.and_eq_false_imp, decide_eq_true_eq,
      decide_eq_false_iff_not]
    omega
  · rintro rfl
    exact absurd hcode (by decide)

theorem isBreak_of_isNameChar (h : isNameChar c) : isBreak c = false := by
  rw [isBreak, Bool.or_eq_false_iff, decide_eq_false_iff_not]
  constructor
  · by_contra hb
    rw [isNameChar_of_isBlank (by simpa using hb)] at h
    cases h
  · rintro rfl
    exact absurd h (by decide +kernel)

/-- A run is the same in front of both texts. -/
theorem run_startsLike {p : Char → Bool} (hp : ∀ c, p c → isBreak c = false)
    (h : t.dropWhile p = rest) (hv : StartsLike v rest) :
    (t.takeWhile p ++ v).takeWhile p = t.takeWhile p ∧
      (t.takeWhile p ++ v).dropWhile p = v := by
  have hrun : ∀ c ∈ t.takeWhile p, p c := fun c => List.mem_takeWhile_imp
  have hstops : Text.StopsRun p rest := h ▸ Text.stopsRun_dropWhile p t
  exact ⟨Text.takeWhile_run_append hrun (stopsRun_startsLike hstops hp hv),
    Text.dropWhile_run_append hrun (stopsRun_startsLike hstops hp hv)⟩

theorem splitNumber_startsLike (h : splitNumber r = (written, rest)) (hv : StartsLike v rest) :
    splitNumber (written ++ v) = (written, v) := by
  have hdigit : ∀ c, Char.isDigit c → isBreak c = false := fun c => isBreak_of_isDigit
  by_cases hpoint : ∃ d, d.isDigit ∧ ['.', d] <+: r.dropWhile Char.isDigit
  · obtain ⟨d, hd, w, hw⟩ := hpoint
    rw [splitNumber_of_point hw.symm hd] at h
    obtain ⟨rfl, hrest⟩ := Prod.mk.inj h
    -- the point and the digit behind it are written, so that the run of digits ends as before
    obtain ⟨htake, hdrop⟩ := run_startsLike hdigit hrest hv
    have hdigits : ∀ c ∈ r.takeWhile Char.isDigit, c.isDigit := fun c => List.mem_takeWhile_imp
    have hstops : ∀ v, Text.StopsRun Char.isDigit ('.' :: v) := fun _ => Text.stopsRun_cons rfl
    rw [List.append_assoc, List.cons_append, List.cons_append,
      splitNumber_of_point (Text.dropWhile_run_append hdigits (hstops _)) hd,
      Text.takeWhile_run_append hdigits (hstops _), htake, hdrop]
  · have hnone : ∀ d, d.isDigit → ¬ ['.', d] <+: r.dropWhile Char.isDigit :=
      fun d hd hp => hpoint ⟨d, hd, hp⟩
    rw [splitNumber_of_no_point hnone] at h
    obtain ⟨rfl, hrest⟩ := Prod.mk.inj h
    obtain ⟨htake, hdrop⟩ := run_startsLike hdigit hrest hv
    rw [splitNumber_of_no_point ?_, htake, hdrop]
    intro d hd hp
    -- neither the point nor the digit is a break, so that both stand in the other text too
    have hplain : ∀ c ∈ ['.', d], isBreak c = false := by
      simpa using ⟨rfl, isBreak_of_isDigit hd⟩
    rw [hdrop] at hp
    exact hnone d hd (hrest ▸ hv _ hplain hp)

/-- **A token** is the same in front of both texts. -/
theorem token?_startsLike (h : token? c r = some (token, written, rest)) (hv : StartsLike v rest) :
    token? c (written ++ v) = some (token, written, v) := by
  rcases token?_classes c with ⟨token', hc⟩ | ⟨hq, hc⟩ | hc | hc
  · rw [hc] at h ⊢
    cases h
    rfl
  -- a literal ends at its quote, whatever follows
  · have hb := ne_backslash_of_isQuote hq
    rw [hc] at h
    obtain ⟨⟨contents, written', rest⟩, hr, he⟩ := Option.map_eq_some_iff.mp h
    cases he
    obtain ⟨body, hbody, rfl, -⟩ := (splitLiteral?_eq_some_iff hb).mp hr
    rw [hc, List.append_assoc, List.singleton_append, hbody.splitLiteral? hb]
    rfl
  · rw [hc] at h
    obtain ⟨rfl, hpair⟩ := Prod.mk.inj (Option.some.inj h)
    have hsplit : splitNumber r = (written, rest) := hpair
    rw [hc, splitNumber_startsLike hsplit hv, hsplit]
  · rw [hc] at h
    obtain ⟨rfl, hpair⟩ := Prod.mk.inj (Option.some.inj h)
    obtain ⟨rfl, hrest⟩ := Prod.mk.inj hpair
    obtain ⟨htake, hdrop⟩ := run_startsLike (fun c => isBreak_of_isNameChar) hrest hv
    rw [hc, htake, hdrop]

/-- **The gap in front of a token** is the same in front of both texts; another gap may take its
place. -/
theorem splitTrivia_startsLike {gap' : Text} (hg : splitTrivia t = (gap, c :: r))
    (ht : token? c r = some (token, written, rest)) (hv : StartsLike v rest) (hg' : Trivia gap') :
    splitTrivia (gap' ++ (c :: written ++ v)) = (gap', c :: written ++ v) := by
  have hstops := (trivia_of_splitTrivia hg).2
  rw [← token?_append ht] at hstops
  exact hg'.splitTrivia_of_stops (hstops.startsLike (hv.append written))

/-! ## Pieces -/

/-- **A piece** is the same in front of both texts, also behind another gap. -/
theorem Scan.ofText_token_startsLike {gap' : Text} (hg : splitTrivia t = (gap, c :: r))
    (ht : token? c r = some (token, written, rest)) (hv : StartsLike v rest) (hg' : Trivia gap') :
    ofText (gap' ++ (c :: written) ++ v) = (ofText v).cons ⟨gap', c :: written, token⟩ := by
  rw [List.append_assoc]
  exact ofText_token (splitTrivia_startsLike hg ht hv hg') (token?_startsLike ht hv)

end VoxelScore.Script
