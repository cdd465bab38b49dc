import Mathlib.Data.List.Infix
import VoxelScore.Proofs.Script.Continuation

/-!
# Comments as blanks

A comment between tokens may be replaced by a space. The tokens stay, for a token ends in front of
a space as it does in front of a comment, and so do the calls and the texts of their arguments, up
to the comments in them.

## Main definitions

* `blanked`: a gap with a space in the place of every comment
* `blankComments`: a text with a space in the place of every comment between tokens
* `AgreesToGap`: texts that agree up to a gap in both of them

## Main results

* `agreesToGap_blankComments`: where a text changes first, both texts have a gap
* `Scan.ofText_blankComments`: the scan of a text with its comments replaced
* `Call.ofText_blankComments`: the calls of such a text
-/

namespace VoxelScore.Script

variable {c : Char} {g r t v w gap written rest : Text} {token : Token}

/-! ## Gaps -/

/-- A gap with a space in the place of every comment, for a reader that stands in code or in a
comment. The line break behind a comment is no part of it. -/
def blankedIn : TriviaMode → Text → Text
  | .code, '/' :: '/' :: r => ' ' :: blankedIn .lineComment r
  | .code, '/' :: '*' :: r => ' ' :: blankedIn .blockComment r
  | .code, c :: r => c :: blankedIn .code r
  | .lineComment, c :: r => if c = '\n' then c :: blankedIn .code r else blankedIn .lineComment r
  | .blockComment, '*' :: '/' :: r => blankedIn .code r
  | .blockComment, _ :: r => blankedIn .blockComment r
  | _, [] => []

/-- **A gap with a space in the place of every comment.** -/
def blanked (gap : Text) : Text := blankedIn .code gap

example : blanked "\t// a\n/* b */".toList = "\t \n ".toList := by rfl

theorem blankedIn_lineComment (hw : '\n' ∉ w) (t : Text) :
    blankedIn .lineComment (w ++ t) = blankedIn .lineComment t := by
  induction w with
  | nil => rfl
  | cons d w ih =>
    rw [List.mem_cons, not_or] at hw
    rw [List.cons_append, blankedIn, if_neg (Ne.symm hw.1), ih hw.2]

theorem blankedIn_blockComment_cons (hc : ¬ commentEnd <+: c :: r) :
    blankedIn .blockComment (c :: r) = blankedIn .blockComment r := by
  conv_lhs => unfold blankedIn
  split
  all_goals simp_all [commentEnd]

theorem blankedIn_blockComment (hw : ¬ commentEnd <:+: w) (t : Text) :
    blankedIn .blockComment (w ++ (commentEnd ++ t)) = blanked t := by
  induction w with
  | nil => rfl
  | cons d w ih =>
    rw [List.infix_cons_iff, not_or] at hw
    have hp : ¬ commentEnd <+: d :: (w ++ (commentEnd ++ t)) := by
      -- the end of the comment does not start with its slash
      cases w with
      | nil => simp [commentEnd]
      | cons e w => simpa [commentEnd] using hw.1
    rw [List.cons_append, blankedIn_blockComment_cons hp, ih hw.2]

theorem blankedIn_blockComment_open (hw : ¬ commentEnd <:+: w) :
    blankedIn .blockComment w = [] := by
  induction w with
  | nil => rfl
  | cons d w ih =>
    rw [List.infix_cons_iff, not_or] at hw
    rw [blankedIn_blockComment_cons hw.1, ih hw.2]

theorem blanked_cons_blank (hb : Text.isBlank c) (t : Text) :
    blanked (c :: t) = c :: blanked t := by
  have hc : c ≠ '/' := by
    rintro rfl
    exact absurd hb (by decide)
  conv_lhs => unfold blanked blankedIn
  split
  all_goals simp_all [blanked]

/-- A blank stays, and blanks stand for a comment. -/
theorem TriviaItem.blanked_append (h : TriviaItem g) (t : Text) :
    ∃ b s, Text.isBlank b ∧ (∀ c ∈ s, Text.isBlank c) ∧ blanked (g ++ t) = b :: s ++ blanked t := by
  cases h with
  | @blank c hb =>
    refine ⟨c, [], hb, by simp, ?_⟩
    rw [List.singleton_append, blanked_cons_blank hb]
    rfl
  | @lineComment w hw =>
    refine ⟨' ', ['\n'], by decide, List.forall_mem_singleton.mpr (by decide), ?_⟩
    rw [List.cons_append, List.cons_append, List.append_assoc, blanked, blankedIn,
      blankedIn_lineComment hw]
    rfl
  | @blockComment w hw =>
    refine ⟨' ', [], by decide, by simp, ?_⟩
    rw [List.cons_append, List.cons_append, List.append_assoc, blanked, blankedIn,
      blankedIn_blockComment hw]
    rfl

theorem OpenComment.blanked_eq (h : OpenComment w) : blanked w = [' '] := by
  cases h with
  | line hw =>
    have hopen := blankedIn_lineComment hw []
    rw [List.append_nil] at hopen
    rw [blanked, blankedIn, hopen]
    rfl
  | block hw => rw [blanked, blankedIn, blankedIn_blockComment_open hw]

/-- Nothing but blanks is left of a gap. -/
theorem Trivia.isBlank_blanked_append (h : Trivia g) (ht : ∀ c ∈ blanked t, Text.isBlank c) :
    ∀ c ∈ blanked (g ++ t), Text.isBlank c := by
  induction h with
  | nil => exact ht
  | cons item _ ih =>
    obtain ⟨b, s, hb, hs, he⟩ := item.blanked_append (_ ++ t)
    rw [List.append_assoc, he, List.forall_mem_append, List.forall_mem_cons]
    exact ⟨⟨hb, hs⟩, ih⟩

theorem LastGap.isBlank_blanked (h : LastGap g) : ∀ c ∈ blanked g, Text.isBlank c := by
  cases h with
  | closed trivia =>
    have hb := trivia.isBlank_blanked_append (t := []) (by simp [blanked, blankedIn])
    rwa [List.append_nil] at hb
  | opened trivia comment =>
    refine trivia.isBlank_blanked_append ?_
    rw [comment.blanked_eq, List.forall_mem_singleton]
    decide

/-- Blanks are a gap. -/
theorem trivia_of_isBlank (h : ∀ c ∈ g, Text.isBlank c) : Trivia g := by
  induction g with
  | nil => exact .nil
  | cons c g ih =>
    rw [List.forall_mem_cons] at h
    exact .cons (.blank h.1) (ih h.2)

theorem LastGap.trivia_blanked (h : LastGap g) : Trivia (blanked g) :=
  trivia_of_isBlank h.isBlank_blanked

/-- A character that a gap starts with. -/
def isGapStart (c : Char) : Bool := Text.isBlank c || c = '/'

theorem TriviaItem.exists_start (h : TriviaItem g) : ∃ d r, g = d :: r ∧ isGapStart d := by
  cases h with
  | blank hb => exact ⟨_, _, rfl, by simp [isGapStart, hb]⟩
  | lineComment _ => exact ⟨_, _, rfl, by decide⟩
  | blockComment _ => exact ⟨_, _, rfl, by decide⟩

theorem OpenComment.exists_start (h : OpenComment w) : ∃ d r, w = d :: r ∧ isGapStart d := by
  cases h with
  | line _ => exact ⟨_, _, rfl, by decide⟩
  | block _ => exact ⟨_, _, rfl, by decide⟩

/-- A gap stays empty, or a blank stands in the place of its start. -/
theorem LastGap.blanked_cases (h : LastGap g) :
    g = [] ∧ blanked g = [] ∨
      ∃ b s d r, blanked g = b :: s ∧ Text.isBlank b ∧ g = d :: r ∧ isGapStart d := by
  rcases trivia_cases g with hstops | hcomment | ⟨item, t, hitem, rfl⟩
  · have hg : g = [] := by
      have hsplit := hstops.splitTrivia
      rw [h.splitTrivia] at hsplit
      exact (Prod.mk.inj hsplit).1
    rw [hg]
    exact .inl ⟨rfl, rfl⟩
  · obtain ⟨d, r, he, hd⟩ := hcomment.exists_start
    exact .inr ⟨' ', [], d, r, hcomment.blanked_eq, by decide, he, hd⟩
  · obtain ⟨d, r, rfl, hd⟩ := hitem.exists_start
    obtain ⟨b, s, hb, -, he⟩ := hitem.blanked_append t
    exact .inr ⟨b, _, d, _, he, hb, rfl, hd⟩

/-! ## Texts -/

/-- The piece with a space in the place of every comment of its gap. -/
def Piece.blanked (p : Piece) : Piece := ⟨Script.blanked p.gap, p.lexeme, p.token⟩

/-- The ending with a space in the place of every comment of its gap. -/
def Ending.blanked : Ending → Ending
  | .complete gap => .complete (Script.blanked gap)
  | .unclosed gap rest => .unclosed (Script.blanked gap) rest

/-- The scan with a space in the place of every comment. -/
def Scan.blanked (s : Scan) : Scan := ⟨s.pieces.map Piece.blanked, s.ending.blanked⟩

/-- **The text with a space in the place of every comment** that is not read as part of a token or
of a literal that stays open. -/
def blankComments (t : Text) : Text := (Scan.ofText t).blanked.text

theorem blankComments_done (hg : splitTrivia t = (gap, [])) : blankComments t = blanked gap := by
  rw [blankComments, Scan.ofText_done hg]
  rfl

theorem blankComments_fault (hg : splitTrivia t = (gap, c :: r)) (ht : token? c r = none) :
    blankComments t = blanked gap ++ c :: r := by
  rw [blankComments, Scan.ofText_fault hg ht]
  rfl

theorem blankComments_token (hg : splitTrivia t = (gap, c :: r))
    (ht : token? c r = some (token, written, rest)) :
    blankComments t = blanked gap ++ (c :: written) ++ blankComments rest := by
  rw [blankComments, Scan.ofText_token hg ht]
  simp [Scan.blanked, Scan.cons, Scan.text, piecesText, Piece.text, Piece.blanked, blankComments]

/-- **The texts agree up to a gap**: they are the same, or one has a blank in the place where the
other one has a gap. -/
inductive AgreesToGap : Text → Text → Prop
  | same (t : Text) : AgreesToGap t t
  | gap (front : Text) {b d : Char} (s r : Text) (blank : Text.isBlank b) (start : isGapStart d) :
      AgreesToGap (front ++ b :: s) (front ++ d :: r)

namespace AgreesToGap

theorem append (h : AgreesToGap v t) (front : Text) : AgreesToGap (front ++ v) (front ++ t) := by
  cases h with
  | same => exact .same _
  | gap front' s r blank start =>
    rw [← List.append_assoc, ← List.append_assoc]
    exact .gap _ s r blank start

theorem startsLike (h : AgreesToGap v t) : StartsLike v t := by
  cases h with
  | same => exact .of_isPrefix (List.prefix_refl _)
  | gap front s r blank start =>
    exact (StartsLike.of_break (by rw [isBreak, blank]; rfl) s _).append front

/-- Runs of a class that no gap starts with are the same. -/
theorem takeWhile {p : Char → Bool} (h : AgreesToGap v t)
    (hp : ∀ c, p c → isGapStart c = false) : v.takeWhile p = t.takeWhile p := by
  have hstops : ∀ {c}, isGapStart c → ∀ r, Text.StopsRun p (c :: r) := by
    intro c hc r
    refine Text.stopsRun_cons (Bool.eq_false_iff.mpr fun hpc => ?_)
    rw [hp c hpc] at hc
    cases hc
  cases h with
  | same => rfl
  | gap front s r blank start =>
    rw [Text.takeWhile_append_of_stops front (hstops (by rw [isGapStart, blank]; rfl) s),
      Text.takeWhile_append_of_stops front (hstops start r)]

end AgreesToGap

theorem LastGap.agreesToGap (h : LastGap gap) (hv : AgreesToGap v t) :
    AgreesToGap (blanked gap ++ v) (gap ++ t) := by
  rcases h.blanked_cases with ⟨rfl, he⟩ | ⟨b, s, d, r, he, hb, rfl, hd⟩
  · rw [he]
    exact hv
  · rw [he]
    exact .gap [] _ _ hb hd

/-- **A text changes first where it has a gap**, and there the new text has a blank. -/
theorem agreesToGap_blankComments (t : Text) : AgreesToGap (blankComments t) t := by
  fun_induction Scan.ofText t with
  | case1 t gap hg =>
    have hgap := splitTrivia_append t
    rw [hg] at hgap
    rw [blankComments_done hg, ← hgap, ← List.append_nil (blanked gap)]
    exact (lastGap_of_splitTrivia hg).agreesToGap (.same [])
  | case2 t gap c r hg ht =>
    rw [blankComments_fault hg ht, ← text_eq_of_fault hg]
    exact (LastGap.closed (trivia_of_splitTrivia hg).1).agreesToGap (.same _)
  | case3 t gap c r hg token written rest ht ih =>
    rw [blankComments_token hg ht, ← text_eq_of_token hg ht, List.append_assoc, List.append_assoc]
    exact (LastGap.closed (trivia_of_splitTrivia hg).1).agreesToGap (ih.append _)

/-- **The scan of a text with its comments replaced** has the same tokens. -/
theorem Scan.ofText_blankComments (t : Text) : ofText (blankComments t) = (ofText t).blanked := by
  fun_induction ofText t with
  | case1 t gap hg =>
    rw [blankComments_done hg]
    exact (LastGap.closed (lastGap_of_splitTrivia hg).trivia_blanked).isGapAlone
  | case2 t gap c r hg ht =>
    obtain ⟨htrivia, hstops⟩ := trivia_of_splitTrivia hg
    rw [blankComments_fault hg ht]
    exact ofText_fault ((LastGap.closed htrivia).trivia_blanked.splitTrivia_of_stops hstops) ht
  | case3 t gap c r hg token written rest ht ih =>
    have hgap := (LastGap.closed (trivia_of_splitTrivia hg).1).trivia_blanked
    rw [blankComments_token hg ht,
      ofText_token_startsLike hg ht (agreesToGap_blankComments rest).startsLike hgap, ih]
    rfl

/-! ## Calls -/

/-- The call with a space in the place of every comment of its arguments. -/
def Call.blanked (call : Call) : Call :=
  ⟨call.name, call.arguments.map Piece.blanked, blankComments call.raw⟩

/-- **The calls of a text with its comments replaced** are its calls, with the comments in their
arguments replaced. -/
theorem Call.ofText_blankComments (t : Text) :
    ofText (blankComments t) = (ofText t).map Call.blanked := by
  unfold ofText
  rw [Scan.ofText_blankComments]
  refine calls_map (f := Piece.blanked) (g := blankComments) (fun _ => .inl rfl) _ ?_
  intro arguments close ys h
  rw [blankComments, Scan.ofText_between h]
  rfl

end VoxelScore.Script
