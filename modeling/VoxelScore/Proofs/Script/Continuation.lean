import VoxelScore.Proofs.Script.Beginnings
import VoxelScore.Proofs.Script.Calls
import VoxelScore.Proofs.Script.Locality
import VoxelScore.Proofs.Script.Tiling

/-!
# Modifier text that goes on

The calls of a modifier text are found from its front on, and a call is complete with its closing
parenthesis. Whatever stands behind that parenthesis, the call is found there again: more text adds
calls behind those that a text has, and neither a parenthesis nor a literal that stays open takes
one away.

## Main results

* `Scan.ofText_append`: more text leaves the pieces as they are up to the last closing parenthesis
* `Scan.ofText_front`: the front of a text is read alike in front of less text
* `Call.ofText_prefix`: more text adds calls behind the others
* `Call.exists_front_of_openParen`, `Call.exists_front_of_literal`: what stands open adds calls
  behind the others, or none
-/

namespace VoxelScore.Script

variable {xs ys : List Piece} {p : Piece} {t : Text}

/-! ## Scans -/

theorem token?_eq_openParen {c : Char} {r written rest : Text}
    (h : token? c r = some (.openParen, written, rest)) : c = '(' ∧ written = [] := by
  unfold token? at h
  split_ifs at h
  all_goals simp_all

namespace Scan

/-- A scan with a first piece has read that piece. -/
theorem ofText_eq_cons {s : Scan} (h : ofText t = s.cons p) :
    ∃ c r written rest, splitTrivia t = (p.gap, c :: r) ∧ p.lexeme = c :: written ∧
      token? c r = some (p.token, written, rest) ∧ ofText rest = s := by
  fun_cases ofText t with
  | case1 gap hg => rw [ofText_done hg] at h; cases h
  | case2 gap c r hg ht => rw [ofText_fault hg ht] at h; cases h
  | case3 gap c r hg token written rest ht =>
    rw [ofText_token hg ht] at h
    obtain ⟨hp, hs⟩ := Scan.mk.inj h
    obtain ⟨rfl, hr⟩ := List.cons.inj hp
    refine ⟨c, r, written, rest, hg, rfl, ht, ?_⟩
    rcases s with ⟨pieces, ending⟩
    exact Scan.mk.injEq _ _ _ _ ▸ ⟨hr, hs⟩

/-- **More text leaves the pieces as they are** up to the last closing parenthesis. -/
theorem ofText_append (t u : Text) :
    ∃ xs ys zs, (ofText t).pieces = xs ++ ys ∧ (ofText (t ++ u)).pieces = xs ++ zs ∧
      (∀ p ∈ ys, p.token ≠ .closeParen) ∧ (xs ≠ [] → StartsLike (t ++ u) t) := by
  fun_induction ofText t with
  | case1 t gap hg => exact ⟨[], [], _, rfl, rfl, by simp, by simp⟩
  | case2 t gap c r hg ht => exact ⟨[], [], _, rfl, rfl, by simp, by simp⟩
  | case3 t gap c r hg token written rest ht ih =>
    obtain ⟨xs, ys, zs, hxs, hzs, hys, hstarts⟩ := ih
    have htext := text_eq_of_token hg ht
    by_cases hkept : token = .closeParen ∨ xs ≠ []
    · -- a closing parenthesis is in the text from here on
      have hpiece : ofText (t ++ u) = (ofText (rest ++ u)).cons ⟨gap, c :: written, token⟩ ∧
          StartsLike (t ++ u) t := by
        rw [← htext, List.append_assoc]
        rcases hkept with rfl | hne
        · obtain ⟨rfl, rfl, rfl⟩ := token?_eq_closeParen ht
          rw [List.append_assoc, List.append_assoc]
          exact ⟨ofText_token ((trivia_of_splitTrivia hg).1.splitTrivia_of_stops
            (stopsTrivia_cons (by decide) (by decide))) rfl, .closing gap (rest ++ u) rest⟩
        · exact ⟨ofText_token_startsLike hg ht (hstarts hne) (trivia_of_splitTrivia hg).1,
            (hstarts hne).append _⟩
      refine ⟨⟨gap, c :: written, token⟩ :: xs, ys, zs, ?_, ?_, hys, fun _ => hpiece.2⟩
      · rw [cons, hxs, List.cons_append]
      · rw [hpiece.1, cons, hzs, List.cons_append]
    · rw [not_or, not_not] at hkept
      obtain ⟨hclose, rfl⟩ := hkept
      refine ⟨[], ⟨gap, c :: written, token⟩ :: ys, _, ?_, rfl, ?_, by simp⟩
      · rw [cons, hxs]
        rfl
      · exact List.forall_mem_cons.mpr ⟨hclose, hys⟩

/-- **The front of a text**: what has been read up to some piece is read so in front of any
beginning of what stands behind it. -/
theorem ofText_front (h : (ofText t).pieces = xs ++ ys) :
    ∃ v, t = piecesText xs ++ v ∧ ofText v = ⟨ys, (ofText t).ending⟩ ∧
      ∀ w, w <+: v →
        ofText (piecesText xs ++ w) = ⟨xs ++ (ofText w).pieces, (ofText w).ending⟩ := by
  induction xs generalizing t with
  | nil => exact ⟨t, rfl, by rw [← List.nil_append ys, ← h], fun _ _ => rfl⟩
  | cons p xs ih =>
    have hcons : ofText t = Scan.cons p ⟨xs ++ ys, (ofText t).ending⟩ := by
      rw [cons, ← List.cons_append, ← h]
    obtain ⟨c, r, written, rest, hg, hl, ht, hrest⟩ := ofText_eq_cons hcons
    obtain ⟨v, rfl, hv, hw⟩ := ih (congrArg Scan.pieces hrest)
    have htext : ∀ w,
        piecesText (p :: xs) ++ w = p.gap ++ (c :: written) ++ (piecesText xs ++ w) := by
      intro w
      simp [piecesText, Piece.text, hl]
    refine ⟨v, ?_, ?_, ?_⟩
    · rw [htext, text_eq_of_token hg ht]
    · rw [hv, hrest]
    · rintro w ⟨u, rfl⟩
      have hstarts : StartsLike (piecesText xs ++ w) (piecesText xs ++ (w ++ u)) :=
        (StartsLike.of_isPrefix (List.prefix_append w u)).append _
      rw [htext, ofText_token_startsLike hg ht hstarts (trivia_of_splitTrivia hg).1,
        hw w (List.prefix_append w u), ← hl]
      rfl

theorem trivia_gap_of_mem (h : p ∈ (ofText t).pieces) : Trivia p.gap := by
  fun_induction ofText t with
  | case1 => cases h
  | case2 => cases h
  | case3 t gap c r hg token written rest ht ih =>
    rcases List.mem_cons.mp h with rfl | h
    · exact (trivia_of_splitTrivia hg).1
    · exact ih h

/-- In front of a gap the text ends with the pieces in front of the gap. -/
theorem ofText_front_gap (h : (ofText t).pieces = xs ++ ys) {gap v : Text} (hg : Trivia gap)
    (hv : text ⟨ys, (ofText t).ending⟩ = gap ++ v) :
    t = piecesText xs ++ gap ++ v ∧ ofText (piecesText xs ++ gap) = ⟨xs, .complete gap⟩ := by
  obtain ⟨w, ht, hw, hfront⟩ := ofText_front h
  have hgv : w = gap ++ v := by rw [← text_ofText w, hw, hv]
  refine ⟨by rw [ht, hgv, List.append_assoc], ?_⟩
  rw [hfront gap (hgv ▸ List.prefix_append gap v), (LastGap.closed hg).isGapAlone, List.append_nil]

/-- What stands between two places of a text is read alike on its own. -/
theorem ofText_between (h : xs ++ p :: ys <:+ (ofText t).pieces) :
    ofText (piecesText xs ++ p.gap) = ⟨xs, .complete p.gap⟩ := by
  obtain ⟨front, hfront⟩ := h
  obtain ⟨v, -, hv, -⟩ := ofText_front hfront.symm
  have hpieces : (ofText v).pieces = xs ++ p :: ys := congrArg pieces hv
  have hg : Trivia p.gap := by
    apply trivia_gap_of_mem (t := v)
    rw [hpieces]
    exact List.mem_append_right xs List.mem_cons_self
  refine (ofText_front_gap (v := p.lexeme ++ text ⟨ys, (ofText v).ending⟩) hpieces hg ?_).2
  simp [text, piecesText, Piece.text]

end Scan

/-! ## Calls -/

/-- **More text adds calls behind the others**, whatever stands in it. -/
theorem Call.ofText_prefix (t u : Text) : ofText t <+: ofText (t ++ u) := by
  obtain ⟨xs, ys, zs, hxs, hzs, hys, -⟩ := Scan.ofText_append t u
  unfold ofText
  rw [hxs, hzs, calls_append_of_no_close hys]
  exact calls_prefix_append xs zs

/-- **A literal that stays open** neither adds a call nor takes one away. -/
theorem Call.exists_front_of_literal {gap r : Text}
    (h : (Scan.ofText t).ending = .unclosed gap r) :
    ∃ front, t = front ++ r ∧ ofText t = ofText front := by
  have hg : Trivia gap := by
    have hsound := isSound_ending t
    rw [h] at hsound
    cases hsound with
    | unclosed trivia _ _ => exact trivia
  have htext : Scan.text ⟨[], (Scan.ofText t).ending⟩ = gap ++ r := by
    rw [h]
    rfl
  obtain ⟨ht, hfront⟩ := Scan.ofText_front_gap (List.append_nil _).symm hg htext
  refine ⟨_, ht, ?_⟩
  unfold ofText
  rw [hfront]

/-- **A parenthesis that stays open** takes no call away in front of it. The calls behind it count
as well, unless they stand in a call that stays open. -/
theorem Call.exists_front_of_openParen (h : (Scan.ofText t).pieces = xs ++ p :: ys)
    (hp : p.token = .openParen) (hys : splitArguments? 0 ys = none) :
    ∃ front behind, t = front ++ '(' :: behind ∧ (Scan.ofText front).pieces = xs ∧
      (ofText t = ofText front ∨ ofText t = ofText front ++ calls ys) := by
  obtain ⟨v, -, hv, -⟩ := Scan.ofText_front h
  obtain ⟨c, r, written, rest, hg, hl, htoken, -⟩ :=
    Scan.ofText_eq_cons (p := p) (s := ⟨ys, (Scan.ofText t).ending⟩) hv
  rw [hp] at htoken
  obtain ⟨rfl, rfl⟩ := token?_eq_openParen htoken
  have htext : Scan.text ⟨p :: ys, (Scan.ofText t).ending⟩ =
      p.gap ++ '(' :: Scan.text ⟨ys, (Scan.ofText t).ending⟩ := by
    simp [Scan.text, piecesText, Piece.text, hl]
  obtain ⟨ht, hfront⟩ := Scan.ofText_front_gap h (trivia_of_splitTrivia hg).1 htext
  refine ⟨_, _, ht, congrArg Scan.pieces hfront, ?_⟩
  unfold ofText
  rw [h, hfront]
  exact calls_append_openParen hp hys xs

end VoxelScore.Script
