import Mathlib
import VoxelScore.Proofs.Script.Beginnings

/-!
# Locality of calls

The call of a statement is found without looking past its closing parenthesis. Lexing alone is not
compositional: a name, a number, a slash or an open literal at the end of a text may go on into
what is put behind it. But in front of the closing parenthesis of the call everything is settled,
for no gap, no name and no number reaches over a parenthesis.

Texts are compared that agree up to a closing parenthesis and differ behind it in any way.

## Main results

* `Block.readFrom_behind`: a reading that finds a call
* `Block.parse_append`: text put behind a statement becomes part of the modifiers of its block
-/

namespace VoxelScore.Script

variable {c : Char} {t r u written : Text}

theorem token?_eq_closeParen (h : token? c r = some (.closeParen, written, u)) :
    c = ')' ∧ written = [] ∧ u = r := by
  unfold token? at h
  split_ifs at h
  all_goals simp_all

namespace Block

variable {b : Block} {p : Cursor} {seen : List Placed}

theorem atEnd_ne_some (seen : List Placed) (b : Block) : atEnd seen ≠ .ok (some b) := by
  unfold atEnd
  split
  · simp
  · simp

/-- A call ends with its closing parenthesis. -/
theorem token_of_endingCall? {x : Placed} {call : Kind × Text}
    (h : endingCall? (x :: seen) = some call) : x.token = .closeParen := by
  unfold endingCall? at h
  split at h
  · next he => cases he; rfl
  · cases h

/-- **A reading that finds a call** finds it in the text up to a closing parenthesis, and hands on
what stands behind it, whatever that is. -/
theorem readFrom_behind (h : readFrom seen p t = .ok (some b)) :
    ∃ front, t = front ++ ')' :: b.modifiers ∧
      ∀ u, readFrom seen p (front ++ ')' :: u) = .ok (some ⟨b.kind, b.body, u⟩) := by
  fun_induction readFrom seen p t with
  | case1 seen p t gap hg => exact absurd h (atEnd_ne_some seen b)
  | case2 seen p t gap c r hg ht => cases h
  | case3 seen p t gap c r hg token written rest ht start stop kind body =>
    -- the token that completes the call is the closing parenthesis
    rename_i hcall
    cases h
    obtain rfl : token = .closeParen := token_of_endingCall? hcall
    obtain ⟨rfl, rfl, rfl⟩ := token?_eq_closeParen ht
    refine ⟨gap, (text_eq_of_fault hg).symm, fun u => ?_⟩
    have hg' : splitTrivia (gap ++ ')' :: u) = (gap, ')' :: u) :=
      (trivia_of_splitTrivia hg).1.splitTrivia_of_stops (stopsTrivia_cons rfl (by decide))
    rw [readFrom_token seen p hg' (show token? ')' u = some (.closeParen, [], u) from rfl), hcall]
  | case4 seen p t gap c r hg token written rest ht start stop hcall =>
    -- a token in front of the call stays the same one, for the parenthesis is still to come
    rename_i ih
    obtain ⟨front, rfl, hbehind⟩ := ih h
    refine ⟨gap ++ (c :: written ++ front), ?_, fun u => ?_⟩
    · rw [← text_eq_of_token hg ht]
      simp only [List.append_assoc]
    · have hstarts := StartsLike.closing front u b.modifiers
      have hg' := splitTrivia_startsLike hg ht hstarts (trivia_of_splitTrivia hg).1
      rw [List.append_assoc gap, List.append_assoc (c :: written),
        readFrom_token seen p hg' (token?_startsLike ht hstarts), hcall]
      exact hbehind u

/-- **Extraction is local.** With text behind it, a statement has its block, the text becoming part
of the modifiers; and it has such a block only if it has it alone. -/
theorem parse_append {kind : Kind} {body modifiers : Text} (t u : Text) :
    parse (t ++ u) = .ok (some ⟨kind, body, modifiers ++ u⟩) ↔
      parse t = .ok (some ⟨kind, body, modifiers⟩) := by
  constructor
  · intro h
    obtain ⟨front, ht, hbehind⟩ := readFrom_behind h
    have happ : t ++ u = (front ++ ')' :: modifiers) ++ u := by
      rw [ht, List.append_assoc, List.cons_append]
    rw [List.append_cancel_right happ]
    exact hbehind modifiers
  · intro h
    obtain ⟨front, rfl, hbehind⟩ := readFrom_behind h
    rw [List.append_assoc, List.cons_append]
    exact hbehind (modifiers ++ u)

/-- The slash at the end of the statement goes on into a comment, and the literal behind it stays
open. -/
theorem parse_append_slash :
    parse ("x.1 'note(' NOTE ( \"c\" ) /".toList ++ "/ \"s(".toList) =
      .ok (some ⟨.note, "c".toList, " // \"s(".toList⟩) := by
  have hstatement : parse "x.1 'note(' NOTE ( \"c\" ) /".toList =
      .ok (some ⟨.note, "c".toList, " /".toList⟩) := by cbv
  exact (parse_append _ "/ \"s(".toList).mpr hstatement

end Block

end VoxelScore.Script
