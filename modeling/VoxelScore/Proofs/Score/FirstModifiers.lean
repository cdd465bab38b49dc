import Mathlib
import VoxelScore.Proofs.Script.Continuation
import VoxelScore.Score.Modifiers

/-!
# The first modifiers count

Of each modifier the first call counts, and no text behind that call changes what it sets: neither
further calls nor anything that stays open, be it a parenthesis, a literal or a comment.

## Main definitions

* `Modifiers.Keeps`: modifiers that agree with others in all that some calls set

## Main results

* `Modifiers.keeps_of_prefix`: calls behind others change nothing that the others set
* `Modifiers.ofText_keeps`: more text, open literals and open parentheses
-/

namespace VoxelScore.Modifiers

open Script (Call Scan)

variable {calls calls' : List Call} {m m' : Modifiers}

/-- **The modifiers keep what the calls set**: the speed of a call `fast` or `slow`, and the scale
of a call `scale` in any case, if there is one, even where it sets none. -/
structure Keeps (calls : List Call) (m m' : Modifiers) : Prop where
  fast : (∃ call ∈ calls, call.name = "fast".toList) → m'.fast = m.fast
  slow : (∃ call ∈ calls, call.name = "slow".toList) → m'.slow = m.slow
  scale : (∃ call ∈ calls, Text.lower call.name = "scale".toList) → m'.scale = m.scale

/-- The first call of a kind stays the first one with calls behind. -/
theorem find?_eq_of_front {p : Call → Bool} (h : calls <+: calls')
    (hp : ∃ call ∈ calls, p call) : calls'.find? p = calls.find? p := by
  obtain ⟨call, hcall⟩ := Option.isSome_iff_exists.mp (List.find?_isSome.mpr hp)
  rw [hcall, h.find?_eq_some hcall]

theorem factorOf_eq_of_prefix {name : Text} (h : calls <+: calls')
    (hname : ∃ call ∈ calls, call.name = name) : factorOf calls' name = factorOf calls name := by
  unfold factorOf
  rw [find?_eq_of_front h (by simpa using hname)]

/-- Calls behind others change nothing that the others set. -/
theorem keeps_of_prefix (modes : Modes) (h : calls <+: calls') :
    Keeps calls (ofCalls modes calls) (ofCalls modes calls') where
  fast := factorOf_eq_of_prefix h
  slow := factorOf_eq_of_prefix h
  scale := by
    intro hname
    unfold ofCalls
    rw [find?_eq_of_front h (by simpa using hname)]

/-- **The first modifiers count.** More text keeps all that the calls of a text set. A literal that
stays open changes nothing in front of it. Nor does a parenthesis that stays open: the calls in
front of it are those of the text in front of it, and all that they set is kept. -/
theorem ofText_keeps (modes : Modes) (t : Text) :
    (∀ u, Keeps (Call.ofText t) (ofText modes t) (ofText modes (t ++ u))) ∧
    (∀ gap r, (Scan.ofText t).ending = .unclosed gap r →
      ∃ front, t = front ++ r ∧ Call.ofText t = Call.ofText front ∧
        ofText modes t = ofText modes front) ∧
    ∀ xs p ys, (Scan.ofText t).pieces = xs ++ p :: ys → p.token = .openParen →
      Script.splitArguments? 0 ys = none →
      ∃ front behind, t = front ++ '(' :: behind ∧ (Scan.ofText front).pieces = xs ∧
        (Call.ofText t = Call.ofText front ∨
          Call.ofText t = Call.ofText front ++ Script.calls ys) ∧
        Keeps (Call.ofText front) (ofText modes front) (ofText modes t) := by
  refine ⟨?_, ?_, ?_⟩
  · intro u
    exact keeps_of_prefix modes (Call.ofText_prefix t u)
  · intro gap r h
    obtain ⟨front, ht, hcalls⟩ := Call.exists_front_of_literal h
    exact ⟨front, ht, hcalls, congrArg (ofCalls modes) hcalls⟩
  · intro xs p ys h hp hys
    obtain ⟨front, behind, ht, hfront, hcalls⟩ := Call.exists_front_of_openParen h hp hys
    refine ⟨front, behind, ht, hfront, hcalls, keeps_of_prefix modes ?_⟩
    rcases hcalls with hcalls | hcalls
    · rw [hcalls]
    · rw [hcalls]
      exact List.prefix_append _ _

/-- The slash at the end of the text goes on into a comment that hides the call behind it, and what
follows opens a parenthesis and a literal. -/
theorem ofText_keeps_slash :
    (∃ call ∈ Call.ofText ".x(.fast(2)).Scale(d) /".toList, call.name = "fast".toList) ∧
      (ofText .builtin
          (".x(.fast(2)).Scale(d) /".toList ++ "/ .fast(8)\n) .slow( \"".toList)).fast =
        (ofText .builtin ".x(.fast(2)).Scale(d) /".toList).fast := by
  have hnames : (Call.ofText ".x(.fast(2)).Scale(d) /".toList).map Call.name =
      ["x".toList, "fast".toList, "Scale".toList] := by cbv
  have hcall : ∃ call ∈ Call.ofText ".x(.fast(2)).Scale(d) /".toList,
      call.name = "fast".toList := by
    rw [← List.mem_map, hnames]
    exact List.mem_cons_of_mem _ List.mem_cons_self
  exact ⟨hcall, ((ofText_keeps .builtin _).1 _).fast hcall⟩

end VoxelScore.Modifiers
