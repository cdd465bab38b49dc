import Mathlib
import VoxelScore.Proofs.Number.Numeral
import VoxelScore.Proofs.Script.Comments
import VoxelScore.Score.Modifiers

/-!
# Comments in modifiers

Comments between tokens do not matter to the modifiers of a text, with one exception. The arguments
of a scale are read as tokens, but the number of a speed is read from the text of the arguments. In
front of the number only blanks are skipped, so that a comment there hides it, and the speed is one.

## Main definitions

* `OpensWithComment`: a text that starts with a comment, behind blanks or not
* `Modifiers.hidesNumber`: the arguments of the first call of a name start so

## Main results

* `leadingNumber?_blankComments`: numbers with a comment behind them or in front of them
* `Modifiers.ofText_eq_of_blankComments`: the modifiers of a text and of the text without its comments
-/

namespace VoxelScore

open Script (Call StopsTrivia blankComments isGapStart splitTrivia)

variable {c : Char} {r t : Text}

/-! ## Numbers -/

/-- The text starts with a comment, behind blanks or not. -/
def OpensWithComment (t : Text) : Prop :=
  ['/', '/'] <+: t.trimStart ∨ ['/', '*'] <+: t.trimStart

instance : Decidable (OpensWithComment t) := inferInstanceAs (Decidable (_ ∨ _))

/-- No gap starts with a character of a numeral. -/
theorem isGapStart_of_isNumeralChar (h : Numeral.isNumeralChar c) : isGapStart c = false := by
  rw [Numeral.isNumeralChar, Bool.or_eq_true] at h
  rcases h with hdigit | hmark
  · have hbreak := Script.isBreak_of_isDigit hdigit
    rw [Script.isBreak, Bool.or_eq_false_iff] at hbreak
    rw [isGapStart, hbreak.1, Bool.false_or, decide_eq_false_iff_not]
    rintro rfl
    cases hdigit
  · have hall : "+-.eEInfinity".toList.all (!isGapStart ·) := by decide
    simpa using List.all_eq_true.mp hall c (of_decide_eq_true hmark)

/-- A comment is no number. -/
theorem leadingNumber?_of_comment (h : OpensWithComment t) : leadingNumber? t = none := by
  have hslash : ∃ r, t.trimStart = '/' :: r := by
    rcases h with ⟨r, hr⟩ | ⟨r, hr⟩
    · exact ⟨_, hr.symm⟩
    · exact ⟨_, hr.symm⟩
  obtain ⟨r, hr⟩ := hslash
  have hscan := Numeral.scan?_congr (t := '/' :: r) (u := []) rfl
  rw [leadingNumber?, hr]
  exact Option.map_eq_none_iff.mpr (Option.map_eq_none_iff.mp hscan)

/-- Blanks in front of a text stay. -/
theorem blankComments_cons_blank (hb : Text.isBlank c) (t : Text) :
    blankComments (c :: t) = c :: blankComments t := by
  have hsplit : splitTrivia (c :: t) = (c :: (splitTrivia t).1, (splitTrivia t).2) :=
    (Script.TriviaItem.blank hb).splitTrivia_append t
  fun_cases Script.Scan.ofText t with
  | case1 gap hg =>
    rw [hg] at hsplit
    rw [Script.blankComments_done hg, Script.blankComments_done hsplit,
      Script.blanked_cons_blank hb]
  | case2 gap d r hg ht =>
    rw [hg] at hsplit
    rw [Script.blankComments_fault hg ht, Script.blankComments_fault hsplit ht,
      Script.blanked_cons_blank hb]
    rfl
  | case3 gap d r hg token written rest ht =>
    rw [hg] at hsplit
    rw [Script.blankComments_token hg ht, Script.blankComments_token hsplit ht,
      Script.blanked_cons_blank hb]
    rfl

theorem trimStart_blankComments (t : Text) :
    (blankComments t).trimStart = (blankComments t.trimStart).trimStart := by
  induction t with
  | nil => rfl
  | cons c t ih =>
    by_cases hb : Text.isBlank c
    · rw [blankComments_cons_blank hb]
      simpa [Text.trimStart, hb] using ih
    · simp [Text.trimStart, hb]

/-- A text that starts with a token starts with the same character afterwards. -/
theorem trimStart_blankComments_of_stops (h : StopsTrivia t) :
    (blankComments t).trimStart = blankComments t := by
  cases t with
  | nil =>
    rw [Script.blankComments_done h.splitTrivia]
    rfl
  | cons c r =>
    have hstart : ∃ s, blankComments (c :: r) = c :: s := by
      cases ht : Script.token? c r with
      | none => exact ⟨_, Script.blankComments_fault h.splitTrivia ht⟩
      | some read =>
        obtain ⟨token, written, rest⟩ := read
        exact ⟨_, Script.blankComments_token h.splitTrivia ht⟩
    obtain ⟨s, hs⟩ := hstart
    rw [hs]
    exact List.dropWhile_cons_of_neg (by rw [h.blank c rfl]; exact Bool.false_ne_true)

/-- **The number that a text starts with** is the same without the comments, unless a comment stands
in front of it. -/
theorem leadingNumber?_blankComments (h : ¬ OpensWithComment t) :
    leadingNumber? (blankComments t) = leadingNumber? t := by
  have hstops : StopsTrivia t.trimStart :=
    ⟨fun c hc => Text.stopsRun_dropWhile Text.isBlank t c hc, fun hl => h (.inl hl),
      fun hb => h (.inr hb)⟩
  have hrun := (Script.agreesToGap_blankComments t.trimStart).takeWhile
    (fun _ => isGapStart_of_isNumeralChar)
  have hscan := congrArg (Option.map Numeral.value) (Numeral.scan?_congr hrun)
  rw [Option.map_map, Option.map_map] at hscan
  rw [leadingNumber?, trimStart_blankComments, trimStart_blankComments_of_stops hstops]
  exact hscan

namespace Modifiers

/-! ## Modifiers -/

/-- The arguments of the first call of a name start with a comment. -/
def hidesNumber (t name : Text) : Bool :=
  ((Call.ofText t).find? (·.name = name)).any (decide <| OpensWithComment ·.raw)

theorem factor_blanked (call : Call) :
    factor call = if OpensWithComment call.raw then 1.0 else factor call.blanked := by
  unfold factor
  split
  · next h =>
    rw [leadingNumber?_of_comment h]
    rfl
  · next h =>
    rw [show call.blanked.raw = blankComments call.raw from rfl, leadingNumber?_blankComments h]

theorem factorOf_blankComments (t name : Text) :
    factorOf (Call.ofText t) name =
      if hidesNumber t name then 1.0 else factorOf (Call.ofText (blankComments t)) name := by
  have hfind : (Call.ofText (blankComments t)).find? (·.name = name) =
      ((Call.ofText t).find? (·.name = name)).map Call.blanked := by
    rw [Call.ofText_blankComments, List.find?_map]
    rfl
  unfold factorOf hidesNumber
  rw [hfind]
  cases (Call.ofText t).find? (·.name = name) with
  | none => rfl
  | some call => simpa using factor_blanked call

/-- A literal is the only argument without the comments if it is with them. -/
theorem scaleOf?_blanked (modes : Modes) (call : Call) :
    scaleOf? modes call.blanked = scaleOf? modes call := by
  rcases call with ⟨name, arguments, raw⟩
  rcases arguments with _ | ⟨⟨gap, lexeme, token⟩, _ | ⟨second, arguments⟩⟩
  · rfl
  · cases token <;> rfl
  · simp [scaleOf?, Call.blanked]

/-- **Comments in modifiers.** A space in the place of every comment between tokens leaves the scale
as it is. It leaves a speed as it is, too, unless the arguments of its first call start with a
comment: with the comment that speed is one. -/
theorem ofText_eq_of_blankComments (modes : Modes) (t : Text) :
    ofText modes t =
      { fast := if hidesNumber t "fast".toList then 1.0 else (ofText modes (blankComments t)).fast
        slow := if hidesNumber t "slow".toList then 1.0 else (ofText modes (blankComments t)).slow
        scale := (ofText modes (blankComments t)).scale } := by
  have hscale : (ofText modes t).scale = (ofText modes (blankComments t)).scale := by
    unfold ofText ofCalls
    rw [Call.ofText_blankComments, List.find?_map, Option.bind_map,
      show scaleOf? modes ∘ Call.blanked = scaleOf? modes from funext (scaleOf?_blanked modes)]
    rfl
  rw [← hscale]
  exact congrArg₂ (Modifiers.mk · · _) (factorOf_blankComments t _) (factorOf_blankComments t _)

/-- The comment in front of a number hides it. -/
theorem ofText_eq_of_blankComments_hidden :
    blankComments ".fast(/* x */2)".toList = ".fast( 2)".toList ∧
      (ofText .builtin ".fast( 2)".toList).fast = 2.0 ∧
      (ofText .builtin ".fast(/* x */2)".toList).fast = 1.0 ∧ (1.0 : Float) ≠ 2.0 := by
  have hplain : Call.ofText ".fast( 2)".toList =
      [⟨"fast".toList, [⟨[' '], ['2'], .number ['2']⟩], " 2".toList⟩] := by cbv
  have hcommented : Call.ofText ".fast(/* x */2)".toList =
      [⟨"fast".toList, [⟨"/* x */".toList, ['2'], .number ['2']⟩], "/* x */2".toList⟩] := by cbv
  refine ⟨by cbv, ?_, ?_, by decide⟩
  · rw [ofText, hplain]
    decide +kernel
  · rw [ofText, hcommented]
    decide +kernel

end Modifiers

end VoxelScore
