import VoxelScore.Text.Blank

/-!
# Statements

A code text is split into statements at *marker lines*: lines whose first characters that are not
blank are `$:`. A statement is what follows the marker on its line and all lines up to the next
marker line, trimmed. What stands before the first marker line is the *lead*.

## Main definitions

* `lines` — the lines of a text, each with its line break.
* `Marked` — a lead and the untrimmed texts after the markers.
* `Marked.ofText` — the split of a text.
* `statements` — the trimmed statements.

## Main results

* `flatten_lines` — the lines make up the text.
-/

namespace VoxelScore.Script

/-- The lines of a text, each with the line break that ends it. -/
def lines : Text → List Text
  | [] => []
  | c :: r =>
    if c = '\n' then [c] :: lines r
    else match lines r with
      | [] => [[c]]
      | l :: ls => (c :: l) :: ls

/-- The lines make up the text. -/
theorem flatten_lines (t : Text) : (lines t).flatten = t := by
  fun_induction lines t <;> simp_all

/-- The text of a marker line after its marker. -/
def afterMarker? (line : Text) : Option Text :=
  "$:".toList.isPrefixOf? (Text.trimStart line)

/-- The text before the first marker line, and for every marker line the text between its marker
and the next marker line. -/
structure Marked where
  lead : Text
  raw : List Text
  deriving DecidableEq, Repr

namespace Marked

/-- The split of a list of lines. -/
def ofLines : List Text → Marked
  | [] => ⟨[], []⟩
  | l :: ls =>
    let ⟨lead, raw⟩ := ofLines ls
    match afterMarker? l with
    | some body => ⟨[], (body ++ lead) :: raw⟩
    | none => ⟨l ++ lead, raw⟩

/-- The split of a text. -/
def ofText (t : Text) : Marked :=
  ofLines (lines t)

end Marked

/-- The statements of a text in order, trimmed. -/
def statements (t : Text) : List Text :=
  (Marked.ofText t).raw.map Text.trim

example : Marked.ofText "a\n $: b\nc $: d\n$:e".toList =
    ⟨"a\n".toList, [" b\nc $: d\n".toList, "e".toList]⟩ := by rfl

end VoxelScore.Script
