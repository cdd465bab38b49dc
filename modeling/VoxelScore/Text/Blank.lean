import VoxelScore.Text

/-!
# Blank characters and words

A character is *blank* when it has the Unicode property `White_Space`. Statements, tokens, specs
and payloads are trimmed by this class, and a text is a sequence of *words* separated by blanks.

## Main definitions

* `Text.isBlank` — the class.
* `Text.trim`, `Text.trimStart` — without the blanks at the ends, or at the start.
* `Text.words` — the maximal runs of other characters.
* `Text.squeeze` — the words with one space between neighbours.
-/

namespace VoxelScore.Text

/-- The Unicode property `White_Space`. -/
def isBlank (c : Char) : Bool :=
  let n := c.toNat
  (9 ≤ n && n ≤ 13) || n = 0x20 || n = 0x85 || n = 0xA0 || n = 0x1680 ||
    (0x2000 ≤ n && n ≤ 0x200A) || n = 0x2028 || n = 0x2029 || n = 0x202F || n = 0x205F ||
    n = 0x3000

/-- The text from its first character that is not blank. -/
def trimStart (t : Text) : Text :=
  t.dropWhile isBlank

/-- The text without the blanks at both ends. -/
def trim (t : Text) : Text :=
  t.trimStart.dropEndWhile isBlank

/-- The maximal runs of characters that are not blank, in order. -/
def words (t : Text) : List Text :=
  (t.splitOnP isBlank).filter (!·.isEmpty)

/-- The words of the text, one space between neighbours. -/
def squeeze (t : Text) : Text :=
  [' '].intercalate t.words

example : isBlank ' ' ∧ isBlank '\n' ∧ isBlank '\x0c' ∧ isBlank '\u00a0' := by decide

example : isBlank '\u200b' = false ∧ isBlank '\ufeff' = false := by decide

example : trim " \ta b\n".toList = "a b".toList := by rfl

example : squeeze " a \n b".toList = "a b".toList := by rfl

end VoxelScore.Text
