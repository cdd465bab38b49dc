import VoxelScore.Number.Digits
import VoxelScore.Number.Layout
import VoxelScore.Text

/-!
# Reports

What the program tells is a tree of numbers, texts, lists and records, printed as indented JSON.

## Main definitions

* `Report` — the trees.
* `Report.render` — the text of a report.
-/

namespace VoxelScore

/-- A tree of values. -/
inductive Report where
  | null
  | whole (n : Int)
  | double (x : Float)
  | text (t : Text)
  | list (items : List Report)
  | record (fields : List (String × Report))

namespace Report

/-- Doubles in reports: positional from `0.00001` up to sixteen digits before the point, exponents
with a sign. Infinities and not-a-number have no text of their own. -/
def layout : Layout where
  positionalFrom := -5
  positionalTo := 15
  plus := "+"
  infinity := "null"
  negativeInfinity := "null"
  notANumber := "null"

/-- A text, or null. -/
def optional {α : Type} (report : α → Report) : Option α → Report
  | some a => report a
  | none => null

/-- A character within quotes. -/
def escaped (c : Char) : Text :=
  match c with
  | '"' => ['\\', '"']
  | '\\' => ['\\', '\\']
  | '\n' => ['\\', 'n']
  | '\r' => ['\\', 'r']
  | '\t' => ['\\', 't']
  | '\x08' => ['\\', 'b']
  | '\x0c' => ['\\', 'f']
  | c => if c < ' ' then "\\u".toList ++ Text.lower (Digits.hex 4 c.toNat) else [c]

/-- A text in quotes. -/
def quoted (t : Text) : Text :=
  '"' :: t.flatMap escaped ++ ['"']

/-- A new line at a depth, indented by two spaces for each level. -/
def newLine (depth : Nat) : Text :=
  '\n' :: List.replicate (2 * depth) ' '

mutual

/-- A value at a depth, its first line without indentation. -/
def renderAt (depth : Nat) : Report → Text
  | null => "null".toList
  | whole n => (toString n).toList
  | double x => (layout.render x).toList
  | text t => quoted t
  | list [] => "[]".toList
  | list (item :: items) =>
    '[' :: newLine (depth + 1) ++ renderAt (depth + 1) item ++ renderItems (depth + 1) items ++
      newLine depth ++ [']']
  | record [] => "\x7b\x7d".toList
  | record ((name, value) :: fields) =>
    '\x7b' :: newLine (depth + 1) ++ quoted name.toList ++ ':' :: ' ' ::
      renderAt (depth + 1) value ++ renderFields (depth + 1) fields ++ newLine depth ++ ['\x7d']

/-- Further items of a list. -/
def renderItems (depth : Nat) : List Report → Text
  | [] => []
  | item :: items => ',' :: newLine depth ++ renderAt depth item ++ renderItems depth items

/-- Further fields of a record. -/
def renderFields (depth : Nat) : List (String × Report) → Text
  | [] => []
  | (name, value) :: fields =>
    ',' :: newLine depth ++ quoted name.toList ++ ':' :: ' ' :: renderAt depth value ++
      renderFields depth fields

end

/-- The text of a report, ended by a line break. -/
def render (r : Report) : String :=
  String.ofList (r.renderAt 0 ++ ['\n'])

end Report

end VoxelScore
