import VoxelScore.Yaml.Node
import VoxelScore.Yaml.Quoting

/-!
# Writing documents

Collections are written as blocks, two spaces further in than the key they belong to; the dashes of
a sequence stand below the key itself. Empty collections are written as brackets.

## Main definitions

* `Node.render` — the text of a document.
-/

namespace VoxelScore.Yaml

/-- The text of a scalar: a number as it is, any other text with quotes where it needs them. -/
def Datum.render (indent : Nat) (d : Datum) : Text :=
  if d.integer.isSome || d.number.isSome then d.text else Quoting.render indent d.text

namespace Node

open Quoting (spaces)

mutual

/-- A node behind the colon of its key or the dash of its item, which stands at `indent`. Where
`compact` says so, a block collection starts on the same line. -/
def renderAt (indent : Nat) (compact : Bool) : Node → Text
  | absent => ['\n']
  | scalar datum => ' ' :: datum.render (indent + 2) ++ ['\n']
  | sequence [] => " []\n".toList
  | sequence (item :: items) =>
    if compact then ' ' :: (renderItems (indent + 2) (item :: items)).drop (indent + 2)
    else '\n' :: renderItems indent (item :: items)
  | mapping [] => " \x7b\x7d\n".toList
  | mapping (entry :: entries) =>
    if compact then ' ' :: (renderEntries (indent + 2) (entry :: entries)).drop (indent + 2)
    else '\n' :: renderEntries (indent + 2) (entry :: entries)

/-- The lines of items. -/
def renderItems (indent : Nat) : List Node → Text
  | [] => []
  | item :: items => spaces indent ++ '-' :: renderAt indent true item ++ renderItems indent items

/-- The lines of entries. A key without room on the line of its value has a line of its own, behind
a question mark. -/
def renderEntries (indent : Nat) : List (Node × Node) → Text
  | [] => []
  | (key, value) :: entries =>
    let name := key.text?.getD []
    let written := Quoting.render (indent + 2) name
    let entry :=
      if Quoting.fitsLine name then spaces indent ++ written ++ ':' :: renderAt indent false value
      else
        let stop := if written.getLast?.any isBreak then [] else ['\n']
        spaces indent ++ '?' :: ' ' :: written ++ stop ++
          spaces indent ++ ':' :: renderAt indent true value
    entry ++ renderEntries indent entries

end

/-- The text of a document. -/
def render : Node → Text
  | absent => []
  | scalar datum => datum.render 0 ++ ['\n']
  | sequence [] => "[]\n".toList
  | sequence items => renderItems 0 items
  | mapping [] => "\x7b\x7d\n".toList
  | mapping entries => renderEntries 0 entries

end Node

end VoxelScore.Yaml
