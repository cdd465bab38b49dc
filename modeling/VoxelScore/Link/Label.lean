import VoxelScore.Link.Label.Allowed
import VoxelScore.Link.Label.Composition
import VoxelScore.Link.Label.Direction
import VoxelScore.Link.Label.Joiner
import VoxelScore.Link.Punycode

/-!
# Labels

The labels of a name stand between its dots. A label that starts with `xn--` is written in Punycode
and stands for an international label, which has to be one that a name may hold.

## Main definitions

* `Label.isSound` — the international labels that a name may hold.
* `Label.text?` — the text that a label stands for.
* `Label.areSound` — the labels of a name stand for texts that may stand together.
-/

namespace VoxelScore.Label

/-- What the written form of an international label starts with, in small letters. -/
def mark : Text := "xn--".toList

/-- The label is a written form in Punycode. -/
def isWritten (label : Text) : Bool :=
  Text.lower (label.take 4) = mark

/-- An international label is composed of allowed characters, starts with no mark and not as a
written form does, and has its joiners where they make a difference. -/
def isSound (t : Text) : Bool :=
  t.all isAllowed && !t.head?.any isMark && !isWritten t && joinersFit [] t && isComposed t

/-- The text that a label stands for; nothing for a written form that ends with a hyphen, cannot be
read, or stands for no sound label. -/
def text? (label : Text) : Option Text :=
  if isWritten label then
    if label.getLast? = some '-' then none
    else (Punycode.decode? (label.drop 4)).filter isSound
  else some label

/-- All labels stand for texts, and where one of them holds a character of a script that runs from
right to left, each keeps its direction. -/
def areSound (labels : List Text) : Bool :=
  match labels.mapM text? with
  | none => false
  | some texts => !texts.any (·.any Direction.isRightward) || texts.all keepsDirection

example : text? "XN--BCHER-KVA".toList = some "bücher".toList ∧ text? "xn--".toList = none ∧
    text? "xn--a".toList = none := by decide +kernel

end VoxelScore.Label
