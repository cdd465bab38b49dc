import VoxelScore.Script.Chain
import VoxelScore.Tone.Modes

/-!
# Modifiers of a block

The chain of calls behind a constructor sets the speed of a block and its scale. Of each modifier
the first call counts, whatever its argument; an argument that cannot be read leaves the modifier
at its default.

## Main definitions

* `Modifiers` — speed and scale.
* `Modifiers.ofText` — the modifiers of a text.
* `Modifiers.rate` — how many times the steps of a block are played in a cycle.
-/

namespace VoxelScore

/-- The speed and the scale of a block. -/
structure Modifiers where
  fast : Float
  slow : Float
  scale : Option Scale

namespace Modifiers

/-- The number that the arguments of a call start with, unless it is infinite, or else one. -/
def factor (call : Script.Call) : Float :=
  ((leadingNumber? call.raw).bind Double.finite?).getD 1.0

/-- The factor of the first call of a name, or one. -/
def factorOf (calls : List Script.Call) (name : Text) : Float :=
  ((calls.find? (·.name = name)).map factor).getD 1.0

/-- The scale of a call whose only argument is a string literal. -/
def scaleOf? (modes : Modes) (call : Script.Call) : Option Scale :=
  match call.arguments with
  | [⟨_, _, .literal spec⟩] => some (modes.resolve spec)
  | _ => none

/-- The modifiers that calls set. The name `scale` is read in any case. -/
def ofCalls (modes : Modes) (calls : List Script.Call) : Modifiers :=
  ⟨factorOf calls "fast".toList, factorOf calls "slow".toList,
    (calls.find? (Text.lower ·.name = "scale".toList)).bind (scaleOf? modes)⟩

/-- The modifiers of a text. -/
def ofText (modes : Modes) (t : Text) : Modifiers :=
  ofCalls modes (Script.Call.ofText t)

/-- How fast the block is played: fast by slow, or one if that is not finite. -/
def rate (m : Modifiers) : Float :=
  (Double.finite? (m.fast / m.slow)).getD 1.0

end Modifiers

end VoxelScore
