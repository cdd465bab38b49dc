import VoxelScore.Script.Block
import VoxelScore.Timeline.Event
import VoxelScore.Tone.Modes

/-!
# Voices

The voice of a block reads its tokens: note names, degrees of a scale, or sounds. A token that it
cannot read makes no sound.

## Main definitions

* `Voice` — a kind and the scale for degrees.
* `Voice.trigger?` — what a token triggers.
-/

namespace VoxelScore

/-- How tokens are read. -/
structure Voice where
  kind : Script.Kind
  scale : Option Scale

namespace Voice

/-- The instrument of note names. -/
def noteInstrument : Text := "note".toList

/-- The instrument of degrees. -/
def degreeInstrument : Text := "n".toList

/-- The pitch of degree zero without a scale. -/
def chromaticBase : Float := 60.0

/-- The degree that a token starts with, unless it is infinite. -/
def degree? (token : Text) : Option Float :=
  (leadingNumber? token).bind Double.finite?

/-- The pitch of a degree: without a scale every degree is a semitone. -/
def degreePitch (voice : Voice) (degree : Float) : Float :=
  match voice.scale with
  | some scale => scale.pitch degree
  | none => chromaticBase + degree

/-- What a token triggers, if the voice can read it. -/
def trigger? (voice : Voice) (token : Text) : Option Trigger :=
  let token := Text.trim token
  if token.isEmpty then none
  else
    match voice.kind with
    | .note => (Note.number? token).map fun n => .pitched noteInstrument (Float.ofInt n) token
    | .degree => (degree? token).map fun d => .pitched degreeInstrument (voice.degreePitch d) token
    | .sound => some (.sound token)

end Voice

end VoxelScore
