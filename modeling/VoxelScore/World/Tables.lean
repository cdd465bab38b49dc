import VoxelScore.Table

/-!
# Lanes and colours of instruments

Known instruments have a lane of their own, and a colour; both are looked up by name, and case
matters.

## Main definitions

* `Lanes` — the lanes of known instruments; `Lanes.drumKit` are the usual ones.
* `Palette` — colours; `Palette.standard` are the usual ones.
* `Palette.colorOf` — the colour of an instrument.
-/

namespace VoxelScore

/-- The lanes of known instruments. -/
abbrev Lanes := Table Int

/-- The lanes of a drum kit, the kick nearest to the player. -/
def Lanes.drumKit : Lanes :=
  .ofList [
    ("bd".toList, -4),
    ("sd".toList, -2),
    ("rim".toList, -1),
    ("hh".toList, 0),
    ("oh".toList, 1),
    ("lt".toList, 2),
    ("mt".toList, 3),
    ("ht".toList, 4),
    ("rd".toList, 5),
    ("cr".toList, 6)]

/-- Colours by instrument, in 24 bits: red, green and blue. -/
structure Palette where
  colors : Table Nat
  deriving DecidableEq

namespace Palette

/-- No colours. -/
def empty : Palette := ⟨Table.empty⟩

/-- The palette with a colour for an instrument, of which the lower 24 bits count. -/
def insert (p : Palette) (instrument : Text) (color : Nat) : Palette :=
  ⟨p.colors.insert instrument (color % 0x1000000)⟩

/-- The name of the colour for instruments without their own. -/
def defaultName : Text := "default".toList

/-- White, for instruments without a colour in a palette without a default one. -/
def white : Nat := 0xffffff

/-- The colour of an instrument, else the default one of the palette, else white. -/
def colorOf (p : Palette) (instrument : Text) : Nat :=
  ((p.colors.get? instrument).or (p.colors.get? defaultName)).getD white

/-- The usual colours. -/
def standard : Palette :=
  ⟨.ofList [
    ("bd".toList, 0x8b4513),
    ("sd".toList, 0xc0c0c0),
    ("rim".toList, 0xd1a26d),
    ("hh".toList, 0xf2d16b),
    ("oh".toList, 0xf4f1c9),
    ("lt".toList, 0x9c6f56),
    ("mt".toList, 0xa98274),
    ("ht".toList, 0xc79f8f),
    ("rd".toList, 0x66b3ff),
    ("cr".toList, 0xffd966),
    ("note".toList, 0x88c0ff),
    ("n".toList, 0xffa94d),
    ("sound".toList, 0xb0bec5),
    (defaultName, white)]⟩

end Palette

end VoxelScore
