import VoxelScore.CommandLine
import VoxelScore.CommandLine.Run
import VoxelScore.Link.Base64
import VoxelScore.Link.Host
import VoxelScore.Link.Label
import VoxelScore.Link.Label.Allowed
import VoxelScore.Link.Label.Composition
import VoxelScore.Link.Label.Direction
import VoxelScore.Link.Label.Joiner
import VoxelScore.Link.Label.Mark
import VoxelScore.Link.Payload
import VoxelScore.Link.Percent
import VoxelScore.Link.Punycode
import VoxelScore.Link.Source
import VoxelScore.Link.Url
import VoxelScore.Main
import VoxelScore.Mini.Figure
import VoxelScore.Mini.Normal
import VoxelScore.Mini.Reading
import VoxelScore.Number.Digits
import VoxelScore.Number.Double
import VoxelScore.Number.Layout
import VoxelScore.Number.Numeral
import VoxelScore.Number.Shortest
import VoxelScore.Number.Word
import VoxelScore.Report
import VoxelScore.Report.Views
import VoxelScore.Score
import VoxelScore.Score.Modifiers
import VoxelScore.Script.Block
import VoxelScore.Script.Chain
import VoxelScore.Script.Cursor
import VoxelScore.Script.Statement
import VoxelScore.Script.Token
import VoxelScore.Settings
import VoxelScore.Settings.Document
import VoxelScore.Table
import VoxelScore.Text
import VoxelScore.Text.Blank
import VoxelScore.Text.Letter
import VoxelScore.Text.Utf8
import VoxelScore.Timeline.CycleTime
import VoxelScore.Timeline.Event
import VoxelScore.Timeline.Grid
import VoxelScore.Tone.Modes
import VoxelScore.Tone.Note
import VoxelScore.Tone.Scale
import VoxelScore.Tone.Voice
import VoxelScore.World.Layout
import VoxelScore.World.Platform
import VoxelScore.World.Tables
import VoxelScore.World.Voxel
import VoxelScore.Yaml.Datum
import VoxelScore.Yaml.Literal
import VoxelScore.Yaml.Node
import VoxelScore.Yaml.Quoting
import VoxelScore.Yaml.Reading
import VoxelScore.Yaml.Scalar
import VoxelScore.Yaml.Token
import VoxelScore.Yaml.Writing
import VoxelScore.Proofs.Script.Joining
import VoxelScore.Proofs.Score.Joining
import VoxelScore.Proofs.Script.FirstCall
import VoxelScore.Proofs.Timeline.Fraction
import VoxelScore.Proofs.Timeline.Slots
import VoxelScore.Proofs.Score.Order
import VoxelScore.Proofs.Mini.Marks
import VoxelScore.Proofs.Mini.Exactness
import VoxelScore.Proofs.Script.Trivia
import VoxelScore.Proofs.Script.Literals
import VoxelScore.Proofs.Script.Lexemes
import VoxelScore.Proofs.Script.CallText
import VoxelScore.Proofs.Script.Tiling
import VoxelScore.Proofs.Link.Base64
import VoxelScore.Proofs.Link.Percent
import VoxelScore.Proofs.Link.Payload
import VoxelScore.Proofs.Script.Margins
import VoxelScore.Proofs.Link.Url
import VoxelScore.Proofs.Link.Source
import VoxelScore.Proofs.Link.ShareLink
import VoxelScore.Proofs.Link.Escapes
import VoxelScore.Proofs.Link.InlineLink
import VoxelScore.Proofs.Score.Cycles
import VoxelScore.Proofs.World.TimeAxis
import VoxelScore.Proofs.Tone.Degrees
import VoxelScore.Proofs.Tone.Modes
import VoxelScore.Proofs.Text.LineEnds
import VoxelScore.Proofs.Script.LineEnds
import VoxelScore.Proofs.Script.BlockLineEnds
import VoxelScore.Proofs.Score.LineEnds
import VoxelScore.Proofs.Success
import VoxelScore.Proofs.Link.Spelling
import VoxelScore.Proofs.World.Platform
import VoxelScore.Proofs.Score.Fallback
import VoxelScore.Proofs.Table
import VoxelScore.Proofs.Yaml.ReadBack
import VoxelScore.Proofs.Settings.SaveLoad
import VoxelScore.Proofs.Script.Locality
import VoxelScore.Proofs.Mini.NormalForm
import VoxelScore.Proofs.Mini.Juxtaposition
import VoxelScore.Proofs.Mini.Conservation
import VoxelScore.Proofs.Script.Sections
import VoxelScore.Proofs.Timeline.Compression
import VoxelScore.Proofs.Timeline.Turns
import VoxelScore.Proofs.Mini.Provenance
import VoxelScore.Proofs.Score.Provenance
import VoxelScore.Proofs.Script.Positions
import VoxelScore.Proofs.Script.Beginnings
import VoxelScore.Proofs.Script.Calls
import VoxelScore.Proofs.Script.Continuation
import VoxelScore.Proofs.Score.FirstModifiers
import VoxelScore.Proofs.Number.Numeral
import VoxelScore.Proofs.Script.Comments
import VoxelScore.Proofs.Score.Comments
import VoxelScore.Proofs.Number.Unpacked
import VoxelScore.Proofs.Number.Whole
import VoxelScore.Proofs.Tone.Ladder
import VoxelScore.Proofs.Timeline.LowestTerms
import VoxelScore.Proofs.Tone.NoteNames
import VoxelScore.Proofs.Number.Longest
import VoxelScore.Proofs.Tone.Fractions
import VoxelScore.Proofs.World.FirstVoxels
import VoxelScore.Proofs.Number.Value
import VoxelScore.Proofs.Timeline.Bounds
import VoxelScore.Proofs.World.Depth
import VoxelScore.Proofs.Text.Case
import VoxelScore.Proofs.Text.ByteOrder
import VoxelScore.Proofs.Tone.Latest
import VoxelScore.Proofs.Tone.Latest
import VoxelScore.Proofs.World.Palette
import VoxelScore.Proofs.Script.CallPlaces
