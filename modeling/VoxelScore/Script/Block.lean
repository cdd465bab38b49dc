import VoxelScore.Script.Cursor
import VoxelScore.Script.Statement

/-!
# Blocks

A *block* is what a pattern constructor is called with: `note("c e").fast(2)` gives a block of kind
`note`, body `c e` and modifiers `.fast(2)`. A statement yields the block of its first constructor
call that is applied to one literal that is not empty; everything after the call is its modifiers.

A code text yields the blocks of its statements; failing that the block of the whole text; failing
that the default block. A statement that cannot be read is dropped and does not disturb the others.

## Main definitions

* `Kind`, `Block` — the constructors and the blocks.
* `Block.readFrom` — reading token by token, with an eye on the last four.
* `Block.parse` — the block of a statement, or why it has none.
* `Block.ofStatement?` — the same without the reason.
* `blocks` — the blocks of a code text, never none.
-/

namespace VoxelScore.Script

/-- How the tokens of a block are understood. -/
inductive Kind where
  /-- Names of notes: `note`. -/
  | note
  /-- Names of sounds: `sound` or `s`. -/
  | sound
  /-- Degrees of a scale: `n`. -/
  | degree
  deriving DecidableEq, Repr

namespace Kind

/-- The kind that a constructor makes; case does not matter. -/
def ofConstructor? (name : Text) : Option Kind :=
  let name := Text.lower name
  if name = "note".toList then some .note
  else if name = "sound".toList ∨ name = "s".toList then some .sound
  else if name = "n".toList then some .degree
  else none

/-- The usual name of the constructor. -/
def constructor : Kind → String
  | note => "note"
  | sound => "s"
  | degree => "n"

/-- The name of the kind in a report. -/
def label : Kind → String
  | note => "note"
  | sound => "sound"
  | degree => "degree"

end Kind

/-- A constructor call: its kind, the contents of its literal and the text after it. -/
structure Block where
  kind : Kind
  body : Text
  modifiers : Text
  deriving DecidableEq, Repr

/-- Why a statement cannot be read. -/
inductive Cause where
  /-- A string literal is not closed. -/
  | unclosedLiteral
  /-- The literal of a constructor call is not followed by a closing parenthesis. -/
  | unclosedCall (constructor : Text)
  deriving DecidableEq, Repr

/-- The wording of a cause. -/
def Cause.message : Cause → String
  | unclosedLiteral => "unclosed string literal"
  | unclosedCall constructor => "expected ')' after " ++ String.ofList constructor ++ "(\"...\""

/-- The kind of error that a cause belongs to. -/
def Cause.label : Cause → String
  | unclosedLiteral => "LexError"
  | unclosedCall _ => "ParseError"

/-- A cause and where it lies. -/
structure Error where
  cause : Cause
  line : Nat
  column : Nat
  deriving DecidableEq, Repr

namespace Error

/-- An error at a position. -/
def atCursor (p : Cursor) (cause : Cause) : Error :=
  ⟨cause, p.line, p.column⟩

/-- The wording of an error. -/
def message (e : Error) : String :=
  s!"[{e.line}:{e.column}] " ++ e.cause.label ++ ": " ++ e.cause.message

end Error

namespace Block

/-- The constructor call that tokens end with, applied to one literal that is not empty: its kind and
the contents of the literal. The latest token comes first. -/
def endingCall? : List Placed → Option (Kind × Text)
  | ⟨.closeParen, _, _⟩ :: ⟨.literal body, _, _⟩ :: ⟨.openParen, _, _⟩ :: ⟨.name name, _, _⟩ :: _ =>
    if body.isEmpty then none else (Kind.ofConstructor? name).map (·, body)
  | _ => none

/-- The constructor call that tokens start with whose literal is not followed by a closing
parenthesis. -/
def unclosedCall? (tokens : List Placed) : Option Error :=
  match tokens with
  | ⟨.name name, start, _⟩ :: ⟨.openParen, _, _⟩ :: ⟨.literal _, _, _⟩ :: rest =>
    if (Kind.ofConstructor? name).isNone || rest.head?.any (·.token = .closeParen) then none
    else some (.atCursor start (.unclosedCall name))
  | _ => none

/-- The first such call. -/
def firstUnclosed? : List Placed → Option Error
  | [] => none
  | p :: r => (unclosedCall? (p :: r)).or (firstUnclosed? r)

/-- What tokens without a complete call come to at the end of their text. The latest comes first. -/
def atEnd (seen : List Placed) : Except Error (Option Block) :=
  match firstUnclosed? seen.reverse with
  | some e => .error e
  | none => .ok none

/-- Reads the tokens of a text that starts at a position, behind the tokens `seen`, the latest
first. The first complete call ends the reading, so that it wins over every error; an unclosed
literal wins over an unclosed call, which is looked for at the end of the text only. -/
def readFrom (seen : List Placed) (p : Cursor) (t : Text) : Except Error (Option Block) :=
  match _hgap : splitTrivia t with
  | (_, []) => atEnd seen
  | (gap, c :: r) =>
    match _htoken : token? c r with
    | none => .error (.atCursor (p.past gap) .unclosedLiteral)
    | some (token, written, rest) =>
      let start := p.past gap
      let stop := start.past (c :: written)
      match endingCall? (⟨token, start, stop⟩ :: seen) with
      | some (kind, body) => .ok (some ⟨kind, body, rest⟩)
      | none => readFrom (⟨token, start, stop⟩ :: seen) stop rest
termination_by t.length
decreasing_by
  have gapLength := congrArg List.length (splitTrivia_append t)
  have restLength := congrArg List.length (token?_append _htoken)
  simp [_hgap] at gapLength restLength
  omega

/-- The block of a statement, none if it has no constructor call, or the error that hides it. -/
def parse (t : Text) : Except Error (Option Block) :=
  readFrom [] .start t

/-- The block of a statement, if it can be read and has one. -/
def ofStatement? (t : Text) : Option Block :=
  match parse t with
  | .ok b => b
  | .error _ => none

/-- The block of a code text without any other. -/
def default : Block :=
  ⟨.sound, "bd [sd hh] bd sd".toList, []⟩

end Block

/-- The blocks of the statements of a code text. -/
def statementBlocks (t : Text) : List Block :=
  (statements t).filterMap Block.ofStatement?

/-- The blocks of a code text: those of its statements, else the one of the whole text, else the
default block. -/
def blocks (t : Text) : List Block :=
  match statementBlocks t with
  | [] => [(Block.ofStatement? (Text.trim t)).getD .default]
  | bs => bs

end VoxelScore.Script
