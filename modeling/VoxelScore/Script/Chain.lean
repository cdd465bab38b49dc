import VoxelScore.Script.Token

/-!
# Calls in modifier text

Modifiers are a chain of calls such as `.fast(2).scale("c:major")`. A call is a dot, a name and an
opening parenthesis, closed by the parenthesis that balances it; calls inside arguments count as
well. A parenthesis that is never balanced ends the search.

## Main definitions

* `Call` — a located call: name, argument pieces and argument text.
* `splitArguments?` — the pieces up to the balancing parenthesis.
* `calls`, `Call.ofText` — the calls of pieces, and of a text.
-/

namespace VoxelScore.Script

/-- A call in a chain. -/
structure Call where
  name : Text
  /-- The pieces between the parentheses. -/
  arguments : List Piece
  /-- The text between the parentheses. -/
  raw : Text
  deriving DecidableEq, Repr

/-- The pieces before the parenthesis that closes as many more than are opened, and that
parenthesis. -/
def splitArguments? : Nat → List Piece → Option (List Piece × Piece)
  | _, [] => none
  | depth, p :: r =>
    match p.token, depth with
    | .closeParen, 0 => some ([], p)
    | .closeParen, depth + 1 => (splitArguments? depth r).map fun (a, close) => (p :: a, close)
    | .openParen, depth => (splitArguments? (depth + 1) r).map fun (a, close) => (p :: a, close)
    | _, depth => (splitArguments? depth r).map fun (a, close) => (p :: a, close)

/-- The calls among pieces in the order in which they start, up to the first one that is never
closed. -/
def calls : List Piece → List Call
  | [] => []
  | ⟨_, _, .dot⟩ :: ⟨_, _, .name name⟩ :: ⟨_, _, .openParen⟩ :: r =>
    match splitArguments? 0 r with
    | some (arguments, close) => ⟨name, arguments, piecesText arguments ++ close.gap⟩ :: calls r
    | none => []
  | _ :: r => calls r

/-- The calls of a modifier text, as far as it can be scanned. -/
def Call.ofText (t : Text) : List Call :=
  calls (Scan.ofText t).pieces

end VoxelScore.Script
