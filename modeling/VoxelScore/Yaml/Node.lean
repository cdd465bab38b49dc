import VoxelScore.Yaml.Datum

/-!
# Settings documents

A settings document is a tree of scalars, sequences and mappings, written in the common subset of
YAML: block and flow collections, plain and quoted scalars, literal blocks, comments and document
marks. Anchors, tags, directives and folded blocks are not part of it.

## Main definitions

* `Yaml.Node` — the trees.
* `Yaml.Fault` — why a text is no document, or a tree not the expected one.
* `Node.fields`, `Node.entries`, `Node.items` — what a tree holds where a collection is expected.
-/

namespace VoxelScore.Yaml

/-- Why a document cannot be read. -/
inductive Fault where
  /-- A control character, which no document holds. -/
  | controlCharacter (c : Char)
  /-- A character that starts no token. -/
  | strayCharacter (c : Char)
  /-- An anchor, alias, tag, directive or folded block. -/
  | unsupported (c : Char)
  /-- A quoted scalar without its closing quote. -/
  | unclosedScalar
  /-- An escape that stands for no character. -/
  | badEscape
  /-- A tab where indentation is needed. -/
  | tabIndentation
  /-- A colon in a flow collection directly before another mark. -/
  | strayColon
  /-- A key without its colon. -/
  | missingColon
  /-- An entry, key or value where none can start. -/
  | misplaced
  /-- A token that does not continue the tree. -/
  | unexpectedToken
  /-- A second document. -/
  | secondDocument
  /-- A scalar or collection of the wrong form for its place, or a number out of range. -/
  | wrongForm
  /-- A field that is given twice. -/
  | duplicateField (name : Text)
  deriving DecidableEq, Repr

/-- A document tree. -/
inductive Node where
  /-- Nothing is written. -/
  | absent
  | scalar (datum : Datum)
  | sequence (items : List Node)
  | mapping (entries : List (Node × Node))

namespace Node

/-- The text of a scalar, as which it serves as a key; where nothing is written, the empty text. -/
def text? : Node → Option Text
  | absent => some []
  | scalar datum => some datum.text
  | _ => none

/-- A scalar's number without sign, if it is at most `high`. -/
def natural (high : Nat) : Node → Except Fault Nat
  | scalar datum => ((datum.natural.filter (· ≤ high)).elim (.error .wrongForm) .ok)
  | _ => .error .wrongForm

/-- A scalar's whole number, if it lies within a range. -/
def integer (low high : Int) : Node → Except Fault Int
  | scalar datum =>
    (datum.integer.filter fun n => low ≤ n ∧ n ≤ high).elim (.error .wrongForm) .ok
  | _ => .error .wrongForm

/-- A scalar's double. -/
def number : Node → Except Fault Float
  | scalar datum => datum.number.elim (.error .wrongForm) .ok
  | _ => .error .wrongForm

/-- The items of a list. -/
def items : Node → Except Fault (List Node)
  | absent => .ok []
  | sequence items => .ok items
  | _ => .error .wrongForm

/-- The entries of a table, by the texts of their keys. -/
def entries : Node → Except Fault (List (Text × Node))
  | absent => .ok []
  | mapping entries => entries.mapM fun (key, value) =>
    match key.text? with
    | some name => .ok (name, value)
    | none => .error .wrongForm
  | _ => .error .wrongForm

/-- The first name that occurs twice. -/
def repeated? : List Text → Option Text
  | [] => none
  | name :: r => if r.contains name then some name else repeated? r

/-- The named fields of a record. Names that the record does not have are passed over, and no name
of it may occur twice. -/
def fields (names : List Text) (node : Node) : Except Fault (List (Text × Node)) := do
  let known := (← node.entries).filter fun (name, _) => names.contains name
  match repeated? (known.map (·.1)) with
  | some name => .error (.duplicateField name)
  | none => .ok known

end Node

/-- The field of a name, read by `read` if it is there. -/
def field {α : Type} (fields : List (Text × Node)) (name : String) (missing : α)
    (read : Node → Except Fault α) : Except Fault α :=
  match fields.lookup name.toList with
  | some node => read node
  | none => .ok missing

end VoxelScore.Yaml
