import VoxelScore.Number.Digits
import VoxelScore.Yaml.Node

/-!
# Scalars in documents

Scalars may run over several lines. A single line break between words is a space, further breaks are
kept, and blanks at the ends of lines are dropped.

## Main definitions

* `Place` — line, column and index in a document.
* `Gap` — the blanks and breaks read since the last word.
* `scanPlain` — a plain scalar, up to where it cannot go on.
* `scanSingle`, `scanDouble` — scalars in quotes, behind the opening quote.
-/

namespace VoxelScore.Yaml

/-- A place in a document, all counted from zero: columns in characters, the index in UTF-8
bytes. -/
structure Place where
  line : Nat
  column : Nat
  index : Nat
  deriving DecidableEq, Repr

/-- A line break. Carriage returns and next-line marks have become line feeds before. -/
def isBreak (c : Char) : Bool :=
  c = '\n' || c = '\u2028' || c = '\u2029'

/-- A space or tab. -/
def isSpace (c : Char) : Bool :=
  c = ' ' || c = '\t'

/-- The text ends, or goes on with a space, tab or line break. -/
def startsBlank (t : Text) : Bool :=
  t.head?.all fun c => isSpace c || isBreak c

namespace Place

/-- The place behind a character. -/
def next (p : Place) (c : Char) : Place :=
  let index := p.index + c.utf8Size
  if isBreak c then ⟨p.line + 1, 0, index⟩ else ⟨p.line, p.column + 1, index⟩

/-- The place behind a text. -/
def past (p : Place) (t : Text) : Place :=
  t.foldl next p

end Place

/-- A document mark, `---` or `...`, stands at the start of a line. -/
def atDocumentMark (p : Place) (t : Text) : Bool :=
  p.column = 0 && (t.take 3 = "---".toList || t.take 3 = "...".toList) && startsBlank (t.drop 3)

/-! ## Gaps -/

/-- Blanks and line breaks between words. -/
inductive Gap where
  | blanks (text : Text)
  /-- A first break, absent if it was escaped, and further ones. -/
  | breaks (first : Option Char) (more : Text)
  deriving DecidableEq, Repr

namespace Gap

/-- No gap. -/
def none : Gap := .blanks []

/-- The gap with one more blank, which is dropped at the start of a line. -/
def addBlank (g : Gap) (c : Char) : Gap :=
  match g with
  | blanks text => blanks (text ++ [c])
  | breaks first more => breaks first more

/-- The gap with one more break; blanks before it are dropped. -/
def addBreak (g : Gap) (c : Char) : Gap :=
  match g with
  | blanks _ => breaks (some c) []
  | breaks first more => breaks first (more ++ [c])

/-- The gap reaches into a new line. -/
def hasBreak : Gap → Bool
  | blanks _ => false
  | breaks _ _ => true

/-- What the gap adds to the scalar. -/
def text : Gap → Text
  | blanks text => text
  | breaks (some '\n') [] => [' ']
  | breaks (some '\n') more => more
  | breaks first more => first.toList ++ more

end Gap

/-- A scanned scalar: its text, whether a line break follows it, and where the document goes on. -/
structure Scanned where
  text : Text
  newLine : Bool
  place : Place
  rest : Text

/-- The scalar with more text in front. -/
def Scanned.prepend (t : Text) (s : Scanned) : Scanned :=
  { s with text := t ++ s.text }

/-! ## Plain scalars -/

/-- The marks of flow collections that end a plain scalar. -/
def isFlowMark (c : Char) : Bool :=
  ",[]\x7b\x7d".toList.contains c

/-- A plain scalar cannot take the character `c` before `r`: a colon before a blank ends it, and in
a flow collection so does a mark. -/
def endsPlain (flow : Bool) (c : Char) (r : Text) : Bool :=
  (c = ':' && startsBlank r) || (flow && isFlowMark c)

/-- A plain scalar in a flow collection or in a block with the given indentation. Comments, document
marks and lines with less indentation end it. -/
def scanPlain (flow : Bool) (indent : Int) (gap : Gap) (p : Place) : Text → Except Fault Scanned
  | [] => .ok ⟨[], gap.hasBreak, p, []⟩
  | c :: r =>
    if isSpace c then
      if gap.hasBreak && p.column < indent && c = '\t' then .error .tabIndentation
      else scanPlain flow indent (gap.addBlank c) (p.next c) r
    else if isBreak c then scanPlain flow indent (gap.addBreak c) (p.next c) r
    else
      -- A `#` inside a word is part of it, and so is a first word at any column.
      let dedented := !flow && p.column < indent
      let comment := c = '#' && gap ≠ .none
      if (gap ≠ .none && dedented) || comment || atDocumentMark p (c :: r) then
        .ok ⟨[], gap.hasBreak, p, c :: r⟩
      else if flow && c = ':' && r.head?.any (fun d => isFlowMark d || d = '?') then
        .error .strayColon
      else if endsPlain flow c r then .ok ⟨[], gap.hasBreak, p, c :: r⟩
      else (scanPlain flow indent .none (p.next c) r).map (.prepend (gap.text ++ [c]))

/-! ## Quoted scalars -/

/-- A scalar in single quotes, where a quote is written twice. -/
def scanSingle (gap : Gap) (p : Place) : Text → Except Fault Scanned
  | [] => .error .unclosedScalar
  | '\'' :: '\'' :: r =>
    (scanSingle .none ((p.next '\'').next '\'') r).map (.prepend (gap.text ++ ['\'']))
  | c :: r =>
    if atDocumentMark p (c :: r) then .error .unclosedScalar
    else if c = '\'' then .ok ⟨gap.text, false, p.next c, r⟩
    else if isSpace c then scanSingle (gap.addBlank c) (p.next c) r
    else if isBreak c then scanSingle (gap.addBreak c) (p.next c) r
    else (scanSingle .none (p.next c) r).map (.prepend (gap.text ++ [c]))

/-- The character that a letter behind a backslash stands for. -/
def escape? : Char → Option Char
  | '0' => some '\x00'
  | 'a' => some '\x07'
  | 'b' => some '\x08'
  | 't' => some '\t'
  | '\t' => some '\t'
  | 'n' => some '\n'
  | 'v' => some '\x0b'
  | 'f' => some '\x0c'
  | 'r' => some '\r'
  | 'e' => some '\x1b'
  | ' ' => some ' '
  | '"' => some '"'
  | '/' => some '/'
  | '\\' => some '\\'
  | 'N' => some '\u0085'
  | '_' => some '\u00a0'
  | 'L' => some '\u2028'
  | 'P' => some '\u2029'
  | _ => none

/-- How many hexadecimal digits follow a letter behind a backslash. -/
def escapeDigits? : Char → Option Nat
  | 'x' => some 2
  | 'u' => some 4
  | 'U' => some 8
  | _ => none

/-- The character with a code point that hexadecimal digits write. -/
def codePoint? (digits : Text) : Option Char := do
  let n ← Digits.value? 16 digits
  if n.isValidChar then some (Char.ofNat n) else none

/-- A scalar in double quotes, with escapes. An escaped line break is dropped. While `skip` is not
zero, characters belong to an escape that has been read. -/
def scanDouble (gap : Gap) (p : Place) : (skip : Nat) → Text → Except Fault Scanned
  | _, [] => .error .unclosedScalar
  | skip + 1, c :: r => scanDouble gap (p.next c) skip r
  | 0, '\\' :: c :: r =>
    let p' := (p.next '\\').next c
    -- An escaped break keeps the blanks before it and adds nothing of its own.
    if isBreak c then (scanDouble (.breaks none []) p' 0 r).map (.prepend gap.text)
    else
      match escape? c, escapeDigits? c with
      | some e, _ => (scanDouble .none p' 0 r).map (.prepend (gap.text ++ [e]))
      | none, some n =>
        let digits := r.take n
        match codePoint? digits with
        | some e =>
          if digits.length = n then
            (scanDouble .none p' n r).map (.prepend (gap.text ++ [e]))
          else .error .badEscape
        | none => .error .badEscape
      | none, none => .error .badEscape
  | 0, c :: r =>
    if atDocumentMark p (c :: r) then .error .unclosedScalar
    else if c = '"' then .ok ⟨gap.text, false, p.next c, r⟩
    else if isSpace c then scanDouble (gap.addBlank c) (p.next c) 0 r
    else if isBreak c then scanDouble (gap.addBreak c) (p.next c) 0 r
    else (scanDouble .none (p.next c) 0 r).map (.prepend (gap.text ++ [c]))

end VoxelScore.Yaml
