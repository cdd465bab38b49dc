import VoxelScore.Yaml.Literal
import VoxelScore.Yaml.Node

/-!
# Tokens of documents

Indentation becomes tokens of its own: a block collection opens where an entry stands further in
than the block around it, and ends at the first token that stands further out.

What a scalar or flow collection is, a key or a value, is known only at the colon behind it. Its
place among the tokens is therefore kept as a *candidate*, and the colon puts the key token there.

## Main definitions

* `Token` — the tokens.
* `Scanner` — what has been read and what is left; `Scanner.next` reads one more token.
* `tokens` — the tokens of a text.
-/

namespace VoxelScore.Yaml

/-- A token of a document. -/
inductive Token where
  | documentStart
  | documentEnd
  | blockSequence
  | blockMapping
  | blockEnd
  | flowSequence
  | flowSequenceEnd
  | flowMapping
  | flowMappingEnd
  | entry
  | comma
  | key
  | value
  | scalar (datum : Datum)

/-- A token that becomes the start of a key if a colon follows on the same line. -/
structure Candidate where
  place : Place
  /-- How many tokens stand before it. -/
  position : Nat
  /-- The token stands where the block around it has its keys, so that it must become one. -/
  required : Bool

/-- A document that is being read. -/
structure Scanner where
  rest : Text
  place : Place
  /-- The columns of the open blocks, innermost first. -/
  indents : List Nat
  candidate : Option Candidate
  /-- The candidates around the open flow collections, innermost first. -/
  outer : List (Option Candidate)
  /-- A key may start here. -/
  keyAllowed : Bool
  tokens : Array Token

namespace Scanner

/-! ## Texts -/

/-- Carriage returns and next-line marks as line feeds, one for a carriage return with a line feed
behind it. -/
def unifyBreaks : Text → Text
  | '\r' :: '\n' :: r => '\n' :: unifyBreaks r
  | '\r' :: r => '\n' :: unifyBreaks r
  | '\u0085' :: r => '\n' :: unifyBreaks r
  | c :: r => c :: unifyBreaks r
  | [] => []

/-- The characters that a document can hold. -/
def isAllowed (c : Char) : Bool :=
  c = '\t' || c = '\n' || c = '\r' || c = '\u0085' || (' ' ≤ c && c ≤ '~') ||
    ('\u00a0' ≤ c && c ≠ '\ufffe' && c ≠ '\uffff')

/-- A document before its first token. -/
def start (t : Text) : Except Fault Scanner :=
  match t.find? (!isAllowed ·) with
  | some c => .error (.controlCharacter c)
  | none =>
    .ok {
      rest := unifyBreaks t
      place := ⟨0, 0, 0⟩
      indents := []
      candidate := none
      outer := []
      keyAllowed := true
      tokens := #[] }

/-! ## Context -/

/-- A flow collection is open. -/
def inFlow (s : Scanner) : Bool :=
  !s.outer.isEmpty

/-- The column of the innermost block, −1 outside of all. -/
def indent (s : Scanner) : Int :=
  match s.indents with
  | [] => -1
  | column :: _ => column

/-- A token behind the others. -/
def push (s : Scanner) (token : Token) : Scanner :=
  { s with tokens := s.tokens.push token }

/-- A token with `position` others before it. -/
def insert (s : Scanner) (position : Nat) (token : Token) : Scanner :=
  let tokens := s.tokens.toList
  { s with tokens := (tokens.take position ++ token :: tokens.drop position).toArray }

/-- The scanner behind the next `n` characters. -/
def skip (s : Scanner) (n : Nat) : Scanner :=
  { s with rest := s.rest.drop n, place := s.place.past (s.rest.take n) }

/-- A token of `n` characters. -/
def mark (s : Scanner) (n : Nat) (token : Token) (keyAllowed : Bool) : Scanner :=
  { (s.skip n).push token with keyAllowed }

/-- Ends the blocks that stand further in than a column. -/
def endBlocks (column : Int) : List Nat → Array Token → List Nat × Array Token
  | [], tokens => ([], tokens)
  | c :: r, tokens =>
    if column < c then endBlocks column r (tokens.push .blockEnd) else (c :: r, tokens)

/-- Ends the blocks that stand further in than a column; inside flow collections columns do not
matter. -/
def closeTo (s : Scanner) (column : Int) : Scanner :=
  if s.inFlow then s
  else
    let (indents, tokens) := endBlocks column s.indents s.tokens
    { s with indents, tokens }

/-- Opens a block if the column stands further in than the innermost one. -/
def openAt (s : Scanner) (column position : Nat) (token : Token) : Scanner :=
  if !s.inFlow && s.indent < column then
    { s.insert position token with indents := column :: s.indents }
  else s

/-! ## Candidates -/

/-- How many bytes behind its start a key may have its colon. -/
def keyReach : Nat := 1024

/-- The candidate unless the line or its reach is over. -/
def stillPossible (s : Scanner) (c : Option Candidate) : Except Fault (Option Candidate) :=
  match c with
  | none => .ok none
  | some c =>
    if c.place.line < s.place.line || c.place.index + keyReach < s.place.index then
      if c.required then .error .missingColon else .ok none
    else .ok (some c)

/-- Drops the candidate, which must not be a required key. -/
def dropCandidate (s : Scanner) : Except Fault Scanner :=
  if s.candidate.any (·.required) then .error .missingColon else .ok { s with candidate := none }

/-- Makes the token that starts here the candidate, where keys are allowed. -/
def setCandidate (s : Scanner) : Except Fault Scanner :=
  if s.keyAllowed then do
    let s ← s.dropCandidate
    let required := !s.inFlow && s.indent = s.place.column
    return { s with candidate := some ⟨s.place, s.tokens.size, required⟩ }
  else .ok s

/-! ## Tokens -/

/-- Passes blanks, comments and line breaks. A break in a block allows a key again; as long as one
is allowed, tabs are no blanks. A byte order mark may start a line, of which it is the first
column. -/
def skipGap (flow keyAllowed comment : Bool) (p : Place) : Text → Place × Bool × Text
  | [] => (p, keyAllowed, [])
  | c :: r =>
    if isBreak c then skipGap flow (keyAllowed || !flow) false (p.next c) r
    else if comment || c = '#' then skipGap flow keyAllowed true (p.next c) r
    else if c = ' ' || (c = '\t' && (flow || !keyAllowed)) || (c = '\ufeff' && p.column = 0) then
      skipGap flow keyAllowed false (p.next c) r
    else (p, keyAllowed, c :: r)

/-- The end of the text: all blocks end. -/
def finish (s : Scanner) : Except Fault (Array Token) := do
  let s ← (s.closeTo (-1)).dropCandidate
  return s.tokens

/-- The mark `---` or `...`. -/
def documentMark (s : Scanner) (token : Token) : Except Fault Scanner := do
  let s ← (s.closeTo (-1)).dropCandidate
  return s.mark 3 token false

/-- An opening bracket. -/
def openFlow (s : Scanner) (token : Token) : Except Fault Scanner := do
  let s ← s.setCandidate
  return { s.mark 1 token true with candidate := none, outer := s.candidate :: s.outer }

/-- A closing bracket. -/
def closeFlow (s : Scanner) (token : Token) : Except Fault Scanner := do
  let s ← s.dropCandidate
  let s := s.mark 1 token false
  match s.outer with
  | [] => return s
  | candidate :: outer => return { s with candidate, outer }

/-- A comma in a flow collection. -/
def comma (s : Scanner) : Except Fault Scanner := do
  let s ← s.dropCandidate
  return s.mark 1 .comma true

/-- Fails in a block where no key can start. -/
def requireKeyAllowed (s : Scanner) : Except Fault Unit :=
  if !s.inFlow && !s.keyAllowed then .error .misplaced else .ok ()

/-- A dash before an item. -/
def entry (s : Scanner) : Except Fault Scanner := do
  s.requireKeyAllowed
  let s ← (s.openAt s.place.column s.tokens.size .blockSequence).dropCandidate
  return s.mark 1 .entry true

/-- A question mark before a key. -/
def key (s : Scanner) : Except Fault Scanner := do
  s.requireKeyAllowed
  let s ← (s.openAt s.place.column s.tokens.size .blockMapping).dropCandidate
  return s.mark 1 .key (!s.inFlow)

/-- A colon before a value. The candidate, if there is one, becomes its key. -/
def value (s : Scanner) : Except Fault Scanner := do
  match s.candidate with
  | some c =>
    let s := { s.insert c.position .key with candidate := none }
    -- The mapping starts where its first key does, before the key's own token.
    let s := s.openAt c.place.column c.position .blockMapping
    return s.mark 1 .value false
  | none =>
    s.requireKeyAllowed
    let s := s.openAt s.place.column s.tokens.size .blockMapping
    return s.mark 1 .value (!s.inFlow)

/-- A scalar that has been read. -/
def scalar (s : Scanner) (read : Except Fault Scanned) (datum : Text → Datum) :
    Except Fault Scanner := do
  let s ← s.setCandidate
  let scanned ← read
  return { s.push (.scalar (datum scanned.text)) with
    rest := scanned.rest, place := scanned.place, keyAllowed := scanned.newLine }

/-- A literal block, which is never a key on the line of its value. -/
def literal (s : Scanner) (r : Text) : Except Fault Scanner := do
  let s ← s.dropCandidate
  let scanned ← scanLiteral s.indent (s.place.next '|') r
  return { s.push (.scalar (.quoted scanned.text)) with
    rest := scanned.rest, place := scanned.place, keyAllowed := true }

/-- The characters with which no plain scalar starts. -/
def isIndicator (c : Char) : Bool :=
  "-?:,[]\x7b\x7d#&*!|>'\"%@\x60".toList.contains c

/-- A plain scalar starts with a character, given what follows. -/
def startsPlain (s : Scanner) (c : Char) (r : Text) : Bool :=
  !(isSpace c || isIndicator c) || (c = '-' && !startsBlank r) ||
    (!s.inFlow && (c = '?' || c = ':') && !startsBlank r)

/-- The next token, which starts with the character `c` before `r`. -/
def token (s : Scanner) (c : Char) (r : Text) : Except Fault Scanner :=
  let marked := s.inFlow || startsBlank r
  if s.place.column = 0 && c = '%' then .error (.unsupported c)
  else if atDocumentMark s.place s.rest then
    s.documentMark (if c = '-' then .documentStart else .documentEnd)
  else if c = '[' then s.openFlow .flowSequence
  else if c = '\x7b' then s.openFlow .flowMapping
  else if c = ']' then s.closeFlow .flowSequenceEnd
  else if c = '\x7d' then s.closeFlow .flowMappingEnd
  else if c = ',' then s.comma
  else if c = '-' && startsBlank r then s.entry
  else if c = '?' && marked then s.key
  else if c = ':' && marked then s.value
  else if "*&!".toList.contains c || (c = '>' && !s.inFlow) then .error (.unsupported c)
  else if c = '|' && !s.inFlow then s.literal r
  else if c = '\'' then s.scalar (scanSingle .none (s.place.next c) r) .quoted
  else if c = '"' then s.scalar (scanDouble .none (s.place.next c) 0 r) .quoted
  else if s.startsPlain c r then
    s.scalar (scanPlain s.inFlow (s.indent + 1) .none s.place s.rest) .plain
  else .error (.strayCharacter c)

/-- Reads the gap before a token. -/
def toToken (s : Scanner) : Except Fault Scanner := do
  let (place, keyAllowed, rest) := skipGap s.inFlow s.keyAllowed false s.place s.rest
  let s := { s with place, keyAllowed, rest }
  let candidate ← s.stillPossible s.candidate
  let outer ← s.outer.mapM s.stillPossible
  return { s with candidate, outer }.closeTo place.column

/-- Reads token after token; each takes at least one character. -/
def run : Nat → Scanner → Except Fault (Array Token)
  | 0, s => s.finish
  | fuel + 1, s => do
    let s ← s.toToken
    match s.rest with
    | [] => s.finish
    | c :: r => run fuel (← s.token c r)

end Scanner

/-- The tokens of a text. -/
def tokens (t : Text) : Except Fault (List Token) := do
  let s ← Scanner.start t
  return (← Scanner.run (t.length + 1) s).toList

end VoxelScore.Yaml
