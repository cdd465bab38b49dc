import VoxelScore.Text.Blank
import VoxelScore.Text.Letter

/-!
# Tokens of pattern code

Scanning cuts a code text into *pieces*: a gap of blanks and comments, then the characters of one
token. Only a string literal that is never closed stops it; every other character is a token at
least on its own. A piece keeps both its gap and its token as written, so that the text is the
concatenation of its pieces and its ending.

## Main definitions

* `Token` — names, numbers, string literals and marks.
* `Piece`, `Ending`, `Scan` — the cut text.
* `Scan.ofText` — the scanner.
* `splitTrivia` — the gap that a text starts with.
* `token?` — the token that a character and the text after it start with.

## Main results

* `splitTrivia_append`, `token?_append` — nothing is lost in either step.
* `Scan.text_ofText` — the pieces and the ending make up the text.
-/

namespace VoxelScore.Script

/-- A token of pattern code. -/
inductive Token where
  | name (text : Text)
  /-- Digits with at most one point between them, as written. -/
  | number (text : Text)
  /-- The contents of a string literal: no quotes, and every escaped character for itself. -/
  | literal (text : Text)
  | openParen
  | closeParen
  | dot
  | comma
  /-- Any other character. -/
  | symbol (c : Char)
  deriving DecidableEq, Repr

/-- A gap and the token that follows it, as written and as read. -/
structure Piece where
  gap : Text
  lexeme : Text
  token : Token
  deriving DecidableEq, Repr

/-- The characters of a piece. -/
def Piece.text (p : Piece) : Text :=
  p.gap ++ p.lexeme

/-- How a scan ends: after a last gap, or at the opening quote of a literal that is not closed. -/
inductive Ending where
  | complete (gap : Text)
  | unclosed (gap rest : Text)
  deriving DecidableEq, Repr

/-- The characters after the last piece. -/
def Ending.text : Ending → Text
  | .complete gap => gap
  | .unclosed gap rest => gap ++ rest

/-- The pieces of a text and what follows them. -/
structure Scan where
  pieces : List Piece
  ending : Ending
  deriving DecidableEq, Repr

/-- The characters of a list of pieces. -/
def piecesText (pieces : List Piece) : Text :=
  pieces.flatMap Piece.text

/-- The characters of a scan. -/
def Scan.text (s : Scan) : Text :=
  piecesText s.pieces ++ s.ending.text

/-! ## Gaps -/

/-- Where a reader of gaps stands: in code, or in a comment of either form. -/
inductive TriviaMode where
  | code
  | lineComment
  | blockComment
  deriving DecidableEq, Repr

/-- The gap that a text starts with, and the rest: blanks, comments from `//` to the end of the
line, and comments from `/*` to the next `*/` or else to the end of the text. -/
def splitTriviaIn : TriviaMode → Text → Text × Text
  | .code, '/' :: '/' :: r =>
    let (gap, rest) := splitTriviaIn .lineComment r
    ('/' :: '/' :: gap, rest)
  | .code, '/' :: '*' :: r =>
    let (gap, rest) := splitTriviaIn .blockComment r
    ('/' :: '*' :: gap, rest)
  | .code, c :: r =>
    if Text.isBlank c then
      let (gap, rest) := splitTriviaIn .code r
      (c :: gap, rest)
    else ([], c :: r)
  | .lineComment, c :: r =>
    let (gap, rest) := splitTriviaIn (if c = '\n' then .code else .lineComment) r
    (c :: gap, rest)
  | .blockComment, '*' :: '/' :: r =>
    let (gap, rest) := splitTriviaIn .code r
    ('*' :: '/' :: gap, rest)
  | .blockComment, c :: r =>
    let (gap, rest) := splitTriviaIn .blockComment r
    (c :: gap, rest)
  | _, [] => ([], [])

/-- The gap that a code text starts with, and the rest. -/
def splitTrivia (t : Text) : Text × Text :=
  splitTriviaIn .code t

theorem splitTriviaIn_append (mode : TriviaMode) (t : Text) :
    (splitTriviaIn mode t).1 ++ (splitTriviaIn mode t).2 = t := by
  fun_induction splitTriviaIn mode t <;> simp_all

/-- A gap and its rest make up the text. -/
theorem splitTrivia_append (t : Text) : (splitTrivia t).1 ++ (splitTrivia t).2 = t :=
  splitTriviaIn_append .code t

/-! ## Tokens -/

/-- A character that a string literal starts and ends with. -/
def isQuote (c : Char) : Bool :=
  c = '"' || c = '\'' || c = '\x60'

/-- A character that a name starts with. -/
def isNameStart (c : Char) : Bool :=
  Text.isAlphabetic c || c = '_' || c = '$'

/-- A character that a name goes on with. -/
def isNameChar (c : Char) : Bool :=
  Text.isAlphanumeric c || c = '_' || c = '$'

/-- The contents of a literal after its opening quote, its characters as written up to the closing
quote, and the rest. A backslash makes the character after it part of the contents, whatever it
is. -/
def splitLiteral? (quote : Char) : Text → Option (Text × Text × Text)
  | [] => none
  | ['\\'] => none
  | '\\' :: c :: r =>
    (splitLiteral? quote r).map fun (contents, written, rest) =>
      (c :: contents, '\\' :: c :: written, rest)
  | c :: r =>
    if c = quote then some ([], [c], r)
    else (splitLiteral? quote r).map fun (contents, written, rest) =>
      (c :: contents, c :: written, rest)

/-- The characters with which a number goes on after its first digit, and the rest: digits, and a
point if there is a digit behind it, with the digits behind it. -/
def splitNumber (t : Text) : Text × Text :=
  match t.dropWhile Char.isDigit with
  | '.' :: d :: r =>
    if d.isDigit then
      (t.takeWhile Char.isDigit ++ '.' :: d :: r.takeWhile Char.isDigit, r.dropWhile Char.isDigit)
    else (t.takeWhile Char.isDigit, '.' :: d :: r)
  | r => (t.takeWhile Char.isDigit, r)

/-- The token that starts with the character `c`, the characters of it after `c`, and the rest;
nothing if it is a literal that is not closed. -/
def token? (c : Char) (r : Text) : Option (Token × Text × Text) :=
  if c = '(' then some (.openParen, [], r)
  else if c = ')' then some (.closeParen, [], r)
  else if c = '.' then some (.dot, [], r)
  else if c = ',' then some (.comma, [], r)
  else if isQuote c then
    (splitLiteral? c r).map fun (contents, written, rest) => (.literal contents, written, rest)
  else if c.isDigit then
    some (.number (c :: (splitNumber r).1), (splitNumber r).1, (splitNumber r).2)
  else if isNameStart c then
    some (.name (c :: r.takeWhile isNameChar), r.takeWhile isNameChar, r.dropWhile isNameChar)
  else some (.symbol c, [], r)

theorem splitLiteral?_append {quote : Char} {t contents written rest : Text}
    (h : splitLiteral? quote t = some (contents, written, rest)) : written ++ rest = t := by
  fun_induction splitLiteral? quote t generalizing contents written rest with
  | case1 => simp at h
  | case2 => simp at h
  | case3 c r ih =>
    obtain ⟨⟨contents', written', rest'⟩, hr, he⟩ := Option.map_eq_some_iff.1 h
    obtain ⟨-, rfl, rfl⟩ := by simpa using he
    simp [ih hr]
  | case4 r _ _ =>
    obtain ⟨-, rfl, rfl⟩ := by simpa using h
    simp
  | case5 c r _ _ hc ih =>
    obtain ⟨⟨contents', written', rest'⟩, hr, he⟩ := Option.map_eq_some_iff.1 h
    obtain ⟨-, rfl, rfl⟩ := by simpa using he
    simp [ih hr]

theorem splitNumber_append (t : Text) : (splitNumber t).1 ++ (splitNumber t).2 = t := by
  have whole := List.takeWhile_append_dropWhile (p := Char.isDigit) (l := t)
  unfold splitNumber
  split
  · next d r hr =>
    split <;> simpa [hr] using whole
  · exact whole

/-- The first character of a token, its other characters and the rest make up the text. -/
theorem token?_append {c : Char} {r written rest : Text} {token : Token}
    (h : token? c r = some (token, written, rest)) : written ++ rest = r := by
  unfold token? at h
  split at h
  · simp_all
  split at h
  · simp_all
  split at h
  · simp_all
  split at h
  · simp_all
  split at h
  · obtain ⟨⟨contents, written', rest'⟩, hr, he⟩ := Option.map_eq_some_iff.1 h
    obtain ⟨-, rfl, rfl⟩ := by simpa using he
    exact splitLiteral?_append hr
  split at h
  · simp only [Option.some.injEq, Prod.mk.injEq] at h
    obtain ⟨-, rfl, rfl⟩ := h
    exact splitNumber_append r
  split at h
  · simp only [Option.some.injEq, Prod.mk.injEq] at h
    obtain ⟨-, rfl, rfl⟩ := h
    exact List.takeWhile_append_dropWhile
  · simp_all

/-! ## Scanning -/

namespace Scan

/-- The scan with one more piece in front. -/
def cons (p : Piece) (s : Scan) : Scan :=
  ⟨p :: s.pieces, s.ending⟩

/-- The pieces of a text, up to its end or to a literal that is not closed. -/
def ofText (t : Text) : Scan :=
  match _hgap : splitTrivia t with
  | (gap, []) => ⟨[], .complete gap⟩
  | (gap, c :: r) =>
    match _htoken : token? c r with
    | none => ⟨[], .unclosed gap (c :: r)⟩
    | some (token, written, rest) =>
      (ofText rest).cons ⟨gap, c :: written, token⟩
termination_by t.length
decreasing_by
  all_goals
    have gapLength := congrArg List.length (splitTrivia_append t)
    have restLength := congrArg List.length (token?_append _htoken)
    simp [_hgap] at gapLength restLength
    omega

/-- The pieces and the ending make up the text. -/
theorem text_ofText (t : Text) : (ofText t).text = t := by
  fun_induction ofText t with
  | case1 t gap h => simpa [text, piecesText, Ending.text, h] using splitTrivia_append t
  | case2 t gap c r h ht => simpa [text, piecesText, Ending.text, h] using splitTrivia_append t
  | case3 t gap c r h token written rest ht ih =>
    have hg := splitTrivia_append t
    rw [h, ← token?_append ht, ← ih] at hg
    simpa [cons, text, piecesText, Piece.text] using hg

end Scan

end VoxelScore.Script
