import VoxelScore.Yaml.Scalar
import VoxelScore.Yaml.Datum

/-!
# Texts as scalars

A text is written plainly where it reads back as the same text, else in single quotes, and in double
quotes with escapes if it has characters that cannot be printed. A text of several lines is written
as a literal block.

## Main definitions

* `Quoting.render` — a text as a scalar.
* `Quoting.fitsLine` — the scalar can be a key on the line of its value.
-/

namespace VoxelScore.Yaml.Quoting

/-- Every kind of line break. -/
def isAnyBreak (c : Char) : Bool :=
  c = '\r' || c = '\u0085' || isBreak c

/-- The text ends, or goes on with a blank or any line break. -/
def startsGap (t : Text) : Bool :=
  t.head?.all fun c => isSpace c || isAnyBreak c

/-- Characters that are written as they are; others need an escape. -/
def isPrintable (c : Char) : Bool :=
  c = '\n' || (' ' ≤ c && c ≤ '~') ||
    ('\u00a0' ≤ c && !"\ufeff\ufffe\uffff".toList.contains c)

/-! ## What a plain scalar would be taken for -/

/-- The words that stand for nothing and for truth values. -/
def reserved : List String :=
  ["", "~", "null", "Null", "NULL", "true", "True", "TRUE", "false", "False", "FALSE"]

/-- The least number of 128 signed bits. -/
def int128Low : Int := -0x80000000000000000000000000000000

/-- The greatest number of 128 bits without sign. -/
def nat128High : Int := 0xffffffffffffffffffffffffffffffff

/-- Written plainly, the text would be no text: it would be nothing, a truth value or a number of up
to 128 bits. Digits behind a zero are quoted too. -/
def isAmbiguous (t : Text) : Bool :=
  reserved.contains (String.ofList t) || Datum.isZeroLed t || (Datum.number? t).isSome ||
    (Datum.integer? t).any fun n => int128Low ≤ n ∧ n ≤ nat128High

/-- A colon before a blank or a number sign behind one, in what follows the character `before`. -/
def hasInnerMark (before : Char) : Text → Bool
  | [] => false
  | c :: r =>
    (c = ':' && startsGap r) || (c = '#' && startsGap [before]) || hasInnerMark c r

/-- Marks in the text would end the scalar, or be taken for something else. -/
def hasMark (t : Text) : Bool :=
  t.take 3 = "---".toList || t.take 3 = "...".toList ||
    match t with
    | [] => false
    | c :: r =>
      "#,[]\x7b\x7d&*!|>'\"%@\x60".toList.contains c || ("?:-".toList.contains c && startsGap r) ||
        hasInnerMark c r

/-- The text starts or ends with a space or line break. -/
def hasOuterGap (t : Text) : Bool :=
  let isGap c := c = ' ' || isAnyBreak c
  t.head?.any isGap || t.getLast?.any isGap

/-- A character of `p` stands directly before one of `q`. -/
def hasPair (p q : Char → Bool) (t : Text) : Bool :=
  (t.zip (t.drop 1)).any fun (a, b) => p a && q b

/-! ## The styles -/

/-- The spaces in front of a line. -/
def spaces (n : Nat) : Text :=
  List.replicate n ' '

/-- The text with an indentation in front of every line that is not empty. -/
def indented (indent : Nat) (fresh : Bool) : Text → Text
  | [] => []
  | c :: r =>
    if isBreak c then c :: indented indent true r
    else (if fresh then spaces indent else []) ++ c :: indented indent false r

/-- In single quotes: a quote is written twice. -/
def single (indent : Nat) (t : Text) : Text :=
  let inner := t.flatMap fun c => if c = '\'' then ['\'', '\''] else [c]
  '\'' :: indented indent false (inner ++ ['\''])

/-- A character in double quotes: the letter of an escape, a code point or itself. -/
def escaped (c : Char) : Text :=
  match c with
  | '\x00' => ['\\', '0']
  | '\x07' => ['\\', 'a']
  | '\x08' => ['\\', 'b']
  | '\t' => ['\\', 't']
  | '\n' => ['\\', 'n']
  | '\x0b' => ['\\', 'v']
  | '\x0c' => ['\\', 'f']
  | '\r' => ['\\', 'r']
  | '\x1b' => ['\\', 'e']
  | '"' => ['\\', '"']
  | '\\' => ['\\', '\\']
  | '\u0085' => ['\\', 'N']
  | '\u2028' => ['\\', 'L']
  | '\u2029' => ['\\', 'P']
  | c =>
    if isPrintable c then [c]
    else if c.toNat ≤ 0xff then '\\' :: 'x' :: Digits.hex 2 c.toNat
    else if c.toNat ≤ 0xffff then '\\' :: 'u' :: Digits.hex 4 c.toNat
    else '\\' :: 'U' :: Digits.hex 8 c.toNat

/-- In double quotes. -/
def double (t : Text) : Text :=
  '"' :: t.flatMap escaped ++ ['"']

/-- A literal block. Its head tells the indentation if the text starts with a blank, and what
becomes of the breaks at its end: all kept, none, or one. -/
def literal (indent : Nat) (t : Text) : Text :=
  let hint := if t.head?.any (fun c => c = ' ' || isAnyBreak c) then ['2'] else []
  let chomping := match t.reverse with
    | [_] => ['+']
    | a :: b :: _ => if !isAnyBreak a then ['-'] else if isAnyBreak b then ['+'] else []
    | [] => ['-']
  '|' :: hint ++ chomping ++ '\n' :: indented indent true t

/-- The text has room on the line of its value: it has no line break and at most 128 bytes. -/
def fitsLine (t : Text) : Bool :=
  !t.any isAnyBreak && Text.byteLength t ≤ 128

/-- A text as a scalar, its further lines indented. -/
def render (indent : Nat) (t : Text) : Text :=
  let special := t.any (!isPrintable ·) || hasPair (· = ' ') isAnyBreak t
  if t.contains '\n' then
    if special || t.getLast? = some ' ' then double t else literal indent t
  else if special || hasPair isAnyBreak (· = ' ') t then double t
  else if isAmbiguous t || hasMark t || hasOuterGap t || t.any isAnyBreak then single indent t
  else t

example : render 2 "it's".toList = "it's".toList ∧ render 2 "a: b".toList = "'a: b'".toList := by
  decide +kernel

end VoxelScore.Yaml.Quoting
