import VoxelScore.Yaml.Scalar

/-!
# Literal blocks

A literal block keeps the line breaks of its text. Its head, behind the bar, may tell how far the
text is indented and what becomes of the breaks at the end; without a number the first line of the
text tells the indentation.

## Main definitions

* `Chomping` — what becomes of the breaks at the end.
* `scanLiteral` — a literal block, behind its bar.
-/

namespace VoxelScore.Yaml

/-- What becomes of the line breaks at the end of a block: one stays, none, or all. -/
inductive Chomping where
  | clip
  | strip
  | keep
  deriving DecidableEq, Repr

namespace Literal

/-- The chomping that a text starts with, and the rest. -/
def splitChomping : Text → Option Chomping × Text
  | '+' :: r => (some .keep, r)
  | '-' :: r => (some .strip, r)
  | r => (none, r)

/-- The digit from 1 to 9 that a text starts with, and the rest. -/
def splitDepth : Text → Option Nat × Text
  | c :: r => if '1' ≤ c && c ≤ '9' then (some (c.toNat - 0x30), r) else (none, c :: r)
  | [] => (none, [])

/-- Chomping and indentation in either order, and the rest. -/
def splitHead (t : Text) : Chomping × Option Nat × Text :=
  match splitChomping t with
  | (some chomping, r) =>
    let (depth, r) := splitDepth r
    (chomping, depth, r)
  | (none, r) =>
    let (depth, r) := splitDepth r
    let (chomping, r) := if depth.isSome then splitChomping r else (none, r)
    (chomping.getD .clip, depth, r)

/-- The lines of a text, each with the break that ends it. -/
def lines : Text → List Text
  | [] => []
  | c :: r =>
    if isBreak c then [c] :: lines r
    else match lines r with
      | [] => [[c]]
      | l :: ls => (c :: l) :: ls

/-- The spaces at the start of a line. -/
def spaces (line : Text) : Nat :=
  (line.takeWhile (· = ' ')).length

/-- The indentation that lines tell: that of the first line with text, but not less than that of
blank lines before it. -/
def depthOf : List Text → Nat
  | [] => 0
  | l :: ls =>
    if (l.dropWhile (· = ' ')).head?.any isBreak then max (spaces l) (depthOf ls) else spaces l

/-- What has been read of a block: its text, the break of the last line and the breaks of blank
lines since then, and where the document goes on. -/
structure Read where
  text : Text
  last : Text
  blank : Text
  place : Place
  rest : Text

/-- The text of lines with an indentation, up to the first line that stands further out. -/
def readLines (depth : Nat) (last blank : Text) (p : Place) : List Text → Except Fault Read
  | [] => .ok ⟨[], last, blank, p, []⟩
  | l :: ls =>
    let gap := l.take (min depth (spaces l))
    let body := l.drop gap.length
    match body with
    | [] => .ok ⟨[], last, blank, p.past gap, []⟩
    | c :: r =>
      if isBreak c then readLines depth last (blank ++ [c]) (p.past l) ls
      else if gap.length < depth then
        if c = '\t' then .error .tabIndentation
        else .ok ⟨[], last, blank, p.past gap, c :: r ++ ls.flatten⟩
      else
        let stop := body.filter isBreak
        (readLines depth stop [] (p.past l) ls).map fun read =>
          { read with text := last ++ blank ++ body.filter (!isBreak ·) ++ read.text }

end Literal

/-- A literal block inside blocks of the given indentation. A key may follow it. -/
def scanLiteral (indent : Int) (p : Place) (t : Text) : Except Fault Scanned := do
  let (chomping, depth, r) := Literal.splitHead t
  let p := p.past (t.take (t.length - r.length))
  let gap := r.takeWhile isSpace
  let r' := r.drop gap.length
  let comment := if r'.head? = some '#' then r'.takeWhile (!isBreak ·) else []
  match r'.drop comment.length with
  | [] => return ⟨[], true, (p.past gap).past comment, []⟩
  | c :: body =>
    if !isBreak c then .error (.strayCharacter c)
    else
      let lines := Literal.lines body
      let depth := match depth with
        | some n => (max indent 0).toNat + n
        | none => max (Literal.depthOf lines) (max (indent + 1) 1).toNat
      let read ← Literal.readLines depth [] [] (((p.past gap).past comment).next c) lines
      let stop := match chomping with
        | .clip => read.last
        | .strip => []
        | .keep => read.last ++ read.blank
      return ⟨read.text ++ stop, true, read.place, read.rest⟩

end VoxelScore.Yaml
