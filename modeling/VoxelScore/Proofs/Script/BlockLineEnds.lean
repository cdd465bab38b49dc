import VoxelScore.Proofs.Script.FirstCall
import VoxelScore.Proofs.Script.Joining
import VoxelScore.Proofs.Script.LineEnds

/-!
# Line ends in statements and blocks

A carriage return in front of a line feed is the last character of its line: it makes no line a
marker line, and belongs to the statement that the line belongs to. So a text has the same blocks up
to the line ends in their bodies and their modifiers.

The text with carriage returns is read in step with the text itself. After every token the tokens
read so far are the same up to the line ends in literals, which is all that decides whether a call
is complete; their positions differ, and with them the errors, which no block depends on.

## Main definitions

* `Block.crlf`, `Marked.crlf`: a carriage return in front of every line feed
* `ReadAlike`: tokens that are the same up to the line ends in literals

## Main results

* `Block.ofStatement?_crlf`: the block of a statement
* `Marked.ofText_crlf`, `statements_crlf`: the statements of a text
* `blocks_crlf`: the blocks of a text
-/

namespace VoxelScore.Script

open Text (crlf crlf_append crlf_newline crlf_of_not_mem)

/-- The block with a carriage return in front of every line feed. -/
def Block.crlf (b : Block) : Block := ⟨b.kind, Text.crlf b.body, Text.crlf b.modifiers⟩

/-! ## Tokens read in step -/

/-- The tokens are the same up to the line ends in literals, wherever they stand. -/
def ReadAlike (xs ys : List Placed) : Prop :=
  xs.map Placed.token = ys.map fun y => y.token.crlf

section ReadAlike

variable {xs ys : List Placed} {i : Nat} {token : Token} {kind : Kind} {body t : Text}

theorem ReadAlike.cons (h : ReadAlike xs ys) {x y : Placed} (hxy : x.token = y.token.crlf) :
    ReadAlike (x :: xs) (y :: ys) := by
  unfold ReadAlike at h ⊢
  rw [List.map_cons, List.map_cons, h, hxy]

theorem ReadAlike.reverse (h : ReadAlike xs ys) : ReadAlike xs.reverse ys.reverse := by
  unfold ReadAlike at h ⊢
  rw [List.map_reverse, List.map_reverse, h]

theorem ReadAlike.length (h : ReadAlike xs ys) : xs.length = ys.length := by
  have hl := congrArg List.length h
  rwa [List.length_map, List.length_map] at hl

theorem ReadAlike.tokenAt (h : ReadAlike xs ys) (i : Nat) :
    tokenAt xs i = (tokenAt ys i).map Token.crlf := by
  have hi := congrArg (·[i]?) h
  rw [List.getElem?_map, List.getElem?_map] at hi
  rw [Script.tokenAt, Script.tokenAt, Option.map_map]
  exact hi

theorem ReadAlike.tokenAt_iff (h : ReadAlike xs ys) (ht : ∀ t, token ≠ .literal t) :
    Script.tokenAt xs i = some token ↔ Script.tokenAt ys i = some token := by
  rw [h.tokenAt, Option.map_eq_some_iff]
  constructor
  · rintro ⟨token', hi, he⟩
    rwa [(Token.crlf_eq_iff ht).mp he] at hi
  · intro hi
    exact ⟨token, hi, (Token.crlf_eq_iff ht).mpr rfl⟩

theorem ReadAlike.literalAt_iff (h : ReadAlike xs ys) :
    Script.tokenAt xs i = some (.literal t) ↔
      ∃ s, Script.tokenAt ys i = some (.literal s) ∧ Text.crlf s = t := by
  rw [h.tokenAt, Option.map_eq_some_iff]
  constructor
  · rintro ⟨token, hi, he⟩
    obtain ⟨s, rfl, hs⟩ := Token.crlf_eq_literal.mp he
    exact ⟨s, hi, hs⟩
  · rintro ⟨s, hi, hs⟩
    exact ⟨.literal s, hi, Token.crlf_eq_literal.mpr ⟨s, rfl, hs⟩⟩

/-- The calls stand at the same places. -/
theorem ReadAlike.callAt_iff (h : ReadAlike xs ys) :
    CallAt xs i kind t ↔ ∃ body, CallAt ys i kind body ∧ Text.crlf body = t := by
  have hname : ∀ name, Script.tokenAt xs i = some (.name name) ↔
      Script.tokenAt ys i = some (.name name) := fun name => h.tokenAt_iff (by simp)
  have hopen : Script.tokenAt xs (i + 1) = some .openParen ↔
      Script.tokenAt ys (i + 1) = some .openParen := h.tokenAt_iff (by simp)
  have hclose : Script.tokenAt xs (i + 3) = some .closeParen ↔
      Script.tokenAt ys (i + 3) = some .closeParen := h.tokenAt_iff (by simp)
  constructor
  · rintro ⟨⟨name, hn, hk⟩, ho, hl, hc, hne⟩
    obtain ⟨body, hl', rfl⟩ := h.literalAt_iff.mp hl
    refine ⟨body, ⟨⟨name, (hname name).mp hn, hk⟩, hopen.mp ho, hl', hclose.mp hc, ?_⟩, rfl⟩
    exact fun he => hne (Text.crlf_eq_nil_iff.mpr he)
  · rintro ⟨body, ⟨⟨name, hn, hk⟩, ho, hl, hc, hne⟩, rfl⟩
    refine ⟨⟨name, (hname name).mpr hn, hk⟩, hopen.mpr ho, h.literalAt_iff.mpr ⟨body, hl, rfl⟩,
      hclose.mpr hc, ?_⟩
    exact fun he => hne (Text.crlf_eq_nil_iff.mp he)

/-- The same tokens complete a call. -/
theorem ReadAlike.endingCall? (h : ReadAlike xs ys) :
    Block.endingCall? xs =
      (Block.endingCall? ys).map fun (kind, body) => (kind, Text.crlf body) := by
  refine Option.ext fun ⟨kind, t⟩ => ?_
  -- a call at the end of the tokens read is one at the last four places of the stream
  rw [Block.endingCall?_eq_some_iff, h.reverse.callAt_iff, h.length, Option.map_eq_some_iff]
  constructor
  · rintro ⟨hlength, body, hcall, rfl⟩
    exact ⟨(kind, body), Block.endingCall?_eq_some_iff.mpr ⟨hlength, hcall⟩, rfl⟩
  · rintro ⟨⟨kind', body⟩, hcall, he⟩
    obtain ⟨rfl, rfl⟩ := Prod.mk.inj he
    obtain ⟨hlength, hcall⟩ := Block.endingCall?_eq_some_iff.mp hcall
    exact ⟨hlength, body, hcall, rfl⟩

end ReadAlike

/-! ## The block of a statement -/

namespace Block

/-- What reading found, whatever hides a block. -/
def found : Except Error (Option Block) → Option Block
  | .ok b => b
  | .error _ => none

theorem ofStatement?_eq (t : Text) : ofStatement? t = found (readFrom [] .start t) := rfl

theorem found_atEnd (seen : List Placed) : found (atEnd seen) = none := by
  unfold atEnd
  split
  · rfl
  · rfl

/-- **Reading in step.** If the tokens read so far are alike, reading on finds the same block up to
line ends, from whatever positions. -/
theorem found_readFrom_crlf {xs ys : List Placed} (h : ReadAlike xs ys) (p q : Cursor) (t : Text) :
    found (readFrom xs p (Text.crlf t)) = (found (readFrom ys q t)).map Block.crlf := by
  fun_induction readFrom ys q t generalizing xs p with
  | case1 ys q t gap hg =>
    rw [readFrom_done xs p (splitTrivia_crlf_nil hg), found_atEnd, found_atEnd]
    rfl
  | case2 ys q t gap c r hg ht =>
    rw [readFrom_fault xs p (splitTrivia_crlf_cons hg).2 (token?_crlf_of_none ht)]
    rfl
  | case3 ys q t gap c r hg token written rest ht start stop kind body =>
    -- a token completes a call here, and there
    rename_i hcall
    rw [readFrom_token xs p (splitTrivia_crlf_cons hg).2 (token?_crlf_of_some ht),
      (h.cons (y := ⟨token, start, stop⟩) rfl).endingCall?, hcall]
    rfl
  | case4 ys q t gap c r hg token written rest ht start stop hcall =>
    -- a token completes no call: the tokens read so far stay alike
    rename_i ih
    rw [readFrom_token xs p (splitTrivia_crlf_cons hg).2 (token?_crlf_of_some ht),
      (h.cons (y := ⟨token, start, stop⟩) rfl).endingCall?, hcall]
    exact ih (h.cons rfl) _

/-- **The block of a statement** is the same up to line ends. -/
theorem ofStatement?_crlf (t : Text) :
    ofStatement? (Text.crlf t) = (ofStatement? t).map Block.crlf := by
  have hstart : ReadAlike [] [] := rfl
  rw [ofStatement?_eq, ofStatement?_eq]
  exact found_readFrom_crlf hstart _ _ t

end Block

/-! ## Statements -/

theorem afterMarker?_crlf (l : Text) : afterMarker? (crlf l) = (afterMarker? l).map crlf := by
  unfold afterMarker?
  rw [Text.trimStart_crlf, Text.isPrefixOf?_crlf (by decide) (by decide)]

namespace Marked

/-- The split text with a carriage return in front of every line feed. -/
def crlf (m : Marked) : Marked := ⟨Text.crlf m.lead, m.raw.map Text.crlf⟩

theorem cons_crlf (l : Text) (m : Marked) : m.crlf.cons (Text.crlf l) = (m.cons l).crlf := by
  unfold cons
  rw [afterMarker?_crlf]
  cases afterMarker? l with
  | none => simp [crlf]
  | some body => simp [crlf]

/-- **The split of a text.** The carriage return of a line end is part of its line. -/
theorem ofText_crlf (t : Text) : ofText (Text.crlf t) = (ofText t).crlf := by
  induction t using line_induction with
  | last l hl =>
    rw [crlf_of_not_mem hl, ofText_of_not_mem hl, ← cons_crlf, crlf_of_not_mem hl]
    rfl
  | line l r hl ih =>
    -- the line without its line feed is one character longer
    have hl' : '\n' ∉ l ++ ['\r'] := by simp [hl]
    have htext : Text.crlf (l ++ '\n' :: r) = (l ++ ['\r']) ++ '\n' :: Text.crlf r := by
      rw [crlf_append, crlf_of_not_mem hl, crlf_newline, List.append_cons]
    have hline : Text.crlf (l ++ ['\n']) = (l ++ ['\r']) ++ ['\n'] := by
      simp [crlf_of_not_mem hl]
    rw [htext, ofText_append_newline hl', ih, ofText_append_newline hl, ← cons_crlf, hline]

end Marked

/-- **The statements of a text** are the same up to line ends. -/
theorem statements_crlf (t : Text) : statements (crlf t) = (statements t).map crlf := by
  unfold statements
  rw [Marked.ofText_crlf]
  simp [Marked.crlf, Text.trim_crlf]

theorem statementBlocks_crlf (t : Text) :
    statementBlocks (crlf t) = (statementBlocks t).map Block.crlf := by
  unfold statementBlocks
  rw [statements_crlf, List.filterMap_map, List.map_filterMap]
  exact congrArg (List.filterMap · _) (funext Block.ofStatement?_crlf)

/-- **The blocks of a text** are the same up to line ends. The default block has none. -/
theorem blocks_crlf (t : Text) : blocks (crlf t) = (blocks t).map Block.crlf := by
  unfold blocks
  rw [statementBlocks_crlf, Text.trim_crlf, Block.ofStatement?_crlf]
  cases statementBlocks t with
  | nil => cases Block.ofStatement? (Text.trim t) <;> rfl
  | cons b bs => rfl

end VoxelScore.Script
