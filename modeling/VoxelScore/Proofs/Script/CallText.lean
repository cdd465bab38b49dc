import VoxelScore.Proofs.Script.Lexemes
import VoxelScore.Proofs.Script.Trivia
import VoxelScore.Proofs.Text.Case
import VoxelScore.Script.Block

/-!
# Calls as they are written

A constructor call may be written with any gaps around its tokens, in either case and with any kind
of quote. Reading recovers its body character by character, and hands on the text behind it as it
is, well-formed or not.

## Main definitions

* `constructors`: the names of constructors and their kinds
* `callText`: a call as it is written

## Main results

* `Block.readFrom_token`: one step of reading, behind a gap
* `Block.parse_callText`: a written call is read back
-/

namespace VoxelScore.Script

variable {c q : Char} {t r g name body written rest : Text} {token : Token}

/-! ## Names -/

/-- The names of constructors in small letters, and the kinds that they make. -/
def constructors : List (Text × Kind) :=
  [("note".toList, .note), ("sound".toList, .sound), ("s".toList, .sound), ("n".toList, .degree)]

theorem ofConstructor?_of_mem {kind : Kind} (h : (Text.lower name, kind) ∈ constructors) :
    Kind.ofConstructor? name = some kind := by
  simp only [constructors, List.mem_cons, Prod.mk.injEq, List.not_mem_nil, or_false] at h
  unfold Kind.ofConstructor?
  rcases h with ⟨he, rfl⟩ | ⟨he, rfl⟩ | ⟨he, rfl⟩ | ⟨he, rfl⟩
  all_goals
    rw [he]
    decide

theorem isUpper_iff_toNat : c.isUpper ↔ 65 ≤ c.toNat ∧ c.toNat ≤ 90 := by
  show decide (c.val ≥ 'A'.val ∧ c.val ≤ 'Z'.val) = true ↔ _
  rw [decide_eq_true_eq, ge_iff_le, UInt32.le_iff_toNat_le, UInt32.le_iff_toNat_le]
  rfl

theorem isLower_iff_toNat : c.isLower ↔ 97 ≤ c.toNat ∧ c.toNat ≤ 122 := by
  show (decide (c.val ≥ 'a'.val) && decide (c.val ≤ 'z'.val)) = true ↔ _
  rw [Bool.and_eq_true, decide_eq_true_eq, decide_eq_true_eq, ge_iff_le, UInt32.le_iff_toNat_le,
    UInt32.le_iff_toNat_le]
  rfl

theorem isAlpha_iff_toNat :
    c.isAlpha ↔ 65 ≤ c.toNat ∧ c.toNat ≤ 90 ∨ 97 ≤ c.toNat ∧ c.toNat ≤ 122 := by
  show (c.isUpper || c.isLower) = true ↔ _
  rw [Bool.or_eq_true, isUpper_iff_toNat, isLower_iff_toNat]

theorem isAlpha_of_toLower (h : c.toLower.isAlpha) : c.isAlpha := by
  rw [isAlpha_iff_toNat] at h ⊢
  rw [Text.toNat_toLower] at h
  split_ifs at h <;> omega

theorem isAlpha_of_mem_constructor {kind : Kind} (h : (Text.lower name, kind) ∈ constructors) :
    name ≠ [] ∧ ∀ c ∈ name, c.isAlpha := by
  have hword : ∀ p ∈ constructors, p.1 ≠ [] ∧ p.1.all Char.isAlpha := by decide
  obtain ⟨hne, hall⟩ := hword _ h
  constructor
  · rintro rfl
    exact hne rfl
  · intro c hc
    exact isAlpha_of_toLower (List.all_eq_true.mp hall _ (List.mem_map_of_mem hc))

theorem isAlphabetic_of_isAlpha (h : c.isAlpha) : Text.isAlphabetic c := by
  have hn := isAlpha_iff_toNat.mp h
  unfold Text.isAlphabetic
  rw [if_pos (by omega), h]

theorem isNameChar_of_isAlpha (h : c.isAlpha) : isNameChar c := by
  simp [isNameChar, Text.isAlphanumeric, isAlphabetic_of_isAlpha h]

theorem isNameStart_of_isAlpha (h : c.isAlpha) : isNameStart c := by
  simp [isNameStart, isAlphabetic_of_isAlpha h]

/-- A letter starts a name, which reaches as far as its characters do. -/
theorem token?_name (h : c.isAlpha) (hw : ∀ d ∈ written, isNameChar d)
    (hr : Text.StopsRun isNameChar rest) :
    token? c (written ++ rest) = some (.name (c :: written), written, rest) := by
  have hmark : ¬ isMark c := by
    intro hm
    simp only [isMark, Bool.or_eq_true, decide_eq_true_eq] at hm
    rcases hm with ((rfl | rfl) | rfl) | rfl
    all_goals exact absurd h (by decide)
  have hquote : ¬ isQuote c := by
    intro hq
    simp only [isQuote, Bool.or_eq_true, decide_eq_true_eq] at hq
    rcases hq with (rfl | rfl) | rfl
    all_goals exact absurd h (by decide)
  have hdigit : ¬ c.isDigit := by
    intro hd
    have hn := isAlpha_iff_toNat.mp h
    have hd : 48 ≤ c.toNat ∧ c.toNat ≤ 57 := Char.isDigit_iff_toNat.mp hd
    omega
  rw [token?_of_not_mark hmark, if_neg hquote, if_neg hdigit, if_pos (isNameStart_of_isAlpha h),
    Text.takeWhile_run_append hw hr, Text.dropWhile_run_append hw hr]

/-- The code points of blanks. -/
def blankCodes : List ℕ :=
  List.range' 9 5 ++ List.range' 0x2000 11 ++
    [0x20, 0x85, 0xA0, 0x1680, 0x2028, 0x2029, 0x202F, 0x205F, 0x3000]

theorem toNat_mem_blankCodes (h : Text.isBlank c) : c.toNat ∈ blankCodes := by
  simp only [Text.isBlank, Bool.or_eq_true, Bool.and_eq_true, decide_eq_true_eq] at h
  simp only [blankCodes, List.mem_append, List.mem_range'_1, List.mem_cons, List.not_mem_nil]
  omega

/-- A blank is no character of a name. -/
theorem isNameChar_of_isBlank (h : Text.isBlank c) : isNameChar c = false := by
  have hall : ∀ n ∈ blankCodes, isNameChar (Char.ofNat n) = false := by decide +kernel
  have hc := hall _ (toNat_mem_blankCodes h)
  rwa [Char.ofNat_toNat] at hc

/-- A letter ends a gap. -/
theorem stopsTrivia_of_isAlpha (h : c.isAlpha) : StopsTrivia (c :: r) := by
  refine stopsTrivia_cons (Bool.eq_false_iff.mpr fun hb => ?_) ?_
  · have hc := isNameChar_of_isBlank hb
    rw [isNameChar_of_isAlpha h] at hc
    cases hc
  · rintro rfl
    exact absurd h (by decide)

/-- An escaped body between quotes is a literal. -/
theorem token?_quote (hq : isQuote q) (body rest : Text) :
    token? q (escape q body ++ q :: rest) =
      some (.literal body, escape q body ++ [q], rest) := by
  have hmark : ¬ isMark q := by
    simp only [isQuote, Bool.or_eq_true, decide_eq_true_eq] at hq
    rcases hq with (rfl | rfl) | rfl
    all_goals decide
  have hread := (isBody_escape q body).splitLiteral? (ne_backslash_of_isQuote hq) rest
  rw [token?_of_not_mark hmark, if_pos hq, hread]
  rfl

/-- A quote ends a gap. -/
theorem stopsTrivia_of_isQuote (h : isQuote c) : StopsTrivia (c :: r) := by
  simp only [isQuote, Bool.or_eq_true, decide_eq_true_eq] at h
  rcases h with (rfl | rfl) | rfl
  all_goals exact stopsTrivia_cons (by decide) (by decide)

/-- No name goes on into a gap. -/
theorem Trivia.stopsRun_isNameChar (h : Trivia g) (ht : Text.StopsRun isNameChar t) :
    Text.StopsRun isNameChar (g ++ t) := by
  cases h with
  | nil => exact ht
  | cons item _ =>
    cases item with
    | blank hb => exact Text.stopsRun_cons (isNameChar_of_isBlank hb)
    | lineComment _ => exact Text.stopsRun_cons (by decide)
    | blockComment _ => exact Text.stopsRun_cons (by decide)

/-! ## Steps of reading -/

namespace Block

theorem readFrom_done (seen : List Placed) (p : Cursor) (hg : splitTrivia t = (g, [])) :
    readFrom seen p t = atEnd seen := by
  rw [readFrom]
  split
  · rfl
  · next hg' => rw [hg] at hg'; cases hg'

theorem readFrom_fault (seen : List Placed) (p : Cursor) (hg : splitTrivia t = (g, c :: r))
    (ht : token? c r = none) :
    readFrom seen p t = .error (.atCursor (p.past g) .unclosedLiteral) := by
  rw [readFrom]
  split
  · next hg' => rw [hg] at hg'; cases hg'
  · next hg' =>
    rw [hg] at hg'
    cases hg'
    split
    · rfl
    · next ht' => rw [ht] at ht'; cases ht'

/-- **One step of reading**: the token behind a gap ends the reading if it completes a call, and is
put to the tokens read before otherwise. -/
theorem readFrom_token (seen : List Placed) (p : Cursor) (hg : splitTrivia t = (g, c :: r))
    (ht : token? c r = some (token, written, rest)) :
    readFrom seen p t =
      match endingCall? (⟨token, p.past g, (p.past g).past (c :: written)⟩ :: seen) with
      | some (kind, body) => .ok (some ⟨kind, body, rest⟩)
      | none => readFrom (⟨token, p.past g, (p.past g).past (c :: written)⟩ :: seen)
          ((p.past g).past (c :: written)) rest := by
  rw [readFrom]
  split
  · next hg' => rw [hg] at hg'; cases hg'
  · next hg' =>
    rw [hg] at hg'
    cases hg'
    split
    · next ht' => rw [ht] at ht'; cases ht'
    · next ht' => rw [ht] at ht'; cases ht'; rfl

end Block

/-- A call as it is written, with a gap in front of every token. -/
def callText (gap₀ name gap₁ gap₂ : Text) (quote : Char) (body gap₃ : Text) : Text :=
  gap₀ ++ (name ++ (gap₁ ++ '(' :: (gap₂ ++ quote :: (escape quote body ++ quote ::
    (gap₃ ++ [')'])))))

/-- **A written call is read back.** Whatever the case of the constructor, the kind of quote and the
gaps, the body is recovered and the text behind the call becomes its modifiers, unread. -/
theorem Block.parse_callText {kind : Kind} {gap₀ gap₁ gap₂ gap₃ : Text}
    (hname : (Text.lower name, kind) ∈ constructors) (hq : isQuote q) (hbody : body ≠ [])
    (h₀ : Trivia gap₀) (h₁ : Trivia gap₁) (h₂ : Trivia gap₂) (h₃ : Trivia gap₃) (rest : Text) :
    Block.parse (callText gap₀ name gap₁ gap₂ q body gap₃ ++ rest) =
      .ok (some ⟨kind, body, rest⟩) := by
  obtain ⟨hne, hletters⟩ := isAlpha_of_mem_constructor hname
  obtain ⟨c, w, rfl⟩ := List.exists_cons_of_ne_nil hne
  have hc : c.isAlpha := hletters c List.mem_cons_self
  have hw : ∀ d ∈ w, isNameChar d := fun d hd =>
    isNameChar_of_isAlpha (hletters d (List.mem_cons_of_mem c hd))
  simp only [callText, List.append_assoc, List.cons_append, List.nil_append]
  unfold parse
  -- the name
  rw [readFrom_token [] .start (h₀.splitTrivia_of_stops (stopsTrivia_of_isAlpha hc))
    (token?_name hc hw (h₁.stopsRun_isNameChar (Text.stopsRun_cons (by decide))))]
  simp only [endingCall?]
  -- the opening parenthesis
  rw [readFrom_token _ _ (h₁.splitTrivia_of_stops (stopsTrivia_cons (by decide) (by decide)))
    (show token? '(' _ = some (.openParen, [], _) from rfl)]
  simp only [endingCall?]
  -- the literal
  rw [readFrom_token _ _ (h₂.splitTrivia_of_stops (stopsTrivia_of_isQuote hq))
    (token?_quote hq body _)]
  simp only [endingCall?]
  -- the closing parenthesis, which completes the call
  rw [readFrom_token _ _ (h₃.splitTrivia_of_stops (stopsTrivia_cons (by decide) (by decide)))
    (show token? ')' _ = some (.closeParen, [], _) from rfl)]
  simp only [endingCall?]
  rw [if_neg (by rwa [List.isEmpty_iff]), ofConstructor?_of_mem hname]
  rfl

/-- Comments may hold what looks like a call, and what stands behind the call may be left open. -/
theorem Block.parse_callText_commented :
    Block.parse "/* s('x') */ NoTe\n( // \"(\n'c\\'\\\\'/**/)\"/*(".toList =
      .ok (some ⟨.note, "c'\\".toList, "\"/*(".toList⟩) := by
  have htext : "/* s('x') */ NoTe\n( // \"(\n'c\\'\\\\'/**/)\"/*(".toList =
      callText "/* s('x') */ ".toList "NoTe".toList "\n".toList " // \"(\n".toList '\''
        "c'\\".toList "/**/".toList ++ "\"/*(".toList := by rfl
  rw [htext]
  exact parse_callText (by decide) (by decide) (by decide) (by decide) (by decide) (by decide)
    (by decide) _

end VoxelScore.Script
