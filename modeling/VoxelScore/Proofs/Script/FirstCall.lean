import VoxelScore.Proofs.Script.Scanning
import VoxelScore.Script.Block

/-!
# The first call of a statement

A statement is read token by token and only as far as needed. What comes out is determined by its
whole token stream nevertheless: the first complete call if there is one, otherwise the unclosed
literal, otherwise the first unclosed call, otherwise nothing.

## Main definitions

* `CallAt`: a complete constructor call at a place of a token stream
* `UnclosedAt`: a constructor call whose literal is not followed by a closing parenthesis
* `Outcome`: what a token stream and its fault determine

## Main results

* `outcome_readFrom`: reading on behind tokens without a call
* `Block.parse_eq_iff`: reading a statement yields the outcome of its token stream
-/

namespace VoxelScore.Script

/-! ## Calls in a token stream -/

/-- The token at a place of a stream. -/
def tokenAt (ts : List Placed) (i : Nat) : Option Token :=
  ts[i]?.map Placed.token

/-- A constructor call at a place, applied to one literal that is not empty. -/
structure CallAt (ts : List Placed) (i : Nat) (kind : Kind) (body : Text) : Prop where
  constructor : ∃ name, tokenAt ts i = some (.name name) ∧ Kind.ofConstructor? name = some kind
  opening : tokenAt ts (i + 1) = some .openParen
  literal : tokenAt ts (i + 2) = some (.literal body)
  closing : tokenAt ts (i + 3) = some .closeParen
  nonempty : body ≠ []

/-- A constructor call at a place whose literal is followed by another token or by none. -/
structure UnclosedAt (ts : List Placed) (i : Nat) (name : Text) : Prop where
  constructor : tokenAt ts i = some (.name name) ∧ Kind.ofConstructor? name ≠ none
  opening : tokenAt ts (i + 1) = some .openParen
  literal : ∃ body, tokenAt ts (i + 2) = some (.literal body)
  unclosed : tokenAt ts (i + 3) ≠ some .closeParen

/-- A stream without a complete call. -/
def NoCall (ts : List Placed) : Prop := ∀ i kind body, ¬ CallAt ts i kind body

/-- **What reading a text `t` with the tokens `ts` comes to**, where `fault` is the position of its
unclosed literal. -/
inductive Outcome (t : Text) (ts : List Placed) (fault : Option Cursor) :
    Except Error (Option Block) → Prop
  /-- The first complete call wins, fault or not; the text behind its closing parenthesis is its
  modifiers. -/
  | call {i kind body modifiers close} (place : CallAt ts i kind body)
      (least : ∀ j < i, ∀ kind' body', ¬ CallAt ts j kind' body') (closes : ts[i + 3]? = some close)
      (tail : HasTail t close.stop.offset modifiers) :
      Outcome t ts fault (.ok (some ⟨kind, body, modifiers⟩))
  | unclosedLiteral {p} (without : NoCall ts) (at_ : fault = some p) :
      Outcome t ts fault (.error ⟨.unclosedLiteral, p.line, p.column⟩)
  | unclosedCall {i name first} (without : NoCall ts) (closed : fault = none)
      (place : UnclosedAt ts i name) (least : ∀ j < i, ∀ name', ¬ UnclosedAt ts j name')
      (starts : ts[i]? = some first) :
      Outcome t ts fault (.error ⟨.unclosedCall name, first.start.line, first.start.column⟩)
  | nothing (without : NoCall ts) (closed : fault = none) (all : ∀ i name, ¬ UnclosedAt ts i name) :
      Outcome t ts fault (.ok none)

section Streams

variable {xs ys : List Placed} {x : Placed} {i : Nat} {kind kind' : Kind}
  {body body' name name' : Text}

theorem tokenAt_append (ys : List Placed) (h : i < xs.length) :
    tokenAt (xs ++ ys) i = tokenAt xs i := by
  unfold tokenAt
  rw [List.getElem?_append_left h]

theorem lt_length_of_tokenAt {token : Token} (h : tokenAt xs i = some token) : i < xs.length := by
  obtain ⟨x, hx, -⟩ := Option.map_eq_some_iff.mp h
  exact (List.getElem?_eq_some_iff.mp hx).1

/-- A call ends within the stream. -/
theorem CallAt.lt_length (h : CallAt xs i kind body) : i + 3 < xs.length :=
  lt_length_of_tokenAt h.closing

theorem callAt_append (h : i + 3 < xs.length) :
    CallAt (xs ++ ys) i kind body ↔ CallAt xs i kind body := by
  have h₀ := tokenAt_append ys (show i < xs.length by omega)
  have h₁ := tokenAt_append ys (show i + 1 < xs.length by omega)
  have h₂ := tokenAt_append ys (show i + 2 < xs.length by omega)
  have h₃ := tokenAt_append ys h
  constructor
  · rintro ⟨hn, ho, hl, hc, hb⟩
    exact ⟨by rwa [h₀] at hn, by rwa [h₁] at ho, by rwa [h₂] at hl, by rwa [h₃] at hc, hb⟩
  · rintro ⟨hn, ho, hl, hc, hb⟩
    exact ⟨by rwa [h₀], by rwa [h₁], by rwa [h₂], by rwa [h₃], hb⟩

/-- A stream in front only moves the calls. -/
theorem callAt_append_length (xs ys : List Placed) :
    CallAt (xs ++ ys) xs.length kind body ↔ CallAt ys 0 kind body := by
  have moved : ∀ k, tokenAt (xs ++ ys) (xs.length + k) = tokenAt ys k := by
    intro k
    unfold tokenAt
    rw [List.getElem?_append_right (Nat.le_add_right _ _), Nat.add_sub_cancel_left]
  constructor
  · rintro ⟨⟨name, hn, hk⟩, ho, hl, hc, hb⟩
    exact ⟨⟨name, (moved 0).symm.trans hn, hk⟩, (moved 1).symm.trans ho,
      (moved 2).symm.trans hl, (moved 3).symm.trans hc, hb⟩
  · rintro ⟨⟨name, hn, hk⟩, ho, hl, hc, hb⟩
    exact ⟨⟨name, (moved 0).trans hn, hk⟩, (moved 1).trans ho, (moved 2).trans hl,
      (moved 3).trans hc, hb⟩

/-- The tokens at a place determine the call there. -/
theorem CallAt.unique (h : CallAt xs i kind body) (h' : CallAt xs i kind' body') :
    kind = kind' ∧ body = body' := by
  obtain ⟨name, hn, hk⟩ := h.constructor
  obtain ⟨name', hn', hk'⟩ := h'.constructor
  have hl := h.literal.symm.trans h'.literal
  cases hn.symm.trans hn'
  cases hl
  exact ⟨Option.some.inj (hk.symm.trans hk'), rfl⟩

theorem UnclosedAt.unique (h : UnclosedAt xs i name) (h' : UnclosedAt xs i name') :
    name = name' := by
  have hn := h.constructor.1.symm.trans h'.constructor.1
  cases hn
  rfl

end Streams

namespace Block

/-! ## The last four tokens -/

/-- The latest four tokens, latest first, are the last four of the stream. -/
theorem callAt_reverse_four (first opening literal close : Placed) (older : List Placed)
    {kind : Kind} {body : Text} :
    CallAt (close :: literal :: opening :: first :: older).reverse
        ((close :: literal :: opening :: first :: older).length - 4) kind body ↔
      CallAt [first, opening, literal, close] 0 kind body := by
  have hr : (close :: literal :: opening :: first :: older).reverse =
      older.reverse ++ [first, opening, literal, close] := by
    simp only [List.reverse_cons, List.append_assoc, List.cons_append, List.nil_append]
  have hl : (close :: literal :: opening :: first :: older).length - 4 = older.reverse.length := by
    rw [List.length_reverse]
    rfl
  rw [hr, hl, callAt_append_length]

/-- The last four tokens are a call exactly if there is one at their place. -/
theorem endingCall?_eq_some_iff {l : List Placed} {kind : Kind} {body : Text} :
    endingCall? l = some (kind, body) ↔
      4 ≤ l.length ∧ CallAt l.reverse (l.length - 4) kind body := by
  constructor
  · intro h
    unfold endingCall? at h
    split at h
    · next literal _ _ _ _ _ _ name _ _ older =>
      split at h
      · cases h
      · next hb =>
        obtain ⟨kind', hk, he⟩ := Option.map_eq_some_iff.mp h
        cases he
        refine ⟨Nat.le_add_left 4 older.length, (callAt_reverse_four _ _ _ _ older).mpr ?_⟩
        refine ⟨⟨name, rfl, hk⟩, rfl, rfl, rfl, ?_⟩
        rintro rfl
        exact hb rfl
    · cases h
  · rintro ⟨hl, h⟩
    rcases l with _ | ⟨⟨close, _, _⟩, _ | ⟨⟨literal, _, _⟩, _ | ⟨⟨opening, _, _⟩,
      _ | ⟨⟨first, _, _⟩, older⟩⟩⟩⟩
    case cons.cons.cons.cons =>
      obtain ⟨⟨name, hn, hk⟩, ho, hb, hc, hne⟩ := (callAt_reverse_four _ _ _ _ older).mp h
      obtain rfl : first = .name name := Option.some.inj hn
      obtain rfl : opening = .openParen := Option.some.inj ho
      obtain rfl : literal = .literal body := Option.some.inj hb
      obtain rfl : close = .closeParen := Option.some.inj hc
      rw [endingCall?, if_neg (by rwa [List.isEmpty_iff]), hk]
      rfl
    all_goals exact absurd hl (by simp only [List.length_cons, List.length_nil]; omega)

/-- No call ends before the last token, and none with it. -/
theorem noCall_cons {x : Placed} {l : List Placed} (hl : NoCall l.reverse)
    (hx : endingCall? (x :: l) = none) : NoCall (x :: l).reverse := by
  intro i kind body h
  have hlt := h.lt_length
  rw [List.reverse_cons] at h
  rw [List.length_reverse, List.length_cons] at hlt
  -- Without its last token the stream has no call, so a call would have to end with that token.
  rcases Nat.lt_or_ge (i + 3) l.length with hi | hi
  · exact hl i kind body ((callAt_append (by simpa using hi)).mp h)
  · have he : (x :: l).length - 4 = i := by rw [List.length_cons]; omega
    have hs := endingCall?_eq_some_iff.mpr ⟨by rw [List.length_cons]; omega,
      (he ▸ List.reverse_cons ▸ h : CallAt (x :: l).reverse ((x :: l).length - 4) kind body)⟩
    rw [hx] at hs
    cases hs

/-! ## Unclosed calls -/

theorem unclosedAt_succ {x : Placed} {xs : List Placed} {i : Nat} {name : Text} :
    UnclosedAt (x :: xs) (i + 1) name ↔ UnclosedAt xs i name :=
  ⟨fun ⟨hn, ho, hl, hu⟩ => ⟨hn, ho, hl, hu⟩, fun ⟨hn, ho, hl, hu⟩ => ⟨hn, ho, hl, hu⟩⟩

theorem head?_any_closeParen {ts : List Placed} :
    ts.head?.any (·.token = .closeParen) = true ↔ tokenAt ts 0 = some .closeParen := by
  cases ts <;> simp [tokenAt]

/-- The error of an unclosed call names its constructor and the position of the name. -/
theorem unclosedCall?_eq_some {xs : List Placed} {e : Error} (h : unclosedCall? xs = some e) :
    ∃ name first, UnclosedAt xs 0 name ∧ xs[0]? = some first ∧
      e = ⟨.unclosedCall name, first.start.line, first.start.column⟩ := by
  unfold unclosedCall? at h
  split at h
  · next name start stop _ _ body _ _ rest =>
    split at h
    · cases h
    · next hc =>
      rw [Bool.or_eq_true, not_or, head?_any_closeParen] at hc
      obtain ⟨hk, hu⟩ := hc
      refine ⟨name, _, ⟨⟨rfl, fun he => hk (by rw [he]; rfl)⟩, rfl, ⟨body, rfl⟩, hu⟩, rfl, ?_⟩
      cases h
      rfl
  · cases h

theorem unclosedCall?_eq_none {xs : List Placed} (h : unclosedCall? xs = none) (name : Text) :
    ¬ UnclosedAt xs 0 name := by
  rintro ⟨⟨hn, hk⟩, ho, ⟨body, hl⟩, hu⟩
  rcases xs with _ | ⟨⟨first, _, _⟩, _ | ⟨⟨opening, _, _⟩, _ | ⟨⟨literal, _, _⟩, rest⟩⟩⟩
  case cons.cons.cons =>
    simp only [tokenAt, List.getElem?_cons_zero, List.getElem?_cons_succ, Option.map_some,
      Option.some.injEq] at hn ho hl
    subst hn ho hl
    have hany : ¬ rest.head?.any (·.token = .closeParen) = true := by
      rw [head?_any_closeParen]
      exact hu
    have hsome : ¬ (Kind.ofConstructor? name).isNone = true := by
      rw [Option.isNone_iff_eq_none]
      exact hk
    rw [unclosedCall?, if_neg (by rw [Bool.or_eq_true]; exact not_or.mpr ⟨hsome, hany⟩)] at h
    cases h
  all_goals simp [tokenAt] at hn ho hl

/-- **The first unclosed call** of a stream gives the error, if there is one. -/
theorem firstUnclosed?_eq_some {xs : List Placed} {e : Error} (h : firstUnclosed? xs = some e) :
    ∃ i name first, UnclosedAt xs i name ∧ (∀ j < i, ∀ name', ¬ UnclosedAt xs j name') ∧
      xs[i]? = some first ∧ e = ⟨.unclosedCall name, first.start.line, first.start.column⟩ := by
  induction xs with
  | nil => cases h
  | cons x xs ih =>
    rw [firstUnclosed?, Option.or_eq_some_iff] at h
    rcases h with h | ⟨hx, h⟩
    · obtain ⟨name, first, hu, hf, he⟩ := unclosedCall?_eq_some h
      exact ⟨0, name, first, hu, fun j hj => absurd hj (Nat.not_lt_zero j), hf, he⟩
    · obtain ⟨i, name, first, hu, least, hf, he⟩ := ih h
      refine ⟨i + 1, name, first, unclosedAt_succ.mpr hu, ?_, hf, he⟩
      intro j hj name' hj'
      cases j with
      | zero => exact unclosedCall?_eq_none hx name' hj'
      | succ j => exact least j (by omega) name' (unclosedAt_succ.mp hj')

theorem firstUnclosed?_eq_none {xs : List Placed} (h : firstUnclosed? xs = none) (i : Nat)
    (name : Text) : ¬ UnclosedAt xs i name := by
  induction xs generalizing i with
  | nil =>
    intro hu
    exact absurd (lt_length_of_tokenAt hu.opening) (Nat.not_lt_zero _)
  | cons x xs ih =>
    rw [firstUnclosed?, Option.or_eq_none_iff] at h
    cases i with
    | zero => exact unclosedCall?_eq_none h.1 name
    | succ i => exact fun hu => ih h.2 i (unclosedAt_succ.mp hu)

/-! ## Reading token by token -/

/-- What the end of a text without a complete call and without a fault comes to. -/
theorem outcome_atEnd (t : Text) {seen : List Placed} (hn : NoCall seen.reverse) :
    Outcome t seen.reverse none (atEnd seen) := by
  unfold atEnd
  cases hu : firstUnclosed? seen.reverse with
  | none => exact .nothing hn rfl (firstUnclosed?_eq_none hu)
  | some e =>
    obtain ⟨i, name, first, hi, least, hf, rfl⟩ := firstUnclosed?_eq_some hu
    exact .unclosedCall hn rfl hi least hf

/-- A token moves from the text ahead to the tokens read so far. -/
theorem reverse_append_placedFrom (seen : List Placed) (p : Cursor) (piece : Piece) (s : Scan) :
    seen.reverse ++ placedFrom p (s.cons piece).pieces =
      (⟨piece.token, p.past piece.gap, (p.past piece.gap).past piece.lexeme⟩ :: seen).reverse ++
        placedFrom ((p.past piece.gap).past piece.lexeme) s.pieces := by
  rw [List.reverse_cons, List.append_assoc]
  rfl

/-- The text behind a token stands where the token stops. -/
theorem hasTail_of_token {whole t gap r written rest : Text} {c : Char} {token : Token}
    {p : Cursor} (hw : HasTail whole p.offset t) (hg : splitTrivia t = (gap, c :: r))
    (ht : token? c r = some (token, written, rest)) :
    HasTail whole ((p.past gap).past (c :: written)).offset rest := by
  obtain ⟨front, rfl, hf⟩ := hw
  refine ⟨front ++ (gap ++ (c :: written)), ?_, ?_⟩
  · rw [List.append_assoc, text_eq_of_token hg ht]
  · rw [Text.byteLength_append, Text.byteLength_append, hf, ← Nat.add_assoc, Cursor.offset_past,
      Cursor.offset_past]

/-- A call that ends with the latest token is the first one, if there is none before that token. -/
theorem outcome_of_endingCall {whole rest : Text} {x : Placed} {seen ahead : List Placed}
    {fault : Option Cursor} {kind : Kind} {body : Text} (hn : NoCall seen.reverse)
    (hc : endingCall? (x :: seen) = some (kind, body)) (ht : HasTail whole x.stop.offset rest) :
    Outcome whole ((x :: seen).reverse ++ ahead) fault (.ok (some ⟨kind, body, rest⟩)) := by
  obtain ⟨hl, place⟩ := endingCall?_eq_some_iff.mp hc
  have hlast : (x :: seen).length - 4 + 3 = seen.length := by
    rw [List.length_cons] at hl ⊢
    omega
  have hlt : (x :: seen).length - 4 + 3 < (x :: seen).reverse.length := by
    rw [hlast, List.length_reverse, List.length_cons]
    omega
  refine .call ((callAt_append hlt).mpr place) ?_ ?_ ht
  · -- An earlier call would end before the latest token.
    intro j hj kind' body' h
    have hjs : j + 3 < seen.reverse.length := by
      rw [List.length_reverse]
      omega
    rw [List.reverse_cons, List.append_assoc] at h
    exact hn j kind' body' ((callAt_append hjs).mp h)
  · rw [hlast, List.reverse_cons, List.append_assoc, List.getElem?_append_right (by simp)]
    simp

/-- **Reading on behind tokens without a call.** The outcome is that of the tokens read so far and
those of the rest of the text together. -/
theorem outcome_readFrom {whole t : Text} {seen : List Placed} {p : Cursor}
    (hw : HasTail whole p.offset t) (hn : NoCall seen.reverse) :
    Outcome whole (seen.reverse ++ placedFrom p (Scan.ofText t).pieces)
      ((Scan.ofText t).faultFrom? p) (readFrom seen p t) := by
  fun_induction readFrom seen p t with
  | case1 seen p t gap hg =>
    -- the text ends behind a gap
    rw [Scan.ofText_done hg]
    simpa [placedFrom, Scan.faultFrom?] using outcome_atEnd whole hn
  | case2 seen p t gap c r hg ht =>
    -- a literal is not closed
    rw [Scan.ofText_fault hg ht]
    refine .unclosedLiteral ?_ rfl
    simpa [placedFrom] using hn
  | case3 seen p t gap c r hg token written rest ht start stop kind body =>
    -- a token completes a call: the rest of the stream does not matter
    rename_i hc
    rw [Scan.ofText_token hg ht, reverse_append_placedFrom]
    exact outcome_of_endingCall hn hc (hasTail_of_token hw hg ht)
  | case4 seen p t gap c r hg token written rest ht start stop hc =>
    -- a token completes no call: it moves to the tokens read so far
    rename_i ih
    rw [Scan.ofText_token hg ht, Scan.faultFrom?_cons, reverse_append_placedFrom]
    exact ih (hasTail_of_token hw hg ht) (noCall_cons hn hc)

end Block

/-! ## One outcome -/

section Unique

variable {t : Text} {ts : List Placed} {fault : Option Cursor} {x y : Except Error (Option Block)}

/-- A stream has one outcome. -/
theorem Outcome.unique (hx : Outcome t ts fault x) (hy : Outcome t ts fault y) : x = y := by
  cases hx with
  | @call i kind body modifiers close place least closes tail =>
    cases hy with
    | @call j kind' body' modifiers' close' place' least' closes' tail' =>
      -- Both are the first call.
      obtain rfl : i = j := by
        rcases Nat.lt_trichotomy i j with h | h | h
        · exact absurd place (least' i h kind body)
        · exact h
        · exact absurd place' (least j h kind' body')
      obtain ⟨rfl, rfl⟩ := place.unique place'
      cases closes.symm.trans closes'
      rw [tail.unique tail']
    | unclosedLiteral without _ => exact absurd place (without i kind body)
    | unclosedCall without _ _ _ _ => exact absurd place (without i kind body)
    | nothing without _ _ => exact absurd place (without i kind body)
  | unclosedLiteral without at_ =>
    cases hy with
    | call place' _ _ _ => exact absurd place' (without _ _ _)
    | unclosedLiteral _ at_' => cases at_.symm.trans at_'; rfl
    | unclosedCall _ closed _ _ _ => cases at_.symm.trans closed
    | nothing _ closed _ => cases at_.symm.trans closed
  | @unclosedCall i name first without closed place least starts =>
    cases hy with
    | call place' _ _ _ => exact absurd place' (without _ _ _)
    | unclosedLiteral _ at_ => cases closed.symm.trans at_
    | @unclosedCall j name' first' _ _ place' least' starts' =>
      -- Both are the first unclosed call.
      obtain rfl : i = j := by
        rcases Nat.lt_trichotomy i j with h | h | h
        · exact absurd place (least' i h name)
        · exact h
        · exact absurd place' (least j h name')
      obtain rfl := place.unique place'
      cases starts.symm.trans starts'
      rfl
    | nothing _ _ all => exact absurd place (all i name)
  | nothing without closed all =>
    cases hy with
    | call place' _ _ _ => exact absurd place' (without _ _ _)
    | unclosedLiteral _ at_ => cases closed.symm.trans at_
    | unclosedCall _ _ place' _ _ => exact absurd place' (all _ _)
    | nothing _ _ _ => rfl

end Unique

/-- **Reading a statement yields the outcome of its whole token stream** and of the position of
its unclosed literal, although it reads on only as far as the first complete call. -/
theorem Block.parse_eq_iff (t : Text) (result : Except Error (Option Block)) :
    Block.parse t = result ↔ Outcome t (Scan.ofText t).placed (Scan.ofText t).fault? result := by
  have hn : NoCall ([] : List Placed).reverse := by
    intro i kind body h
    exact absurd h.lt_length (Nat.not_lt_zero _)
  have hp : Outcome t (Scan.ofText t).placed (Scan.ofText t).fault? (Block.parse t) := by
    rw [← Scan.faultFrom?_start]
    exact outcome_readFrom ⟨[], rfl, rfl⟩ hn
  constructor
  · rintro rfl
    exact hp
  · exact hp.unique

end VoxelScore.Script
