import Mathlib.Data.List.Infix
import VoxelScore.Proofs.Script.Parentheses

/-!
# Calls among pieces

Whether a call starts with a piece is told by its token and the next two, and where the call ends
by the parentheses behind them. Read from the front on, a call is either closed, and then the search
goes on behind its dot, or stays open and ends the search.

More pieces add calls behind the others, and neither pieces without a closing parenthesis nor a
parenthesis that stays open take one away. Nor do changes of the pieces that leave their tokens as
they are, up to the contents of literals.

## Main definitions

* `opening?`: the name of a call that starts with a piece, and what stands behind its parenthesis
* `Token.Alike`: tokens that are the same up to the contents of literals

## Main results

* `calls_of_opening?_eq_none`, `calls_of_stays_open`, `calls_of_closed`: the calls from a piece on
* `calls_prefix_append`: more pieces add calls behind the others
* `calls_append_of_unclosed`: pieces that close no call in front of them
* `calls_map`: the calls among changed pieces
-/

namespace VoxelScore.Script

variable {xs ys behind arguments : List Piece} {p close : Piece} {t name : Text} {depth : ℕ}

/-! ## Arguments -/

/-- Arguments stand in front of the parenthesis that closes the call. -/
theorem exists_of_splitArguments? (h : splitArguments? depth xs = some (arguments, close)) :
    ∃ ys, xs = arguments ++ close :: ys := by
  obtain ⟨ys, hxs, -⟩ := splitArguments?_eq_some_iff.mp h
  exact ⟨ys, hxs⟩

/-- Arguments are those of the call whatever follows its closing parenthesis. -/
theorem splitArguments?_append (h : splitArguments? depth xs = some (arguments, close))
    (ys : List Piece) : splitArguments? depth (xs ++ ys) = some (arguments, close) := by
  obtain ⟨behind, rfl, harguments⟩ := splitArguments?_eq_some_iff.mp h
  exact splitArguments?_eq_some_iff.mpr ⟨behind ++ ys, by simp, harguments⟩

/-- Pieces that close nothing in front of them add no closing parenthesis. -/
theorem splitArguments?_append_of_unclosed (h : ∀ depth, splitArguments? depth ys = none)
    (depth : ℕ) (xs : List Piece) :
    splitArguments? depth (xs ++ ys) = splitArguments? depth xs := by
  induction xs generalizing depth with
  | nil => exact h depth
  | cons p xs ih =>
    rw [List.cons_append, splitArguments?_cons, splitArguments?_cons]
    cases depthBehind? p.token depth with
    | none => rfl
    | some depth' => simp only [ih]

/-- What stays open behind a parenthesis closes nothing in front of it. -/
theorem splitArguments?_openParen (hp : p.token = .openParen) (h : splitArguments? 0 ys = none)
    (depth : ℕ) : splitArguments? depth (p :: ys) = none := by
  have hopen := splitArguments?_eq_none_iff.mp h
  have hdepth : depthBehind? p.token depth = some (depth + 1) := by
    rw [hp]
    rfl
  refine splitArguments?_eq_none_iff.mpr ((staysOpen_cons hdepth).mpr ?_)
  exact hopen.mono (Nat.zero_le _)

theorem splitArguments?_of_no_close (h : ∀ p ∈ ys, p.token ≠ .closeParen) (depth : ℕ) :
    splitArguments? depth ys = none := by
  refine splitArguments?_eq_none_iff.mpr fun front hfront => ?_
  have hnone : closings front = 0 :=
    List.countP_eq_zero.mpr fun p hp => by simpa using h p (hfront.subset hp)
  rw [hnone]
  exact Nat.zero_le _

/-! ## Calls -/

/-- The name of a call that starts with the first piece, and what stands behind its parenthesis. -/
def opening? : List Piece → Option (Text × List Piece)
  | ⟨_, _, .dot⟩ :: ⟨_, _, .name name⟩ :: ⟨_, _, .openParen⟩ :: r => some (name, r)
  | _ => none

/-- The pieces of an opening. -/
theorem opening?_eq_some (h : opening? xs = some (name, behind)) :
    ∃ dot word open_, xs = dot :: word :: open_ :: behind ∧ dot.token = .dot ∧
      word.token = .name name ∧ open_.token = .openParen := by
  unfold opening? at h
  split at h
  · cases h
    exact ⟨_, _, _, rfl, rfl, rfl, rfl⟩
  · cases h

theorem opening?_of_tokens {dot word open_ : Piece} (hd : dot.token = .dot)
    (hw : word.token = .name name) (ho : open_.token = .openParen) (behind : List Piece) :
    opening? (dot :: word :: open_ :: behind) = some (name, behind) := by
  rcases dot with ⟨_, _, _⟩
  rcases word with ⟨_, _, _⟩
  rcases open_ with ⟨_, _, _⟩
  cases hd
  cases hw
  cases ho
  rfl

theorem opening?_eq_none (h : p.token ≠ .dot) (r : List Piece) : opening? (p :: r) = none := by
  unfold opening?
  split
  · next he => cases he; exact absurd rfl h
  · rfl

theorem opening?_append (h : opening? xs = some (name, behind)) (ys : List Piece) :
    opening? (xs ++ ys) = some (name, behind ++ ys) := by
  obtain ⟨dot, word, open_, rfl, hd, hw, ho⟩ := opening?_eq_some h
  exact opening?_of_tokens hd hw ho (behind ++ ys)

/-- Three pieces tell whether a call starts with them. -/
theorem opening?_append_of_none (h : opening? xs = none) (hl : 3 ≤ xs.length) (ys : List Piece) :
    opening? (xs ++ ys) = none := by
  rcases xs with _ | ⟨dot, _ | ⟨word, _ | ⟨open_, r⟩⟩⟩
  case cons.cons.cons =>
    by_contra hn
    obtain ⟨⟨name, behind⟩, hs⟩ := Option.ne_none_iff_exists'.mp hn
    obtain ⟨_, _, _, he, hd, hw, ho⟩ := opening?_eq_some hs
    cases he
    rw [opening?_of_tokens hd hw ho] at h
    cases h
  all_goals exact absurd hl (by simp)

/-- A piece that starts no call is passed over. -/
theorem calls_of_opening?_eq_none (h : opening? (p :: xs) = none) : calls (p :: xs) = calls xs := by
  rw [calls]
  intro _ _ _ _ _ _ _ _ hp hr
  rw [hp, hr] at h
  cases h

/-- A call that stays open ends the search. -/
theorem calls_of_stays_open (h : opening? xs = some (name, behind))
    (hs : splitArguments? 0 behind = none) : calls xs = [] := by
  obtain ⟨⟨_, _, _⟩, ⟨_, _, _⟩, ⟨_, _, _⟩, rfl, rfl, rfl, rfl⟩ := opening?_eq_some h
  rw [calls, hs]

/-- A closed call stands in front of those behind its dot. -/
theorem calls_of_closed (h : opening? (p :: xs) = some (name, behind))
    (hs : splitArguments? 0 behind = some (arguments, close)) :
    calls (p :: xs) =
      ⟨name, arguments, piecesText arguments ++ close.gap⟩ :: calls xs := by
  obtain ⟨⟨_, _, _⟩, ⟨_, _, _⟩, ⟨_, _, _⟩, he, rfl, rfl, rfl⟩ := opening?_eq_some h
  obtain ⟨rfl, rfl⟩ := List.cons.inj he
  rw [calls, hs]
  -- neither the name nor the parenthesis starts a call
  rw [calls_of_opening?_eq_none (opening?_eq_none (by simp) _),
    calls_of_opening?_eq_none (opening?_eq_none (by simp) _)]

/-- A call takes three pieces at least. -/
theorem calls_eq_nil_of_length (h : xs.length < 3) : calls xs = [] := by
  rcases xs with _ | ⟨first, _ | ⟨second, _ | ⟨third, xs⟩⟩⟩
  · rfl
  · rw [calls_of_opening?_eq_none (by simp [opening?])]
    rfl
  · rw [calls_of_opening?_eq_none (by simp [opening?]),
      calls_of_opening?_eq_none (by simp [opening?])]
    rfl
  · exact absurd h (by simp)

/-- **More pieces add calls behind the others.** -/
theorem calls_prefix_append (xs ys : List Piece) : calls xs <+: calls (xs ++ ys) := by
  induction xs with
  | nil => exact List.nil_prefix
  | cons p xs ih =>
    cases h : opening? (p :: xs) with
    | none =>
      -- a call that starts here only with the pieces behind it has nothing in front of it
      by_cases hl : (p :: xs).length < 3
      · rw [calls_eq_nil_of_length hl]
        exact List.nil_prefix
      · have h' := opening?_append_of_none h (Nat.le_of_not_lt hl) ys
        rw [List.cons_append] at h' ⊢
        rw [calls_of_opening?_eq_none h, calls_of_opening?_eq_none h']
        exact ih
    | some opened =>
      obtain ⟨name, behind⟩ := opened
      cases hs : splitArguments? 0 behind with
      | none =>
        rw [calls_of_stays_open h hs]
        exact List.nil_prefix
      | some closed =>
        obtain ⟨arguments, close⟩ := closed
        have h' := opening?_append h ys
        rw [List.cons_append] at h' ⊢
        rw [calls_of_closed h hs, calls_of_closed h' (splitArguments?_append hs ys)]
        exact List.cons_prefix_cons.mpr ⟨rfl, ih⟩

/-- **Pieces that close no call in front of them** add their own calls, or none if a call is left
open in front of them or by them. -/
theorem calls_append_of_unclosed (hys : ∀ depth, splitArguments? depth ys = none)
    (hopen : ∀ front name behind, front ≠ [] → front.length < 3 →
      opening? (front ++ ys) = some (name, behind) → splitArguments? 0 behind = none)
    (xs : List Piece) :
    calls (xs ++ ys) = calls xs ∨ calls (xs ++ ys) = calls xs ++ calls ys := by
  induction xs with
  | nil => exact .inr rfl
  | cons p xs ih =>
    cases h : opening? (p :: xs) with
    | none =>
      have hcalls := calls_of_opening?_eq_none h
      cases h' : opening? (p :: xs ++ ys) with
      | none =>
        rw [List.cons_append] at h' ⊢
        rwa [hcalls, calls_of_opening?_eq_none h']
      | some opened =>
        obtain ⟨name, behind⟩ := opened
        -- the call starts in front of the pieces and is opened by them
        have hl : (p :: xs).length < 3 := by
          by_contra hl
          rw [opening?_append_of_none h (Nat.le_of_not_lt hl) ys] at h'
          cases h'
        have hs := hopen (p :: xs) name behind (List.cons_ne_nil _ _) hl h'
        rw [calls_of_stays_open h' hs, calls_eq_nil_of_length hl]
        exact .inl rfl
    | some opened =>
      obtain ⟨name, behind⟩ := opened
      have h' := opening?_append h ys
      have hsplit := splitArguments?_append_of_unclosed hys 0 behind
      cases hs : splitArguments? 0 behind with
      | none =>
        rw [calls_of_stays_open h hs, calls_of_stays_open h' (hsplit.trans hs)]
        exact .inl rfl
      | some closed =>
        obtain ⟨arguments, close⟩ := closed
        rw [List.cons_append] at h' ⊢
        rw [calls_of_closed h hs, calls_of_closed h' (hsplit.trans hs)]
        simpa using ih

/-- A call that is opened by pieces without a closing parenthesis, or behind them, stays open. -/
theorem splitArguments?_behind (h : ∀ p ∈ ys, p.token ≠ .closeParen) (hl : xs.length < 3)
    (ho : opening? (xs ++ ys) = some (name, behind)) : splitArguments? 0 behind = none := by
  obtain ⟨dot, word, open_, he, -⟩ := opening?_eq_some ho
  have hb : behind <:+ xs ++ ys := ⟨[dot, word, open_], he.symm⟩
  have hsuffix : behind <:+ ys := by
    refine List.suffix_of_suffix_length_le hb (List.suffix_append xs ys) ?_
    have hlen := congrArg List.length he
    simp only [List.length_append, List.length_cons] at hlen
    omega
  exact splitArguments?_of_no_close (fun p hp => h p (hsuffix.subset hp)) 0

/-- Without a closing parenthesis there are no calls. -/
theorem calls_of_no_close (h : ∀ p ∈ ys, p.token ≠ .closeParen) : calls ys = [] := by
  induction ys with
  | nil => rfl
  | cons p ys ih =>
    cases ho : opening? (p :: ys) with
    | none =>
      rw [calls_of_opening?_eq_none ho]
      exact ih (List.forall_mem_cons.mp h).2
    | some opened =>
      obtain ⟨name, behind⟩ := opened
      have hshort : ([] : List Piece).length < 3 := by simp
      exact calls_of_stays_open ho (splitArguments?_behind h hshort ho)

/-- Pieces without a closing parenthesis add no calls. -/
theorem calls_append_of_no_close (h : ∀ p ∈ ys, p.token ≠ .closeParen) (xs : List Piece) :
    calls (xs ++ ys) = calls xs := by
  have hcalls := calls_append_of_unclosed (splitArguments?_of_no_close h)
    (fun _ _ _ _ hl ho => splitArguments?_behind h hl ho) xs
  rwa [calls_of_no_close h, List.append_nil, or_self] at hcalls

/-- **A parenthesis that stays open** takes no call away in front of it. -/
theorem calls_append_openParen (hp : p.token = .openParen) (h : splitArguments? 0 ys = none)
    (xs : List Piece) :
    calls (xs ++ p :: ys) = calls xs ∨ calls (xs ++ p :: ys) = calls xs ++ calls ys := by
  have hself : calls (p :: ys) = calls ys :=
    calls_of_opening?_eq_none (opening?_eq_none (by simp [hp]) ys)
  rw [← hself]
  refine calls_append_of_unclosed (splitArguments?_openParen hp h) ?_ xs
  intro front name behind hne hl ho
  obtain ⟨dot, word, open_, he, hd, hw, -⟩ := opening?_eq_some ho
  rcases front with _ | ⟨first, _ | ⟨second, _ | ⟨third, front⟩⟩⟩
  · exact absurd rfl hne
  · -- the parenthesis is no name
    obtain ⟨-, he⟩ := List.cons.inj he
    obtain ⟨rfl, -⟩ := List.cons.inj he
    rw [hp] at hw
    cases hw
  · obtain ⟨-, he⟩ := List.cons.inj he
    obtain ⟨-, he⟩ := List.cons.inj he
    obtain ⟨-, rfl⟩ := List.cons.inj he
    exact h
  · exact absurd hl (by simp)

/-! ## Changed pieces -/

/-- The tokens are the same, or both are literals. -/
def Token.Alike (token token' : Token) : Prop :=
  token' = token ∨ ∃ s t, token = .literal s ∧ token' = .literal t

theorem Token.Alike.eq_iff {token token' mark : Token} (h : token.Alike token')
    (hm : ∀ s, mark ≠ .literal s) : token' = mark ↔ token = mark := by
  rcases h with rfl | ⟨s, t, rfl, rfl⟩
  · rfl
  · exact ⟨fun he => absurd he.symm (hm t), fun he => absurd he.symm (hm s)⟩

theorem Token.Alike.depthBehind? {token token' : Token} (h : token.Alike token') (depth : ℕ) :
    Script.depthBehind? token' depth = Script.depthBehind? token depth := by
  rcases h with rfl | ⟨s, t, rfl, rfl⟩
  · rfl
  · rfl

section Map

variable {f : Piece → Piece} (hf : ∀ p : Piece, p.token.Alike (f p).token)

include hf

theorem opening?_map (xs : List Piece) :
    opening? (xs.map f) = (opening? xs).map fun (name, behind) => (name, behind.map f) := by
  cases h : opening? xs with
  | some opened =>
    obtain ⟨name, behind⟩ := opened
    obtain ⟨dot, word, open_, rfl, hd, hw, ho⟩ := opening?_eq_some h
    exact opening?_of_tokens (((hf dot).eq_iff (by simp)).mpr hd)
      (((hf word).eq_iff (by simp)).mpr hw) (((hf open_).eq_iff (by simp)).mpr ho) _
  | none =>
    -- a call that starts here would start here without the changes
    by_contra hn
    obtain ⟨⟨name, behind⟩, hs⟩ := Option.ne_none_iff_exists'.mp hn
    obtain ⟨dot, word, open_, he, hd, hw, ho⟩ := opening?_eq_some hs
    obtain ⟨first, r₁, rfl, rfl, h₁⟩ := List.map_eq_cons_iff.mp he
    obtain ⟨second, r₂, rfl, rfl, h₂⟩ := List.map_eq_cons_iff.mp h₁
    obtain ⟨third, r₃, rfl, rfl, -⟩ := List.map_eq_cons_iff.mp h₂
    rw [opening?_of_tokens (((hf first).eq_iff (by simp)).mp hd)
      (((hf second).eq_iff (by simp)).mp hw) (((hf third).eq_iff (by simp)).mp ho)] at h
    cases h

/-- The parenthesis that closes a call is the same. -/
theorem splitArguments?_map (depth : ℕ) (xs : List Piece) :
    splitArguments? depth (xs.map f) =
      (splitArguments? depth xs).map fun (arguments, close) => (arguments.map f, f close) := by
  induction xs generalizing depth with
  | nil => rfl
  | cons p xs ih =>
    rw [List.map_cons, splitArguments?_cons, splitArguments?_cons, (hf p).depthBehind?]
    cases depthBehind? p.token depth with
    | none => rfl
    | some depth' =>
      simp only [ih, Option.map_map]
      rfl

/-- **The calls among changed pieces** are those among the pieces, with their arguments changed,
if that is what a change of texts makes of the texts between their parentheses. -/
theorem calls_map {g : Text → Text} (xs : List Piece)
    (hg : ∀ arguments close ys, arguments ++ close :: ys <:+ xs →
      g (piecesText arguments ++ close.gap) = piecesText (arguments.map f) ++ (f close).gap) :
    calls (xs.map f) =
      (calls xs).map fun call => ⟨call.name, call.arguments.map f, g call.raw⟩ := by
  induction xs with
  | nil => rfl
  | cons p xs ih =>
    have ih := ih fun arguments close ys hs =>
      hg arguments close ys (hs.trans (List.suffix_cons p xs))
    have hmap := opening?_map hf (p :: xs)
    cases h : opening? (p :: xs) with
    | none =>
      rw [h, List.map_cons] at hmap
      rw [List.map_cons, calls_of_opening?_eq_none h, calls_of_opening?_eq_none hmap, ih]
    | some opened =>
      obtain ⟨name, behind⟩ := opened
      have hsplit := splitArguments?_map hf 0 behind
      rw [h] at hmap
      cases hs : splitArguments? 0 behind with
      | none =>
        rw [hs] at hsplit
        rw [calls_of_stays_open h hs, calls_of_stays_open hmap hsplit]
        rfl
      | some closed =>
        obtain ⟨arguments, close⟩ := closed
        rw [hs] at hsplit
        rw [List.map_cons] at hmap ⊢
        rw [calls_of_closed h hs, calls_of_closed hmap hsplit, ih, List.map_cons]
        obtain ⟨ys, hbehind⟩ := exists_of_splitArguments? hs
        obtain ⟨dot, word, open_, he, -⟩ := opening?_eq_some h
        rw [hg arguments close ys ⟨[dot, word, open_], by rw [he, hbehind]; rfl⟩]

end Map

end VoxelScore.Script
