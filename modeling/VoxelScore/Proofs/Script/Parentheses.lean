import Mathlib.Data.List.Infix
import Mathlib.Order.Bounds.Basic
import VoxelScore.Script.Chain

/-!
# Balanced parentheses

The parenthesis that closes another one is found by counting how many are open. At the end of the
search, and at no place before it, as many parentheses have been closed as opened, the first one
included. So the search ends at the first place where the two numbers agree, and it ends without
result exactly if they never do; and since they never agree before, there is always an open
parenthesis left to be closed.

## Main definitions

* `depthBehind?`: the parentheses that are open behind a token
* `openings`, `closings`: how many parentheses pieces open and close
* `StaysOpen`: pieces of which no beginning closes more parentheses than are open
* `closing?`: the place of the parenthesis that closes the one at a place
* `balancedEnds`: the places up to which as many parentheses are closed as opened
* `search`: the search with a counter that cannot fall below zero

## Main results

* `splitArguments?_eq_none_iff`, `splitArguments?_eq_some_iff`: arguments by the numbers of their
  parentheses
* `closing?_eq_some_iff_isLeast`, `closing?_eq_none_iff_eq_empty`: the first balanced end
* `search_eq_closing?`: the counter never falls below zero
* `isSome_closing?_of_between`: parentheses within closed ones are closed
-/

namespace VoxelScore.Script

variable {xs ys arguments : List Piece} {p close : Piece} {depth depth' start stop : ℕ}

/-! ## Open parentheses -/

/-- How many parentheses are open behind a token, unless the token closes the call. -/
def depthBehind? : Token → ℕ → Option ℕ
  | .closeParen, 0 => none
  | .closeParen, depth + 1 => some depth
  | .openParen, depth => some (depth + 1)
  | _, depth => some depth

theorem splitArguments?_cons (depth : ℕ) (p : Piece) (r : List Piece) :
    splitArguments? depth (p :: r) =
      match depthBehind? p.token depth with
      | none => some ([], p)
      | some depth' => (splitArguments? depth' r).map fun (a, close) => (p :: a, close) := by
  rcases p with ⟨gap, lexeme, token⟩
  cases token with
  | closeParen => cases depth <;> rfl
  | _ => rfl

/-- Only a parenthesis that nothing has opened closes the call. -/
theorem depthBehind?_eq_none_iff {token : Token} :
    depthBehind? token depth = none ↔ token = .closeParen ∧ depth = 0 := by
  cases token with
  | closeParen => cases depth <;> simp [depthBehind?]
  | _ => simp [depthBehind?]

/-! ## Numbers of parentheses -/

/-- How many parentheses the pieces open. -/
def openings (xs : List Piece) : ℕ := xs.countP (·.token = .openParen)

/-- How many parentheses the pieces close. -/
def closings (xs : List Piece) : ℕ := xs.countP (·.token = .closeParen)

/-- The pieces close as many parentheses as they open. -/
def IsBalanced (xs : List Piece) : Prop := closings xs = openings xs

instance : DecidablePred IsBalanced := fun xs =>
  inferInstanceAs (Decidable (closings xs = openings xs))

@[simp]
theorem openings_nil : openings [] = 0 := rfl

@[simp]
theorem closings_nil : closings [] = 0 := rfl

@[simp]
theorem openings_append (xs ys : List Piece) :
    openings (xs ++ ys) = openings xs + openings ys :=
  List.countP_append

@[simp]
theorem closings_append (xs ys : List Piece) :
    closings (xs ++ ys) = closings xs + closings ys :=
  List.countP_append

theorem openings_cons (p : Piece) (xs : List Piece) :
    openings (p :: xs) = openings xs + if p.token = .openParen then 1 else 0 := by
  simp [openings, List.countP_cons]

theorem closings_cons (p : Piece) (xs : List Piece) :
    closings (p :: xs) = closings xs + if p.token = .closeParen then 1 else 0 := by
  simp [closings, List.countP_cons]

/-- **One piece**: what is open behind it is what was open in front of it, one more if it opens and
one less if it closes. -/
theorem add_openings_cons (h : depthBehind? p.token depth = some depth') (xs : List Piece) :
    depth + openings (p :: xs) + closings xs = depth' + openings xs + closings (p :: xs) := by
  rw [openings_cons, closings_cons]
  cases ht : p.token with
  | closeParen =>
    rw [ht] at h
    cases depth with
    | zero => cases h
    | succ depth =>
      obtain rfl : depth = depth' := Option.some.inj h
      rw [if_neg (by simp), if_pos rfl]
      omega
  | openParen =>
    rw [ht] at h
    obtain rfl : depth + 1 = depth' := Option.some.inj h
    rw [if_pos rfl, if_neg (by simp)]
    omega
  | _ =>
    rw [ht] at h
    obtain rfl : depth = depth' := Option.some.inj h
    simp

/-! ## Pieces that close nothing in front of them -/

/-- No beginning of the pieces closes more parentheses than `depth` and those that it opens. -/
def StaysOpen (depth : ℕ) (xs : List Piece) : Prop :=
  ∀ front, front <+: xs → closings front ≤ depth + openings front

theorem staysOpen_nil : StaysOpen depth [] := by
  intro front hfront
  rw [List.prefix_nil.mp hfront]
  exact Nat.zero_le _

theorem StaysOpen.mono (h : StaysOpen depth xs) (hle : depth ≤ depth') : StaysOpen depth' xs :=
  fun front hfront => (h front hfront).trans (Nat.add_le_add_right hle _)

theorem staysOpen_cons (h : depthBehind? p.token depth = some depth') :
    StaysOpen depth (p :: xs) ↔ StaysOpen depth' xs := by
  constructor
  · intro hopen front hfront
    have hcount := add_openings_cons h front
    have hle := hopen (p :: front) (List.cons_prefix_cons.mpr ⟨rfl, hfront⟩)
    omega
  · intro hopen front hfront
    rcases List.prefix_cons_iff.mp hfront with rfl | ⟨tail, rfl, htail⟩
    · exact Nat.zero_le _
    · have hcount := add_openings_cons h tail
      have hle := hopen tail htail
      omega

theorem not_staysOpen_cons (h : depthBehind? p.token depth = none) :
    ¬ StaysOpen depth (p :: xs) := by
  obtain ⟨hp, rfl⟩ := depthBehind?_eq_none_iff.mp h
  intro hopen
  have hle := hopen [p] (List.cons_prefix_cons.mpr ⟨rfl, List.nil_prefix⟩)
  rw [openings_cons, closings_cons, hp] at hle
  simp at hle

/-! ## Arguments -/

/-- **There are no arguments** if nothing closes the parenthesis in front of them. -/
theorem splitArguments?_eq_none_iff : splitArguments? depth xs = none ↔ StaysOpen depth xs := by
  induction xs generalizing depth with
  | nil => exact iff_of_true rfl staysOpen_nil
  | cons p xs ih =>
    rw [splitArguments?_cons]
    cases hd : depthBehind? p.token depth with
    | none => exact iff_of_false (by simp) (not_staysOpen_cons hd)
    | some depth' =>
      rw [staysOpen_cons hd, ← ih]
      exact Option.map_eq_none_iff

/-- **Arguments** stand in front of the first parenthesis that closes more than is open. -/
theorem splitArguments?_eq_some_iff :
    splitArguments? depth xs = some (arguments, close) ↔
      ∃ ys, xs = arguments ++ close :: ys ∧ close.token = .closeParen ∧
        StaysOpen depth arguments ∧ closings arguments = depth + openings arguments := by
  induction xs generalizing depth arguments with
  | nil => simp [splitArguments?]
  | cons p xs ih =>
    rw [splitArguments?_cons]
    cases hd : depthBehind? p.token depth with
    | none =>
      obtain ⟨hp, hzero⟩ := depthBehind?_eq_none_iff.mp hd
      constructor
      · intro h
        cases h
        exact ⟨xs, rfl, hp, staysOpen_nil, by simp [hzero]⟩
      · rintro ⟨ys, hxs, -, hopen, -⟩
        rcases arguments with _ | ⟨first, arguments⟩
        · cases hxs
          rfl
        · cases hxs
          exact absurd hopen (not_staysOpen_cons hd)
    | some depth' =>
      constructor
      · intro h
        obtain ⟨⟨a, c⟩, ha, he⟩ := Option.map_eq_some_iff.mp h
        cases he
        obtain ⟨ys, rfl, hclose, hopen, hcount⟩ := ih.mp ha
        refine ⟨ys, rfl, hclose, (staysOpen_cons hd).mpr hopen, ?_⟩
        have hstep := add_openings_cons hd a
        omega
      · rintro ⟨ys, hxs, hclose, hopen, hcount⟩
        rcases arguments with _ | ⟨first, arguments⟩
        · -- the piece would close the call, but it leaves it open
          cases hxs
          have hzero : depth = 0 := by simpa using hcount.symm
          rw [depthBehind?_eq_none_iff.mpr ⟨hclose, hzero⟩] at hd
          cases hd
        · cases hxs
          refine Option.map_eq_some_iff.mpr ⟨(arguments, close), ih.mpr ?_, rfl⟩
          have hstep := add_openings_cons hd arguments
          exact ⟨ys, rfl, hclose, (staysOpen_cons hd).mp hopen, by omega⟩

/-! ## The place of a closing parenthesis -/

/-- The place of the parenthesis that closes the one at a place. -/
def closing? (xs : List Piece) (start : ℕ) : Option ℕ :=
  (splitArguments? 0 (xs.drop (start + 1))).map fun (arguments, _) => start + 1 + arguments.length

/-- The places behind a place up to which, from that place on, as many parentheses are closed as
opened. -/
def balancedEnds (xs : List Piece) (start : ℕ) : Set ℕ :=
  {stop | start < stop ∧ stop < xs.length ∧ IsBalanced (xs.extract start (stop + 1))}

/-- A parenthesis opens at a place. -/
def OpensAt (xs : List Piece) (start : ℕ) : Prop :=
  xs[start]?.map Piece.token = some .openParen

theorem OpensAt.exists_drop (h : OpensAt xs start) :
    ∃ p, xs.drop start = p :: xs.drop (start + 1) ∧ p.token = .openParen ∧ start < xs.length := by
  obtain ⟨p, hp, htoken⟩ := Option.map_eq_some_iff.mp h
  obtain ⟨hlt, rfl⟩ := List.getElem?_eq_some_iff.mp hp
  exact ⟨_, List.drop_eq_getElem_cons hlt, htoken, hlt⟩

/-- What stands between a parenthesis and the one that closes it. -/
theorem exists_of_closing? (h : closing? xs start = some stop) :
    ∃ arguments close ys, xs.drop (start + 1) = arguments ++ close :: ys ∧
      stop = start + 1 + arguments.length ∧ close.token = .closeParen ∧
      StaysOpen 0 arguments ∧ IsBalanced arguments := by
  obtain ⟨⟨arguments, close⟩, hsplit, rfl⟩ := Option.map_eq_some_iff.mp h
  obtain ⟨ys, hbehind, hclose, hopen, hcount⟩ := splitArguments?_eq_some_iff.mp hsplit
  exact ⟨arguments, close, ys, hbehind, rfl, hclose, hopen, by rwa [Nat.zero_add] at hcount⟩

/-- Balanced ends by what stands behind the parenthesis. -/
theorem mem_balancedEnds_iff (h : OpensAt xs start) :
    stop ∈ balancedEnds xs start ↔
      ∃ k < (xs.drop (start + 1)).length, stop = start + 1 + k ∧
        closings ((xs.drop (start + 1)).take (k + 1)) =
          1 + openings ((xs.drop (start + 1)).take (k + 1)) := by
  obtain ⟨p, hdrop, hp, hlt⟩ := h.exists_drop
  have hextract : ∀ k, xs.extract start (start + 1 + k + 1) =
      p :: (xs.drop (start + 1)).take (k + 1) := by
    intro k
    rw [List.extract_eq_take_drop, hdrop, show start + 1 + k + 1 - start = k + 1 + 1 by omega,
      List.take_succ_cons]
  have hbalanced : ∀ k, IsBalanced (xs.extract start (start + 1 + k + 1)) ↔
      closings ((xs.drop (start + 1)).take (k + 1)) =
        1 + openings ((xs.drop (start + 1)).take (k + 1)) := by
    intro k
    rw [hextract, IsBalanced, openings_cons, closings_cons, hp]
    simp [Nat.add_comm]
  constructor
  · rintro ⟨hbehind, hlength, h⟩
    obtain ⟨k, rfl⟩ := Nat.exists_eq_add_of_le hbehind
    exact ⟨k, by rw [List.length_drop]; omega, rfl, (hbalanced k).mp h⟩
  · rintro ⟨k, hk, rfl, h⟩
    rw [List.length_drop] at hk
    exact ⟨by omega, by omega, (hbalanced k).mpr h⟩

theorem isLeast_of_closing? (h : OpensAt xs start) (hstop : closing? xs start = some stop) :
    IsLeast (balancedEnds xs start) stop := by
  obtain ⟨arguments, close, ys, hbehind, rfl, hclose, hopen, hcount⟩ := exists_of_closing? hstop
  constructor
  · refine (mem_balancedEnds_iff h).mpr ⟨arguments.length, ?_, rfl, ?_⟩
    · rw [hbehind]
      simp
    · rw [IsBalanced] at hcount
      rw [hbehind, List.take_length_add_append, closings_append, openings_append]
      simp [openings_cons, closings_cons, hclose, hcount, Nat.add_comm]
  · intro other hother
    obtain ⟨k, -, rfl, hk⟩ := (mem_balancedEnds_iff h).mp hother
    by_contra hlt
    -- an earlier end would lie within the arguments, which close nothing in front of them
    have hfront : (xs.drop (start + 1)).take (k + 1) <+: arguments := by
      rw [hbehind, List.take_append_of_le_length (by omega)]
      exact List.take_prefix _ _
    have hle := hopen _ hfront
    omega

theorem balancedEnds_eq_empty (h : OpensAt xs start) (hnone : closing? xs start = none) :
    balancedEnds xs start = ∅ := by
  have hopen := splitArguments?_eq_none_iff.mp (Option.map_eq_none_iff.mp hnone)
  refine Set.eq_empty_iff_forall_notMem.mpr fun stop hstop => ?_
  obtain ⟨k, -, rfl, hk⟩ := (mem_balancedEnds_iff h).mp hstop
  have hle := hopen _ (List.take_prefix (k + 1) _)
  omega

/-- **A parenthesis is closed at the first balanced end.** -/
theorem closing?_eq_some_iff_isLeast (h : OpensAt xs start) :
    closing? xs start = some stop ↔ IsLeast (balancedEnds xs start) stop := by
  refine ⟨isLeast_of_closing? h, fun hleast => ?_⟩
  cases hclosing : closing? xs start with
  | none =>
    have hmem := hleast.1
    rw [balancedEnds_eq_empty h hclosing] at hmem
    cases hmem
  | some other => rw [(isLeast_of_closing? h hclosing).unique hleast]

/-- **A parenthesis is not closed** exactly if there is no balanced end. -/
theorem closing?_eq_none_iff_eq_empty (h : OpensAt xs start) :
    closing? xs start = none ↔ balancedEnds xs start = ∅ := by
  refine ⟨balancedEnds_eq_empty h, fun hempty => ?_⟩
  cases hclosing : closing? xs start with
  | none => rfl
  | some stop =>
    have hmem := (isLeast_of_closing? h hclosing).1
    rw [hempty] at hmem
    cases hmem

/-! ## The counter -/

/-- How a search for a closing parenthesis ends. -/
inductive Search where
  | found (index : ℕ)
  | missing
  /-- A parenthesis is to be closed while none is open. -/
  | underflow
  deriving DecidableEq, Repr

/-- The search with a counter of open parentheses, through pieces the first of which has an index.
It ends where the counter comes back to zero. -/
def search : ℕ → ℕ → List Piece → Search
  | _, _, [] => .missing
  | depth, index, p :: r =>
    match p.token, depth with
    | .openParen, depth => search (depth + 1) (index + 1) r
    | .closeParen, 0 => .underflow
    | .closeParen, 1 => .found index
    | .closeParen, depth + 2 => search (depth + 1) (index + 1) r
    | _, depth => search depth (index + 1) r

/-- While a parenthesis is open, the search with a counter is the one for arguments. -/
theorem search_succ (depth index : ℕ) (xs : List Piece) :
    search (depth + 1) index xs =
      (splitArguments? depth xs).elim .missing fun (arguments, _) =>
        .found (index + arguments.length) := by
  induction xs generalizing depth index with
  | nil => rfl
  | cons p xs ih =>
    have hstep : ∀ depth, search (depth + 1) (index + 1) xs =
        ((splitArguments? depth xs).map fun (a, close) => (p :: a, close)).elim .missing
          fun (arguments, _) => .found (index + arguments.length) := by
      intro depth
      rw [ih]
      cases splitArguments? depth xs with
      | none => rfl
      | some split => simp [Nat.add_comm, Nat.add_left_comm]
    rcases p with ⟨gap, lexeme, token⟩
    cases token with
    | openParen => exact hstep (depth + 1)
    | closeParen =>
      cases depth with
      | zero => rfl
      | succ depth => exact hstep depth
    | _ => exact hstep depth

/-- **The counter never falls below zero**, and the search ends at the closing parenthesis. -/
theorem search_eq_closing? (h : OpensAt xs start) :
    search 0 start (xs.drop start) = (closing? xs start).elim .missing .found := by
  obtain ⟨⟨gap, lexeme, token⟩, hdrop, rfl, -⟩ := h.exists_drop
  rw [hdrop]
  refine (search_succ 0 (start + 1) _).trans ?_
  unfold closing?
  cases splitArguments? 0 (xs.drop (start + 1)) with
  | none => rfl
  | some split => rfl

/-! ## Nested parentheses -/

/-- **A parenthesis within closed ones is closed.** -/
theorem isSome_closing?_of_between {i : ℕ} (hstop : closing? xs start = some stop)
    (hi : OpensAt xs i) (hstart : start < i) (hlt : i < stop) : (closing? xs i).isSome := by
  obtain ⟨arguments, close, ys, hbehind, rfl, -, hopen, hcount⟩ := exists_of_closing? hstop
  obtain ⟨k, rfl⟩ := Nat.exists_eq_add_of_le hstart
  obtain ⟨p, hdrop, hp, -⟩ := hi.exists_drop
  have hk : k < arguments.length := by omega
  -- the arguments in front of the parenthesis and those behind it
  have hmiddle : arguments.drop k = p :: arguments.drop (k + 1) := by
    rw [← List.drop_drop, hbehind, List.drop_append_of_le_length (by omega),
      List.drop_eq_getElem_cons hk] at hdrop
    obtain ⟨hfirst, -⟩ := List.cons.inj hdrop
    rw [List.drop_eq_getElem_cons hk, hfirst]
  have hrest : xs.drop (start + 1 + k + 1) = arguments.drop (k + 1) ++ close :: ys := by
    rw [show start + 1 + k + 1 = start + 1 + (k + 1) by omega, ← List.drop_drop, hbehind,
      List.drop_append_of_le_length (by omega)]
  rw [closing?, Option.isSome_map, Option.isSome_iff_ne_none, ne_eq,
    splitArguments?_eq_none_iff, Nat.succ_eq_add_one, hrest]
  intro hnever
  have hfront := hopen _ (List.take_prefix k arguments)
  have hback := hnever _ (List.prefix_append _ _)
  rw [IsBalanced, ← List.take_append_drop k arguments, hmiddle, closings_append, openings_append,
    openings_cons, closings_cons, hp] at hcount
  simp at hcount
  omega

end VoxelScore.Script
