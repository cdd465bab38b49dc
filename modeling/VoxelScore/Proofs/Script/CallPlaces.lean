import Mathlib
import VoxelScore.Proofs.Script.Calls
import VoxelScore.Proofs.Script.Tiling

/-!
# Places of calls

The search for calls reads on behind the dot of each call that it finds, so that it comes through
the arguments as well, and it gives up at the first call that is not closed. It finds the calls
that start in front of that place, every one of them once and in order. A call within the arguments
of another one is closed in front of the end of that one, so it is always among them.

## Main definitions

* `StartsCall`, `IsReached`: places where a call starts, and those that the search comes to
* `IsCallAt`, `IsLocated`: a call at its place, and the calls at theirs
* `Call.IsWrittenAt`: a call between the positions of its parentheses in a text

## Main results

* `isLocated_calls`: the calls among pieces and their places
* `IsReached.of_between`: calls within arguments
* `Call.ofText_located`: parentheses and calls are found exactly
-/

namespace VoxelScore.Script

variable {xs behind arguments : List Piece} {places : List ℕ} {located : List Call} {p close : Piece}
  {call : Call} {name : Text} {i j start stop : ℕ}

/-! ## Places where calls start -/

/-- A call starts at a place: there are a dot, the name and an opening parenthesis. -/
structure StartsCall (xs : List Piece) (i : ℕ) (name : Text) : Prop where
  dot : xs[i]?.map Piece.token = some .dot
  word : xs[i + 1]?.map Piece.token = some (.name name)
  opens : OpensAt xs (i + 2)

/-- A call starts at a place and none that starts there or in front of it is left open. -/
structure IsReached (xs : List Piece) (i : ℕ) : Prop where
  starts : ∃ name, StartsCall xs i name
  inFront : ∀ j name, StartsCall xs j name → closing? xs (j + 2) = none → i < j

theorem startsCall_cons : StartsCall (p :: xs) (i + 1) name ↔ StartsCall xs i name :=
  ⟨fun ⟨dot, word, opens⟩ => ⟨dot, word, opens⟩, fun ⟨dot, word, opens⟩ => ⟨dot, word, opens⟩⟩

theorem startsCall_of_opening? (h : opening? xs = some (name, behind)) : StartsCall xs 0 name := by
  obtain ⟨dot, word, open_, rfl, hdot, hword, hopen⟩ := opening?_eq_some h
  exact ⟨congrArg some hdot, congrArg some hword, congrArg some hopen⟩

theorem not_startsCall_of_opening? (h : opening? xs = none) : ¬ StartsCall xs 0 name := by
  rintro ⟨hdot, hword, hopen⟩
  rcases xs with _ | ⟨dot, _ | ⟨word, _ | ⟨open_, xs⟩⟩⟩
  case cons.cons.cons =>
    have hopening := opening?_of_tokens (Option.some.inj hdot) (Option.some.inj hword)
      (Option.some.inj hopen) xs
    rw [h] at hopening
    cases hopening
  all_goals cases hopen

theorem closing?_cons : closing? (p :: xs) (start + 1) = (closing? xs start).map (· + 1) := by
  unfold closing?
  rw [Option.map_map, List.drop_succ_cons]
  refine congrArg (Option.map · _) (funext fun (arguments, _) => ?_)
  exact Nat.add_right_comm (start + 1) 1 arguments.length

/-- The arguments of a call stand behind three pieces. -/
theorem closing?_of_opening? (h : opening? xs = some (name, behind)) :
    closing? xs 2 = (splitArguments? 0 behind).map fun (arguments, _) => 3 + arguments.length := by
  obtain ⟨dot, word, open_, rfl, -⟩ := opening?_eq_some h
  rfl

/-- One piece more in front, unless a call starts with it that is left open. -/
theorem isReached_cons
    (h : ∀ name, StartsCall (p :: xs) 0 name → closing? (p :: xs) 2 ≠ none) :
    IsReached (p :: xs) (i + 1) ↔ IsReached xs i := by
  constructor
  · rintro ⟨⟨name, hstarts⟩, hfront⟩
    refine ⟨⟨name, startsCall_cons.mp hstarts⟩, fun j word hj hnone => ?_⟩
    have hlt := hfront (j + 1) word (startsCall_cons.mpr hj)
      (closing?_cons.trans (Option.map_eq_none_iff.mpr hnone))
    omega
  · rintro ⟨⟨name, hstarts⟩, hfront⟩
    refine ⟨⟨name, startsCall_cons.mpr hstarts⟩, fun j word hj hnone => ?_⟩
    cases j with
    | zero => exact absurd hnone (h word hj)
    | succ j =>
      have hlt := hfront j word (startsCall_cons.mp hj)
        (Option.map_eq_none_iff.mp (closing?_cons.symm.trans hnone))
      omega

/-! ## Calls at their places -/

/-- A call starts at a place, its arguments are the pieces between its parentheses, and its text
is theirs with the gap behind them. -/
structure IsCallAt (xs : List Piece) (i : ℕ) (call : Call) : Prop where
  starts : StartsCall xs i call.name
  closes : ∃ stop close, closing? xs (i + 2) = some stop ∧ xs[stop]? = some close ∧
    call.arguments = xs.extract (i + 3) stop ∧ call.raw = piecesText call.arguments ++ close.gap

theorem IsCallAt.cons (h : IsCallAt xs i call) : IsCallAt (p :: xs) (i + 1) call := by
  obtain ⟨hstarts, stop, close, hstop, hclose, harguments, hraw⟩ := h
  refine ⟨startsCall_cons.mpr hstarts, stop + 1, close, ?_, hclose, ?_, hraw⟩
  · exact closing?_cons.trans (Option.map_eq_some_iff.mpr ⟨stop, hstop, rfl⟩)
  · have hlength : stop + 1 - (i + 1 + 3) = stop - (i + 3) := by omega
    rw [harguments, List.extract_eq_take_drop, List.extract_eq_take_drop, hlength]
    rfl

theorem isCallAt_zero (h : opening? xs = some (name, behind))
    (hs : splitArguments? 0 behind = some (arguments, close)) :
    IsCallAt xs 0 ⟨name, arguments, piecesText arguments ++ close.gap⟩ := by
  have hclosing := closing?_of_opening? h
  rw [hs] at hclosing
  refine ⟨startsCall_of_opening? h, 3 + arguments.length, close, hclosing, ?_, ?_, rfl⟩
  all_goals
    obtain ⟨dot, word, open_, rfl, -⟩ := opening?_eq_some h
    obtain ⟨ys, rfl⟩ := exists_of_splitArguments? hs
    simp [Nat.add_comm 3]

/-- **Calls and their places.** The places are those that the search comes to, each once and in
order, and the calls are the ones at these places. -/
structure IsLocated (xs : List Piece) (places : List ℕ) (located : List Call) : Prop where
  ordered : places.Pairwise (· < ·)
  mem_iff : ∀ i, i ∈ places ↔ IsReached xs i
  calls : List.Forall₂ (IsCallAt xs) places located

theorem isLocated_nil : IsLocated [] [] [] where
  ordered := .nil
  mem_iff := fun _ => iff_of_false List.not_mem_nil fun h => by
    obtain ⟨-, hdot, -⟩ := h.starts
    cases hdot
  calls := .nil

theorem pairwise_map_succ (h : places.Pairwise (· < ·)) :
    (places.map (· + 1)).Pairwise (· < ·) :=
  List.pairwise_map.mpr (h.imp Nat.succ_lt_succ)

theorem forall₂_isCallAt_cons (h : List.Forall₂ (IsCallAt xs) places located) :
    List.Forall₂ (IsCallAt (p :: xs)) (places.map (· + 1)) located :=
  List.forall₂_map_left_iff.mpr (h.imp fun _ _ => IsCallAt.cons)

/-- A piece that starts no call. -/
theorem IsLocated.pass (ho : opening? (p :: xs) = none) (h : IsLocated xs places located) :
    IsLocated (p :: xs) (places.map (· + 1)) located where
  ordered := pairwise_map_succ h.ordered
  mem_iff i := by
    cases i with
    | zero =>
      refine iff_of_false (by simp) fun hreached => ?_
      obtain ⟨name, hstarts⟩ := hreached.starts
      exact not_startsCall_of_opening? ho hstarts
    | succ i =>
      rw [isReached_cons fun name hstarts => absurd hstarts (not_startsCall_of_opening? ho),
        ← h.mem_iff]
      simp
  calls := forall₂_isCallAt_cons h.calls

/-- A call that is left open. -/
theorem isLocated_of_stays_open (ho : opening? xs = some (name, behind))
    (hs : splitArguments? 0 behind = none) : IsLocated xs [] [] where
  ordered := .nil
  mem_iff i := by
    have hclosing := closing?_of_opening? ho
    rw [hs] at hclosing
    refine iff_of_false List.not_mem_nil fun hreached => ?_
    exact absurd (hreached.inFront 0 name (startsCall_of_opening? ho) hclosing) (Nat.not_lt_zero i)
  calls := .nil

/-- A call that is closed. -/
theorem IsLocated.found (ho : opening? (p :: xs) = some (name, behind))
    (hs : splitArguments? 0 behind = some (arguments, close)) (h : IsLocated xs places located) :
    IsLocated (p :: xs) (0 :: places.map (· + 1))
      (⟨name, arguments, piecesText arguments ++ close.gap⟩ :: located) where
  ordered := .cons (by simp) (pairwise_map_succ h.ordered)
  mem_iff i := by
    have hclosing : closing? (p :: xs) 2 ≠ none := by
      rw [closing?_of_opening? ho, hs]
      exact Option.some_ne_none _
    cases i with
    | zero =>
      refine iff_of_true List.mem_cons_self ⟨⟨name, startsCall_of_opening? ho⟩, ?_⟩
      intro j word hj hnone
      refine Nat.pos_of_ne_zero fun hzero => ?_
      rw [hzero] at hnone
      exact hclosing hnone
    | succ i =>
      rw [isReached_cons fun _ _ => hclosing, ← h.mem_iff]
      simp
  calls := .cons (isCallAt_zero ho hs) (forall₂_isCallAt_cons h.calls)

/-- **The calls among pieces** are those at the places that the search comes to. -/
theorem isLocated_calls (xs : List Piece) : ∃ places, IsLocated xs places (calls xs) := by
  induction xs with
  | nil => exact ⟨[], isLocated_nil⟩
  | cons p xs ih =>
    obtain ⟨places, hlocated⟩ := ih
    cases ho : opening? (p :: xs) with
    | none =>
      rw [calls_of_opening?_eq_none ho]
      exact ⟨_, hlocated.pass ho⟩
    | some opened =>
      obtain ⟨name, behind⟩ := opened
      cases hs : splitArguments? 0 behind with
      | none =>
        rw [calls_of_stays_open ho hs]
        exact ⟨[], isLocated_of_stays_open ho hs⟩
      | some closed =>
        obtain ⟨arguments, close⟩ := closed
        rw [calls_of_closed ho hs]
        exact ⟨_, hlocated.found ho hs⟩

/-! ## Calls within arguments -/

/-- What closes a parenthesis is a closing one. -/
theorem getElem?_of_closing? (h : closing? xs start = some stop) :
    xs[stop]?.map Piece.token = some .closeParen := by
  obtain ⟨arguments, close, ys, hbehind, rfl, hclose, -⟩ := exists_of_closing? h
  rw [← List.getElem?_drop, hbehind]
  simp [hclose]

theorem StartsCall.closing?_ne_none (h : StartsCall xs j name)
    (hstop : closing? xs (i + 2) = some stop) (hij : i < j) (hlt : j < stop) :
    closing? xs (j + 2) ≠ none := by
  have hclose := getElem?_of_closing? hstop
  -- neither the name nor the parenthesis of the call is the one at the end
  have hword : j + 1 ≠ stop := by
    rintro rfl
    cases h.word.symm.trans hclose
  have hopens : j + 2 ≠ stop := by
    rintro rfl
    cases h.opens.symm.trans hclose
  exact Option.isSome_iff_ne_none.mp
    (isSome_closing?_of_between hstop h.opens (Nat.add_lt_add_right hij 2) (by omega))

/-- **A call within the arguments of another one** is come to as well. -/
theorem IsReached.of_between (h : IsReached xs i) (hstop : closing? xs (i + 2) = some stop)
    (hj : StartsCall xs j name) (hlt : j < stop) : IsReached xs j := by
  refine ⟨⟨name, hj⟩, fun k word hk hnone => ?_⟩
  have hik := h.inFront k word hk hnone
  by_contra hkj
  -- the open call would lie within the arguments, too
  exact hk.closing?_ne_none hstop hik (by omega) hnone

/-! ## Positions in the text -/

theorem piecesText_append (xs ys : List Piece) :
    piecesText (xs ++ ys) = piecesText xs ++ piecesText ys :=
  List.flatMap_append

/-- A placed token stands behind the pieces in front of it and its gap. -/
theorem getElem?_placedFrom (c : Cursor) (xs : List Piece) (i : ℕ) :
    (placedFrom c xs)[i]? = xs[i]?.map fun q =>
      ⟨q.token, c.past (piecesText (xs.take i) ++ q.gap), c.past (piecesText (xs.take (i + 1)))⟩ := by
  induction xs generalizing c i with
  | nil => rfl
  | cons p xs ih =>
    have hpast : ∀ t, c.past (p.text ++ t) = ((c.past p.gap).past p.lexeme).past t := by
      intro t
      rw [Cursor.past_append, Piece.text, Cursor.past_append]
    cases i with
    | zero =>
      have hstop := hpast []
      rw [List.append_nil, Cursor.past_nil] at hstop
      simp [placedFrom, piecesText, hstop]
    | succ i =>
      refine (ih _ i).trans ?_
      simp [piecesText, hpast]

/-- The text of the pieces between two places and of the gap behind them. -/
theorem isSlice_between {t : Text} (hle : i ≤ stop)
    (hclose : (Scan.ofText t).pieces[stop]? = some close) :
    IsSlice t (piecesText ((Scan.ofText t).pieces.take i)).byteLength
      (piecesText ((Scan.ofText t).pieces.take stop) ++ close.gap).byteLength
      (piecesText ((Scan.ofText t).pieces.extract i stop) ++ close.gap) := by
  obtain ⟨hlt, hget⟩ := List.getElem?_eq_some_iff.mp hclose
  generalize hpieces : (Scan.ofText t).pieces = pieces at hlt hget ⊢
  have htake : pieces.take stop = pieces.take i ++ pieces.extract i stop := by
    rw [List.extract_eq_take_drop, ← List.take_add, Nat.add_sub_cancel' hle]
  have hsplit : piecesText pieces = piecesText (pieces.take stop) ++
      (close.gap ++ (close.lexeme ++ piecesText (pieces.drop (stop + 1)))) := by
    conv_lhs => rw [← List.take_append_drop stop pieces, List.drop_eq_getElem_cons hlt, hget]
    simp [piecesText, Piece.text]
  have ht := Scan.text_ofText t
  rw [Scan.text, hpieces, hsplit, htake, piecesText_append] at ht
  refine ⟨_, close.lexeme ++ piecesText (pieces.drop (stop + 1)) ++ (Scan.ofText t).ending.text,
    ?_, rfl, ?_⟩
  · simpa using ht.symm
  · rw [htake, piecesText_append, List.append_assoc]

/-- **A call as it is written in a text.** Its arguments are the balanced pieces strictly between
its parentheses, and its text is the text between the positions of these. -/
structure Call.IsWrittenAt (t : Text) (i : ℕ) (call : Call) : Prop where
  starts : StartsCall (Scan.ofText t).pieces i call.name
  closes : ∃ stop opening closing, closing? (Scan.ofText t).pieces (i + 2) = some stop ∧
    call.arguments = (Scan.ofText t).pieces.extract (i + 3) stop ∧ IsBalanced call.arguments ∧
    (Scan.ofText t).placed[i + 2]? = some opening ∧ (Scan.ofText t).placed[stop]? = some closing ∧
    IsSlice t opening.stop.offset closing.start.offset call.raw

theorem IsCallAt.isWrittenAt {t : Text} (h : IsCallAt (Scan.ofText t).pieces i call) :
    call.IsWrittenAt t i := by
  obtain ⟨hstarts, stop, close, hstop, hclose, harguments, hraw⟩ := h
  obtain ⟨opens, hopens, -⟩ := Option.map_eq_some_iff.mp hstarts.opens
  obtain ⟨arguments, last, ys, hbehind, hlength, -, -, hbalanced⟩ := exists_of_closing? hstop
  have hextract : call.arguments = arguments := by
    rw [harguments, List.extract_eq_take_drop, hbehind, hlength]
    simp
  have hopening := getElem?_placedFrom .start (Scan.ofText t).pieces (i + 2)
  have hclosing := getElem?_placedFrom .start (Scan.ofText t).pieces stop
  rw [hopens, Option.map_some] at hopening
  rw [hclose, Option.map_some] at hclosing
  refine ⟨hstarts, stop, _, _, hstop, harguments, hextract ▸ hbalanced, hopening, hclosing, ?_⟩
  have hslice := isSlice_between (show i + 3 ≤ stop by omega) hclose
  rw [hraw, harguments]
  simpa [Cursor.offset_past, Cursor.start] using hslice

/-- **Parentheses and calls are found exactly.** The parenthesis that closes another one stands at
the first place up to which as many are closed as opened, or nowhere if there is no such place, and
the counter that finds it never falls below zero. The calls of a text are in order those at the
places of a dot, a name and an opening parenthesis that come before the first such place whose
parenthesis is not closed, those within arguments included. -/
theorem Call.ofText_located :
    (∀ (pieces : List Piece) (start : ℕ), OpensAt pieces start →
      search 0 start (pieces.drop start) = (closing? pieces start).elim .missing .found ∧
      (∀ stop, closing? pieces start = some stop ↔ IsLeast (balancedEnds pieces start) stop) ∧
      (closing? pieces start = none ↔ balancedEnds pieces start = ∅)) ∧
    ∀ t : Text, ∃ places : List ℕ, places.Pairwise (· < ·) ∧
      (∀ i, i ∈ places ↔ (∃ name, StartsCall (Scan.ofText t).pieces i name) ∧
        ∀ j name, StartsCall (Scan.ofText t).pieces j name →
          closing? (Scan.ofText t).pieces (j + 2) = none → i < j) ∧
      List.Forall₂ (IsWrittenAt t) places (ofText t) ∧
      ∀ i ∈ places, ∀ stop, closing? (Scan.ofText t).pieces (i + 2) = some stop →
        ∀ j name, i < j → j < stop → StartsCall (Scan.ofText t).pieces j name → j ∈ places := by
  refine ⟨fun pieces start h => ⟨search_eq_closing? h, fun _ => closing?_eq_some_iff_isLeast h,
    closing?_eq_none_iff_eq_empty h⟩, fun t => ?_⟩
  obtain ⟨places, hlocated⟩ := isLocated_calls (Scan.ofText t).pieces
  refine ⟨places, hlocated.ordered, fun i => ?_, ?_, ?_⟩
  · rw [hlocated.mem_iff]
    exact ⟨fun h => ⟨h.starts, h.inFront⟩, fun h => ⟨h.1, h.2⟩⟩
  · exact hlocated.calls.imp fun _ _ => IsCallAt.isWrittenAt
  · intro i hi stop hstop j name _ hlt hj
    rw [hlocated.mem_iff] at hi ⊢
    exact hi.of_between hstop hj hlt

/-- One call within another one, and one that is left open. -/
theorem Call.ofText_located_left_open :
    OpensAt (Scan.ofText ".a(.b()).c(".toList).pieces 2 ∧
      IsLeast (balancedEnds (Scan.ofText ".a(.b()).c(".toList).pieces 2) 7 ∧
      OpensAt (Scan.ofText ".a(.b()).c(".toList).pieces 10 ∧
      balancedEnds (Scan.ofText ".a(.b()).c(".toList).pieces 10 = ∅ ∧
      ∃ places : List ℕ, 0 ∈ places ∧ 3 ∈ places ∧ 8 ∉ places ∧
        List.Forall₂ (IsWrittenAt ".a(.b()).c(".toList) places (ofText ".a(.b()).c(".toList) := by
  have hclosing := Call.ofText_located.1 (Scan.ofText ".a(.b()).c(".toList).pieces
  obtain ⟨places, -, hmem, hwritten, hnested⟩ := Call.ofText_located.2 ".a(.b()).c(".toList
  have hpieces : (Scan.ofText ".a(.b()).c(".toList).pieces =
      [⟨[], ['.'], .dot⟩, ⟨[], ['a'], .name ['a']⟩, ⟨[], ['('], .openParen⟩,
        ⟨[], ['.'], .dot⟩, ⟨[], ['b'], .name ['b']⟩, ⟨[], ['('], .openParen⟩,
        ⟨[], [')'], .closeParen⟩, ⟨[], [')'], .closeParen⟩,
        ⟨[], ['.'], .dot⟩, ⟨[], ['c'], .name ['c']⟩, ⟨[], ['('], .openParen⟩] := by cbv
  rw [hpieces] at hclosing hmem hnested ⊢
  have hfirst := (hmem 0).mpr ⟨⟨['a'], rfl, rfl, rfl⟩, fun j name hj hnone => by
    cases j with
    | zero => cases hnone
    | succ j => exact Nat.succ_pos j⟩
  refine ⟨rfl, ((hclosing 2 rfl).2.1 7).mp rfl, rfl, (hclosing 10 rfl).2.2.mp rfl,
    places, hfirst, ?_, ?_, hwritten⟩
  · exact hnested 0 hfirst 7 rfl 3 ['b'] (by decide) (by decide) ⟨rfl, rfl, rfl⟩
  · intro hlast
    exact absurd (((hmem 8).mp hlast).2 8 ['c'] ⟨rfl, rfl, rfl⟩ rfl) (Nat.lt_irrefl 8)

end VoxelScore.Script
