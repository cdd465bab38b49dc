import VoxelScore.Proofs.Number.Numeral

/-!
# The longest numeral in front

Numerals have a grammar: an optional sign, then the word `Infinity`, or digits with at most one
point, on one side of it at least, and an optional exponent. A text may start with several numerals,
one longer than the other, as `1.5e2` starts with `1`, `1.`, `1.5` and the whole of itself. Of these
the longest one is read, and what follows it does not matter.

## Main definitions

* `Writes`: the grammar, with the numeral that a text writes
* `IsLongest`: the longest text of the grammar in front of another one

## Main results

* `writes_of_scan?`: what is read is written in front of the text
* `scan?_of_writes`: a text of the grammar is read as the numeral that it writes
* `scan?_reaches`: what is read reaches behind every text of the grammar in front
* `scan?_eq_some_iff`, `scan?_eq_none_iff`: the longest one is read
* `leadingNumber?_longest`: the number in front of a text
-/

namespace VoxelScore.Numeral

open Text (StopsRun)

variable {t r w v digits fraction : Text} {c e : Char} {negative : Bool} {n m : Numeral} {k : ℤ}

/-! ## The grammar -/

/-- A sign, and whether it is the negative one. -/
inductive IsSign : Text → Bool → Prop
  | absent : IsSign [] false
  | plus : IsSign ['+'] false
  | minus : IsSign ['-'] true

/-- Digits with at most one point, and those in front of the point and behind it. -/
inductive IsMantissa : Text → Text → Text → Prop
  | whole {digits : Text} (h : IsDigits digits) : IsMantissa digits digits []
  | point {digits fraction : Text} (h : IsDigits digits) (hfraction : ∀ c ∈ fraction, c.isDigit) :
    IsMantissa (digits ++ '.' :: fraction) digits fraction
  | fraction {fraction : Text} (h : IsDigits fraction) : IsMantissa ('.' :: fraction) [] fraction

/-- A number with a sign. -/
def signed (negative : Bool) (n : ℕ) : ℤ :=
  if negative then -n else n

/-- An exponent, or none. -/
inductive IsExponent : Text → ℤ → Prop
  | absent : IsExponent [] 0
  | written {e : Char} {sign digits : Text} {negative : Bool} (he : e ∈ ['e', 'E'])
      (hsign : IsSign sign negative) (h : IsDigits digits) :
    IsExponent (e :: (sign ++ digits)) (signed negative (Nat.ofDigitChars 10 digits 0))

/-- **The text writes a numeral.** -/
inductive Writes : Text → Numeral → Prop
  | infinity {sign : Text} {negative : Bool} (hsign : IsSign sign negative) :
    Writes (sign ++ "Infinity".toList) (.infinity negative)
  | decimal {sign mantissa exponent digits fraction : Text} {negative : Bool} {k : ℤ}
      (hsign : IsSign sign negative) (hmantissa : IsMantissa mantissa digits fraction)
      (hexponent : IsExponent exponent k) :
    Writes (sign ++ (mantissa ++ exponent))
      (.decimal negative (digits ++ fraction) (k - fraction.length))

/-! ## Signs -/

theorem isSign_splitSign (t : Text) :
    ∃ w, IsSign w (splitSign t).1 ∧ w ++ (splitSign t).2 = t := by
  fun_cases splitSign t with
  | case1 r => exact ⟨_, .minus, rfl⟩
  | case2 r => exact ⟨_, .plus, rfl⟩
  | case3 => exact ⟨_, .absent, rfl⟩

/-- A sign is read in front of a text that does not start with another one. -/
theorem splitSign_append (h : IsSign w negative) (ht : StopsRun (· ∈ ['-', '+']) t) :
    splitSign (w ++ t) = (negative, t) := by
  cases h with
  | absent => exact splitSign_of_stops ht
  | plus => rfl
  | minus => rfl

/-! ## Digits -/

theorem splitDigits_append_stops (h : IsDigits w)
    (ht : StopsRun (· ∈ ['.']) (t.dropWhile Char.isDigit)) :
    splitDigits (w ++ t) = (w ++ t.takeWhile Char.isDigit, [], t.dropWhile Char.isDigit) := by
  have hdrop : (w ++ t).dropWhile Char.isDigit = t.dropWhile Char.isDigit :=
    List.dropWhile_append_of_pos h.2
  rw [← hdrop] at ht
  rw [splitDigits_of_stops ht, hdrop, List.takeWhile_append_of_pos h.2]

/-- Behind a point digits go on as far as they can. -/
theorem splitDigits_append_point (hdigits : ∀ c ∈ digits, c.isDigit)
    (hfraction : ∀ c ∈ fraction, c.isDigit) (hne : digits ≠ [] ∨ fraction ≠ []) (t : Text) :
    splitDigits (digits ++ '.' :: (fraction ++ t)) =
      (digits, fraction ++ t.takeWhile Char.isDigit, t.dropWhile Char.isDigit) := by
  have hpoint : StopsRun Char.isDigit ('.' :: (fraction ++ t)) := Text.stopsRun_cons (by decide)
  have hempty : (digits.isEmpty && (fraction ++ t.takeWhile Char.isDigit).isEmpty) = false := by
    rw [Bool.and_eq_false_iff, List.isEmpty_eq_false_iff, List.isEmpty_eq_false_iff]
    exact hne.imp_right fun h => List.append_ne_nil_of_left_ne_nil h _
  rw [splitDigits_of_point (Text.dropWhile_run_append hdigits hpoint),
    Text.takeWhile_run_append hdigits hpoint, List.takeWhile_append_of_pos hfraction,
    List.dropWhile_append_of_pos hfraction, hempty]
  rfl

/-- What neither goes on with a digit nor with a point leaves the digits in front as they are. -/
theorem splitDigits_append (h : IsMantissa w digits fraction) (ht : StopsRun Char.isDigit t)
    (hpoint : StopsRun (· ∈ ['.']) t) : splitDigits (w ++ t) = (digits, fraction, t) := by
  have hdrop := ht.dropWhile
  cases h with
  | whole h =>
    rw [splitDigits_append_stops h (by rwa [hdrop]), ht.takeWhile, hdrop, List.append_nil]
  | point h hfraction =>
    rw [List.append_assoc, List.cons_append, splitDigits_append_point h.2 hfraction (.inl h.1),
      ht.takeWhile, hdrop, List.append_nil]
  | fraction h =>
    have hsplit := splitDigits_append_point (List.forall_mem_nil _) h.2 (.inr h.1) t
    rwa [ht.takeWhile, hdrop, List.append_nil] at hsplit

/-- Whatever stands behind digits, they are read, and perhaps more. -/
theorem splitDigits_reaches (h : IsMantissa w digits fraction) (t : Text) :
    ((splitDigits (w ++ t)).1 ≠ [] ∨ (splitDigits (w ++ t)).2.1 ≠ []) ∧
      (splitDigits (w ++ t)).2.2 <:+ t := by
  cases h with
  | whole h =>
    have hne : w ++ t.takeWhile Char.isDigit ≠ [] := List.append_ne_nil_of_left_ne_nil h.1 _
    rcases exists_cons_or_stopsRun ['.'] (t.dropWhile Char.isDigit) with ⟨c, hc, u, hu⟩ | hstops
    · -- a point follows, now or behind more digits
      obtain rfl := List.mem_singleton.mp hc
      have hdrop : (w ++ t).dropWhile Char.isDigit = '.' :: u := by
        rw [List.dropWhile_append_of_pos h.2, hu]
      have htake : (w ++ t).takeWhile Char.isDigit = w ++ t.takeWhile Char.isDigit :=
        List.takeWhile_append_of_pos h.2
      have hempty : (w ++ t.takeWhile Char.isDigit).isEmpty = false :=
        List.isEmpty_eq_false_iff.mpr hne
      rw [splitDigits_of_point hdrop, htake, hempty, Bool.false_and]
      have hsuffix : '.' :: u <:+ t := by
        rw [← hu]
        exact List.dropWhile_suffix _
      exact ⟨.inl hne, (List.dropWhile_suffix _).trans ((List.suffix_cons '.' u).trans hsuffix)⟩
    · rw [splitDigits_append_stops h hstops]
      exact ⟨.inl hne, List.dropWhile_suffix _⟩
  | point h hfraction =>
    rw [List.append_assoc, List.cons_append, splitDigits_append_point h.2 hfraction (.inl h.1)]
    exact ⟨.inl h.1, List.dropWhile_suffix _⟩
  | fraction h =>
    have hsplit := splitDigits_append_point (List.forall_mem_nil _) h.2 (.inr h.1) t
    rw [List.nil_append] at hsplit
    rw [List.cons_append, hsplit]
    exact ⟨.inr (List.append_ne_nil_of_left_ne_nil h.1 _), List.dropWhile_suffix _⟩

theorem takeWhile_isDigit (t : Text) : ∀ c ∈ t.takeWhile Char.isDigit, c.isDigit :=
  fun _ => List.mem_takeWhile_imp

/-- The digits that are read are written in front of the text. -/
theorem isMantissa_splitDigits (h : (splitDigits t).1 ≠ [] ∨ (splitDigits t).2.1 ≠ []) :
    ∃ w, IsMantissa w (splitDigits t).1 (splitDigits t).2.1 ∧ w ++ (splitDigits t).2.2 = t := by
  have hrun := List.takeWhile_append_dropWhile (p := Char.isDigit) (l := t)
  rcases exists_cons_or_stopsRun ['.'] (t.dropWhile Char.isDigit) with ⟨c, hc, u, hu⟩ | hstops
  · -- with a point, digits in front of it may be missing
    obtain rfl := List.mem_singleton.mp hc
    have hrest := List.takeWhile_append_dropWhile (p := Char.isDigit) (l := u)
    rw [hu] at hrun
    rw [splitDigits_of_point hu] at h ⊢
    split at h
    · simp at h
    · next hempty =>
      rw [if_neg hempty]
      by_cases hne : t.takeWhile Char.isDigit = []
      · rw [hne] at h hrun ⊢
        refine ⟨_, .fraction ⟨h.resolve_left (· rfl), takeWhile_isDigit u⟩, ?_⟩
        rw [List.cons_append, hrest]
        exact hrun
      · refine ⟨_, .point ⟨hne, takeWhile_isDigit t⟩ (takeWhile_isDigit u), ?_⟩
        rw [List.append_assoc, List.cons_append, hrest, hrun]
  · rw [splitDigits_of_stops hstops] at h ⊢
    exact ⟨_, .whole ⟨h.resolve_right (· rfl), takeWhile_isDigit t⟩, hrun⟩

/-! ## Exponents -/

/-- An exponent is read, with all further digits behind it. -/
theorem splitExponent_append (he : e ∈ ['e', 'E']) (hsign : IsSign w negative)
    (h : IsDigits digits) (t : Text) :
    splitExponent (e :: (w ++ (digits ++ t))) =
      (signed negative (Nat.ofDigitChars 10 (digits ++ t.takeWhile Char.isDigit) 0),
        t.dropWhile Char.isDigit) := by
  have hmark : e = 'e' ∨ e = 'E' := by simpa using he
  have hstops : StopsRun (· ∈ ['-', '+']) (digits ++ t) :=
    h.stopsRun (fun _ => not_mem_of_isDigit (by decide)) t
  have htake : (digits ++ t).takeWhile Char.isDigit = digits ++ t.takeWhile Char.isDigit :=
    List.takeWhile_append_of_pos h.2
  have hne : digits ++ t.takeWhile Char.isDigit ≠ [] := List.append_ne_nil_of_left_ne_nil h.1 _
  unfold splitExponent
  simp only [splitSign_append hsign hstops, htake, List.dropWhile_append_of_pos h.2,
    digitsValue_eq]
  simp [hmark, h.1, signed]

/-- The exponent that is read is written in front of the text. -/
theorem isExponent_splitExponent (t : Text) :
    ∃ w, IsExponent w (splitExponent t).1 ∧ w ++ (splitExponent t).2 = t := by
  rcases exists_cons_or_stopsRun ['e', 'E'] t with ⟨e, he, r, rfl⟩ | hstops
  · obtain ⟨sign, hsign, hr⟩ := isSign_splitSign r
    by_cases hne : (splitSign r).2.takeWhile Char.isDigit = []
    · -- without a digit nothing is read
      have hnone : splitExponent (e :: r) = (0, e :: r) := by
        unfold splitExponent
        simp [hne]
      rw [hnone]
      exact ⟨[], .absent, rfl⟩
    · have hdigits : IsDigits ((splitSign r).2.takeWhile Char.isDigit) :=
        ⟨hne, takeWhile_isDigit _⟩
      have hrun := List.takeWhile_append_dropWhile (p := Char.isDigit) (l := (splitSign r).2)
      have hsplit := splitExponent_append he hsign hdigits
        ((splitSign r).2.dropWhile Char.isDigit)
      have hrest := Text.stopsRun_dropWhile Char.isDigit (splitSign r).2
      rw [hrun, hr, hrest.takeWhile, hrest.dropWhile, List.append_nil] at hsplit
      rw [hsplit]
      refine ⟨_, .written he hsign hdigits, ?_⟩
      rw [List.cons_append, List.append_assoc, hrun, hr]
  · rw [splitExponent_of_stops hstops]
    exact ⟨[], .absent, rfl⟩

theorem splitExponent_suffix (t : Text) : (splitExponent t).2 <:+ t := by
  obtain ⟨w, -, hw⟩ := isExponent_splitExponent t
  exact ⟨w, hw⟩

/-! ## Decimals -/

/-- What an exponent starts with ends a run of digits and is no point. -/
theorem stopsRun_mark (he : e ∈ ['e', 'E']) (t : Text) :
    StopsRun Char.isDigit (e :: t) ∧ StopsRun (· ∈ ['.']) (e :: t) := by
  rcases List.mem_pair.mp he with rfl | rfl
  · exact ⟨Text.stopsRun_cons (by decide), Text.stopsRun_cons (by decide)⟩
  · exact ⟨Text.stopsRun_cons (by decide), Text.stopsRun_cons (by decide)⟩

theorem IsExponent.stopsRun (h : IsExponent w k) :
    StopsRun Char.isDigit w ∧ StopsRun (· ∈ ['.']) w := by
  cases h with
  | absent => exact ⟨Text.stopsRun_nil, Text.stopsRun_nil⟩
  | written he hsign h => exact stopsRun_mark he _

/-- The digits and the exponent that are read, if there are digits. -/
theorem scanDecimal?_of_ne (negative : Bool)
    (h : (splitDigits t).1 ≠ [] ∨ (splitDigits t).2.1 ≠ []) :
    scanDecimal? negative t =
      some (.decimal negative ((splitDigits t).1 ++ (splitDigits t).2.1)
        ((splitExponent (splitDigits t).2.2).1 - (splitDigits t).2.1.length),
        (splitExponent (splitDigits t).2.2).2) := by
  have hempty : ((splitDigits t).1.isEmpty && (splitDigits t).2.1.isEmpty) = false := by
    rw [Bool.and_eq_false_iff, List.isEmpty_eq_false_iff, List.isEmpty_eq_false_iff]
    exact h
  unfold scanDecimal?
  simp only [hempty]
  rfl

theorem scanDecimal?_append (negative : Bool) (hmantissa : IsMantissa w digits fraction)
    (hexponent : IsExponent v k) :
    scanDecimal? negative (w ++ v) =
      some (.decimal negative (digits ++ fraction) (k - fraction.length), []) := by
  obtain ⟨hstops, hpoint⟩ := hexponent.stopsRun
  have hsplit := splitDigits_append hmantissa hstops hpoint
  have hne := (splitDigits_reaches hmantissa v).1
  have hend : splitExponent v = (k, []) := by
    cases hexponent with
    | absent => rfl
    | written he hsign h =>
      have hwritten := splitExponent_append he hsign h []
      simpa using hwritten
  rw [scanDecimal?_of_ne negative hne, hsplit, hend]

theorem scanDecimal?_reaches (negative : Bool) (hmantissa : IsMantissa w digits fraction)
    (hexponent : IsExponent v k) (t : Text) :
    ∃ n r, scanDecimal? negative (w ++ (v ++ t)) = some (n, r) ∧ r <:+ t := by
  obtain ⟨hne, hsuffix⟩ := splitDigits_reaches hmantissa (v ++ t)
  refine ⟨_, _, scanDecimal?_of_ne negative hne, ?_⟩
  cases hexponent with
  | absent => exact (splitExponent_suffix _).trans hsuffix
  | @written e sign digits' _ he hsign h =>
    -- the digits in front end at the mark, whatever stands behind the exponent
    obtain ⟨hstops, hpoint⟩ := stopsRun_mark he (sign ++ (digits' ++ t))
    have htext : e :: (sign ++ digits') ++ t = e :: (sign ++ (digits' ++ t)) := by
      rw [List.cons_append, List.append_assoc]
    rw [htext, splitDigits_append hmantissa hstops hpoint, splitExponent_append he hsign h]
    exact List.dropWhile_suffix _

theorem exists_of_scanDecimal? (h : scanDecimal? negative t = some (n, r)) :
    ∃ w v digits fraction k, IsMantissa w digits fraction ∧ IsExponent v k ∧
      n = .decimal negative (digits ++ fraction) (k - fraction.length) ∧ w ++ (v ++ r) = t := by
  by_cases hne : (splitDigits t).1 ≠ [] ∨ (splitDigits t).2.1 ≠ []
  · rw [scanDecimal?_of_ne negative hne] at h
    obtain ⟨w, hmantissa, hw⟩ := isMantissa_splitDigits hne
    obtain ⟨v, hexponent, hv⟩ := isExponent_splitExponent (splitDigits t).2.2
    cases h
    exact ⟨w, v, _, _, _, hmantissa, hexponent, rfl, by rw [hv, hw]⟩
  · rw [not_or, not_not, not_not] at hne
    unfold scanDecimal? at h
    simp only [hne.1, hne.2] at h
    cases h

/-! ## Numerals -/

/-- Neither digits nor a point are a sign or start the infinity. -/
theorem IsMantissa.stopsRun (h : IsMantissa w digits fraction) {stops : Text}
    (hstops : stops.all fun c => !(c.isDigit || c == '.')) (t : Text) :
    StopsRun (· ∈ stops) (w ++ t) := by
  have hdigit : ∀ c, c.isDigit → decide (c ∈ stops) = false := by
    intro c
    refine not_mem_of_isDigit (List.all_eq_true.mpr ?_)
    intro d hd
    have hd := List.all_eq_true.mp hstops d hd
    simp_all
  have hpoint : decide ('.' ∈ stops) = false := by
    refine decide_eq_false ?_
    intro hmem
    exact absurd (List.all_eq_true.mp hstops '.' hmem) (by decide)
  cases h with
  | whole h => exact h.stopsRun hdigit t
  | point h _ =>
    rw [List.append_assoc]
    exact h.stopsRun hdigit _
  | fraction h => exact Text.stopsRun_cons hpoint

theorem scan?_infinity (hsign : IsSign w negative) (t : Text) :
    scan? (w ++ ("Infinity".toList ++ t)) = some (.infinity negative, t) := by
  have hstops : StopsRun (· ∈ ['-', '+']) ("Infinity".toList ++ t) :=
    Text.stopsRun_cons (by decide)
  have hword : "Infinity".toList.isPrefixOf? ("Infinity".toList ++ t) = some t :=
    List.isPrefixOf?_eq_some_iff_append_eq.mpr rfl
  unfold scan?
  simp only [splitSign_append hsign hstops, hword]

/-- Digits behind a sign are no infinity. -/
theorem scan?_decimal (hsign : IsSign w negative) (hmantissa : IsMantissa v digits fraction)
    (t : Text) : scan? (w ++ (v ++ t)) = scanDecimal? negative (v ++ t) := by
  have hstops : StopsRun (· ∈ ['-', '+']) (v ++ t) := hmantissa.stopsRun (by decide) t
  have hletter : StopsRun (· ∈ ['I']) (v ++ t) := hmantissa.stopsRun (by decide) t
  have hword : "Infinity".toList.isPrefixOf? (v ++ t) = none := by
    refine Option.eq_none_iff_forall_ne_some.mpr ?_
    intro r hr
    rw [List.isPrefixOf?_eq_some_iff_append_eq] at hr
    exact absurd (hletter 'I' (by rw [← hr]; rfl)) (by decide)
  unfold scan?
  simp only [splitSign_append hsign hstops, hword]

/-- **What is read is written in front of the text.** -/
theorem writes_of_scan? (h : scan? t = some (n, r)) : ∃ w, Writes w n ∧ w ++ r = t := by
  obtain ⟨sign, hsign, ht⟩ := isSign_splitSign t
  unfold scan? at h
  simp only at h
  split at h
  · next r' hr' =>
    cases h
    rw [List.isPrefixOf?_eq_some_iff_append_eq] at hr'
    refine ⟨_, .infinity hsign, ?_⟩
    rw [List.append_assoc, hr', ht]
  · obtain ⟨w, v, digits, fraction, k, hmantissa, hexponent, rfl, hr⟩ := exists_of_scanDecimal? h
    refine ⟨_, .decimal hsign hmantissa hexponent, ?_⟩
    rw [List.append_assoc, List.append_assoc, hr, ht]

/-- **A text of the grammar is read** as the numeral that it writes. -/
theorem scan?_of_writes (h : Writes w n) : scan? w = some (n, []) := by
  cases h with
  | infinity hsign => simpa using scan?_infinity hsign []
  | decimal hsign hmantissa hexponent =>
    rw [scan?_decimal hsign hmantissa, scanDecimal?_append _ hmantissa hexponent]

/-- **What is read reaches behind every text of the grammar** in front. -/
theorem scan?_reaches (h : Writes w n) (t : Text) :
    ∃ m r, scan? (w ++ t) = some (m, r) ∧ r <:+ t := by
  cases h with
  | infinity hsign =>
    rw [List.append_assoc, scan?_infinity hsign]
    exact ⟨_, _, rfl, List.suffix_rfl⟩
  | decimal hsign hmantissa hexponent =>
    rw [List.append_assoc, List.append_assoc, scan?_decimal hsign hmantissa]
    exact scanDecimal?_reaches _ hmantissa hexponent t

/-- A text writes one numeral at most. -/
theorem Writes.unique (h : Writes w n) (h' : Writes w m) : n = m := by
  have hscan := scan?_of_writes h
  rw [scan?_of_writes h'] at hscan
  cases hscan
  rfl

/-! ## The longest numeral -/

/-- **The longest text of the grammar in front** of another one, and the numeral that it writes. -/
structure IsLongest (w t : Text) (n : Numeral) : Prop where
  front : w <+: t
  writes : Writes w n
  longest : ∀ v m, v <+: t → Writes v m → v.length ≤ w.length

/-- Two of them are as long as each other in front of the same text, and so the same. -/
theorem IsLongest.unique (h : IsLongest w t n) (h' : IsLongest v t m) : w = v ∧ n = m := by
  have hlength := (h'.longest w n h.front h.writes).antisymm (h.longest v m h'.front h'.writes)
  obtain rfl := List.IsPrefix.eq_of_length
    (List.prefix_of_prefix_length_le h.front h'.front hlength.le) hlength
  exact ⟨rfl, h.writes.unique h'.writes⟩

theorem isLongest_of_scan? (hwrites : Writes w n) (h : scan? (w ++ r) = some (n, r)) :
    IsLongest w (w ++ r) n where
  front := List.prefix_append w r
  writes := hwrites
  longest := by
    rintro v m ⟨t, ht⟩ hv
    obtain ⟨m', r', hscan, hsuffix⟩ := scan?_reaches hv t
    rw [ht, h] at hscan
    cases hscan
    -- what is left behind the one is left behind the other one too
    have hlength := congrArg List.length ht
    rw [List.length_append, List.length_append] at hlength
    have hrest := hsuffix.length_le
    omega

/-- **The longest numeral in front is read**, and what is behind it is left. -/
theorem scan?_eq_some_iff :
    scan? t = some (n, r) ↔ ∃ w, IsLongest w t n ∧ w ++ r = t := by
  constructor
  · intro h
    obtain ⟨w, hwrites, rfl⟩ := writes_of_scan? h
    exact ⟨w, isLongest_of_scan? hwrites h, rfl⟩
  · rintro ⟨w, hlongest, rfl⟩
    obtain ⟨m, r', hscan, -⟩ := scan?_reaches hlongest.writes r
    obtain ⟨v, hwrites, hv⟩ := writes_of_scan? hscan
    rw [← hv] at hscan hlongest
    obtain ⟨rfl, rfl⟩ := hlongest.unique (isLongest_of_scan? hwrites hscan)
    obtain rfl := List.append_cancel_left hv
    exact hscan

/-- **Nothing is read** exactly if no text of the grammar stands in front. -/
theorem scan?_eq_none_iff : scan? t = none ↔ ∀ w n, w <+: t → ¬Writes w n := by
  constructor
  · rintro h w n ⟨r, rfl⟩ hwrites
    obtain ⟨m, r', hscan, -⟩ := scan?_reaches hwrites r
    rw [h] at hscan
    cases hscan
  · intro h
    refine Option.eq_none_iff_forall_ne_some.mpr ?_
    rintro ⟨n, r⟩ hscan
    obtain ⟨w, hwrites, rfl⟩ := writes_of_scan? hscan
    exact h w n (List.prefix_append w r) hwrites

/-! ## Where a numeral ends -/

/-- The text ends in a digit, in a point behind a digit, or in the last letter of the infinity. -/
inductive IsFinished : Text → Prop
  | digit (w : Text) {c : Char} (h : c.isDigit) : IsFinished (w ++ [c])
  | point (w : Text) {c : Char} (h : c.isDigit) : IsFinished (w ++ [c, '.'])
  | infinity (w : Text) : IsFinished (w ++ ['y'])

theorem IsFinished.append (h : IsFinished v) (w : Text) : IsFinished (w ++ v) := by
  cases h with
  | digit v h =>
    rw [← List.append_assoc]
    exact .digit (w ++ v) h
  | point v h =>
    rw [← List.append_assoc]
    exact .point (w ++ v) h
  | infinity v =>
    rw [← List.append_assoc]
    exact .infinity (w ++ v)

/-- A run of digits has a last one. -/
theorem IsDigits.exists_last (h : IsDigits w) : ∃ v c, c.isDigit ∧ w = v ++ [c] := by
  obtain ⟨v, c, rfl⟩ := (List.eq_nil_or_concat w).resolve_left h.1
  rw [List.concat_eq_append] at h ⊢
  exact ⟨v, c, h.2 c (by simp), rfl⟩

theorem IsDigits.isFinished (h : IsDigits w) : IsFinished w := by
  obtain ⟨v, c, hc, rfl⟩ := h.exists_last
  exact .digit v hc

theorem IsMantissa.isFinished (h : IsMantissa w digits fraction) : IsFinished w := by
  cases h with
  | whole h => exact h.isFinished
  | point h hfraction =>
    rcases eq_or_ne fraction [] with rfl | hne
    · obtain ⟨v, c, hc, rfl⟩ := h.exists_last
      rw [List.append_assoc]
      exact .point v hc
    · rw [List.append_cons]
      exact IsFinished.append (IsDigits.isFinished ⟨hne, hfraction⟩) _
  | fraction h => exact h.isFinished.append ['.']

/-- **A numeral does not end** in a sign, in the mark of an exponent, or in a point without a
digit. -/
theorem Writes.isFinished (h : Writes w n) : IsFinished w := by
  cases h with
  | @infinity sign _ hsign => exact IsFinished.append (.infinity "Infinit".toList) sign
  | @decimal sign mantissa _ _ _ _ _ hsign hmantissa hexponent =>
    refine IsFinished.append ?_ sign
    cases hexponent with
    | absent =>
      rw [List.append_nil]
      exact hmantissa.isFinished
    | @written e mark _ _ he hmark h =>
      exact (h.isFinished.append (e :: mark)).append mantissa

/-! ## The number in front of a text -/

theorem leadingNumber?_eq (t : Text) :
    leadingNumber? t = (scan? (Text.trimStart t)).map fun p => p.1.value := rfl

/-- The text that is read is read alike without what is behind it. -/
theorem leadingNumber?_of_isLongest (h : IsLongest w (Text.trimStart t) n) :
    leadingNumber? w = some n.value ∧ leadingNumber? t = some n.value := by
  obtain ⟨r, hr⟩ := h.front
  have hblank : StopsRun Text.isBlank (w ++ r) := by
    rw [hr]
    exact Text.stopsRun_dropWhile Text.isBlank t
  have htrim : Text.trimStart w = w := hblank.of_append.dropWhile
  rw [leadingNumber?_eq, leadingNumber?_eq, htrim, scan?_of_writes h.writes,
    scan?_eq_some_iff.mpr ⟨w, h, hr⟩]
  exact ⟨rfl, rfl⟩

/-- **The number in front of a text is that of the longest numeral** behind its first blanks. There
is none exactly if no numeral stands there; what is behind the numeral does not matter; and the
numeral ends in nothing that is not finished. -/
theorem leadingNumber?_longest (t : Text) :
    (leadingNumber? t = none ↔ ∀ w n, w <+: Text.trimStart t → ¬Writes w n) ∧
    (∀ x, leadingNumber? t = some x ↔ ∃ w n, IsLongest w (Text.trimStart t) n ∧ n.value = x) ∧
    ∀ w n, IsLongest w (Text.trimStart t) n →
      leadingNumber? t = leadingNumber? w ∧ IsFinished w := by
  refine ⟨?_, ?_, ?_⟩
  · rw [leadingNumber?_eq, Option.map_eq_none_iff, scan?_eq_none_iff]
  · intro x
    constructor
    · intro h
      rw [leadingNumber?_eq] at h
      obtain ⟨⟨n, r⟩, hscan, rfl⟩ := Option.map_eq_some_iff.mp h
      obtain ⟨w, hlongest, -⟩ := scan?_eq_some_iff.mp hscan
      exact ⟨w, n, hlongest, rfl⟩
    · rintro ⟨w, n, hlongest, rfl⟩
      exact (leadingNumber?_of_isLongest hlongest).2
  · intro w n hlongest
    obtain ⟨hw, ht⟩ := leadingNumber?_of_isLongest hlongest
    exact ⟨ht.trans hw.symm, hlongest.writes.isFinished⟩

/-- The exponent has no digits, and a second point starts no numeral. -/
theorem leadingNumber?_longest_unfinished :
    IsLongest "-.5".toList (Text.trimStart " -.5e+.5".toList) (.decimal true ['5'] (-1)) ∧
      leadingNumber? " -.5e+.5".toList = leadingNumber? "-.5".toList := by
  have hscan : scan? (Text.trimStart " -.5e+.5".toList) =
      some (.decimal true ['5'] (-1), "e+.5".toList) := by rfl
  obtain ⟨w, hlongest, hw⟩ := scan?_eq_some_iff.mp hscan
  have hw : w ++ "e+.5".toList = "-.5".toList ++ "e+.5".toList := hw
  obtain rfl := List.append_cancel_right hw
  exact ⟨hlongest, ((leadingNumber?_longest _).2.2 _ _ hlongest).1⟩

end VoxelScore.Numeral
