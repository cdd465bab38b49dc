import Mathlib.Data.List.DropRight
import VoxelScore.Link.Url
import VoxelScore.Proofs.Link.Percent
import VoxelScore.Proofs.Text.Words

/-!
# Links to the root of a site

Where a link names a site and goes on with a query or a fragment at once, it is read as that query
or fragment. Characters that a link has no reason to escape stay as they are.

## Main definitions

* `IsSite`: the scheme and the authority of a web link, up to the slash that starts its path
* `shareSite`, `localSite`: the sites of share links and of a local player

## Main results

* `IsSite.parse?_fragment`: a site with a fragment
* `IsSite.parse?_query`: a site with a query
* `pairs_single`: a query of one pair
* `formDecode_escapeAll`: a value with all of its bytes escaped
-/

namespace VoxelScore.Url

variable {site t f q : Text}

/-! ## Cleaning -/

/-- Visible characters are neither dropped at the ends of a link nor within it. -/
theorem clean_of_visible (h : Text.IsVisible t) : clean t = t := by
  -- a break is an edge character too, so that one bound does for both
  have hedge : ∀ c ∈ t, ¬ isEdge c := by
    intro c hc
    have hv := h c hc
    simp only [isEdge, decide_eq_true_eq]
    omega
  have hfront : t.dropWhile isEdge = t := by
    rw [List.dropWhile_eq_self_iff]
    exact fun _ => hedge _ (List.getElem_mem _)
  have hback : Text.dropEndWhile isEdge t = t := by
    refine List.rdropWhile_eq_self_iff.mpr ?_
    exact fun _ => hedge _ (List.getLast_mem _)
  rw [clean, hfront, hback, List.filter_eq_self]
  intro c hc
  have hv := h c hc
  simp only [isBreak, Bool.not_eq_true', Bool.or_eq_false_iff, decide_eq_false_iff_not]
  refine ⟨⟨?_, ?_⟩, ?_⟩
  all_goals
    rintro rfl
    exact absurd hv.1 (by decide)

/-! ## Sites -/

/-- **The start of a web link**: a scheme, an authority, each well formed and visible, and the slash
that starts the path. -/
inductive IsSite : Text → Prop
  | mk {scheme authority : Text} (visible : Text.IsVisible (scheme ++ authority))
      (letter : scheme.head?.any Char.isAlpha)
      (chars : ∀ c ∈ scheme, isSchemeChar c)
      (web : SchemeKind.ofName (Text.lower scheme) = .web)
      (within : ∀ c ∈ authority, !endsAuthority .web c)
      (sound : isAuthority .web authority) :
      IsSite (scheme ++ ':' :: '/' :: '/' :: (authority ++ ['/']))

theorem IsSite.isVisible (h : IsSite site) : Text.IsVisible site := by
  obtain @⟨scheme, authority, visible⟩ := h
  have hscheme : Text.IsVisible scheme := fun c hc => visible c (List.mem_append_left _ hc)
  have hauthority : Text.IsVisible authority := fun c hc => visible c (List.mem_append_right _ hc)
  have hroot : Text.IsVisible ['/'] := by decide
  have hmarks : Text.IsVisible [':', '/', '/'] := by decide
  exact hscheme.append (hmarks.append (hauthority.append hroot))

theorem splitScheme?_append {scheme r : Text} (letter : scheme.head?.any Char.isAlpha)
    (chars : ∀ c ∈ scheme, isSchemeChar c) :
    splitScheme? (scheme ++ ':' :: r) = some (.ofName (Text.lower scheme), r) := by
  have hstop : Text.StopsRun isSchemeChar (':' :: r) := Text.stopsRun_cons (by decide)
  unfold splitScheme?
  rw [Text.takeWhile_run_append chars hstop, Text.dropWhile_run_append chars hstop]
  cases scheme with
  | nil => cases letter
  | cons first scheme => exact if_pos letter

theorem not_slash_of_within {c : Char} (h : !endsAuthority .web c) :
    isSlash c = false ∧ c ≠ '?' ∧ c ≠ '#' := by
  simp only [endsAuthority, SchemeKind.isSpecial, Bool.not_eq_true', Bool.or_eq_false_iff,
    decide_eq_false_iff_not] at h
  obtain ⟨⟨⟨hslash, hquery⟩, hfragment⟩, hback⟩ := h
  refine ⟨?_, hquery, hfragment⟩
  simpa [isSlash, hslash] using hback

theorem hasAuthority_web {authority r : Text} (within : ∀ c ∈ authority, !endsAuthority .web c)
    (sound : isAuthority .web authority) :
    hasAuthority .web ('/' :: '/' :: (authority ++ '/' :: r)) = true := by
  have hne : authority ≠ [] := by
    rintro rfl
    exact absurd sound (by decide)
  have hstart : ('/' :: '/' :: (authority ++ '/' :: r)).dropWhile isSlash = authority ++ '/' :: r := by
    -- the slashes end where the authority starts
    rw [List.dropWhile_cons_of_pos (by decide), List.dropWhile_cons_of_pos (by decide)]
    obtain ⟨c, w, rfl⟩ := List.exists_cons_of_ne_nil hne
    rw [List.cons_append, List.dropWhile_cons_of_neg]
    rw [(not_slash_of_within (within c List.mem_cons_self)).1]
    exact Bool.false_ne_true
  have hend : (authority ++ '/' :: r).takeWhile (!endsAuthority .web ·) = authority :=
    Text.takeWhile_run_append within (Text.stopsRun_cons (by decide))
  rw [hasAuthority, hstart, hend]
  exact sound

/-- What stands in front of the first question mark or hash is skipped. -/
theorem ofRest_append {path : Text} (h : ∀ c ∈ path, c ≠ '?' ∧ c ≠ '#') (special : Bool)
    (r : Text) : ofRest special (path ++ r) = ofRest special r := by
  unfold ofRest
  rw [List.dropWhile_append_of_pos]
  intro c hc
  simp [h c hc]

/-- A link to the root of a site is read as what stands behind the root. -/
theorem IsSite.parse?_append (h : IsSite site) {r : Text} (hv : Text.IsVisible (site ++ r)) :
    parse? (site ++ r) = some (ofRest true r) := by
  obtain @⟨scheme, authority, -, letter, chars, web, within, sound⟩ := h
  -- neither authority nor root holds a mark that starts a query or a fragment
  have hpath : ∀ c ∈ '/' :: '/' :: (authority ++ ['/']), c ≠ '?' ∧ c ≠ '#' := by
    intro c hc
    simp only [List.mem_cons, List.mem_append, List.not_mem_nil, or_false] at hc
    rcases hc with rfl | rfl | hc | rfl
    · decide
    · decide
    · exact (not_slash_of_within (within c hc)).2
    · decide
  have hrest := ofRest_append hpath true r
  rw [parse?, clean_of_visible hv]
  simp only [List.append_assoc, List.cons_append, List.nil_append] at hrest ⊢
  rw [splitScheme?_append letter chars, web]
  simp only [Option.bind_some, bind, hasAuthority_web within sound, if_true]
  exact congrArg some hrest

/-! ## Fragments and queries -/

theorem isVisible_of_fragmentKeeps (h : ∀ c ∈ f, fragmentKeeps c) : Text.IsVisible f := by
  intro c hc
  have hk := h c hc
  simp only [fragmentKeeps, Bool.and_eq_true, decide_eq_true_eq] at hk
  exact hk.1

theorem isVisible_of_queryKeeps {special : Bool} (h : ∀ c ∈ q, queryKeeps special c) :
    Text.IsVisible q := by
  intro c hc
  have hk := h c hc
  simp only [queryKeeps, Bool.and_eq_true, decide_eq_true_eq] at hk
  exact hk.1.1

theorem IsSite.isVisible_fragment (h : IsSite site) (hf : ∀ c ∈ f, fragmentKeeps c) :
    Text.IsVisible (site ++ '#' :: f) := by
  have hmark : Text.IsVisible ['#'] := by decide
  exact h.isVisible.append (hmark.append (isVisible_of_fragmentKeeps hf))

theorem IsSite.isVisible_query (h : IsSite site) (hq : ∀ c ∈ q, queryKeeps true c) :
    Text.IsVisible (site ++ '?' :: q) := by
  have hmark : Text.IsVisible ['?'] := by decide
  exact h.isVisible.append (hmark.append (isVisible_of_queryKeeps hq))

/-- **A site with a fragment** of characters that fragments keep. -/
theorem IsSite.parse?_fragment (h : IsSite site) (hf : ∀ c ∈ f, fragmentKeeps c) :
    parse? (site ++ '#' :: f) = some ⟨none, some f⟩ := by
  have hrest : ofRest true ('#' :: f) = ⟨none, some (Percent.escape fragmentKeeps f)⟩ := rfl
  rw [h.parse?_append (h.isVisible_fragment hf), hrest, Percent.escape_of_kept hf]

/-- **A site with a query** of characters that queries keep. -/
theorem IsSite.parse?_query (h : IsSite site) (hq : ∀ c ∈ q, queryKeeps true c) :
    parse? (site ++ '?' :: q) = some ⟨some q, none⟩ := by
  have hhash : ∀ c ∈ q, decide (c ≠ '#') = true := by
    intro c hc
    have hk := hq c hc
    rw [decide_eq_true_eq]
    rintro rfl
    exact absurd hk (by decide)
  have hrest : ofRest true ('?' :: q) = ⟨some q, none⟩ := by
    unfold ofRest
    rw [List.dropWhile_cons_of_neg (by decide)]
    simp only [List.takeWhile_eq_self_iff.mpr hhash, List.dropWhile_eq_nil_iff.mpr hhash,
      Percent.escape_of_kept hq]
  rw [h.parse?_append (h.isVisible_query hq), hrest]

/-! ## Parameters -/

/-- **A query of one pair.** -/
theorem pairs_single {name value : Text} (hn : '=' ∉ name) (hamp : '&' ∉ name ++ '=' :: value) :
    pairs (name ++ '=' :: value) = [(formDecode name, formDecode value)] := by
  have hpieces : (name ++ '=' :: value).splitOnP (· = '&') = [name ++ '=' :: value] := by
    refine List.splitOnP_eq_singleton fun c hc => ?_
    rw [decide_eq_false_iff_not]
    rintro rfl
    exact hamp hc
  have hne : (name ++ '=' :: value).isEmpty = false := by simp
  rw [pairs, hpieces, List.filter_cons_of_pos (by rw [hne]; rfl), List.filter_nil, List.map_singleton,
    Text.splitOnce?_append hn]
  rfl

/-- **A text with all of its bytes escaped** is read as the text. -/
theorem formDecode_escapeAll (t : Text) : formDecode (Percent.escapeAll t) = t := by
  have hplus : ∀ c ∈ Percent.escapeAll t, (if c = '+' then ' ' else c) = c := by
    intro c hc
    refine if_neg ?_
    rintro rfl
    exact absurd (Percent.mem_escapeAlphabet_of_escapeAll hc) (by decide)
  rw [formDecode, List.map_congr_left hplus, List.map_id', Percent.decode_escapeAll,
    Utf8.decodeLossy_encode]

/-! ## Two sites -/

/-- The site of the editor that makes share links. -/
def shareSite : Text := "https://strudel.cc/".toList

/-- The site of a player on the same machine. -/
def localSite : Text := "http://localhost:5173/".toList

theorem isSite_shareSite : IsSite shareSite :=
  @IsSite.mk "https".toList "strudel.cc".toList (by decide) (by decide)
    (List.all_eq_true.mp (by decide)) (by decide) (List.all_eq_true.mp (by decide))
    (by decide +kernel)

theorem isSite_localSite : IsSite localSite :=
  @IsSite.mk "http".toList "localhost:5173".toList (by decide) (by decide)
    (List.all_eq_true.mp (by decide)) (by decide) (List.all_eq_true.mp (by decide))
    (by decide +kernel)

end VoxelScore.Url
