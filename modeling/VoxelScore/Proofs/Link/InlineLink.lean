import VoxelScore.Proofs.Link.Escapes
import VoxelScore.Proofs.Link.Source

/-!
# Links with inline code

A `code` parameter carries code with its bytes escaped. The escapes are resolved when the query is
taken apart, and once more when the parameter is taken for code: an escape that the code itself
holds is resolved as well, unless that leaves no UTF-8.

## Main definitions

* `inlineLink`: a link to a local page with code in its query

## Main results

* `ofLink?_inlineLink`: what the code comes to, and when it is the code
-/

namespace VoxelScore

namespace Source

/-- A link to a local page with this code as its parameter, all of its bytes escaped. -/
def inlineLink (code : Text) : Text :=
  Url.localSite ++ '?' :: ("code".toList ++ '=' :: Percent.escapeAll code)

theorem queryKeeps_escapeAll (code : Text) :
    ∀ c ∈ "code".toList ++ '=' :: Percent.escapeAll code, Url.queryKeeps true c := by
  have hname : "code=".toList.all (Url.queryKeeps true) := by decide
  have hescape : Percent.escapeAlphabet.all (Url.queryKeeps true) := by decide
  intro c hc
  rw [List.append_cons] at hc
  rcases List.mem_append.mp hc with hc | hc
  · exact List.all_eq_true.mp hname c hc
  · exact List.all_eq_true.mp hescape c (Percent.mem_escapeAlphabet_of_escapeAll hc)

theorem parameters_escapeAll (code : Text) :
    Url.parameters ⟨some ("code".toList ++ '=' :: Percent.escapeAll code), none⟩ =
      [("code".toList, code)] := by
  have hname : '=' ∉ "code".toList := by decide
  have hamp : '&' ∉ "code".toList ++ '=' :: Percent.escapeAll code := by
    rw [List.append_cons, List.mem_append, not_or]
    refine ⟨by decide, fun hm => ?_⟩
    exact absurd (Percent.mem_escapeAlphabet_of_escapeAll hm) (by decide)
  have hdecode : Url.formDecode "code".toList = "code".toList := by decide
  show Url.pairs _ = _
  rw [Url.pairs_single hname hamp, hdecode, Url.formDecode_escapeAll]

/-- The code is recovered, and then read once more as a text with escapes. -/
theorem ofLink?_eq_ofParameter (code : Text) :
    ofLink? (inlineLink code) = some (ofParameter code) := by
  have hkeeps := queryKeeps_escapeAll code
  have hsolid := (Url.isSite_localSite.isVisible_query hkeeps).isSolid
  have hparse := Url.isSite_localSite.parse?_query hkeeps
  have hfind : (Url.parameters ⟨some ("code".toList ++ '=' :: Percent.escapeAll code), none⟩).find?
      (·.1 = "code".toList) = some ("code".toList, code) := by
    rw [parameters_escapeAll]
    exact List.find?_cons_of_pos (decide_eq_true rfl)
  exact ofLink?_of_parameter hsolid hparse hfind

/-- **Inline code is recovered unless it holds an escape.** The link refers to code, and that is the
trimmed code which was written exactly if the code has no complete escape, or if resolving its
escapes would not leave UTF-8. Then it has the parts and the events of the code. -/
theorem ofLink?_inlineLink (code : Text) :
    ∃ payload, ofLink? (inlineLink code) = some (.code payload) ∧
      (payload = Text.trim code ↔
        ¬ Percent.HasEscape code ∨ ∃ fault, Percent.decodeText code = .error fault) ∧
      (payload = Text.trim code → ∀ options,
        (Score.ofSource options (some (.code payload))).parts =
          (Score.ofCode options code).parts ∧
        (Score.ofSource options (some (.code payload))).events =
          (Score.ofCode options code).events) := by
  have hscore : ∀ payload, payload = Text.trim code → ∀ options,
      (Score.ofSource options (some (.code payload))).parts = (Score.ofCode options code).parts ∧
      (Score.ofSource options (some (.code payload))).events =
        (Score.ofCode options code).events := by
    rintro payload rfl options
    exact Score.ofResolved_trim options code _
  rw [ofLink?_eq_ofParameter]
  unfold ofParameter
  cases hdecode : Percent.decodeText code with
  | ok text =>
    refine ⟨Text.trim text, rfl, ?_, hscore _⟩
    rw [Percent.trim_eq_trim_iff hdecode]
    simp
  | error fault => exact ⟨Text.trim code, rfl, iff_of_true rfl (.inr ⟨fault, rfl⟩), hscore _⟩

/-- An escape within the code is resolved like those that the link adds. -/
theorem ofLink?_inlineLink_escape :
    ofLink? (inlineLink "s(\"a%20b\")".toList) = some (.code "s(\"a b\")".toList) ∧
      ofLink? (inlineLink "s(\"a%20b\")".toList) ≠
        some (.code (Text.trim "s(\"a%20b\")".toList)) := by
  rw [ofLink?_eq_ofParameter]
  decide +kernel

end Source

end VoxelScore
