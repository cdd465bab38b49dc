import VoxelScore.Proofs.Link.Url
import VoxelScore.Proofs.Script.Margins
import VoxelScore.Proofs.Text.Trimming
import VoxelScore.Score

/-!
# References in links

What a link refers to depends on its query and fragment alone. Code that has been trimmed on the way
is played like the code itself.

## Main results

* `Source.ofLink?_of_fragment`, `Source.ofLink?_of_parameter`: what a parsed link refers to
* `Source.nested?_of_parse`: a link within a link
* `Score.ofResolved_trim`: trimming does not change parts and events
-/

namespace VoxelScore

variable {location f q p name value : Text}

namespace Source

/-! ## Links -/

/-- A link without a query refers to what its fragment does. -/
theorem ofLink?_of_fragment (hs : Text.IsSolid location)
    (hl : Url.parse? location = some ⟨none, some f⟩) (hf : f ≠ []) :
    ofLink? location = some ((nested? f).getD (.hash f none)) := by
  unfold ofLink?
  rw [Text.trim_of_solid hs, hl]
  simp [Url.parameters, hf]

/-- A `code` parameter is the code, whatever else the link has. -/
theorem ofLink?_of_parameter {link : Url} (hs : Text.IsSolid location)
    (hl : Url.parse? location = some link)
    (hp : link.parameters.find? (·.1 = "code".toList) = some (name, value)) :
    ofLink? location = some (ofParameter value) := by
  unfold ofLink?
  rw [Text.trim_of_solid hs, hl]
  simp only [Option.bind_eq_bind, Option.bind_some, hp]
  rfl

theorem nested?_of_not_looks (h : looksNested f = false) : nested? f = none := by
  unfold nested?
  simp [h]

/-- A link with a fragment, found as the fragment of another one, carries a payload. -/
theorem nested?_of_parse (h : looksNested f) (hl : Url.parse? f = some ⟨none, some p⟩)
    (hp : p ≠ []) : nested? f = some (.hash p (some f)) := by
  unfold nested?
  simp [h, hl, hp]

/-- What looks like a link has a colon among its first characters. -/
theorem looksNested_eq_false (h : ∀ c ∈ f, c.toLower ≠ ':') : looksNested f = false := by
  have hcolon : ':' ∉ Text.lower (f.take 8) := by
    intro hm
    obtain ⟨c, hc, he⟩ := List.mem_map.mp hm
    exact h c (List.mem_of_mem_take hc) he
  have hstart : ∀ start : Text, ':' ∈ start → start.isPrefixOf (Text.lower (f.take 8)) = false := by
    intro start hm
    rw [Bool.eq_false_iff, ne_eq, List.isPrefixOf_iff_prefix]
    exact fun hp => hcolon (hp.subset hm)
  unfold looksNested
  simp only [hstart _ (show ':' ∈ "http://".toList by decide),
    hstart _ (show ':' ∈ "https://".toList by decide), Bool.or_self, Bool.and_false]

end Source

/-! ## Playing -/

/-- **Trimmed code is played like the code**: it has the same parts and events. -/
theorem Score.ofResolved_trim (options : Options) (code : Text) (description : String) :
    (ofResolved options ⟨Text.trim code, description⟩).parts = (ofCode options code).parts ∧
      (ofResolved options ⟨Text.trim code, description⟩).events =
        (ofCode options code).events := by
  have hparts : partsOf options.modes (Text.trim code) = partsOf options.modes code := by
    unfold partsOf
    rw [Script.blocks_trim]
  exact ⟨hparts, congrArg (eventsOf options.cycles) hparts⟩

end VoxelScore
