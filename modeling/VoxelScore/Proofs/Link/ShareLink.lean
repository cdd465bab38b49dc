import VoxelScore.Proofs.Link.Payload
import VoxelScore.Proofs.Link.Source

/-!
# Share links

A share link has a payload as its fragment. The link itself may be pasted behind the hash of another
page, where it is found again. Either way it refers to the payload, and the payload is played like
the code that it was written for.

## Main definitions

* `shareLink`, `pastedLink`: a share link, and one that stands in the fragment of a local page

## Main results

* `ofLink?_shareLink`, `ofLink?_pastedLink`: the payload of a share link, alone and pasted
* `Score.ofSource_shareLink`: share links compile to what their code compiles to
-/

namespace VoxelScore

variable {code p : Text}

/-! ## Payloads in fragments -/

namespace Payload

/-- No character of a payload is escaped in a fragment. -/
theorem Writes.fragmentKeeps (h : Writes code p) : ∀ c ∈ p, Url.fragmentKeeps c :=
  fun _ hc => payloadAlphabet_all (by decide) h hc

/-- A payload is not taken for a link. -/
theorem Writes.looksNested (h : Writes code p) : Source.looksNested p = false := by
  refine Source.looksNested_eq_false fun c hc => ?_
  simpa using payloadAlphabet_all (q := fun c => c.toLower ≠ ':') (by decide) h hc

/-- Code that is not blank has symbols. -/
theorem Writes.ne_nil (h : Writes code p) (hc : ¬ Text.IsBlankText code) : p ≠ [] := by
  rintro rfl
  have hempty : decode [] = .error .empty := rfl
  rw [decode_of_writes h hc] at hempty
  cases hempty

end Payload

namespace Source

/-! ## Links -/

/-- A share link with this payload. -/
def shareLink (p : Text) : Text := Url.shareSite ++ '#' :: p

/-- A link to a local page with a share link in its fragment. -/
def pastedLink (p : Text) : Text := Url.localSite ++ '#' :: shareLink p

theorem fragmentKeeps_shareLink (h : Payload.Writes code p) :
    ∀ c ∈ shareLink p, Url.fragmentKeeps c := by
  have hsite : Url.shareSite.all Url.fragmentKeeps := by decide
  intro c hc
  rcases List.mem_append.mp hc with hc | hc
  · exact List.all_eq_true.mp hsite c hc
  · rcases List.mem_cons.mp hc with rfl | hc
    · decide
    · exact h.fragmentKeeps c hc

/-- **A share link refers to its payload.** -/
theorem ofLink?_shareLink (h : Payload.Writes code p) (hc : ¬ Text.IsBlankText code) :
    ofLink? (shareLink p) = some (.hash p none) := by
  have hsolid := (Url.isSite_shareSite.isVisible_fragment h.fragmentKeeps).isSolid
  have hparse := Url.isSite_shareSite.parse?_fragment h.fragmentKeeps
  have hlink := ofLink?_of_fragment hsolid hparse (h.ne_nil hc)
  rw [nested?_of_not_looks h.looksNested] at hlink
  exact hlink

/-- **A pasted share link refers to its payload** too, and is kept beside it. -/
theorem ofLink?_pastedLink (h : Payload.Writes code p) (hc : ¬ Text.IsBlankText code) :
    ofLink? (pastedLink p) = some (.hash p (some (shareLink p))) := by
  have hkeeps := fragmentKeeps_shareLink h
  have hsolid := (Url.isSite_localSite.isVisible_fragment hkeeps).isSolid
  have hparse := Url.isSite_localSite.parse?_fragment hkeeps
  have hlink := ofLink?_of_fragment hsolid hparse (by simp [shareLink])
  have hlooks : looksNested (shareLink p) := rfl
  have hinner := Url.isSite_shareSite.parse?_fragment h.fragmentKeeps
  rw [nested?_of_parse hlooks hinner (h.ne_nil hc)] at hlink
  exact hlink

end Source

/-! ## Scores -/

/-- **A share link compiles to what its code compiles to.** A share link for code that is not blank
refers to its payload, and so does such a link in the fragment of a local page. Either reference
has the parts and the events of the code, although the code is trimmed when it is decoded. -/
theorem Score.ofSource_shareLink (h : Payload.Writes code p) (hc : ¬ Text.IsBlankText code) :
    Source.ofLink? (Source.shareLink p) = some (.hash p none) ∧
    Source.ofLink? (Source.pastedLink p) = some (.hash p (some (Source.shareLink p))) ∧
    ∀ options link,
      (ofSource options (some (.hash p link))).parts = (ofCode options code).parts ∧
      (ofSource options (some (.hash p link))).events = (ofCode options code).events := by
  refine ⟨Source.ofLink?_shareLink h hc, Source.ofLink?_pastedLink h hc, ?_⟩
  intro options link
  have hresolve : Source.resolve (some (.hash p link)) =
      ⟨Text.trim code, Source.describe "hash" (Text.trim code)⟩ := by
    rw [Source.resolve, Payload.decode_of_writes h hc]
  rw [ofSource, hresolve]
  exact ofResolved_trim options code _

/-- Indented code with a line break behind it, its padding escaped in part. -/
theorem Score.ofSource_shareLink_padded :
    Payload.Writes "  $: s(\"é\")\n".toList "ICAkOiBzKCLDqSIpCg=%3D".toList ∧
    ¬ Text.IsBlankText "  $: s(\"é\")\n".toList ∧
    Source.ofLink? "http://localhost:5173/#https://strudel.cc/#ICAkOiBzKCLDqSIpCg=%3D".toList =
      some (.hash "ICAkOiBzKCLDqSIpCg=%3D".toList
        (some "https://strudel.cc/#ICAkOiBzKCLDqSIpCg=%3D".toList)) ∧
    (ofSource .default (some (.hash "ICAkOiBzKCLDqSIpCg=%3D".toList none))).events =
      (ofCode .default "  $: s(\"é\")\n".toList).events := by
  have hwrites : Payload.Writes "  $: s(\"é\")\n".toList "ICAkOiBzKCLDqSIpCg=%3D".toList :=
    .mk (.inr rfl) (.raw (.escaped .nil))
  have hblank : ¬ Text.IsBlankText "  $: s(\"é\")\n".toList := by decide
  obtain ⟨-, hpasted, hscore⟩ := ofSource_shareLink hwrites hblank
  exact ⟨hwrites, hblank, hpasted, (hscore .default none).2⟩

end VoxelScore
