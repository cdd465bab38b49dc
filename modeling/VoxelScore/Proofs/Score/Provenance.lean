import VoxelScore.Proofs.Mini.Provenance
import VoxelScore.Proofs.Score.Fallback
import VoxelScore.Proofs.Score.Order
import VoxelScore.Proofs.Text.Trimming

/-!
# Where events are written

Every event of a score can be traced to the code: its label is a token of its block, letter by
letter, and so a piece of a word of the block's body. What it sounds like follows from the label and
the voice of the block alone. Tokens that are empty make no events, and neither do those that the
voice cannot read.

## Main definitions

* `Trigger.IsReadBy`: the triggers that a voice makes of their labels
* `Grid.withoutEmpty`: a grid without its empty tokens

## Main results

* `Voice.trigger?_eq_some_iff`: what a voice makes of a token
* `Grid.events_withoutEmpty`: empty tokens make no events
* `Score.events_written`: labels, instruments and pitches of all events of a score
-/

namespace VoxelScore

/-! ## What a token triggers -/

/-- The trigger is what the voice makes of its label: the sound of that name, the note of that name,
or the degree that the label starts with, which has to be finite. -/
def Trigger.IsReadBy (trigger : Trigger) (voice : Voice) : Prop :=
  match voice.kind with
  | .sound => trigger.instrument = trigger.label ∧ trigger.pitch = none
  | .note => trigger.instrument = "note".toList ∧
      ∃ n, Note.number? trigger.label = some n ∧ trigger.pitch = some (Float.ofInt n)
  | .degree => trigger.instrument = "n".toList ∧
      ∃ degree, leadingNumber? trigger.label = some degree ∧ degree.isFinite ∧
        trigger.pitch = some (voice.degreePitch degree)

namespace Voice

variable {voice : Voice} {trigger : Trigger} {token : Text} {degree : Float}

theorem degree?_eq_some_iff :
    degree? token = some degree ↔ leadingNumber? token = some degree ∧ degree.isFinite := by
  rw [degree?, Option.bind_eq_some_iff]
  constructor
  · rintro ⟨number, hnumber, hfinite⟩
    obtain ⟨finite, hdegree⟩ := Option.ite_none_right_eq_some.mp hfinite
    obtain rfl := Option.some.inj hdegree
    exact ⟨hnumber, finite⟩
  · rintro ⟨hnumber, hfinite⟩
    exact ⟨degree, hnumber, if_pos hfinite⟩

/-- **What a voice makes of a token** has the trimmed token, which is not empty, as its label. -/
theorem trigger?_eq_some_iff : voice.trigger? token = some trigger ↔
    trigger.label = Text.trim token ∧ trigger.label ≠ [] ∧ trigger.IsReadBy voice := by
  obtain ⟨instrument, pitch, label⟩ := trigger
  obtain ⟨kind, scale⟩ := voice
  rw [trigger?]
  by_cases hempty : Text.trim token = []
  · rw [if_pos (List.isEmpty_iff.mpr hempty)]
    constructor
    · intro h
      cases h
    · rintro ⟨hlabel, hne, -⟩
      exact absurd (hlabel.trans hempty) hne
  · rw [if_neg (List.isEmpty_iff.not.mpr hempty)]
    cases kind with
    | note =>
      constructor
      · intro h
        obtain ⟨n, hn, he⟩ := Option.map_eq_some_iff.mp h
        obtain ⟨rfl, rfl, rfl⟩ := Trigger.mk.inj he
        exact ⟨rfl, hempty, rfl, n, hn, rfl⟩
      · rintro ⟨rfl, -, rfl, n, hn, rfl⟩
        exact Option.map_eq_some_iff.mpr ⟨n, hn, rfl⟩
    | degree =>
      constructor
      · intro h
        obtain ⟨degree, hdegree, he⟩ := Option.map_eq_some_iff.mp h
        obtain ⟨rfl, rfl, rfl⟩ := Trigger.mk.inj he
        obtain ⟨hnumber, hfinite⟩ := degree?_eq_some_iff.mp hdegree
        exact ⟨rfl, hempty, rfl, degree, hnumber, hfinite, rfl⟩
      · rintro ⟨rfl, -, rfl, degree, hnumber, hfinite, rfl⟩
        exact Option.map_eq_some_iff.mpr ⟨degree, degree?_eq_some_iff.mpr ⟨hnumber, hfinite⟩, rfl⟩
    | sound =>
      constructor
      · intro h
        obtain ⟨rfl, rfl, rfl⟩ := Trigger.mk.inj (Option.some.inj h)
        exact ⟨rfl, hempty, rfl, rfl⟩
      · rintro ⟨hlabel, -, hinstrument, hpitch⟩
        obtain rfl : label = Text.trim token := hlabel
        obtain rfl : instrument = Text.trim token := hinstrument
        obtain rfl : pitch = none := hpitch
        rfl

theorem trigger?_nil : voice.trigger? [] = none := rfl

end Voice

/-! ## Empty tokens -/

namespace Grid

/-- The grid without the tokens that are empty. -/
def withoutEmpty (g : Grid) : Grid :=
  { g with steps := g.steps.map (·.filter (· ≠ [])) }

variable (g : Grid)

theorem size_steps_withoutEmpty : g.withoutEmpty.steps.size = g.steps.size := Array.size_map

theorem slotTriggers_withoutEmpty (slot : ℕ) :
    g.withoutEmpty.slotTriggers slot = g.slotTriggers slot := by
  have sounding : ∀ step : Mini.Step,
      (step.filter (· ≠ [])).filterMap g.voice.trigger? = step.filterMap g.voice.trigger? := by
    intro step
    rw [List.filterMap_filter]
    refine List.filterMap_congr fun token _ => ?_
    by_cases hempty : token = []
    · rw [hempty, Voice.trigger?_nil]
      rfl
    · rw [if_pos (decide_eq_true hempty)]
  have step : ∀ i : ℕ, g.withoutEmpty.steps[i]? = g.steps[i]?.map (·.filter (· ≠ [])) :=
    fun _ => Array.getElem?_map
  rw [slotTriggers, size_steps_withoutEmpty, step, slotTriggers]
  cases g.steps[slot % g.steps.size]? with
  | none => rfl
  | some step => exact sounding step

/-- **Empty tokens make no events.** -/
theorem events_withoutEmpty (cycles : ℕ) : g.withoutEmpty.events cycles = g.events cycles := by
  have slots : g.withoutEmpty.slots = g.slots := by
    rw [Grid.slots, size_steps_withoutEmpty]
    rfl
  have slot : ∀ c, g.withoutEmpty.slotEvents g.slots c = g.slotEvents g.slots c := by
    intro c
    funext slot
    rw [slotEvents, slotTriggers_withoutEmpty]
    rfl
  have cycle : g.withoutEmpty.cycleEvents = g.cycleEvents := by
    funext c
    rw [cycleEvents, slots, slot, cycleEvents]
  rcases Nat.eq_zero_or_pos g.steps.size with hnone | hsteps
  · rw [events_of_no_steps (g.size_steps_withoutEmpty.trans hnone), events_of_no_steps hnone]
  · rw [events_eq_flatMap (g.size_steps_withoutEmpty ▸ hsteps), events_eq_flatMap hsteps, cycle]

end Grid

/-! ## Events of a score -/

namespace Score

/-- **Where the events of a score are written.** The label of an event is a token of the block of its
lane, and so a piece of the normal form of the block's body that is not empty and has no blank, comma
or bracket; instrument and pitch are what the voice of the block makes of it. Trimming does not change
tokens, and the score has the same events without those that are empty. -/
theorem events_written (options : Options) (code : Text) :
    (∀ e ∈ (ofCode options code).events, ∃ part,
      (ofCode options code).parts[e.lane]? = some part ∧
        (Script.blocks code)[e.lane]? = some part.block ∧
        e.trigger.label ≠ [] ∧ Text.IsSolid e.trigger.label ∧
        (∀ c ∈ [',', '<', '>', '[', ']'], c ∉ e.trigger.label) ∧
        e.trigger.label <:+: Mini.normalize part.block.body ∧
        (∃ step ∈ part.steps, e.trigger.label ∈ step) ∧
        e.trigger.IsReadBy ⟨part.block.kind, part.scale⟩) ∧
      (∀ part ∈ (ofCode options code).parts, ∀ step ∈ part.steps, ∀ token ∈ step,
        Text.trim token = token) ∧
      (ofCode options code).events =
        (ofCode options code).parts.flatMap (·.grid.withoutEmpty.events options.cycles) := by
  have trimmed : ∀ part ∈ (ofCode options code).parts, ∀ step ∈ part.steps, ∀ token ∈ step,
      Text.trim token = token := by
    intro part hpart step hstep token htoken
    obtain ⟨k, hk⟩ := List.mem_iff_getElem?.mp hpart
    obtain ⟨block, -, rfl⟩ := exists_block_of_getElem? hk
    exact Text.trim_of_solid (Mini.token_written hstep htoken).2.1
  refine ⟨?_, trimmed, ?_⟩
  · intro e he
    obtain ⟨part, hpart, -, slot, hplays⟩ := exists_part_of_mem he
    obtain ⟨step, hslot, token, htoken, htrigger⟩ := hplays.source
    have hstep : step ∈ part.steps := List.mem_toArray.mp (Array.mem_of_getElem? hslot)
    obtain ⟨hlabel, hne, hread⟩ := Voice.trigger?_eq_some_iff.mp htrigger
    -- The voice has trimmed the token in vain.
    rw [trimmed part (List.mem_of_getElem? hpart) step hstep token htoken] at hlabel
    rw [hlabel] at hne ⊢
    obtain ⟨block, hblock, rfl⟩ := exists_block_of_getElem? hpart
    obtain ⟨piece, solid, plain⟩ := Mini.token_written hstep htoken
    exact ⟨_, hpart, hblock, hne, solid, plain, piece, ⟨step, hstep, htoken⟩, hread⟩
  · simp only [Grid.events_withoutEmpty]
    rfl

/-- One step with the empty tokens of two suffixes, a name that is no note, and a note. -/
theorem events_written_suffixes :
    ∃ e ∈ (ofCode ⟨1, Modes.builtin⟩ "$: note('[*3 xyz,<e4>!2]')".toList).events,
      e.trigger.label = "e4".toList ∧
        (Script.blocks "$: note('[*3 xyz,<e4>!2]')".toList)[e.lane]? =
          some ⟨.note, "[*3 xyz,<e4>!2]".toList, []⟩ ∧
        "e4".toList <:+: Mini.normalize "[*3 xyz,<e4>!2]".toList ∧
        e.trigger.instrument = "note".toList ∧
        ∃ n, Note.number? "e4".toList = some n ∧ e.trigger.pitch = some (Float.ofInt n) := by
  have hblocks : Script.blocks "$: note('[*3 xyz,<e4>!2]')".toList =
      [⟨.note, "[*3 xyz,<e4>!2]".toList, []⟩] := by decide +kernel
  have hsteps : Mini.steps "[*3 xyz,<e4>!2]".toList =
      [[[], [], [], "xyz".toList, "e4".toList, [], []]] := by decide +kernel
  let e : Event := .ofTrigger 0 (.ofSlot 0 1) (.slotWidth 1) 0
    (.pitched "note".toList (Float.ofInt 64) "e4".toList)
  have he : e ∈ (ofCode ⟨1, Modes.builtin⟩ "$: note('[*3 xyz,<e4>!2]')".toList).events := by
    have hrate : (Modifiers.ofText Modes.builtin []).rate = 1.0 := by decide +kernel
    have hscale : ∀ call ∈ Script.Call.ofText [], Text.lower call.name ≠ "scale".toList := by
      decide +kernel
    have hgrid := Part.grid_ofBlock_plain Modes.builtin .note "[*3 xyz,<e4>!2]".toList 0 hrate hscale
    rw [ofCode, (events_of_blocks_eq_singleton _ hblocks).2, hgrid, hsteps]
    exact List.mem_singleton.mpr rfl
  obtain ⟨part, -, hblock, -, -, -, hpiece, -, hread⟩ :=
    (events_written ⟨1, Modes.builtin⟩ "$: note('[*3 xyz,<e4>!2]')".toList).1 e he
  have hpart : part.block = ⟨.note, "[*3 xyz,<e4>!2]".toList, []⟩ := by
    rw [hblocks] at hblock
    exact (Option.some.inj hblock).symm
  rw [hpart] at hblock hpiece hread
  exact ⟨e, he, rfl, hblock, hpiece, hread⟩

end Score

end VoxelScore
