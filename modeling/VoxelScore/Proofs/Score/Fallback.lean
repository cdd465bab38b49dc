import Mathlib.Data.List.Flatten
import VoxelScore.Proofs.Score.Cycles
import VoxelScore.Proofs.Score.Joining
import VoxelScore.Proofs.Script.FirstCall

/-!
# What is played when there is nothing to play

A reference that cannot be resolved is replaced by the default code, and a text without a block by
the default block. These are two programs: the first is a statement with a modifier, the second has
no modifier and is no text at all. They are laid out on the same grid, the *stand-in*, which neither
the reference nor the text nor the scales have a part in.

## Main definitions

* `Source.Unresolved`: references without code
* `Script.HasNoBlock`: texts of which no block can be made
* `Grid.standIn`: the grid that both fallbacks are laid out on
* `Score.Playable`: a score with blocks, none of them empty, that says how many

## Main results

* `Part.grid_ofBlock_standIn`: a block with the default body, no scale and rate one
* `Score.ofResolved_playable`: every score is playable
* `Score.fallbacks_play_standIn`: what is played without code, and without a block
-/

namespace VoxelScore

/-! ## References without code -/

namespace Source

variable {source : Option Source}

/-- A reference that cannot be resolved: none at all, a name that only a server knows, or a payload
that does not decode. -/
inductive Unresolved : Option Source → Prop
  | missing : Unresolved none
  | shareId (id : Text) : Unresolved (some (.shareId id))
  | undecodable {payload : Text} {link : Option Text} {e : Payload.Error}
      (fails : Payload.decode payload = .error e) : Unresolved (some (.hash payload link))

/-- The reference has a part in the description only. -/
theorem Unresolved.code_resolve (h : Unresolved source) : (resolve source).code = defaultCode := by
  cases h with
  | missing => rfl
  | shareId id => rfl
  | undecodable fails => simp only [resolve, fails]

end Source

/-! ## Texts without a block -/

namespace Script

variable {t : Text} {b : Block}

/-- Neither a statement of the text nor the trimmed text as a whole yields a block. -/
structure HasNoBlock (t : Text) : Prop where
  statements : ∀ s ∈ statements t, Block.ofStatement? s = none
  whole : Block.ofStatement? (Text.trim t) = none

theorem HasNoBlock.blocks (h : HasNoBlock t) : blocks t = [.default] := by
  have hnone : statementBlocks t = [] := List.filterMap_eq_nil_iff.mpr h.statements
  unfold Script.blocks
  rw [hnone, h.whole]
  rfl

theorem blocks_ne_nil (t : Text) : blocks t ≠ [] := by
  by_cases h : statementBlocks t = []
  · unfold blocks
    rw [h]
    exact List.cons_ne_nil _ _
  · rwa [blocks_of_ne_nil h]

/-- A block is read off a call, and a call has a body. -/
theorem Block.body_ne_nil (h : Block.ofStatement? t = some b) : b.body ≠ [] := by
  have hparse : Block.parse t = .ok (some b) := by
    unfold Block.ofStatement? at h
    split at h
    · next result hr => rw [hr, h]
    · cases h
  have hstart : NoCall ([] : List Placed).reverse := by
    intro i kind body hc
    exact absurd hc.lt_length (Nat.not_lt_zero _)
  have hout := Block.outcome_readFrom (p := .start) (t := t) ⟨[], rfl, rfl⟩ hstart
  rw [show Block.readFrom [] .start t = .ok (some b) from hparse] at hout
  -- of the outcomes of reading only the one of a call has a block
  cases hout with
  | call place least closes tail => exact place.nonempty

theorem body_ne_nil_of_mem_blocks (h : b ∈ blocks t) : b.body ≠ [] := by
  unfold blocks at h
  split at h
  · obtain rfl := List.mem_singleton.mp h
    cases hb : Block.ofStatement? (Text.trim t) with
    | none => exact List.cons_ne_nil _ _
    | some b => exact Block.body_ne_nil hb
  · obtain ⟨s, -, hs⟩ := List.mem_filterMap.mp h
    exact Block.body_ne_nil hs

/-- The default code has one statement, whose call has the body of the default block. -/
theorem blocks_defaultCode :
    blocks Source.defaultCode = [⟨.sound, Block.default.body, ".fast(1)".toList⟩] := by
  decide +kernel

end Script

/-! ## The stand-in -/

/-- The rate is set by `fast` and `slow` alone. -/
theorem Modifiers.rate_ofText (modes modes' : Modes) (t : Text) :
    (ofText modes t).rate = (ofText modes' t).rate := rfl

/-- Without a call of `scale` there is no scale, whatever scales there are. -/
theorem Modifiers.scale_ofText (modes : Modes) {t : Text}
    (h : ∀ call ∈ Script.Call.ofText t, Text.lower call.name ≠ "scale".toList) :
    (ofText modes t).scale = none := by
  have hfind : (Script.Call.ofText t).find? (Text.lower ·.name = "scale".toList) = none := by
    refine List.find?_eq_none.mpr ?_
    intro call hcall
    simpa using h call hcall
  change ((Script.Call.ofText t).find? (Text.lower ·.name = "scale".toList)).bind _ = none
  rw [hfind]
  rfl

/-- The grid of a block whose modifiers leave the rate at one and call no scale. -/
theorem Part.grid_ofBlock_plain (modes : Modes) (kind : Script.Kind) (body : Text) (lane : ℕ)
    {modifiers : Text} (hrate : (Modifiers.ofText Modes.builtin modifiers).rate = 1.0)
    (hscale : ∀ call ∈ Script.Call.ofText modifiers, Text.lower call.name ≠ "scale".toList) :
    (Part.ofBlock modes ⟨kind, body, modifiers⟩ lane).grid =
      ⟨(Mini.steps body).toArray, 1.0, ⟨kind, none⟩, lane⟩ := by
  have hr : (Modifiers.ofText modes modifiers).rate = 1.0 :=
    (Modifiers.rate_ofText modes Modes.builtin modifiers).trans hrate
  -- a grid takes nothing else from the modifiers
  unfold Part.grid Part.ofBlock
  simp only [hr, Modifiers.scale_ofText modes hscale]

/-- Four slots on the first lane: a bass drum, a snare drum and a hi-hat at once, a bass drum, a
snare drum. -/
def Grid.standIn : Grid :=
  ⟨#[["bd".toList], ["sd".toList, "hh".toList], ["bd".toList], ["sd".toList]], 1.0,
    ⟨.sound, none⟩, 0⟩

namespace Grid

theorem length_standIn_cycleEvents (cycle : ℕ) : (standIn.cycleEvents cycle).length = 5 := by
  rw [cycleEvents_eq_map, List.length_map]
  decide +kernel

/-- Five sounds a cycle, and at least one cycle. -/
theorem length_standIn_events (cycles : ℕ) :
    (standIn.events cycles).length = 5 * max 1 cycles := by
  have hevents : standIn.events cycles = (List.range (max cycles 1)).flatMap standIn.cycleEvents :=
    rfl
  have hcycle : (fun cycle => (standIn.cycleEvents cycle).length) = fun _ => 5 :=
    funext length_standIn_cycleEvents
  rw [hevents, List.length_flatMap, hcycle, List.map_const', List.sum_replicate_nat,
    List.length_range, Nat.mul_comm, Nat.max_comm]

end Grid

/-- **Both fallbacks are laid out on the stand-in.** The default body fills it on the first lane if
its modifiers leave the rate at one and call no scale. -/
theorem Part.grid_ofBlock_standIn (modes : Modes) {modifiers : Text}
    (hrate : (Modifiers.ofText Modes.builtin modifiers).rate = 1.0)
    (hscale : ∀ call ∈ Script.Call.ofText modifiers, Text.lower call.name ≠ "scale".toList) :
    (Part.ofBlock modes ⟨.sound, Script.Block.default.body, modifiers⟩ 0).grid = .standIn := by
  have hsteps : (Mini.steps Script.Block.default.body).toArray = Grid.standIn.steps := by
    decide +kernel
  rw [grid_ofBlock_plain modes .sound _ 0 hrate hscale, hsteps]
  rfl

namespace Score

variable (options : Options) {resolved : Source.Resolved}

/-- A code text with a single block plays the grid of that block. -/
theorem events_of_blocks_eq_singleton {b : Script.Block}
    (h : Script.blocks resolved.code = [b]) :
    (ofResolved options resolved).parts.length = 1 ∧
      (ofResolved options resolved).events =
        (Part.ofBlock options.modes b 0).grid.events options.cycles := by
  have hparts : partsOf options.modes resolved.code = [Part.ofBlock options.modes b 0] := by
    unfold partsOf
    rw [h]
    rfl
  constructor
  · change (partsOf options.modes resolved.code).length = 1
    rw [hparts]
    rfl
  · change eventsOf options.cycles (partsOf options.modes resolved.code) = _
    rw [hparts]
    exact List.flatMap_singleton _ _

/-- The default body with modifiers that change nothing plays the stand-in. -/
theorem events_of_standIn {modifiers : Text}
    (hblocks : Script.blocks resolved.code = [⟨.sound, Script.Block.default.body, modifiers⟩])
    (hrate : (Modifiers.ofText Modes.builtin modifiers).rate = 1.0)
    (hscale : ∀ call ∈ Script.Call.ofText modifiers, Text.lower call.name ≠ "scale".toList) :
    (ofResolved options resolved).parts.length = 1 ∧
      (ofResolved options resolved).events = Grid.standIn.events options.cycles := by
  obtain ⟨hparts, hevents⟩ := events_of_blocks_eq_singleton options hblocks
  rw [Part.grid_ofBlock_standIn options.modes hrate hscale] at hevents
  exact ⟨hparts, hevents⟩

/-- What is played without code. -/
theorem events_defaultCode (h : resolved.code = Source.defaultCode) :
    (ofResolved options resolved).parts.length = 1 ∧
      (ofResolved options resolved).events = Grid.standIn.events options.cycles := by
  have hblocks := Script.blocks_defaultCode
  rw [← h] at hblocks
  exact events_of_standIn options hblocks (by decide +kernel) (by decide +kernel)

/-- What is played without a block. -/
theorem events_of_hasNoBlock (h : Script.HasNoBlock resolved.code) :
    (ofResolved options resolved).parts.length = 1 ∧
      (ofResolved options resolved).events = Grid.standIn.events options.cycles :=
  events_of_standIn options h.blocks (by decide +kernel) (by decide +kernel)

/-! ## Scores in general -/

/-- A score with at least one block, none of them with an empty body, whose status ends in their
number. -/
structure Playable (s : Score) : Prop where
  parts_ne_nil : s.parts ≠ []
  body_ne_nil : ∀ p ∈ s.parts, p.block.body ≠ []
  status : ∃ front : String, s.status =
    front ++ " (" ++ toString s.parts.length ++ " lane" ++
      (if s.parts.length = 1 then "" else "s") ++ ")"

/-- **Every score is playable**, whatever the code. -/
theorem ofResolved_playable (options : Options) (resolved : Source.Resolved) :
    (ofResolved options resolved).Playable where
  parts_ne_nil := by
    intro h
    exact Script.blocks_ne_nil resolved.code (List.mapIdx_eq_nil_iff.mp h)
  body_ne_nil := by
    intro p hp
    obtain ⟨i, hi, rfl⟩ := List.mem_mapIdx.mp hp
    exact Script.body_ne_nil_of_mem_blocks (List.getElem_mem hi)
  status := ⟨resolved.description, rfl⟩

/-- **All fallbacks play the same.** A reference that cannot be resolved and a text without a block
have one block each, and their events are the same: those of the stand-in, which neither the
payload nor the name, the text or the scales have a part in. And whatever is referred to or given,
there is something to play, and the status counts it. -/
theorem fallbacks_play_standIn (options : Options) :
    (∀ source t, Source.Unresolved source → Script.HasNoBlock t →
      (ofSource options source).events = (ofCode options t).events ∧
        (ofCode options t).events = Grid.standIn.events options.cycles ∧
        (ofCode options t).events.length = 5 * max 1 options.cycles ∧
        (ofSource options source).parts.length = 1 ∧ (ofCode options t).parts.length = 1) ∧
      (∀ source, (ofSource options source).Playable) ∧ ∀ t, (ofCode options t).Playable := by
  refine ⟨?_, ?_, ?_⟩
  · intro source t hs ht
    obtain ⟨hsource, hplayed⟩ := events_defaultCode options hs.code_resolve
    obtain ⟨htext, hstand⟩ :=
      events_of_hasNoBlock options (show Script.HasNoBlock (Source.Resolved.inline t).code from ht)
    refine ⟨hplayed.trans hstand.symm, hstand, ?_, hsource, htext⟩
    exact (congrArg List.length hstand).trans (Grid.length_standIn_events options.cycles)
  · intro source
    exact ofResolved_playable options _
  · intro t
    exact ofResolved_playable options _

/-- A payload that is no base64, and a statement whose literal is not closed. -/
theorem fallbacks_play_standIn_unclosed :
    Source.Unresolved (some (.hash "not*base64".toList none)) ∧
      Script.HasNoBlock "$: s(\"bd sd".toList ∧
      (ofSource .default (some (.hash "not*base64".toList none))).events =
        (ofCode .default "$: s(\"bd sd".toList).events ∧
      (ofCode .default "$: s(\"bd sd".toList).events.length = 30 := by
  have hs : Source.Unresolved (some (.hash "not*base64".toList none)) := .undecodable rfl
  have ht : Script.HasNoBlock "$: s(\"bd sd".toList := ⟨by decide +kernel, by decide +kernel⟩
  obtain ⟨hevents, -, hlength, -, -⟩ := (fallbacks_play_standIn .default).1 _ _ hs ht
  exact ⟨hs, ht, hevents, hlength⟩

end Score

end VoxelScore
