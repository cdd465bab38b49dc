import VoxelScore.Proofs.Script.Joining
import VoxelScore.Score

/-!
# Scores of joined code texts

Blocks are numbered in the order in which they stand. Joining two code texts therefore keeps the
lanes of the first one and moves those of the second one behind them, and nothing else changes in
the events.

## Main definitions

* `Event.raise`: an event some lanes further up

## Main results

* `Grid.events_raise`: a grid on a higher lane plays the same events there
* `Score.ofCode_join`: blocks and events of a joined text
-/

namespace VoxelScore

/-- The event so many lanes further up. -/
def Event.raise (k : Nat) (e : Event) : Event := { e with lane := e.lane + k }

/-- The grid so many lanes further up. -/
def Grid.raise (k : Nat) (g : Grid) : Grid := { g with lane := g.lane + k }

/-- The part so many lanes further up. -/
def Part.raise (k : Nat) (p : Part) : Part := { p with lane := p.lane + k }

namespace Grid

variable (k : Nat) (g : Grid)

theorem slotEvents_raise (slots cycle slot : Nat) :
    (g.raise k).slotEvents slots cycle slot =
      (g.slotEvents slots cycle slot).map (Event.raise k) := by
  simp only [slotEvents, List.map_map]
  rfl

theorem cycleEvents_raise (cycle : Nat) :
    (g.raise k).cycleEvents cycle = (g.cycleEvents cycle).map (Event.raise k) := by
  simp only [cycleEvents, List.map_flatMap]
  exact congrArg (List.flatMap · _) (funext (slotEvents_raise k g g.slots cycle))

/-- The lane of a grid is the lane of its events, and nothing else depends on it. -/
theorem events_raise (cycles : Nat) :
    (g.raise k).events cycles = (g.events cycles).map (Event.raise k) := by
  unfold events
  by_cases h : g.steps.isEmpty
  · rw [if_pos h, if_pos (show (g.raise k).steps.isEmpty from h), List.map_nil]
  · rw [if_neg h, if_neg (show ¬ (g.raise k).steps.isEmpty from h), List.map_flatMap]
    exact congrArg (List.flatMap · _) (funext (cycleEvents_raise k g))

end Grid

namespace Score

theorem eventsOf_append (cycles : Nat) (ps qs : List Part) :
    eventsOf cycles (ps ++ qs) = eventsOf cycles ps ++ eventsOf cycles qs := List.flatMap_append

theorem eventsOf_raise (cycles k : Nat) (ps : List Part) :
    eventsOf cycles (ps.map (Part.raise k)) = (eventsOf cycles ps).map (Event.raise k) := by
  simp only [eventsOf, List.flatMap_map, List.map_flatMap]
  exact congrArg (List.flatMap · ps) (funext fun p => Grid.events_raise k p.grid cycles)

/-- The parts of blocks, one lane each. -/
def partsOfBlocks (modes : Modes) (bs : List Script.Block) : List Part :=
  bs.mapIdx fun lane block => .ofBlock modes block lane

theorem partsOfBlocks_append (modes : Modes) (bs cs : List Script.Block) :
    partsOfBlocks modes (bs ++ cs) =
      partsOfBlocks modes bs ++ (partsOfBlocks modes cs).map (Part.raise bs.length) := by
  have hm : (partsOfBlocks modes cs).map (Part.raise bs.length) =
      cs.mapIdx fun lane block => .ofBlock modes block (lane + bs.length) := by
    refine List.ext_getElem (by simp [partsOfBlocks]) fun i _ _ => ?_
    simp only [partsOfBlocks, List.getElem_map, List.getElem_mapIdx]
    rfl
  rw [hm]
  exact List.mapIdx_append

end Score

namespace Script

theorem blocks_of_ne_nil {t : Text} (h : statementBlocks t ≠ []) :
    blocks t = statementBlocks t := by
  unfold blocks
  split
  · next he => exact absurd he h
  · rfl

end Script

open Script in
/-- **Compiling joined code texts.** If the second text leads with blanks only, the blocks of its
statements follow those of the first text, whatever else either text holds; and if both have such
blocks, their events follow one another, those of the second text on the lanes after the first. -/
theorem Score.ofCode_join (a b : Text) (hb : Text.IsBlankText (Marked.ofText b).lead) :
    statementBlocks (a ++ '\n' :: b) = statementBlocks a ++ statementBlocks b ∧
      (statementBlocks a ++ statementBlocks b ≠ [] →
        blocks (a ++ '\n' :: b) = statementBlocks a ++ statementBlocks b) ∧
      (statementBlocks a ≠ [] → statementBlocks b ≠ [] → ∀ options : Options,
        (ofCode options (a ++ '\n' :: b)).events =
          (ofCode options a).events ++
            (ofCode options b).events.map (Event.raise (blocks a).length)) := by
  have hs := statementBlocks_join a hb
  have hj : statementBlocks a ++ statementBlocks b ≠ [] →
      blocks (a ++ '\n' :: b) = statementBlocks a ++ statementBlocks b := by
    intro hne
    rw [← hs] at hne ⊢
    exact blocks_of_ne_nil hne
  refine ⟨hs, hj, ?_⟩
  intro ha hb' options
  have hab : statementBlocks a ++ statementBlocks b ≠ [] := by
    intro he
    exact ha (List.append_eq_nil_iff.mp he).1
  show eventsOf options.cycles (partsOfBlocks options.modes (blocks (a ++ '\n' :: b))) =
    eventsOf options.cycles (partsOfBlocks options.modes (blocks a)) ++
      (eventsOf options.cycles (partsOfBlocks options.modes (blocks b))).map
        (Event.raise (blocks a).length)
  -- Neither text falls back to the block of the whole text: the lanes are those of statements.
  rw [hj hab, blocks_of_ne_nil ha, blocks_of_ne_nil hb', partsOfBlocks_append, eventsOf_append,
    eventsOf_raise]

open Script in
/-- A statement with an unclosed literal takes no lane: what stands behind it is the second part. -/
theorem Score.ofCode_join_unclosed :
    Text.IsBlankText (Marked.ofText " \n $: n('0 2').fast(2)".toList).lead ∧
      blocks ("$: s(\"bd\")\n$: note(\"c e".toList ++ '\n' :: " \n $: n('0 2').fast(2)".toList) =
        [⟨.sound, "bd".toList, []⟩, ⟨.degree, "0 2".toList, ".fast(2)".toList⟩] ∧
      (ofCode .default
          ("$: s(\"bd\")\n$: note(\"c e".toList ++
            '\n' :: " \n $: n('0 2').fast(2)".toList)).events =
        (ofCode .default "$: s(\"bd\")\n$: note(\"c e".toList).events ++
          (ofCode .default " \n $: n('0 2').fast(2)".toList).events.map (Event.raise 1) := by
  have hlead : Text.IsBlankText (Marked.ofText " \n $: n('0 2').fast(2)".toList).lead := by decide
  have ha : statementBlocks "$: s(\"bd\")\n$: note(\"c e".toList = [⟨.sound, "bd".toList, []⟩] := by
    decide +kernel
  have hb : statementBlocks " \n $: n('0 2').fast(2)".toList =
      [⟨.degree, "0 2".toList, ".fast(2)".toList⟩] := by
    decide +kernel
  obtain ⟨-, hblocks, hevents⟩ := ofCode_join "$: s(\"bd\")\n$: note(\"c e".toList
    " \n $: n('0 2').fast(2)".toList hlead
  rw [ha, hb] at hblocks
  have hcount : (blocks "$: s(\"bd\")\n$: note(\"c e".toList).length = 1 := by
    rw [blocks_of_ne_nil (by rw [ha]; exact List.cons_ne_nil _ _), ha]
    rfl
  rw [hcount] at hevents
  refine ⟨hlead, hblocks (List.cons_ne_nil _ _), ?_⟩
  exact hevents (by rw [ha]; exact List.cons_ne_nil _ _) (by rw [hb]; exact List.cons_ne_nil _ _) _

end VoxelScore
