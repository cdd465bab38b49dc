import VoxelScore.Proofs.Timeline.Slots
import VoxelScore.Score

/-!
# The order of a score

The events of a score go through its lanes one after the other, and through the cycles and slots of
every lane in their order. Their times are exact fractions of the lane's grid.

## Main definitions

* `Score.PlaysAt`: an event of a score in a slot of the part of its lane

## Main results

* `Score.pairwise_eventsOf`: the events of parts on rising lanes are in order
* `Score.events_ordered_within_slots`: order, slots and distances of all events of a score
-/

namespace VoxelScore

namespace Part

@[simp] theorem grid_lane (p : Part) : p.grid.lane = p.lane := rfl

theorem slots_pos (p : Part) : 0 < p.slots := slotCount_pos _ _

end Part

namespace Score

variable {options : Options} {code : Text} {e f : Event}

/-- The part at a place is that of the block at the place. -/
theorem exists_block_of_getElem? {modes : Modes} {k : ℕ} {p : Part}
    (h : (partsOf modes code)[k]? = some p) :
    ∃ block, (Script.blocks code)[k]? = some block ∧ p = .ofBlock modes block k := by
  rw [partsOf, List.getElem?_mapIdx] at h
  obtain ⟨block, hblock, hp⟩ := Option.map_eq_some_iff.mp h
  exact ⟨block, hblock, hp.symm⟩

/-- The part at a place plays on the lane of that number. -/
theorem lane_of_getElem? {modes : Modes} {k : ℕ} {p : Part}
    (h : (partsOf modes code)[k]? = some p) : p.lane = k := by
  obtain ⟨block, -, rfl⟩ := exists_block_of_getElem? h
  rfl

theorem pairwise_lane (modes : Modes) (code : Text) :
    (partsOf modes code).Pairwise (fun p q => p.lane < q.lane) := by
  refine List.pairwise_iff_getElem.mpr ?_
  intro i j hi hj hij
  rw [lane_of_getElem? (List.getElem?_eq_getElem hi),
    lane_of_getElem? (List.getElem?_eq_getElem hj)]
  exact hij

/-- **The events of parts on rising lanes are in order.** -/
theorem pairwise_eventsOf {parts : List Part} (cycles : ℕ)
    (h : parts.Pairwise (fun p q => p.lane < q.lane)) :
    (eventsOf cycles parts).Pairwise Event.Precedes := by
  refine List.pairwise_flatMap.mpr ⟨fun p _ => Grid.pairwise_events p.grid cycles, ?_⟩
  refine h.imp ?_
  intro p q hpq e he f hf
  -- Events of two parts are in order by their lanes alone.
  have hel := (Grid.exists_playsAt he).1
  have hfl := (Grid.exists_playsAt hf).1
  rw [Part.grid_lane] at hel hfl
  exact Or.inl (by rw [hel, hfl]; exact hpq)

/-- An event of a score is played by the part of its lane. -/
theorem exists_part_of_mem (h : e ∈ (ofCode options code).events) :
    ∃ p, (ofCode options code).parts[e.lane]? = some p ∧ e.cycle < max options.cycles 1 ∧
      ∃ slot, p.grid.PlaysAt slot e := by
  obtain ⟨p, hp, he⟩ := List.mem_flatMap.mp h
  obtain ⟨hlane, hcycle, hslot⟩ := Grid.exists_playsAt he
  obtain ⟨k, hk⟩ := List.mem_iff_getElem?.mp hp
  refine ⟨p, ?_, hcycle, hslot⟩
  rw [hlane, Part.grid_lane, lane_of_getElem? hk]
  exact hk

/-- **Order, slots and distances of the events of a score.** The events are in the order of lane,
cycle and time. Each has a lane among the blocks and a cycle that is played, and takes a slot of the
grid of its lane, exactly, within the cycle. Two events of one lane and cycle come from one slot and
step at the same time, or are at least as far apart as they last. -/
theorem events_ordered_within_slots (options : Options) (code : Text) :
    (ofCode options code).events.Pairwise Event.Precedes ∧
      (∀ e ∈ (ofCode options code).events,
        e.lane < (Script.blocks code).length ∧ e.cycle < max 1 options.cycles ∧
          ∃ p, (ofCode options code).parts[e.lane]? = some p ∧ 1 ≤ p.slots ∧
            (∃ i < p.slots, e.time.toRat = i / p.slots ∧ e.duration.toRat = 1 / p.slots) ∧
            0 ≤ e.time.toRat ∧ e.time.toRat < 1 ∧ 0 < e.duration.toRat ∧ e.duration.toRat ≤ 1 ∧
              e.time.toRat + e.duration.toRat ≤ 1) ∧
      ∀ e ∈ (ofCode options code).events, ∀ f ∈ (ofCode options code).events,
        e.lane = f.lane → e.cycle = f.cycle →
          (e.time = f.time ∧ ∃ p i, (ofCode options code).parts[e.lane]? = some p ∧
            p.grid.PlaysAt i e ∧ p.grid.PlaysAt i f) ∨
          e.duration.toRat ≤ |e.time.toRat - f.time.toRat| := by
  refine ⟨pairwise_eventsOf _ (pairwise_lane _ _), ?_, ?_⟩
  · intro e he
    obtain ⟨p, hp, hcycle, i, hi⟩ := exists_part_of_mem he
    have hlane : e.lane < (ofCode options code).parts.length := (List.getElem?_eq_some_iff.mp hp).1
    have hcount : (ofCode options code).parts.length = (Script.blocks code).length :=
      List.length_mapIdx
    refine ⟨hcount ▸ hlane, Nat.max_comm _ _ ▸ hcycle, p, hp, p.slots_pos, ?_, hi.bounds⟩
    exact ⟨i, hi.slot_lt, hi.time, hi.duration⟩
  · intro e he f hf hlane _
    obtain ⟨p, hp, -, i, hi⟩ := exists_part_of_mem he
    obtain ⟨q, hq, -, j, hj⟩ := exists_part_of_mem hf
    -- One lane has one part.
    rw [← hlane, hp] at hq
    obtain rfl := Option.some.inj hq
    rcases hi.eq_or_apart hj with ⟨rfl, htime⟩ | hapart
    · exact Or.inl ⟨htime, p, i, hp, hi, hj⟩
    · exact Or.inr hapart

end Score

end VoxelScore
