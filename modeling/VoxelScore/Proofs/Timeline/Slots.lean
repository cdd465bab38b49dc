import Mathlib.Algebra.Order.Field.Basic
import Mathlib.Tactic.Linarith
import VoxelScore.Proofs.Timeline.Fraction
import VoxelScore.Timeline.Grid

/-!
# Events in their slots

Every event of a grid starts with a slot of its cycle, lasts as long as the slot, and is read from
a token of the step that the slot plays. The slots follow one another in time, so the events of a
grid are in order.

## Main definitions

* `Event.Precedes`: the order by lane, cycle and time
* `Grid.PlaysAt`: an event read from the step of a slot

## Main results

* `Grid.exists_playsAt`: every event of a grid stands in a slot
* `Grid.pairwise_events`: the events of a grid are in order
* `Grid.PlaysAt.eq_or_apart`: events of two slots are a slot apart
-/

namespace VoxelScore

/-- The order of events: by lane, then by cycle, then by time, which may be equal. -/
def Event.Precedes (e f : Event) : Prop :=
  e.lane < f.lane ∨ e.lane = f.lane ∧
    (e.cycle < f.cycle ∨ e.cycle = f.cycle ∧ e.time.compare f.time ≠ .gt)

theorem Event.precedes_of_toRat_le {e f : Event} (hlane : e.lane = f.lane)
    (hcycle : e.cycle = f.cycle) (htime : e.time.toRat ≤ f.time.toRat) : e.Precedes f := by
  refine Or.inr ⟨hlane, Or.inr ⟨hcycle, ?_⟩⟩
  rw [ne_eq, CycleTime.compare_eq_gt_iff]
  exact htime.not_gt

namespace Grid

/-- The event is read from a token of the step that the slot plays, and it takes the time of the
slot. -/
structure PlaysAt (g : Grid) (slot : ℕ) (e : Event) : Prop where
  slot_lt : slot < g.slots
  time : e.time.toRat = slot / g.slots
  duration : e.duration.toRat = 1 / g.slots
  source : ∃ step, g.steps[slot % g.steps.size]? = some step ∧
    ∃ token ∈ step, g.voice.trigger? token = some e.trigger

variable {g : Grid} {slot cycle cycles : ℕ} {e f : Event}

/-! ## Where events come from -/

/-- Parts that are kept or left out as a whole are chosen part by part. -/
theorem filter_flatMap_of_whole {α β : Type} {f : α → List β} {keep : β → Bool} {chosen : α → Bool}
    (whole : ∀ a, ∀ b ∈ f a, keep b = chosen a) (parts : List α) :
    (parts.flatMap f).filter keep = (parts.filter chosen).flatMap f := by
  induction parts with
  | nil => rfl
  | cons a parts ih =>
    rw [List.flatMap_cons, List.filter_append, ih]
    by_cases ha : chosen a
    · have kept : (f a).filter keep = f a :=
        List.filter_eq_self.mpr fun b hb => (whole a b hb).trans ha
      rw [kept, List.filter_cons_of_pos ha, List.flatMap_cons]
    · have dropped : (f a).filter keep = [] := by
        refine List.filter_eq_nil_iff.mpr fun b hb => ?_
        rwa [whole a b hb]
      rw [dropped, List.filter_cons_of_neg ha, List.nil_append]

theorem slots_pos (g : Grid) : 0 < g.slots := slotCount_pos _ _

/-- A grid with steps plays at least one cycle. -/
theorem events_eq_flatMap (hsteps : 0 < g.steps.size) (cycles : ℕ) :
    g.events cycles = (List.range (max cycles 1)).flatMap g.cycleEvents := by
  have hnonempty : ¬ g.steps.isEmpty := by
    rw [Array.isEmpty_iff_size_eq_zero]
    exact hsteps.ne'
  rw [events, if_neg hnonempty]

theorem events_of_no_steps (hnone : g.steps.size = 0) (cycles : ℕ) : g.events cycles = [] :=
  if_pos (Array.isEmpty_iff_size_eq_zero.mpr hnone)

theorem mem_slotEvents {slots : ℕ} (h : e ∈ g.slotEvents slots cycle slot) :
    ∃ trigger ∈ g.slotTriggers slot,
      e = .ofTrigger cycle (.ofSlot slot slots) (.slotWidth slots) g.lane trigger := by
  obtain ⟨trigger, ht, rfl⟩ := List.mem_map.mp h
  exact ⟨trigger, ht, rfl⟩

theorem mem_slotTriggers {trigger : Trigger} (h : trigger ∈ g.slotTriggers slot) :
    ∃ step, g.steps[slot % g.steps.size]? = some step ∧
      ∃ token ∈ step, g.voice.trigger? token = some trigger := by
  obtain ⟨token, hmem, htrigger⟩ := List.mem_filterMap.mp h
  cases hs : g.steps[slot % g.steps.size]? with
  | none =>
    rw [hs] at hmem
    cases hmem
  | some step =>
    rw [hs] at hmem
    exact ⟨step, rfl, token, hmem, htrigger⟩

/-- An event of a slot takes the time of the slot. -/
theorem playsAt_of_mem (hslot : slot < g.slots) (h : e ∈ g.slotEvents g.slots cycle slot) :
    g.PlaysAt slot e := by
  obtain ⟨trigger, ht, rfl⟩ := mem_slotEvents h
  exact ⟨hslot, CycleTime.toRat_ofSlot g.slots_pos, CycleTime.toRat_slotWidth g.slots_pos,
    mem_slotTriggers ht⟩

theorem mem_events (h : e ∈ g.events cycles) :
    ∃ cycle < max cycles 1, ∃ slot < g.slots, e ∈ g.slotEvents g.slots cycle slot := by
  unfold events at h
  split at h
  · cases h
  · obtain ⟨cycle, hc, h⟩ := List.mem_flatMap.mp h
    obtain ⟨slot, hs, h⟩ := List.mem_flatMap.mp h
    exact ⟨cycle, List.mem_range.mp hc, slot, List.mem_range.mp hs, h⟩

/-- What sounds in a slot of a cycle that is played is an event. -/
theorem mem_events_of_mem_slotEvents (hcycle : cycle < max cycles 1) (hslot : slot < g.slots)
    (h : e ∈ g.slotEvents g.slots cycle slot) : e ∈ g.events cycles := by
  obtain ⟨step, hstep, -⟩ := (playsAt_of_mem hslot h).source
  have hsteps : ¬ g.steps.isEmpty := by
    intro hempty
    simp [Array.isEmpty_iff.mp hempty] at hstep
  rw [events, if_neg hsteps]
  refine List.mem_flatMap.mpr ⟨cycle, List.mem_range.mpr hcycle, ?_⟩
  exact List.mem_flatMap.mpr ⟨slot, List.mem_range.mpr hslot, h⟩

/-- **Every event stands in a slot** of one of the cycles that are played, in the grid's lane. -/
theorem exists_playsAt (h : e ∈ g.events cycles) :
    e.lane = g.lane ∧ e.cycle < max cycles 1 ∧ ∃ slot, g.PlaysAt slot e := by
  obtain ⟨cycle, hc, slot, hs, h⟩ := mem_events h
  have hp := playsAt_of_mem hs h
  obtain ⟨trigger, -, rfl⟩ := mem_slotEvents h
  exact ⟨rfl, hc, slot, hp⟩

/-! ## Order -/

theorem pairwise_slotEvents (g : Grid) (slots cycle slot : ℕ) :
    (g.slotEvents slots cycle slot).Pairwise Event.Precedes := by
  refine List.pairwise_of_forall_mem_list fun e he f hf => ?_
  obtain ⟨_, -, rfl⟩ := mem_slotEvents he
  obtain ⟨_, -, rfl⟩ := mem_slotEvents hf
  exact Event.precedes_of_toRat_le rfl rfl le_rfl

/-- Starts of slots are in the order of the slots, whatever their lowest terms. -/
theorem toRat_ofSlot_lt {slots i j : ℕ} (h : 0 < slots) (hij : i < j) :
    (CycleTime.ofSlot i slots).toRat < (CycleTime.ofSlot j slots).toRat := by
  rw [CycleTime.toRat_ofSlot h, CycleTime.toRat_ofSlot h]
  exact div_lt_div_of_pos_right (Nat.cast_lt.mpr hij) (Nat.cast_pos.mpr h)

theorem pairwise_cycleEvents (g : Grid) (cycle : ℕ) :
    (g.cycleEvents cycle).Pairwise Event.Precedes := by
  refine List.pairwise_flatMap.mpr ⟨fun slot _ => pairwise_slotEvents g _ _ slot, ?_⟩
  refine List.pairwise_lt_range.imp ?_
  intro i j hij e he f hf
  obtain ⟨_, -, rfl⟩ := mem_slotEvents he
  obtain ⟨_, -, rfl⟩ := mem_slotEvents hf
  exact Event.precedes_of_toRat_le rfl rfl (toRat_ofSlot_lt g.slots_pos hij).le

/-- **The events of a grid are in order.** -/
theorem pairwise_events (g : Grid) (cycles : ℕ) : (g.events cycles).Pairwise Event.Precedes := by
  unfold events
  split
  · exact List.Pairwise.nil
  · refine List.pairwise_flatMap.mpr ⟨fun cycle _ => pairwise_cycleEvents g cycle, ?_⟩
    refine List.pairwise_lt_range.imp ?_
    -- Events of two cycles need no times.
    intro c d hcd e he f hf
    obtain ⟨i, -, he⟩ := List.mem_flatMap.mp he
    obtain ⟨j, -, hf⟩ := List.mem_flatMap.mp hf
    obtain ⟨_, -, rfl⟩ := mem_slotEvents he
    obtain ⟨_, -, rfl⟩ := mem_slotEvents hf
    exact Or.inr ⟨rfl, Or.inl hcd⟩

/-! ## Bounds and distances -/

namespace PlaysAt

variable {i j : ℕ}

/-- A slot lies within its cycle. -/
theorem bounds (h : g.PlaysAt i e) :
    0 ≤ e.time.toRat ∧ e.time.toRat < 1 ∧ 0 < e.duration.toRat ∧ e.duration.toRat ≤ 1 ∧
      e.time.toRat + e.duration.toRat ≤ 1 := by
  have hS : (0 : ℚ) < g.slots := Nat.cast_pos.mpr g.slots_pos
  have hi : (i : ℚ) + 1 ≤ g.slots := by exact_mod_cast h.slot_lt
  have h0 : (0 : ℚ) ≤ i := Nat.cast_nonneg i
  rw [h.time, h.duration, ← add_div]
  refine ⟨div_nonneg h0 hS.le, ?_, ?_, ?_, ?_⟩
  · rw [div_lt_one hS]
    linarith
  · exact one_div_pos.mpr hS
  · rw [div_le_one hS]
    linarith
  · rw [div_le_one hS]
    exact hi

theorem apart_of_lt (he : g.PlaysAt i e) (hf : g.PlaysAt j f) (hij : i < j) :
    e.duration.toRat ≤ f.time.toRat - e.time.toRat := by
  have hS : (0 : ℚ) < g.slots := Nat.cast_pos.mpr g.slots_pos
  have hle : (i : ℚ) + 1 ≤ j := by exact_mod_cast hij
  rw [he.time, he.duration, hf.time, ← sub_div]
  exact div_le_div_of_nonneg_right (by linarith) hS.le

/-- **Two events of a grid** have one slot and so one time and one step, or they are at least as far
apart as they last. -/
theorem eq_or_apart (he : g.PlaysAt i e) (hf : g.PlaysAt j f) :
    (i = j ∧ e.time = f.time) ∨ e.duration.toRat ≤ |e.time.toRat - f.time.toRat| := by
  -- Of two slots the earlier one has ended when the later one starts.
  rcases Nat.lt_trichotomy i j with hij | rfl | hij
  · have h := apart_of_lt he hf hij
    rw [abs_sub_comm]
    exact Or.inr (h.trans (le_abs_self _))
  · exact Or.inl ⟨rfl, CycleTime.toRat_injective (he.time.trans hf.time.symm)⟩
  · have h := apart_of_lt hf he hij
    rw [hf.duration, ← he.duration] at h
    exact Or.inr (h.trans (le_abs_self _))

end PlaysAt

end Grid

end VoxelScore
