import Mathlib.Data.List.Forall2

/-!
# When readers succeed

A reader gives a value or the reason why there is none. Readers that run one after the other succeed
exactly if each of them does, and so do readers that run along a list.

## Main results

* `Except.bind_eq_ok_iff`, `Except.map_eq_ok_iff`: a step behind a reader
* `Except.mapM_eq_ok_iff`: readers along a list
* `Except.exists_of_mem_mapM`: where a value comes from
* `Except.exists_mapM_eq_ok`, `Except.mapM_eq_ok_map`: lists that correspond to another list
-/

namespace VoxelScore.Except

section Readers

universe u v

variable {ε : Type u} {α β γ : Type v} {x : Except ε α} {a : α} {b : β}

theorem bind_eq_ok_iff {f : α → Except ε β} :
    x >>= f = .ok b ↔ ∃ a, x = .ok a ∧ f a = .ok b := by
  cases x with
  | error e => simp [bind, Except.bind]
  | ok a => simp [bind, Except.bind]

theorem map_eq_ok_iff {f : α → β} : x.map f = .ok b ↔ ∃ a, x = .ok a ∧ f a = b := by
  cases x with
  | error e => simp [Except.map]
  | ok a => simp [Except.map]

/-- **Readers along a list** succeed exactly if every one of them does. -/
theorem mapM_eq_ok_iff {f : α → Except ε β} {xs : List α} {ys : List β} :
    xs.mapM f = .ok ys ↔ List.Forall₂ (fun x y => f x = .ok y) xs ys := by
  induction xs generalizing ys with
  | nil => simp [pure, Except.pure, eq_comm]
  | cons x xs ih =>
    rw [List.mapM_cons, bind_eq_ok_iff, List.forall₂_cons_left_iff]
    constructor
    · rintro ⟨y, hy, hr⟩
      obtain ⟨r, hr, he⟩ := bind_eq_ok_iff.mp hr
      exact ⟨y, r, hy, ih.mp hr, (Except.ok.inj he).symm⟩
    · rintro ⟨y, r, hy, hr, rfl⟩
      exact ⟨y, hy, bind_eq_ok_iff.mpr ⟨r, ih.mpr hr, rfl⟩⟩

/-- Everything that readers give along a list is given for an item. -/
theorem exists_of_mem_mapM {f : α → Except ε β} {xs : List α} {ys : List β} {y : β}
    (h : xs.mapM f = .ok ys) (hy : y ∈ ys) : ∃ x ∈ xs, f x = .ok y := by
  rw [mapM_eq_ok_iff] at h
  induction h with
  | nil => cases hy
  | cons hread _ ih =>
    rcases List.mem_cons.mp hy with rfl | hy
    · exact ⟨_, List.mem_cons_self, hread⟩
    · obtain ⟨x, hx, hread⟩ := ih hy
      exact ⟨x, List.mem_cons_of_mem _ hx, hread⟩

section Along

variable {f : α → Except ε β} {R : γ → α → Prop} {ws : List γ} {xs : List α}

/-- If everything that corresponds to an item is read as something that corresponds to it as well,
then so is a list. -/
theorem exists_mapM_eq_ok {Q : γ → β → Prop} (h : List.Forall₂ R ws xs)
    (hf : ∀ w x, R w x → ∃ y, f x = .ok y ∧ Q w y) :
    ∃ ys, xs.mapM f = .ok ys ∧ List.Forall₂ Q ws ys := by
  simp only [mapM_eq_ok_iff]
  induction h with
  | nil => exact ⟨[], .nil, .nil⟩
  | cons hwx _ ih =>
    obtain ⟨y, hread, hq⟩ := hf _ _ hwx
    obtain ⟨ys, hreads, hqs⟩ := ih
    exact ⟨y :: ys, .cons hread hreads, .cons hq hqs⟩

/-- If everything that corresponds to an item is read as its value, then a list is read as the list
of values. -/
theorem mapM_eq_ok_map {g : γ → β} (h : List.Forall₂ R ws xs)
    (hf : ∀ w ∈ ws, ∀ x, R w x → f x = .ok (g w)) : xs.mapM f = .ok (ws.map g) := by
  rw [mapM_eq_ok_iff]
  induction h with
  | nil => exact .nil
  | cons hwx _ ih =>
    rw [List.forall_mem_cons] at hf
    exact .cons (hf.1 _ hwx) (ih hf.2)

end Along

end Readers

end VoxelScore.Except
