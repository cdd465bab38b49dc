/-!
# Texts

Pattern code, payloads and names are *texts*: lists of characters, consumed from the front by
every scanner of the library, so that a statement about scanning is a statement about lists.

## Main definitions

* `Text` — a list of characters.
* `Text.lower` — small ASCII letters for capital ones, all else kept.
* `Text.splitOnce?`, `Text.splitLast?` — what stands before and after the first and the last
  separator.
* `Text.byteLength` — the length in UTF-8 bytes, in which token spans are counted.
-/

namespace VoxelScore

/-- A text is the list of its characters. -/
abbrev Text := List Char

namespace Text

/-- Capital ASCII letters become small ones; every other character stays as it is. -/
def lower (t : Text) : Text :=
  t.map Char.toLower

/-- The text before and the text after the first occurrence of `separator`, if it occurs. -/
def splitOnce? (separator : Char) : Text → Option (Text × Text)
  | [] => none
  | c :: r =>
    if c = separator then some ([], r)
    else (splitOnce? separator r).map fun (before, after) => (c :: before, after)

/-- The text before and the text after the last occurrence of `separator`, if it occurs. -/
def splitLast? (separator : Char) (t : Text) : Option (Text × Text) :=
  (splitOnce? separator t.reverse).map fun (after, before) => (before.reverse, after.reverse)

/-- The number of bytes of the text in UTF-8. -/
def byteLength (t : Text) : Nat :=
  t.foldr (fun c n => c.utf8Size + n) 0

/-- The text without the characters of `p` at its end. -/
def dropEndWhile (p : Char → Bool) (t : Text) : Text :=
  (t.reverse.dropWhile p).reverse

@[simp]
theorem byteLength_nil : byteLength [] = 0 := rfl

@[simp]
theorem byteLength_cons (c : Char) (t : Text) :
    byteLength (c :: t) = c.utf8Size + byteLength t := rfl

@[simp]
theorem byteLength_append (s t : Text) : byteLength (s ++ t) = byteLength s + byteLength t := by
  induction s with
  | nil => simp
  | cons c s ih => simp [ih, Nat.add_assoc]

/-- Splitting loses nothing but the separator. -/
theorem eq_of_splitOnce? {separator : Char} {t before after : Text}
    (h : t.splitOnce? separator = some (before, after)) :
    t = before ++ separator :: after := by
  induction t generalizing before after with
  | nil => simp [splitOnce?] at h
  | cons c r ih =>
    rw [splitOnce?] at h
    split at h
    · next hc =>
      obtain ⟨rfl, rfl⟩ : [] = before ∧ r = after := by simpa using h
      simp [hc]
    · obtain ⟨⟨before', after'⟩, hr, he⟩ := Option.map_eq_some_iff.1 h
      obtain ⟨rfl, rfl⟩ : c :: before' = before ∧ after' = after := by simpa using he
      simp [← ih hr]

/-- The first separator ends a text without separators. -/
theorem splitOnce?_append {separator : Char} {before : Text} (h : separator ∉ before)
    (after : Text) :
    splitOnce? separator (before ++ separator :: after) = some (before, after) := by
  induction before with
  | nil => exact if_pos rfl
  | cons c before ih =>
    have hc : c ≠ separator := fun he => h (he ▸ List.mem_cons_self)
    have hbefore : separator ∉ before := fun hm => h (List.mem_cons_of_mem c hm)
    rw [List.cons_append, splitOnce?, if_neg hc, ih hbefore]
    rfl

theorem splitOnce?_eq_none {separator : Char} {t : Text} (h : separator ∉ t) :
    splitOnce? separator t = none := by
  cases hs : splitOnce? separator t with
  | none => rfl
  | some parts => exact absurd (by simp [eq_of_splitOnce? hs]) h

/-- Splitting at the last separator loses nothing else either. -/
theorem eq_of_splitLast? {separator : Char} {t before after : Text}
    (h : t.splitLast? separator = some (before, after)) :
    t = before ++ separator :: after := by
  obtain ⟨⟨tail, front⟩, hs, he⟩ := Option.map_eq_some_iff.1 h
  obtain ⟨rfl, rfl⟩ : front.reverse = before ∧ tail.reverse = after := by
    simpa only [Prod.mk.injEq] using he
  rw [← List.reverse_reverse t, eq_of_splitOnce? hs]
  simp

end Text

end VoxelScore
