import VoxelScore.Proofs.Script.Joining

/-!
# Code texts by sections

A code text is its lead and, for every marker line, a *section*: the marker line and the lines behind
it up to the next marker line. A statement is what its section holds behind the marker, trimmed, so
that no character of the text is lost or taken into two statements. Only the start of a line can
begin a section, whatever literal or comment the line stands in; a marker further on in a line
belongs to the section around it.

## Main definitions

* `AreLines`: lists of lines, each of which but perhaps the last ends in a line break
* `IsMarkerLine`: the lines whose first characters that are not blank are a marker
* `Section`: a marker line and the lines behind it
* `Sectioned`: a list of lines as a lead and sections

## Main results

* `lines_eq_iff`: the lines of a text are the only cut of the text into lines
* `afterMarker?_eq_some_iff`: what stands behind the marker of a line
* `exists_sectioned`: the split of lines is that into sections
* `statements_partition`: the sections of a text and its statements
-/

namespace VoxelScore.Script

variable {a b l body t : Text} {ls ms : List Text}

/-! ## Lines -/

/-- **Lines of a text**: each ends in a line break, its only one, except that the last line may lack
it. No line is empty. -/
inductive AreLines : List Text → Prop
  | nil : AreLines []
  | last {l : Text} (ne_nil : l ≠ []) (unbroken : '\n' ∉ l) : AreLines [l]
  | cons {l : Text} {ls : List Text} (unbroken : '\n' ∉ l) (behind : AreLines ls) :
      AreLines ((l ++ ['\n']) :: ls)

theorem areLines_lines (t : Text) : AreLines (lines t) := by
  induction t using line_induction with
  | last l hl =>
    rcases eq_or_ne l [] with rfl | hne
    · exact .nil
    · rw [lines_of_not_mem hl hne]
      exact .last hne hl
  | line l r hl ih =>
    rw [lines_append_newline hl]
    exact .cons hl ih

theorem AreLines.lines_flatten (h : AreLines ls) : lines ls.flatten = ls := by
  induction h with
  | nil => rfl
  | last hne hl => rw [List.flatten_singleton, lines_of_not_mem hl hne]
  | @cons l ls hl _ ih =>
    rw [List.flatten_cons, List.append_assoc, List.singleton_append, lines_append_newline hl, ih]

/-- **The lines of a text are its only cut into lines.** -/
theorem lines_eq_iff : lines t = ls ↔ AreLines ls ∧ ls.flatten = t := by
  constructor
  · rintro rfl
    exact ⟨areLines_lines t, flatten_lines t⟩
  · rintro ⟨h, rfl⟩
    exact h.lines_flatten

theorem AreLines.tail (h : AreLines (l :: ls)) : AreLines ls := by
  cases h with
  | last => exact .nil
  | cons _ behind => exact behind

theorem AreLines.right (h : AreLines (ls ++ ms)) : AreLines ms := by
  induction ls with
  | nil => exact h
  | cons l ls ih => exact ih h.tail

theorem AreLines.left (h : AreLines (ls ++ ms)) : AreLines ls := by
  induction ls with
  | nil => exact .nil
  | cons l ls ih =>
    have behind := ih h.tail
    rw [List.cons_append] at h
    generalize hwhole : ls ++ ms = whole at h
    cases h with
    | last hne hl =>
      rw [(List.append_eq_nil_iff.mp hwhole).1]
      exact .last hne hl
    | cons hl _ => exact .cons hl behind

/-- The first line may start later. -/
theorem AreLines.of_append (h : AreLines ((a ++ b) :: ls)) (hb : b ≠ []) : AreLines (b :: ls) := by
  generalize hfirst : a ++ b = first at h
  cases h with
  | last _ hl =>
    refine .last hb fun hm => hl ?_
    rw [← hfirst]
    exact List.mem_append_right a hm
  | @cons l _ hl behind =>
    -- the line break that ends the line ends what is left of it
    obtain ⟨init, last, rfl⟩ := List.eq_nil_or_concat b |>.resolve_left hb
    rw [List.concat_eq_append, ← List.append_assoc] at hfirst
    obtain ⟨rfl, hlast⟩ := List.append_inj' hfirst rfl
    rw [List.concat_eq_append, hlast]
    exact .cons (fun hm => hl (List.mem_append_right a hm)) behind

/-- A line without a line break at its end is the last one. -/
theorem AreLines.eq_nil_of_concat {c : Char} (h : AreLines ((a ++ [c]) :: ls)) (hc : c ≠ '\n') :
    ls = [] := by
  generalize hfirst : a ++ [c] = first at h
  cases h with
  | last => rfl
  | cons =>
    obtain ⟨-, hlast⟩ := List.append_inj' hfirst rfl
    exact absurd (List.head_eq_of_cons_eq hlast) hc

/-! ## Marker lines -/

/-- **A marker line**: blanks, if any, and then the marker. -/
def IsMarkerLine (l : Text) : Prop :=
  ∃ indent rest, Text.IsBlankText indent ∧ l = indent ++ "$:".toList ++ rest

/-- What stands behind the marker of a line is all of the line behind blanks and the marker. -/
theorem afterMarker?_eq_some_iff :
    afterMarker? l = some body ↔
      ∃ indent, Text.IsBlankText indent ∧ l = indent ++ "$:".toList ++ body := by
  unfold afterMarker?
  rw [List.isPrefixOf?_eq_some_iff_append_eq]
  constructor
  · intro h
    refine ⟨l.takeWhile Text.isBlank, fun c => List.mem_takeWhile_imp, ?_⟩
    rw [List.append_assoc, h]
    exact List.takeWhile_append_dropWhile.symm
  · rintro ⟨indent, hindent, rfl⟩
    -- the marker is not blank, so that the indentation ends in front of it
    have stops : Text.StopsRun Text.isBlank ("$:".toList ++ body) := Text.stopsRun_cons rfl
    rw [Text.trimStart, List.append_assoc, Text.dropWhile_run_append hindent stops]

theorem isMarkerLine_iff : IsMarkerLine l ↔ (afterMarker? l).isSome := by
  rw [Option.isSome_iff_exists]
  constructor
  · rintro ⟨indent, rest, hindent, he⟩
    exact ⟨rest, afterMarker?_eq_some_iff.mpr ⟨indent, hindent, he⟩⟩
  · rintro ⟨rest, h⟩
    obtain ⟨indent, hindent, he⟩ := afterMarker?_eq_some_iff.mp h
    exact ⟨indent, rest, hindent, he⟩

instance (l : Text) : Decidable (IsMarkerLine l) := decidable_of_iff _ isMarkerLine_iff.symm

theorem filter_unmarked (h : ∀ l ∈ ls, ¬ IsMarkerLine l) : ls.filter (IsMarkerLine ·) = [] :=
  List.filter_eq_nil_iff.mpr fun l hl => decide_eq_true_iff.not.mpr (h l hl)

/-! ## Sections -/

/-- A marker line, taken apart at its marker, and the lines behind it. -/
structure Section where
  indent : Text
  /-- What stands behind the marker on its line. -/
  first : Text
  /-- The other lines. -/
  others : List Text

namespace Section

/-- The marker line of the section. -/
def markerLine (s : Section) : Text := s.indent ++ "$:".toList ++ s.first

/-- The lines of the section. -/
def lines (s : Section) : List Text := s.markerLine :: s.others

/-- What the section holds behind its marker. -/
def raw (s : Section) : Text := s.first ++ s.others.flatten

/-- The section begins with blanks and a marker, and no other line of it is a marker line. -/
structure IsSound (s : Section) : Prop where
  blank : Text.IsBlankText s.indent
  unmarked : ∀ l ∈ s.others, ¬ IsMarkerLine l

variable {s : Section}

theorem IsSound.isMarkerLine (h : s.IsSound) : IsMarkerLine s.markerLine :=
  ⟨s.indent, s.first, h.blank, rfl⟩

theorem flatten_lines (s : Section) : s.lines.flatten = s.indent ++ "$:".toList ++ s.raw := by
  rw [lines, List.flatten_cons, markerLine, raw, List.append_assoc]

/-- A section has one marker line, its first line. -/
theorem IsSound.filter_lines (h : s.IsSound) :
    s.lines.filter (IsMarkerLine ·) = [s.markerLine] := by
  rw [lines, List.filter_cons, if_pos (decide_eq_true h.isMarkerLine), filter_unmarked h.unmarked]

/-- Behind the marker, all lines but the first are the other lines of the section. -/
theorem tail_lines_raw (h : AreLines s.lines) : (Script.lines s.raw).tail = s.others := by
  rcases eq_or_ne s.first [] with hnil | hne
  · -- a marker at the end of its line is the end of the text
    have hlines : s.lines = ((s.indent ++ ['$']) ++ [':']) :: s.others := by
      rw [lines, markerLine, hnil, List.append_nil, List.append_assoc]
      rfl
    rw [hlines] at h
    rw [raw, hnil, h.eq_nil_of_concat (by decide)]
    rfl
  · have hraw : AreLines (s.first :: s.others) := AreLines.of_append h hne
    rw [raw, ← List.flatten_cons, hraw.lines_flatten, List.tail_cons]

end Section

/-! ## The split by sections -/

/-- **Lines by sections**: lines without markers, which make up the lead, and sections, which hold the
raw statements. -/
structure Sectioned (ls : List Text) (m : Marked) (before : List Text)
    (sections : List Section) : Prop where
  lines : ls = before ++ sections.flatMap Section.lines
  unmarked : ∀ l ∈ before, ¬ IsMarkerLine l
  sound : ∀ s ∈ sections, s.IsSound
  lead : m.lead = before.flatten
  raw : m.raw = sections.map Section.raw

/-- **The split of lines is that into sections.** -/
theorem exists_sectioned (ls : List Text) :
    ∃ before sections, Sectioned ls (Marked.ofLines ls) before sections := by
  induction ls with
  | nil => exact ⟨[], [], rfl, by simp, by simp, rfl, rfl⟩
  | cons l ls ih =>
    obtain ⟨before, sections, ih⟩ := ih
    rw [Marked.ofLines_cons]
    cases hl : afterMarker? l with
    | none =>
      -- one line more in front of the first section
      have hunmarked : ¬ IsMarkerLine l := by simp [isMarkerLine_iff, hl]
      refine ⟨l :: before, sections, ?_, ?_, ih.sound, ?_, ?_⟩
      · rw [ih.lines, List.cons_append]
      · exact List.forall_mem_cons.mpr ⟨hunmarked, ih.unmarked⟩
      · simp [Marked.cons, hl, ih.lead]
      · simp [Marked.cons, hl, ih.raw]
    | some body =>
      -- the lines so far without a marker are the other lines of a new section
      obtain ⟨indent, hindent, he⟩ := afterMarker?_eq_some_iff.mp hl
      refine ⟨[], ⟨indent, body, before⟩ :: sections, ?_, by simp, ?_, ?_, ?_⟩
      · rw [ih.lines, he]
        rfl
      · exact List.forall_mem_cons.mpr ⟨⟨hindent, ih.unmarked⟩, ih.sound⟩
      · simp [Marked.cons, hl]
      · simp [Marked.cons, hl, ih.lead, ih.raw, Section.raw]

namespace Sectioned

variable {m : Marked} {before : List Text} {sections : List Section} {s : Section}

/-- The marker lines are the first lines of the sections. -/
theorem filter_lines (h : Sectioned ls m before sections) :
    ls.filter (IsMarkerLine ·) = sections.map Section.markerLine := by
  rw [h.lines, List.filter_append, filter_unmarked h.unmarked, List.nil_append,
    List.filter_flatMap, List.flatMap_congr fun s hs => (h.sound s hs).filter_lines,
    List.map_eq_flatMap]

/-- The lead ends where the first marker line starts. -/
theorem takeWhile_lines (h : Sectioned ls m before sections) :
    ls.takeWhile (¬ IsMarkerLine ·) = before := by
  have hbefore : ∀ l ∈ before, decide (¬ IsMarkerLine l) = true :=
    fun l hl => decide_eq_true (h.unmarked l hl)
  rw [h.lines, List.takeWhile_append_of_pos hbefore]
  cases hsections : sections with
  | nil => exact List.append_nil before
  | cons s rest =>
    have hs : s.IsSound := h.sound s (hsections ▸ List.mem_cons_self)
    rw [List.flatMap_cons, Section.lines, List.cons_append,
      List.takeWhile_cons_of_neg (by simpa using hs.isMarkerLine), List.append_nil]

/-- Lead and sections make up the text. -/
theorem flatten_lines (h : Sectioned ls m before sections) :
    ls.flatten = m.lead ++ sections.flatMap fun s => s.indent ++ "$:".toList ++ s.raw := by
  have hsections : (sections.flatMap Section.lines).flatten =
      sections.flatMap fun s => s.indent ++ "$:".toList ++ s.raw := by
    rw [← List.flatMap_id, List.flatMap_assoc]
    simp only [List.flatMap_id, Section.flatten_lines]
  rw [h.lines, List.flatten_append, h.lead, hsections]

theorem areLines (h : Sectioned ls m before sections) (hls : AreLines ls) (hs : s ∈ sections) :
    AreLines s.lines := by
  obtain ⟨front, back, rfl⟩ := List.append_of_mem hs
  rw [h.lines, List.flatMap_append, List.flatMap_cons] at hls
  exact hls.right.right.left

end Sectioned

/-- **A code text is its lead and its sections.** With lines cut behind every line break, the lead is
all that stands before the first marker line, and the whole text if there is none. There is one
section for every marker line, in order, which starts with the indentation and the marker and goes
on to the next marker line; one behind the other, lead and sections are the text. The statements are
what the sections hold behind their markers, trimmed, and no later line of these is a marker line. -/
theorem statements_partition (t : Text) :
    (AreLines (lines t) ∧ (lines t).flatten = t) ∧
      (Marked.ofText t).lead = ((lines t).takeWhile (¬ IsMarkerLine ·)).flatten ∧
      ((∀ l ∈ lines t, ¬ IsMarkerLine l) → (Marked.ofText t).lead = t ∧ statements t = []) ∧
      ∃ sections : List Section,
        (lines t).filter (IsMarkerLine ·) = sections.map Section.markerLine ∧
        lines t = (lines t).takeWhile (¬ IsMarkerLine ·) ++
          sections.flatMap (fun s => s.markerLine :: s.others) ∧
        t = (Marked.ofText t).lead ++
          sections.flatMap (fun s => s.indent ++ "$:".toList ++ s.raw) ∧
        (Marked.ofText t).raw = sections.map Section.raw ∧
        statements t = sections.map (fun s => Text.trim s.raw) ∧
        ∀ s ∈ sections, Text.IsBlankText s.indent ∧ (∀ l ∈ s.others, ¬ IsMarkerLine l) ∧
          ∀ l ∈ (lines s.raw).tail, ¬ IsMarkerLine l := by
  obtain ⟨before, sections, h⟩ := exists_sectioned (lines t)
  have hlead := h.takeWhile_lines
  have htext : t = (Marked.ofText t).lead ++
      sections.flatMap (fun s => s.indent ++ "$:".toList ++ s.raw) :=
    (Script.flatten_lines t).symm.trans h.flatten_lines
  have hstatements : statements t = sections.map (fun s => Text.trim s.raw) := by
    unfold statements
    rw [show (Marked.ofText t).raw = _ from h.raw, List.map_map]
    rfl
  refine ⟨⟨areLines_lines t, Script.flatten_lines t⟩, ?_, ?_, sections, h.filter_lines, ?_, htext,
    h.raw, hstatements, ?_⟩
  · rw [hlead]
    exact h.lead
  · intro hnone
    -- without a marker line there is no section
    have hsections : sections = [] := by
      have hfilter := h.filter_lines
      rw [filter_unmarked hnone] at hfilter
      exact List.map_eq_nil_iff.mp hfilter.symm
    rw [hsections] at htext hstatements
    rw [List.flatMap_nil, List.append_nil] at htext
    exact ⟨htext.symm, hstatements⟩
  · rw [hlead]
    exact h.lines
  · intro s hs
    have hsound := h.sound s hs
    refine ⟨hsound.blank, hsound.unmarked, ?_⟩
    rw [Section.tail_lines_raw (h.areLines (areLines_lines t) hs)]
    exact hsound.unmarked

/-- Two sections: the first holds a marker on its line and one in a comment, the last nothing. -/
theorem statements_partition_markers :
    ∃ sections : List Section,
      sections.map Section.markerLine = [" $: c $: d\n".toList, "$:".toList] ∧
        "a $: b\n $: c $: d\n\n// $: e\n$:".toList = "a $: b\n".toList ++
          sections.flatMap (fun s => s.indent ++ "$:".toList ++ s.raw) ∧
        sections.map (fun s => Text.trim s.raw) = ["c $: d\n\n// $: e".toList, []] ∧
        ∀ s ∈ sections, ∀ l ∈ (lines s.raw).tail, ¬ IsMarkerLine l := by
  obtain ⟨-, -, -, sections, hmarkers, -, htext, -, hstatements, hsections⟩ :=
    statements_partition "a $: b\n $: c $: d\n\n// $: e\n$:".toList
  refine ⟨sections, hmarkers.symm.trans ?_, htext, hstatements.symm.trans ?_, ?_⟩
  · decide +kernel
  · decide +kernel
  · exact fun s hs => (hsections s hs).2.2

end VoxelScore.Script
