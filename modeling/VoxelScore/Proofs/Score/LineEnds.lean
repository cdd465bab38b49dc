import VoxelScore.Proofs.Mini.NormalForm
import VoxelScore.Proofs.Number.Numeral
import VoxelScore.Proofs.Script.BlockLineEnds
import VoxelScore.Proofs.Tone.Modes
import VoxelScore.Score

/-!
# Scores and line ends

What the blocks of a text are made of reads line ends as blanks, or not at all: bodies are cut into
words, a number ends in front of a line end, the root and the mode of a spec are trimmed, and what
is left inside of them belongs to no note name and to no name of a mode. So a carriage return in
front of every line feed of a code text changes nothing that is played.

## Main definitions

* `Part.PlaysLike`: parts that agree in everything but the text they were written as

## Main results

* `leadingNumber?_crlf`, `Modes.resolve_crlf`, `Mini.steps_crlf`: numbers, specs and bodies
* `Modifiers.ofText_crlf`: speed and scale
* `Score.ofCode_crlf`: the score of a code text
-/

namespace VoxelScore

open Text (crlf crlf_cons crlf_append crlf_newline crlf_of_not_mem)

variable {c : Char} {t : Text}

/-! ## Numbers -/

/-- Carriage returns stand in front of line feeds only, and neither stands in a numeral. -/
theorem Numeral.keeps_crlf : Keeps crlf where
  nil := rfl
  keep := by
    intro c r hc
    refine crlf_cons ?_ r
    rintro rfl
    cases hc
  stop := by
    intro c r hc
    by_cases hn : c = '\n'
    · rw [hn, crlf_newline]
      exact Text.stopsRun_cons rfl
    · rw [crlf_cons hn]
      exact Text.stopsRun_cons hc

/-- **The number that a text starts with** is the same. -/
theorem leadingNumber?_crlf (t : Text) : leadingNumber? (crlf t) = leadingNumber? t := by
  unfold leadingNumber?
  rw [Text.trimStart_crlf, Numeral.scan?_map Numeral.keeps_crlf, Option.map_map]
  rfl

/-! ## Scales -/

namespace Note

theorem digits?_of_newline (h : '\n' ∈ t) : digits? t = none := by
  have hall : t.all Char.isDigit = false := by
    rw [List.all_eq_false]
    exact ⟨'\n', h, by decide⟩
  simp [digits?, hall]

theorem octave?_of_newline (h : '\n' ∈ t) : octave? t = none := by
  unfold octave?
  split
  · simp at h
  · next r => rw [digits?_of_newline (by simpa using h)]; rfl
  · exact digits?_of_newline h

/-- A note name lies within one line. -/
theorem number?_of_newline (h : '\n' ∈ t) : number? t = none := by
  cases t with
  | nil => rfl
  | cons c r =>
    by_cases hc : c = '\n'
    · rw [hc]
      rfl
    · have hr : '\n' ∈ (splitAccidental r).2 := by
        have hr : '\n' ∈ r := (List.mem_cons.mp h).resolve_left (Ne.symm hc)
        unfold splitAccidental
        split <;> simp_all
      simp [number?, octave?_of_newline hr]

theorem number?_crlf (t : Text) : number? (crlf t) = number? t := by
  by_cases h : '\n' ∈ t
  · rw [number?_of_newline h, number?_of_newline (Text.newline_mem_crlf h)]
  · rw [crlf_of_not_mem h]

end Note

namespace Modes

variable {modes : Modes}

/-- A table without line ends in its names finds no name with one. -/
theorem get?_of_newline (h : ∀ e ∈ modes.entries, '\n' ∉ e.1) (ht : '\n' ∈ t) :
    get? modes t = none := by
  refine Option.eq_none_iff_forall_ne_some.mpr ?_
  intro i hi
  obtain ⟨e, he, hname, -⟩ := Table.exists_of_get?_eq_some hi
  have hn : '\n' ∈ Text.lower t := List.mem_map.mpr ⟨'\n', ht, rfl⟩
  rw [← hname] at hn
  exact h e he hn

theorem intervals_crlf (h : ∀ e ∈ modes.entries, '\n' ∉ e.1) (mode : Text) :
    intervals modes (crlf mode) = intervals modes mode := by
  by_cases hm : '\n' ∈ mode
  · unfold intervals
    rw [get?_of_newline h hm, get?_of_newline h (Text.newline_mem_crlf hm)]
  · rw [crlf_of_not_mem hm]

/-- **The scale of a spec** is the same, unless a mode has a name with a line end. -/
theorem resolve_crlf (h : ∀ e ∈ modes.entries, '\n' ∉ e.1) (spec : Text) :
    resolve modes (crlf spec) = resolve modes spec := by
  have hparts : (Text.splitOnce? ':' (crlf spec)).getD (crlf spec, []) =
      (crlf ((Text.splitOnce? ':' spec).getD (spec, [])).1,
        crlf ((Text.splitOnce? ':' spec).getD (spec, [])).2) := by
    rw [Text.splitOnce?_crlf (by decide) (by decide)]
    cases Text.splitOnce? ':' spec <;> rfl
  have hempty : ∀ mode : Text, (crlf mode).isEmpty = mode.isEmpty := by
    intro mode
    rw [Bool.eq_iff_iff, List.isEmpty_iff, List.isEmpty_iff, Text.crlf_eq_nil_iff]
  unfold resolve
  simp only [hparts, Text.trim_crlf, Note.number?_crlf, hempty]
  split
  · rfl
  · rw [intervals_crlf h]

end Modes

/-! ## Bodies -/

namespace Mini

/-- A line end is a run of separators in the place of a line feed. -/
theorem respaced_crlf (body : Text) : Respaced body (crlf body) := by
  induction body using Script.line_induction with
  | last l hl =>
    rw [crlf_of_not_mem hl]
    exact .last l
  | line l r hl ih =>
    have hrun : ∀ d ∈ ['\r', '\n'], isSeparator d :=
      List.forall_mem_cons.mpr ⟨rfl, List.forall_mem_singleton.mpr rfl⟩
    have hline := Respaced.separator l (c := '\n') rfl (List.cons_ne_nil _ _) hrun ih
    rw [crlf_append, crlf_newline, crlf_of_not_mem hl]
    rwa [List.append_assoc] at hline

/-- **The steps of a body** are the same. -/
theorem steps_crlf (body : Text) : steps (crlf body) = steps body := by
  unfold steps figures
  rw [normalize_respaced (respaced_crlf body)]

end Mini

/-! ## Modifiers -/

namespace Modifiers

variable {modes : Modes}

theorem factor_crlf (call : Script.Call) : factor call.crlf = factor call := by
  unfold factor
  rw [show call.crlf.raw = crlf call.raw from rfl, leadingNumber?_crlf]

theorem factorOf_crlf (calls : List Script.Call) (name : Text) :
    factorOf (calls.map Script.Call.crlf) name = factorOf calls name := by
  unfold factorOf
  rw [List.find?_map, Option.map_map,
    show factor ∘ Script.Call.crlf = factor from funext factor_crlf]
  rfl

theorem scaleOf?_crlf (h : ∀ e ∈ modes.entries, '\n' ∉ e.1) (call : Script.Call) :
    scaleOf? modes call.crlf = scaleOf? modes call := by
  rcases call with ⟨name, arguments, raw⟩
  rcases arguments with _ | ⟨⟨gap, lexeme, token⟩, _ | ⟨second, arguments⟩⟩
  · rfl
  · cases token with
    | literal spec => exact congrArg some (Modes.resolve_crlf h spec)
    | _ => rfl
  · simp [scaleOf?, Script.Call.crlf]

/-- **The modifiers of a text** are the same. -/
theorem ofText_crlf (h : ∀ e ∈ modes.entries, '\n' ∉ e.1) (t : Text) :
    ofText modes (crlf t) = ofText modes t := by
  unfold ofText ofCalls
  rw [Script.Call.ofText_crlf, factorOf_crlf, factorOf_crlf, List.find?_map, Option.bind_map,
    show scaleOf? modes ∘ Script.Call.crlf = scaleOf? modes from funext (scaleOf?_crlf h)]
  rfl

end Modifiers

/-! ## Scores -/

/-- Parts that agree in everything but the text that they were written as. -/
structure Part.PlaysLike (p q : Part) : Prop where
  kind : p.block.kind = q.block.kind
  lane : p.lane = q.lane
  steps : p.steps = q.steps
  rate : p.rate = q.rate
  slots : p.slots = q.slots
  scale : p.scale = q.scale

namespace Part

variable {p q : Part} {modes : Modes}

/-- Such parts are played on the same grid. -/
theorem PlaysLike.grid (h : p.PlaysLike q) : p.grid = q.grid := by
  unfold Part.grid
  rw [h.steps, h.rate, h.kind, h.scale, h.lane]

theorem playsLike_crlf (h : ∀ e ∈ modes.entries, '\n' ∉ e.1) (b : Script.Block) (lane : Nat) :
    (ofBlock modes b.crlf lane).PlaysLike (ofBlock modes b lane) := by
  have hmodifiers : Modifiers.ofText modes b.crlf.modifiers = Modifiers.ofText modes b.modifiers :=
    Modifiers.ofText_crlf h b.modifiers
  have hsteps : Mini.steps b.crlf.body = Mini.steps b.body := Mini.steps_crlf b.body
  refine ⟨rfl, rfl, hsteps, ?_, ?_, ?_⟩
  · simp only [ofBlock, hmodifiers]
  · simp only [Part.slots, ofBlock, hmodifiers, hsteps]
  · simp only [ofBlock, hmodifiers]

end Part

namespace Score

theorem partsOf_crlf {modes : Modes} (h : ∀ e ∈ modes.entries, '\n' ∉ e.1) (code : Text) :
    List.Forall₂ Part.PlaysLike (partsOf modes (crlf code)) (partsOf modes code) := by
  unfold partsOf
  rw [Script.blocks_crlf, List.forall₂_iff_get]
  refine ⟨by simp, ?_⟩
  intro i hi hi'
  simp only [List.get_eq_getElem, List.getElem_mapIdx, List.getElem_map]
  exact Part.playsLike_crlf h _ _

/-- Parts that agree in all that is played have the same events. -/
theorem eventsOf_congr {ps qs : List Part} (h : List.Forall₂ Part.PlaysLike ps qs) (cycles : Nat) :
    eventsOf cycles ps = eventsOf cycles qs := by
  unfold eventsOf
  induction h with
  | nil => rfl
  | cons hpq _ ih => rw [List.flatMap_cons, List.flatMap_cons, hpq.grid, ih]

/-- The description of a code text shows its blanks as spaces, so that it shows no line ends. -/
theorem describe_crlf (label : String) (code : Text) :
    Source.describe label (crlf code) = Source.describe label code := by
  unfold Source.describe
  rw [Text.squeeze_crlf]

/-- **Line ends do not matter.** Whatever stands on the lines of a code text, with a carriage return
in front of every line feed it has the same status line, as many parts that agree lane by lane in
kind, steps, rate, slots and scale, and the same events, unless a mode has a name with a line feed
in it. -/
theorem ofCode_crlf (options : Options) (h : ∀ e ∈ options.modes.entries, '\n' ∉ e.1)
    (code : Text) :
    (ofCode options (crlf code)).status = (ofCode options code).status ∧
      List.Forall₂ Part.PlaysLike (ofCode options (crlf code)).parts (ofCode options code).parts ∧
      (ofCode options (crlf code)).events = (ofCode options code).events := by
  have hparts := partsOf_crlf h code
  refine ⟨?_, hparts, eventsOf_congr hparts options.cycles⟩
  show Source.statusLine (Source.describe "inline" (crlf code))
      (partsOf options.modes (crlf code)).length =
    Source.statusLine (Source.describe "inline" code) (partsOf options.modes code).length
  rw [describe_crlf, hparts.length_eq]

/-- Line ends behind a backslash, in a comment, between calls and in a spec. -/
theorem ofCode_crlf_escaped :
    (∀ e ∈ Options.default.modes.entries, '\n' ∉ e.1) ∧
      Script.statementBlocks "$: n('0\\\r\n 2' // (\r\n)\r\n.scale('d:\r\nminor')".toList =
        [⟨.degree, "0\r\n 2".toList, "\r\n.scale('d:\r\nminor')".toList⟩] ∧
      (ofCode .default "$: n('0\\\r\n 2' // (\r\n)\r\n.scale('d:\r\nminor')".toList).events =
        (ofCode .default "$: n('0\\\n 2' // (\n)\n.scale('d:\nminor')".toList).events := by
  have hnames : ∀ e ∈ Options.default.modes.entries, '\n' ∉ e.1 := by decide
  have htext : crlf "$: n('0\\\n 2' // (\n)\n.scale('d:\nminor')".toList =
      "$: n('0\\\r\n 2' // (\r\n)\r\n.scale('d:\r\nminor')".toList := by rfl
  obtain ⟨-, -, hevents⟩ := ofCode_crlf .default hnames
    "$: n('0\\\n 2' // (\n)\n.scale('d:\nminor')".toList
  rw [htext] at hevents
  exact ⟨hnames, by decide +kernel, hevents⟩

end Score

end VoxelScore
