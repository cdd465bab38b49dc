import Mathlib
import VoxelScore.Proofs.Number.Value
import VoxelScore.Proofs.Tone.Ladder

/-!
# Degrees between the rungs

A fractional degree goes on from the whole degree below it by a part of a span. The span ends at the
next step, an octave higher behind the last step, and the octave of the degree is added to its end
but not to its start. In the octave of the root that is the next rung. In the octaves above the end
is higher than that, so that a fraction may be played above the next whole degree, and in the
octaves below it is no higher than the rung itself.

This is said of the sums and products without rounding: the pitch is computed once over numbers of
any kind, which are doubles where it is played and rational numbers here.

## Main definitions

* `Scale.pitchIn`: the pitch of a degree over numbers of any kind
* `Scale.interpolated`: the straight line from each rung to the next one
* `Scale.Interpolates`: what fractions of degrees do in each octave

## Main results

* `Scale.pitch_eq_pitchIn`: over doubles it is the pitch that is played
* `Scale.pitchIn_rationals`: over rational numbers it goes on by a part of the span
* `Scale.interpolated_strictMono`: the straight line rises
* `Scale.pitchIn_interpolates`: fractions stay between the rungs in the octave of the root only
-/

namespace VoxelScore

/-! ## Octaves of neighbours -/

/-- The octave changes behind the last step. -/
theorem Intervals.octave_add_one (i : Intervals) (degree : ℤ) :
    i.octave (degree + 1) = i.octave degree + if i.index degree + 1 ≥ i.size then 1 else 0 := by
  have hdivide := i.size_mul_octave_add_index degree
  have hindex := i.index_lt degree
  split
  · next hlast =>
    refine (i.octave_index_eq i.size_pos ?_).1
    rw [mul_add]
    omega
  · next hwithin =>
    rw [add_zero]
    refine (i.octave_index_eq (r := i.index degree + 1) (by omega) ?_).1
    omega

namespace Scale

variable (s : Scale)

/-- The next rung is at most an octave higher. -/
theorem rung_add_one_le (degree : ℤ) : s.rung (degree + 1) ≤ s.rung degree + 12 := by
  have hpos := s.intervals.size_pos
  rw [← s.rung_add_size]
  exact s.rung_strictMono.monotone (by omega)

/-- Every rung is a semitone higher at least. -/
theorem rung_zero_add_le (k : ℕ) : s.rung 0 + k ≤ s.rung k := by
  induction k with
  | zero => simp
  | succ k ih =>
    have hrises := s.rung_lt_rung_add_one k
    push_cast
    omega

/-- An octave has no more steps than semitones. -/
theorem size_le : s.intervals.size ≤ 12 := by
  have hrises := s.rung_zero_add_le s.intervals.size
  have hoctave := s.rung_add_size 0
  rw [zero_add] at hoctave
  omega

/-- What a fraction of a degree goes on by a part of: the way to the next rung, and the octave. -/
def span (degree : ℤ) : ℤ :=
  s.rung (degree + 1) - s.rung degree + 12 * s.intervals.octave degree

theorem span_eq (degree : ℤ) :
    s.span degree = s.intervals.semitones (degree + 1) + 12 * s.intervals.octave degree +
      (if s.intervals.index degree + 1 ≥ s.intervals.size then 12 else 0) -
        s.intervals.semitones degree := by
  unfold span rung
  rw [s.intervals.octave_add_one]
  split <;> ring

/-- From the octave of the root on a span leads upwards, and below it does not. -/
theorem span_pos_iff (degree : ℤ) : 0 < s.span degree ↔ 0 ≤ s.intervals.octave degree := by
  have hrises := s.rung_lt_rung_add_one degree
  have hoctave := s.rung_add_one_le degree
  unfold span
  constructor
  · intro h
    omega
  · intro h
    omega

end Scale

/-! ## Pitches over numbers of any kind -/

namespace Scale

section

variable {K : Type} [Add K] [Sub K] [Mul K] [OfScientific K] [BEq K]

/-- **The pitch of a degree over numbers of any kind.** -/
def pitchIn (numbers : Numbers K) (s : Scale) (degree : K) : K :=
  let fraction := degree - numbers.floor degree
  let whole := numbers.floorWithin degreeLow degreeHigh degree
  let interval := numbers.ofInt (s.intervals.semitones whole)
  let octave := 12.0 * numbers.ofInt (s.intervals.octave whole)
  let base := numbers.ofInt s.root + interval + octave
  if fraction == 0.0 then base
  else
    let wrap := if s.intervals.index whole + 1 ≥ s.intervals.size then 12.0 else 0.0
    base + fraction *
      (numbers.ofInt (s.intervals.semitones (whole + 1)) + octave + wrap - interval)

end

/-- **Over doubles it is the pitch that is played.** -/
theorem pitch_eq_pitchIn (s : Scale) (degree : Float) :
    s.pitch degree = s.pitchIn .doubles degree := rfl

/-- The whole degree below a fractional one, brought into the range of degrees. -/
def wholeBelow (degree : ℚ) : ℤ := clamp degreeLow degreeHigh ⌊degree⌋

variable (s : Scale) {d e : ℚ} {n : ℤ}

/-- **Over rational numbers a fraction goes on by a part of the span.** -/
theorem pitchIn_rationals (d : ℚ) :
    s.pitchIn .rationals d = s.rung (wholeBelow d) + Int.fract d * s.span (wholeBelow d) := by
  have htwelve : (12.0 : ℚ) = 12 := by norm_num
  have hzero : (0.0 : ℚ) = 0 := by norm_num
  have hfraction : d - (⌊d⌋ : ℤ) = Int.fract d := rfl
  unfold pitchIn
  simp only [Numbers.rationals, htwelve, hzero, hfraction]
  rw [wholeBelow, span_eq, rung]
  -- without a fraction the span is not computed, and with one it is the sum of its parts
  by_cases h : Int.fract d = 0
  · rw [h, beq_self_eq_true, if_pos rfl]
    push_cast
    ring
  · rw [if_neg (by simpa using h)]
    by_cases hlast : s.intervals.index (clamp degreeLow degreeHigh ⌊d⌋) + 1 ≥ s.intervals.size
    · rw [if_pos hlast, if_pos hlast]
      push_cast
      ring
    · rw [if_neg hlast, if_neg hlast]
      push_cast
      ring

/-- A whole degree has no fraction. -/
theorem pitchIn_rationals_intCast (n : ℤ) :
    s.pitchIn .rationals n = s.rung (clamp degreeLow degreeHigh n) := by
  rw [pitchIn_rationals, wholeBelow, Int.floor_intCast, Int.fract_intCast, zero_mul, add_zero]

/-- What a fraction adds to the pitch of the whole degree below it. -/
theorem pitchIn_rationals_eq_add (d : ℚ) :
    s.pitchIn .rationals d =
      s.pitchIn .rationals ⌊d⌋ + Int.fract d * s.span (wholeBelow d) := by
  rw [pitchIn_rationals_intCast, pitchIn_rationals]
  rfl

/-! ## The straight line -/

/-- **The straight line** from each rung to the next one. -/
def interpolated (d : ℚ) : ℚ :=
  s.rung ⌊d⌋ + Int.fract d * (s.rung (⌊d⌋ + 1) - s.rung ⌊d⌋)

theorem rung_le_interpolated (d : ℚ) : s.rung ⌊d⌋ ≤ s.interpolated d := by
  have hrises : (s.rung ⌊d⌋ : ℚ) ≤ s.rung (⌊d⌋ + 1) := by
    exact_mod_cast (s.rung_lt_rung_add_one ⌊d⌋).le
  have hfract := mul_nonneg (Int.fract_nonneg d) (sub_nonneg.mpr hrises)
  unfold interpolated
  linarith

theorem interpolated_lt_rung (d : ℚ) : s.interpolated d < s.rung (⌊d⌋ + 1) := by
  have hrises : (s.rung ⌊d⌋ : ℚ) < s.rung (⌊d⌋ + 1) := by
    exact_mod_cast s.rung_lt_rung_add_one ⌊d⌋
  have hfract := mul_lt_mul_of_pos_right (Int.fract_lt_one d) (sub_pos.mpr hrises)
  unfold interpolated
  linarith

/-- **The straight line rises**: within a step by its fraction, and from step to step by the
rungs. -/
theorem interpolated_strictMono : StrictMono s.interpolated := by
  intro d e h
  rcases (Int.floor_mono h.le).eq_or_lt with hfloor | hfloor
  · have hrises : (s.rung ⌊d⌋ : ℚ) < s.rung (⌊d⌋ + 1) := by
      exact_mod_cast s.rung_lt_rung_add_one ⌊d⌋
    have hfract : Int.fract d < Int.fract e := by
      unfold Int.fract
      rw [hfloor]
      linarith
    have hpart := mul_lt_mul_of_pos_right hfract (sub_pos.mpr hrises)
    unfold interpolated
    rw [← hfloor]
    linarith
  · -- the next rung above the lower degree lies between the two
    have hrung : (s.rung (⌊d⌋ + 1) : ℚ) ≤ s.rung ⌊e⌋ := by
      exact_mod_cast s.rung_strictMono.monotone hfloor
    calc s.interpolated d < s.rung (⌊d⌋ + 1) := s.interpolated_lt_rung d
      _ ≤ s.rung ⌊e⌋ := hrung
      _ ≤ s.interpolated e := s.rung_le_interpolated e

/-- The degree is one of those that 64 bits tell apart. -/
def InRange (n : ℤ) : Prop := degreeLow ≤ n ∧ n ≤ degreeHigh

theorem pitchIn_rationals_of_inRange (h : InRange n) : s.pitchIn .rationals n = s.rung n := by
  rw [pitchIn_rationals_intCast, clamp_of_mem h.1 h.2]

/-- **The degree is played on the straight line**: one in the octave of the root, or a whole one. -/
def IsStraight (d : ℚ) : Prop :=
  s.intervals.octave ⌊d⌋ = 0 ∨ InRange ⌊d⌋ ∧ d = ⌊d⌋

theorem inRange_of_octave (h : s.intervals.octave n = 0) : InRange n ∧ InRange (n + 1) := by
  have hdivide := s.intervals.size_mul_octave_add_index n
  have hindex := s.intervals.index_lt n
  have hsize := s.size_le
  rw [h, mul_zero] at hdivide
  unfold InRange degreeLow degreeHigh
  omega

theorem pitchIn_eq_interpolated (h : s.IsStraight d) :
    s.pitchIn .rationals d = s.interpolated d := by
  rw [pitchIn_rationals_eq_add, interpolated]
  rcases h with h | ⟨hrange, h⟩
  · have hrange := (s.inRange_of_octave h).1
    rw [s.pitchIn_rationals_of_inRange hrange, wholeBelow, clamp_of_mem hrange.1 hrange.2, span, h]
    push_cast
    ring
  · rw [s.pitchIn_rationals_of_inRange hrange, Int.fract_eq_zero_iff.mpr ⟨⌊d⌋, h.symm⟩, zero_mul,
      zero_mul]

/-! ## Fractions in each octave -/

/-- Within the octave of the root a fraction stays between the rungs, also behind the last step. -/
theorem pitchIn_between (h : d ≠ ⌊d⌋) (hoctave : s.intervals.octave ⌊d⌋ = 0) :
    s.pitchIn .rationals ⌊d⌋ < s.pitchIn .rationals d ∧
      s.pitchIn .rationals d < s.pitchIn .rationals (⌊d⌋ + 1) := by
  obtain ⟨hrange, hnext⟩ := s.inRange_of_octave hoctave
  have hcast : (⌊d⌋ : ℚ) + 1 = (⌊d⌋ + 1 : ℤ) := by push_cast; rfl
  have hbelow : s.interpolated ⌊d⌋ < s.interpolated d :=
    s.interpolated_strictMono ((Int.floor_le d).lt_of_ne h.symm)
  rw [s.pitchIn_eq_interpolated (.inl hoctave), hcast, s.pitchIn_rationals_of_inRange hnext,
    s.pitchIn_eq_interpolated (d := ⌊d⌋) (.inl (by rwa [Int.floor_intCast]))]
  exact ⟨hbelow, s.interpolated_lt_rung d⟩

/-- A fraction leads upwards from the octave of the root on. -/
theorem pitchIn_lt_iff (h : d ≠ ⌊d⌋) :
    s.pitchIn .rationals ⌊d⌋ < s.pitchIn .rationals d ↔
      0 ≤ s.intervals.octave (wholeBelow d) := by
  have hfract := Int.fract_pos.mpr h
  rw [s.pitchIn_rationals_eq_add d, lt_add_iff_pos_right, mul_pos_iff_of_pos_left hfract,
    Int.cast_pos, span_pos_iff]

theorem fract_half (n : ℤ) : Int.fract (n + 1 / 2 : ℚ) = 1 / 2 := by
  rw [Int.fract_intCast_add]
  norm_num

/-- **Halfway up a step of another octave** the pitch is not between the rungs. -/
theorem pitchIn_half (h : InRange n) (hoctave : s.intervals.octave n ≠ 0) :
    s.pitchIn .rationals (n + 1 / 2) ≤ s.rung n ∨
      (s.rung (n + 1) : ℚ) ≤ s.pitchIn .rationals (n + 1 / 2) := by
  have hrises := s.rung_add_one_le n
  rw [pitchIn_rationals, wholeBelow, floor_half, fract_half, clamp_of_mem h.1 h.2]
  rcases lt_or_gt_of_ne hoctave with hbelow | habove
  · left
    have hspan : s.span n ≤ 0 := by
      unfold span
      omega
    have hspan : (s.span n : ℚ) ≤ 0 := by exact_mod_cast hspan
    linarith
  · right
    -- half of the span is the whole way to the next rung, or more
    have hspan : 2 * (s.rung (n + 1) - s.rung n) ≤ s.span n := by
      unfold span
      omega
    have hspan : 2 * ((s.rung (n + 1) : ℚ) - s.rung n) ≤ s.span n := by exact_mod_cast hspan
    linarith

/-- **All fractions of a degree stay between the rungs** in the octave of the root only. -/
theorem forall_between_iff (hrange : InRange n) (hnext : InRange (n + 1)) :
    (∀ d : ℚ, d ≠ ⌊d⌋ → ⌊d⌋ = n → s.pitchIn .rationals ⌊d⌋ < s.pitchIn .rationals d ∧
      s.pitchIn .rationals d < s.pitchIn .rationals (⌊d⌋ + 1)) ↔ s.intervals.octave n = 0 := by
  constructor
  · intro hbetween
    by_contra hoctave
    have hcast : (n : ℚ) + 1 = (n + 1 : ℤ) := by push_cast; rfl
    have hne : (n + 1 / 2 : ℚ) ≠ ⌊(n + 1 / 2 : ℚ)⌋ := by
      rw [floor_half]
      norm_num
    obtain ⟨hlow, hhigh⟩ := hbetween (n + 1 / 2) hne (floor_half n)
    rw [floor_half, s.pitchIn_rationals_of_inRange hrange] at hlow
    rw [floor_half, hcast, s.pitchIn_rationals_of_inRange hnext] at hhigh
    rcases s.pitchIn_half hrange hoctave with h | h
    · exact absurd hlow h.not_gt
    · exact absurd hhigh h.not_gt
  · rintro hoctave d h rfl
    exact s.pitchIn_between h hoctave

/-- The pitch rises over the degrees that are played on the straight line. -/
theorem strictMonoOn_pitchIn :
    StrictMonoOn (s.pitchIn .rationals) {d : ℚ | s.IsStraight d} := by
  intro d hd e he h
  rw [s.pitchIn_eq_interpolated hd, s.pitchIn_eq_interpolated he]
  exact s.interpolated_strictMono h

/-- **What fractions of degrees do in each octave.** A whole degree has the pitch of its rung, and a
fraction adds its part of the span. It leads upwards from the octave of the root on. Between the
rungs it stays in the octave of the root, also behind the last step, and there only, so that the
pitch rises over this octave and all whole degrees. -/
structure Interpolates (s : Scale) (pitch : ℚ → ℚ) : Prop where
  whole : ∀ n : ℤ, pitch n = s.rung (clamp degreeLow degreeHigh n)
  part : ∀ d : ℚ, pitch d = pitch ⌊d⌋ + Int.fract d * s.span (clamp degreeLow degreeHigh ⌊d⌋)
  upwards : ∀ d : ℚ, d ≠ ⌊d⌋ →
    (pitch ⌊d⌋ < pitch d ↔ 0 ≤ s.intervals.octave (clamp degreeLow degreeHigh ⌊d⌋))
  between : ∀ d : ℚ, d ≠ ⌊d⌋ → s.intervals.octave ⌊d⌋ = 0 →
    pitch ⌊d⌋ < pitch d ∧ pitch d < pitch (⌊d⌋ + 1)
  only : ∀ n, InRange n → InRange (n + 1) →
    ((∀ d : ℚ, d ≠ ⌊d⌋ → ⌊d⌋ = n → pitch ⌊d⌋ < pitch d ∧ pitch d < pitch (⌊d⌋ + 1)) ↔
      s.intervals.octave n = 0)
  rises : StrictMonoOn pitch {d : ℚ | s.IsStraight d}

/-- **Fractions of degrees without rounding.** The pitch that is played is the same computation over
doubles, and over rational numbers it goes on by a part of the span. -/
theorem pitchIn_interpolates :
    (∀ degree, s.pitch degree = s.pitchIn .doubles degree) ∧
      s.Interpolates (s.pitchIn .rationals) := by
  refine ⟨s.pitch_eq_pitchIn, ?_⟩
  exact {
    whole := s.pitchIn_rationals_intCast
    part := s.pitchIn_rationals_eq_add
    upwards := fun _ => s.pitchIn_lt_iff
    between := fun _ => s.pitchIn_between
    only := fun _ => s.forall_between_iff
    rises := s.strictMonoOn_pitchIn }

/-- Halfway from the last step of an octave to the root of the next one. -/
theorem pitchIn_interpolates_wrap :
    let cMajor : Scale := ⟨60, Modes.major⟩
    (13 / 2 : ℚ) ≠ ⌊(13 / 2 : ℚ)⌋ ∧ cMajor.intervals.octave ⌊(13 / 2 : ℚ)⌋ = 0 ∧
      cMajor.pitchIn .rationals ⌊(13 / 2 : ℚ)⌋ < cMajor.pitchIn .rationals (13 / 2) ∧
      cMajor.pitchIn .rationals (13 / 2) < cMajor.pitchIn .rationals (⌊(13 / 2 : ℚ)⌋ + 1) := by
  have hfloor : ⌊(13 / 2 : ℚ)⌋ = 6 := by norm_num
  have hne : (13 / 2 : ℚ) ≠ ⌊(13 / 2 : ℚ)⌋ := by rw [hfloor]; norm_num
  have hoctave : Intervals.octave Modes.major ⌊(13 / 2 : ℚ)⌋ = 0 := by rw [hfloor]; decide
  exact ⟨hne, hoctave, (pitchIn_interpolates _).2.between _ hne hoctave⟩

/-- **In a higher octave a fraction overshoots.** Halfway from c to d in the octave above the root a
pitch is played that is five semitones above the d, over doubles as over rational numbers. -/
theorem pitchIn_overshoots :
    let cMajor : Scale := ⟨60, Modes.major⟩
    (15 / 2 : ℚ) ≠ ⌊(15 / 2 : ℚ)⌋ ∧ cMajor.pitchIn .rationals (15 / 2) = 79 ∧
      cMajor.pitchIn .rationals (⌊(15 / 2 : ℚ)⌋ + 1) = 74 ∧
      ¬cMajor.pitchIn .rationals (15 / 2) < cMajor.pitchIn .rationals (⌊(15 / 2 : ℚ)⌋ + 1) ∧
      cMajor.pitch 7.5 = 79.0 ∧ cMajor.pitch 8.0 = 74.0 := by
  have hfloor : ⌊(15 / 2 : ℚ)⌋ = 7 := by norm_num
  have hfract : Int.fract (15 / 2 : ℚ) = 1 / 2 := by
    unfold Int.fract
    rw [hfloor]
    norm_num
  have hrung : (⟨60, Modes.major⟩ : Scale).rung 7 = 72 := by decide
  have hspan : (⟨60, Modes.major⟩ : Scale).span 7 = 14 := by decide
  have hclamp : clamp degreeLow degreeHigh 7 = 7 := by decide
  have hhalf : (⟨60, Modes.major⟩ : Scale).pitchIn .rationals (15 / 2) = 79 := by
    rw [pitchIn_rationals, wholeBelow, hfloor, hfract, hclamp, hrung, hspan]
    norm_num
  have hnext : (⟨60, Modes.major⟩ : Scale).pitchIn .rationals (⌊(15 / 2 : ℚ)⌋ + 1) = 74 := by
    have hcast : (⌊(15 / 2 : ℚ)⌋ : ℚ) + 1 = (8 : ℤ) := by rw [hfloor]; norm_num
    have hrung : (⟨60, Modes.major⟩ : Scale).rung (clamp degreeLow degreeHigh 8) = 74 := by decide
    rw [hcast, pitchIn_rationals_intCast, hrung]
    norm_num
  refine ⟨by rw [hfloor]; norm_num, hhalf, hnext, ?_, by decide +kernel, by decide +kernel⟩
  rw [hhalf, hnext]
  norm_num

end Scale

end VoxelScore
