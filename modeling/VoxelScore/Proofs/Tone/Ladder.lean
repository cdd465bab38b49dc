import Mathlib
import VoxelScore.Proofs.Number.Whole
import VoxelScore.Proofs.Tone.Degrees
import VoxelScore.Tone.Modes

/-!
# The ladder of whole degrees

The whole degrees of a scale are the rungs of a ladder without ends: each one is above the one
before it, also from the last step of an octave to the first step of the next, and an octave higher
the same rungs come again, 12 semitones above. The pitches are doubles, but none of their sums and
products has to be rounded as long as the degree has 48 bits, so that they are the rungs themselves.

## Main definitions

* `Scale.rung`: the pitch of a whole degree as an integer
* `Scale.IsLadder`: rungs that follow the steps, come again every octave and rise
* `Scale.Plays`: the pitches of the whole degrees are the rungs

## Main results

* `Intervals.octave_index_eq`: the only way to divide a degree into octaves and a step
* `Scale.rung_lt_rung_add_one`: the next rung is higher
* `Scale.isWhole_pitch`: the pitch of a whole degree is the rung
* `Scale.pitch_whole`: the ladder of a scale and its pitches
-/

namespace VoxelScore

/-! ## Octaves and steps -/

namespace Intervals

variable (i : Intervals) {d q : ℤ} {r : ℕ}

/-- **A degree is divided into octaves and a step in one way.** -/
theorem octave_index_eq (hr : r < i.size) (h : d = i.size * q + r) :
    i.octave d = q ∧ i.index d = r := by
  have hdivide : d / i.size = q ∧ d % i.size = r :=
    (Int.ediv_emod_unique (by omega)).mpr ⟨by omega, by omega, by omega⟩
  refine ⟨hdivide.1, ?_⟩
  rw [index, hdivide.2]
  exact Int.toNat_natCast r

theorem size_mul_octave_add_index (degree : ℤ) :
    degree = i.size * i.octave degree + i.index degree := by
  have hpos := i.size_pos
  have hindex : ((degree % i.size).toNat : ℤ) = degree % i.size :=
    Int.toNat_of_nonneg (Int.emod_nonneg degree (by omega))
  rw [octave, index, hindex]
  exact (Int.mul_ediv_add_emod degree i.size).symm

theorem semitones_eq_of_index {e : ℤ} (h : i.index d = i.index e) :
    i.semitones d = i.semitones e := by
  unfold semitones
  congr 1

theorem semitones_lt (degree : ℤ) : i.semitones degree < 12 :=
  i.valid.2.2 _ (List.getElem_mem _)

/-- The first step of an octave is the root. -/
theorem semitones_eq_zero (h : i.index d = 0) : i.semitones d = 0 := by
  have hfirst := i.getElem?_index d
  rw [h, ← List.head?_eq_getElem?, i.valid.1] at hfirst
  exact (Option.some.inj hfirst).symm

/-- A later step of an octave is above an earlier one. -/
theorem semitones_lt_semitones {e : ℤ} (h : i.index d < i.index e) :
    i.semitones d < i.semitones e :=
  List.pairwise_iff_getElem.mp i.valid.2.1 _ _ (i.index_lt d) (i.index_lt e) h

theorem semitones_nonneg (degree : ℤ) : 0 ≤ i.semitones degree := by
  have hroot := i.octave_index_eq (d := 0) (q := 0) i.size_pos (by simp)
  rcases Nat.eq_zero_or_pos (i.index degree) with h | h
  · exact (i.semitones_eq_zero h).ge
  · rw [← hroot.2] at h
    rw [← i.semitones_eq_zero hroot.2]
    exact (i.semitones_lt_semitones h).le

end Intervals

namespace Scale

/-! ## Rungs -/

/-- **The pitch of a whole degree as an integer.** -/
def rung (s : Scale) (degree : ℤ) : ℤ :=
  s.root + s.intervals.semitones degree + 12 * s.intervals.octave degree

variable (s : Scale)

theorem rung_zero : s.rung 0 = s.root := by
  obtain ⟨hoctave, hindex⟩ :=
    s.intervals.octave_index_eq (d := 0) (q := 0) s.intervals.size_pos (by simp)
  rw [rung, hoctave, s.intervals.semitones_eq_zero hindex, mul_zero, add_zero, add_zero]

/-- **An octave higher** the same rungs come again. -/
theorem rung_add_size (degree : ℤ) : s.rung (degree + s.intervals.size) = s.rung degree + 12 := by
  have hdivide := s.intervals.size_mul_octave_add_index degree
  obtain ⟨hoctave, hindex⟩ := s.intervals.octave_index_eq (s.intervals.index_lt degree)
    (d := degree + s.intervals.size) (q := s.intervals.octave degree + 1) (by
      rw [mul_add, mul_one]
      omega)
  rw [rung, rung, hoctave, s.intervals.semitones_eq_of_index hindex]
  ring

/-- **The next rung is higher**, within an octave and from one octave to the next. -/
theorem rung_lt_rung_add_one (degree : ℤ) : s.rung degree < s.rung (degree + 1) := by
  have hdivide := s.intervals.size_mul_octave_add_index degree
  have hindex := s.intervals.index_lt degree
  unfold rung
  -- behind the last step of an octave the root of the next one follows
  rcases Nat.lt_or_eq_of_le (Nat.succ_le_of_lt hindex) with hwithin | hlast
  · obtain ⟨hoctave, hnext⟩ := s.intervals.octave_index_eq hwithin
      (d := degree + 1) (q := s.intervals.octave degree) (by push_cast; omega)
    have hstep := s.intervals.semitones_lt_semitones
      (d := degree) (e := degree + 1) (by omega)
    omega
  · obtain ⟨hoctave, hnext⟩ := s.intervals.octave_index_eq s.intervals.size_pos
      (d := degree + 1) (q := s.intervals.octave degree + 1) (by
        rw [mul_add, mul_one]
        omega)
    have hroot := s.intervals.semitones_eq_zero hnext
    have htop := s.intervals.semitones_lt degree
    omega

theorem rung_strictMono : StrictMono s.rung :=
  strictMono_int_of_lt_succ s.rung_lt_rung_add_one

/-! ## Pitches -/

open Double (IsWhole isWhole_ofInt isWhole_zero)

/-- Of a whole degree nothing goes on towards the next one. -/
theorem pitch_eq_wholePitch {x : Float} {degree : ℤ}
    (hfloor : Double.floorWithin degreeLow degreeHigh x = degree)
    (hfraction : (x - Double.floor x == 0.0) = true) : s.pitch x = s.wholePitch degree := by
  unfold pitch
  rw [hfloor]
  exact if_pos hfraction

/-- The root is a number of 32 signed bits. -/
def RootFits (s : Scale) : Prop := int32Low ≤ s.root ∧ s.root ≤ int32High

theorem isWhole_twelve : IsWhole 12.0 12 := by
  have htwelve : (12.0 : Float) = Float.ofInt 12 := by decide +kernel
  rw [htwelve]
  exact isWhole_ofInt (by decide)

/-- **No sum or product is rounded** on the way to the pitch of a degree of 48 bits. -/
theorem isWhole_wholePitch (hroot : s.RootFits) {degree : ℤ} (h : |degree| < 2 ^ 48) :
    IsWhole (s.wholePitch degree) (s.rung degree) := by
  have hoctave : (s.intervals.octave degree).natAbs ≤ degree.natAbs :=
    Int.natAbs_ediv_le_natAbs degree s.intervals.size
  have hlow := s.intervals.semitones_nonneg degree
  have hhigh := s.intervals.semitones_lt degree
  -- with the octave bounded by the degree, every bound is one of linear arithmetic
  obtain ⟨hrootLow, hrootHigh⟩ := hroot
  unfold int32Low at hrootLow
  unfold int32High at hrootHigh
  rw [abs_lt] at h
  have hroot := isWhole_ofInt (n := s.root) (by omega)
  have hstep := isWhole_ofInt (n := s.intervals.semitones degree) (by omega)
  have hturns := isWhole_ofInt (n := s.intervals.octave degree) (by omega)
  have hproduct := isWhole_twelve.mul hturns (by omega) (by omega)
  exact (hroot.add hstep (by omega)).add hproduct (by omega)

theorem isWhole_ofDegree {degree : ℤ} (h : |degree| < 2 ^ 48) :
    IsWhole (Float.ofInt degree) degree := by
  rw [abs_lt] at h
  exact isWhole_ofInt (by omega)

/-- **The pitch of a whole degree is the rung.** -/
theorem isWhole_pitch (hroot : s.RootFits) {degree : ℤ} (h : |degree| < 2 ^ 48) :
    IsWhole (s.pitch (Float.ofInt degree)) (s.rung degree) := by
  have hdegree := isWhole_ofDegree h
  have hfloor : Double.floorWithin degreeLow degreeHigh (Float.ofInt degree) = degree := by
    rw [abs_lt] at h
    rw [hdegree.floorWithin]
    exact clamp_of_mem (by unfold degreeLow; omega) (by unfold degreeHigh; omega)
  have hfraction : (Float.ofInt degree - Double.floor (Float.ofInt degree) == 0.0) = true := by
    rw [hdegree.floor, hdegree.sub_self.eq isWhole_zero]
    rfl
  rw [s.pitch_eq_wholePitch hfloor hfraction]
  exact s.isWhole_wholePitch hroot h

/-- The pitch of the negative zero is that of the positive one. -/
theorem pitch_neg_zero : s.pitch (-0.0) = s.wholePitch 0 :=
  s.pitch_eq_wholePitch (by decide +kernel) (by decide +kernel)

/-- **Rungs of a scale**: from the root they follow the steps of the octave, come again every octave
and rise. -/
structure IsLadder (s : Scale) (rung : ℤ → ℤ) : Prop where
  step : ∀ degree : ℤ, ∃ step, s.intervals.steps[(degree % s.intervals.size).toNat]? = some step ∧
    rung degree = s.root + step + 12 * ⌊(degree : ℚ) / s.intervals.size⌋
  root : rung 0 = s.root
  octave : ∀ degree, rung (degree + s.intervals.size) = rung degree + 12
  rises : StrictMono rung

/-- **The pitches of a scale are the rungs** of its whole degrees of 48 bits, and are ordered and
come again every octave as doubles. -/
structure Plays (s : Scale) (rung : ℤ → ℤ) : Prop where
  pitch : ∀ degree : ℤ, |degree| < 2 ^ 48 → s.pitch (Float.ofInt degree) = Float.ofInt (rung degree)
  root : s.pitch 0.0 = Float.ofInt s.root ∧ s.pitch (-0.0) = Float.ofInt s.root
  octave : ∀ degree : ℤ, |degree| < 2 ^ 48 → |degree + s.intervals.size| < 2 ^ 48 →
    s.pitch (Float.ofInt (degree + s.intervals.size)) = s.pitch (Float.ofInt degree) + 12.0
  rises : ∀ low high : ℤ, |low| < 2 ^ 48 → |high| < 2 ^ 48 → low < high →
    s.pitch (Float.ofInt low) < s.pitch (Float.ofInt high)

theorem isLadder_rung : s.IsLadder s.rung where
  step degree := by
    refine ⟨s.intervals.semitones degree, s.intervals.getElem?_index degree, ?_⟩
    rw [Rat.floor_intCast_div_natCast]
    rfl
  root := s.rung_zero
  octave := s.rung_add_size
  rises := s.rung_strictMono

theorem plays_rung (hroot : s.RootFits) : s.Plays s.rung where
  pitch degree h := (s.isWhole_pitch hroot h).eq_ofInt
  root := by
    have hsmall : |(0 : ℤ)| < 2 ^ 48 := by norm_num
    rw [s.pitch_neg_zero, isWhole_zero.eq_ofInt, ← s.rung_zero]
    exact ⟨(s.isWhole_pitch hroot hsmall).eq_ofInt, (s.isWhole_wholePitch hroot hsmall).eq_ofInt⟩
  octave degree h hnext := by
    have hpitch := s.isWhole_pitch hroot h
    have hhigher := s.isWhole_pitch hroot hnext
    rw [s.rung_add_size] at hhigher
    exact hhigher.eq (hpitch.add isWhole_twelve hhigher.natAbs_lt)
  rises low high hlow hhigh h :=
    (s.isWhole_pitch hroot hlow).lt (s.isWhole_pitch hroot hhigh) (s.rung_strictMono h)

/-- **The whole degrees of a scale are a ladder** that rises strictly and comes again every octave,
and the pitches are its rungs. -/
theorem pitch_whole (hroot : s.RootFits) : s.IsLadder s.rung ∧ s.Plays s.rung :=
  ⟨s.isLadder_rung, s.plays_rung hroot⟩

/-- Eight degrees below the root of d minor there is a c, in the second octave below. -/
theorem pitch_whole_below :
    let dMinor : Scale := ⟨62, Modes.minor⟩
    dMinor.RootFits ∧ |(-8 : ℤ)| < 2 ^ 48 ∧ dMinor.rung (-8) = 48 ∧
      dMinor.pitch (Float.ofInt (-8)) = Float.ofInt 48 := by
  have hroot : (⟨62, Modes.minor⟩ : Scale).RootFits := ⟨by decide, by decide⟩
  exact ⟨hroot, by norm_num, by decide, (pitch_whole _ hroot).2.pitch (-8) (by norm_num)⟩

end Scale

end VoxelScore
