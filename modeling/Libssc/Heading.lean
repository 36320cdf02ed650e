import Libssc.Driver
import Mathlib.Algebra.Quaternion
import Mathlib.Analysis.SpecialFunctions.Complex.Arg
import Mathlib.Tactic.LinearCombination

/-!
# The heading of the compass

The rotation vector sensor reports the orientation of the device as a unit
quaternion, and `calculate_azimuth` makes a heading of it with one `atan2`. Its
two arguments are what the rotation makes of the forward axis of the device,
seen from above. So they turn with the device: against its turn, since headings
grow clockwise. Arithmetic is exact here, over the rationals.
-/

namespace Libssc

/-- What `calculate_azimuth` passes to `atan2` for an orientation: `r1`, `r4`. -/
def azimuthOf (q : Quaternion ℚ) : ℚ × ℚ :=
  azimuthPair q.imI q.imJ q.imK q.re

/-- The rotation about the vertical axis by twice the angle with sine `s` and
cosine `c`. -/
def verticalTurn (s c : ℚ) : Quaternion ℚ := ⟨c, 0, 0, s⟩

@[simp] theorem re_verticalTurn (s c : ℚ) : (verticalTurn s c).re = c := rfl
@[simp] theorem imI_verticalTurn (s c : ℚ) : (verticalTurn s c).imI = 0 := rfl
@[simp] theorem imJ_verticalTurn (s c : ℚ) : (verticalTurn s c).imJ = 0 := rfl
@[simp] theorem imK_verticalTurn (s c : ℚ) : (verticalTurn s c).imK = s := rfl

theorem azimuthOf_eq (q : Quaternion ℚ) :
    azimuthOf q = (2 * q.imI * q.imJ - 2 * q.imK * q.re,
      1 - 2 * q.imI * q.imI - 2 * q.imK * q.imK) := by
  simp [azimuthOf, azimuthPair, GFloat.sub, GFloat.mul, GFloat.ofInt, GFloat.one]

/-- Both quaternions of an orientation have the same heading. -/
theorem azimuthOf_neg (q : Quaternion ℚ) : azimuthOf (-q) = azimuthOf q := by
  rw [azimuthOf_eq, azimuthOf_eq]
  simp

section Turn

variable {q : Quaternion ℚ} {s c : ℚ}

/-- For a unit quaternion `r4` is a polynomial of degree two. -/
theorem azimuthOf_snd (hq : Quaternion.normSq q = 1) :
    (azimuthOf q).2 =
      q.re ^ 2 - q.imI ^ 2 + q.imJ ^ 2 - q.imK ^ 2 := by
  rw [Quaternion.normSq_def'] at hq
  rw [azimuthOf_eq]
  linear_combination -hq

theorem normSq_verticalTurn (h : s ^ 2 + c ^ 2 = 1) :
    Quaternion.normSq (verticalTurn s c * q) = Quaternion.normSq q := by
  have hturn : Quaternion.normSq (verticalTurn s c) = 1 := by
    rw [Quaternion.normSq_def', re_verticalTurn, imI_verticalTurn,
      imJ_verticalTurn, imK_verticalTurn]
    linear_combination h
  rw [map_mul, hturn, one_mul]

theorem azimuthOf_turn_fst (hq : Quaternion.normSq q = 1) :
    (azimuthOf (verticalTurn s c * q)).1 =
      (c ^ 2 - s ^ 2) * (azimuthOf q).1 - 2 * s * c * (azimuthOf q).2 := by
  rw [azimuthOf_snd hq, azimuthOf_eq, azimuthOf_eq]
  simp only [Quaternion.re_mul, Quaternion.imI_mul, Quaternion.imJ_mul,
    Quaternion.imK_mul, re_verticalTurn, imI_verticalTurn, imJ_verticalTurn,
    imK_verticalTurn]
  ring

theorem azimuthOf_turn_snd (hq : Quaternion.normSq q = 1)
    (h : s ^ 2 + c ^ 2 = 1) :
    (azimuthOf (verticalTurn s c * q)).2 =
      2 * s * c * (azimuthOf q).1 + (c ^ 2 - s ^ 2) * (azimuthOf q).2 := by
  have hunit : Quaternion.normSq (verticalTurn s c * q) = 1 := by
    rw [normSq_verticalTurn h, hq]
  rw [azimuthOf_snd hunit, azimuthOf_snd hq, azimuthOf_eq]
  simp only [Quaternion.re_mul, Quaternion.imI_mul, Quaternion.imJ_mul,
    Quaternion.imK_mul, re_verticalTurn, imI_verticalTurn, imJ_verticalTurn,
    imK_verticalTurn]
  ring

end Turn

/-! ## Angles -/

/-- The arguments of `atan2` as a complex number: `r4 + r1 i`. -/
noncomputable def azimuthComplex (q : Quaternion ℚ) : ℂ :=
  ⟨(azimuthOf q).2, (azimuthOf q).1⟩

/-- The angle that `atan2` returns. -/
noncomputable def heading (q : Quaternion ℚ) : Real.Angle :=
  (Complex.arg (azimuthComplex q) : ℝ)

/-- The angle of a vertical turn. -/
noncomputable def turnAngle (s c : ℚ) : Real.Angle :=
  2 • ((Complex.arg ⟨c, s⟩ : ℝ) : Real.Angle)

section Angles

variable {q : Quaternion ℚ} {s c : ℚ}

/-- A turn is a rotation of the complex number, backwards. -/
theorem azimuthComplex_turn (hq : Quaternion.normSq q = 1)
    (h : s ^ 2 + c ^ 2 = 1) :
    azimuthComplex (verticalTurn s c * q) =
      (starRingEnd ℂ ⟨c, s⟩) ^ 2 * azimuthComplex q := by
  unfold azimuthComplex
  apply Complex.ext
  · rw [azimuthOf_turn_snd hq h]
    simp [pow_two]
    ring
  · rw [azimuthOf_turn_fst hq]
    simp [pow_two]
    ring

theorem heading_turn (hq : Quaternion.normSq q = 1) (h : s ^ 2 + c ^ 2 = 1)
    (hne : azimuthOf q ≠ (0, 0)) :
    heading (verticalTurn s c * q) = heading q - turnAngle s c := by
  have hq0 : azimuthComplex q ≠ 0 := by
    intro h0
    apply hne
    have hre := congrArg Complex.re h0
    have him := congrArg Complex.im h0
    ext
    · simpa [azimuthComplex] using him
    · simpa [azimuthComplex] using hre
  have ht0 : (⟨c, s⟩ : ℂ) ≠ 0 := by
    intro h0
    have hc : c = 0 := by simpa using congrArg Complex.re h0
    have hs : s = 0 := by simpa using congrArg Complex.im h0
    rw [hc, hs] at h
    norm_num at h
  have hconj : starRingEnd ℂ (⟨c, s⟩ : ℂ) ≠ 0 := (map_ne_zero _).mpr ht0
  unfold heading turnAngle
  rw [azimuthComplex_turn hq h,
    Complex.arg_mul_coe_angle (pow_ne_zero 2 hconj) hq0,
    Complex.arg_pow_coe_angle, Complex.arg_conj_coe_angle, smul_neg]
  exact neg_add_eq_sub _ _

end Angles

/-- **The heading turns with the device.** A turn of the device about the vertical
rotates the pair `(r4, r1)` by its angle, backwards, so that the heading shifts
by minus that angle wherever there is one. -/
theorem heading_turns {q : Quaternion ℚ} (hq : Quaternion.normSq q = 1) {s c : ℚ}
    (h : s ^ 2 + c ^ 2 = 1) :
    (azimuthOf (verticalTurn s c * q)).1 =
        (c ^ 2 - s ^ 2) * (azimuthOf q).1 - 2 * s * c * (azimuthOf q).2 ∧
      (azimuthOf (verticalTurn s c * q)).2 =
        2 * s * c * (azimuthOf q).1 + (c ^ 2 - s ^ 2) * (azimuthOf q).2 ∧
      (azimuthOf (verticalTurn s c * q)).1 ^ 2 +
          (azimuthOf (verticalTurn s c * q)).2 ^ 2 =
        (azimuthOf q).1 ^ 2 + (azimuthOf q).2 ^ 2 ∧
      (azimuthOf q ≠ (0, 0) →
        heading (verticalTurn s c * q) = heading q - turnAngle s c) ∧
      azimuthOf (-q) = azimuthOf q := by
  have hfst := azimuthOf_turn_fst (s := s) (c := c) hq
  have hsnd := azimuthOf_turn_snd hq h
  refine ⟨hfst, hsnd, ?_, heading_turn hq h, azimuthOf_neg q⟩
  have hsquare : (c ^ 2 - s ^ 2) ^ 2 + (2 * s * c) ^ 2 = 1 := by
    linear_combination (s ^ 2 + c ^ 2 + 1) * h
  rw [hfst, hsnd]
  linear_combination
    ((azimuthOf q).1 ^ 2 + (azimuthOf q).2 ^ 2) * hsquare

/-- A tilted device. -/
def tilted : Quaternion ℚ := ⟨2 / 3, 1 / 3, 2 / 3, 0⟩

theorem heading_turns_tilted :
    azimuthOf tilted = (4 / 9, 7 / 9) ∧
      azimuthOf (verticalTurn (3 / 5) (4 / 5) * tilted) = (-28 / 45, 29 / 45) ∧
      heading (verticalTurn (3 / 5) (4 / 5) * tilted) =
        heading tilted - turnAngle (3 / 5) (4 / 5) ∧
      azimuthOf (-tilted) = azimuthOf tilted := by
  have hunit : Quaternion.normSq tilted = 1 := by
    rw [Quaternion.normSq_def']
    norm_num [tilted]
  have htilted : azimuthOf tilted = (4 / 9, 7 / 9) := by
    rw [azimuthOf_eq]
    norm_num [tilted]
  obtain ⟨hfst, hsnd, -, hturn, hneg⟩ :=
    heading_turns hunit (s := 3 / 5) (c := 4 / 5) (by norm_num)
  rw [htilted] at hfst hsnd hturn
  refine ⟨htilted, Prod.ext ?_ ?_, hturn (by norm_num), hneg⟩
  · rw [hfst]
    norm_num
  · rw [hsnd]
    norm_num

/-! A device whose forward axis points straight up has no heading: both arguments
of `atan2` are zero, and stay so however the device is turned. -/

def upright : Quaternion ℚ := ⟨1 / 2, 1 / 2, 1 / 2, 1 / 2⟩

theorem turnAngle_half : turnAngle 1 0 = (Real.pi : Real.Angle) := by
  have hI : (⟨((0 : ℚ) : ℝ), ((1 : ℚ) : ℝ)⟩ : ℂ) = Complex.I := by
    apply Complex.ext <;> simp
  unfold turnAngle
  rw [hI, Complex.arg_I, Real.Angle.two_nsmul_coe_div_two]

theorem heading_upright_fixed :
    Quaternion.normSq upright = 1 ∧ azimuthOf upright = (0, 0) ∧
      heading (verticalTurn 1 0 * upright) ≠
        heading upright - turnAngle 1 0 := by
  have hunit : Quaternion.normSq upright = 1 := by
    rw [Quaternion.normSq_def']
    norm_num [upright]
  have hupright : azimuthOf upright = (0, 0) := by
    rw [azimuthOf_eq]
    norm_num [upright]
  have hturned : azimuthOf (verticalTurn 1 0 * upright) = (0, 0) := by
    refine Prod.ext ?_ ?_
    · rw [azimuthOf_turn_fst hunit, hupright]
      norm_num
    · rw [azimuthOf_turn_snd hunit (by norm_num), hupright]
      norm_num
  refine ⟨hunit, hupright, ?_⟩
  have hsame : heading (verticalTurn 1 0 * upright) = heading upright := by
    unfold heading azimuthComplex
    rw [hturned, hupright]
  rw [hsame, turnAngle_half]
  intro h
  exact Real.Angle.pi_ne_zero (sub_eq_self.mp h.symm)

end Libssc
