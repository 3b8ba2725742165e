import Clev2er.Lib.OrthonormalFrame
import Mathlib.Algebra.QuadraticDiscriminant
import Mathlib.Analysis.SpecialFunctions.Trigonometric.Basic

/-!
# `angle_to_poca`

The position of a SARIn echo: a circle about the satellite, in the plane across
the track, is cut with the plane of the points that lie at the measured angle
from the baseline. `solve_eqn` finds the two points of intersection in the frame
of the satellite and keeps the one closer to nadir; the frame built by
`get_crf_in_efc` turns it into earth-centred coordinates.

The functions compute with the numbers of any ordered field. `angle_to_poca_point`
is about real numbers.
-/

namespace Clev2er.Cryotempo

open Clev2er.Lib Matrix

/-- `np.sqrt`, `np.sin` and `np.cos`. -/
structure NumpyFunctions (K : Type) where
  sqrt : K → K
  sin : K → K
  cos : K → K

/-! ## The functions -/

section Code

variable {K : Type} [Field K] [LinearOrder K] (f : NumpyFunctions K)

/-- `np.linalg.norm`. -/
def norm (v : Fin 3 → K) : K := f.sqrt (v ⬝ᵥ v)

/-- `solve_eqn`; `crf_point` keeps its zeros if neither solution is larger. -/
def solveEqn (aaa bbb : K) (baseVec crfCentre : Fin 3 → K) : Fin 3 → K :=
  let dBefosqrt := 4 * bbb ^ 2 * baseVec 0 ^ 2 / baseVec 2 ^ 4 -
    4 * (baseVec 0 ^ 2 / baseVec 2 ^ 2 + 1) * (bbb ^ 2 / baseVec 2 ^ 2 - aaa)
  let dXplus := (2 * bbb * baseVec 0 / baseVec 2 ^ 2 + f.sqrt dBefosqrt) /
    (2 * (baseVec 0 ^ 2 / baseVec 2 ^ 2 + 1))
  let dXxplus := dXplus + crfCentre 0
  let dZplus := (bbb - baseVec 0 * dXplus) / baseVec 2
  let dZzplus := dZplus + crfCentre 2
  let dXminus := (2 * bbb * baseVec 0 / baseVec 2 ^ 2 - f.sqrt dBefosqrt) /
    (2 * (baseVec 0 ^ 2 / baseVec 2 ^ 2 + 1))
  let dXxminus := dXminus + crfCentre 0
  let dZminus := (bbb - baseVec 0 * dXminus) / baseVec 2
  let dZzminus := dZminus + crfCentre 2
  if dXxminus < dXxplus then ![dXxplus, 0, dZzplus]
  else if dXxplus < dXxminus then ![dXxminus, 0, dZzminus]
  else ![0, 0, 0]

/-- `get_crf_in_efc`: the axes, as columns, and the satellite. -/
def getCrfInEfc (llhToEcef : K → K → K → Fin 3 → K) (lon lat alt : K) (velVec : Fin 3 → K) :
    Matrix (Fin 3) (Fin 3) K × (Fin 3 → K) :=
  let nad := llhToEcef lat lon 0
  let efcCog := llhToEcef lat lon alt
  let satNadVec := nad - efcCog
  let adCrfAxis1 : Fin 3 → K := fun i => satNadVec i / norm f satNadVec
  let adEfcNv : Fin 3 → K := fun i => velVec i / norm f velVec
  let scalProd := adCrfAxis1 ⬝ᵥ adEfcNv
  let adTempVect : Fin 3 → K := fun i => adEfcNv i - adCrfAxis1 i * scalProd
  let adCrfAxis2 : Fin 3 → K := fun i => adTempVect i / norm f adTempVect
  let adCrfAxis3 := crossProduct adCrfAxis2 adCrfAxis1
  (ofColumns adCrfAxis1 adCrfAxis2 adCrfAxis3, efcCog)

/-- `rotation_matrix`: the components of each axis along the coordinate axes. -/
def rotationMatrix (crfAxis : Matrix (Fin 3) (Fin 3) K) : Matrix (Fin 3) (Fin 3) K :=
  Matrix.of fun i j => (Pi.single i 1 : Fin 3 → K) ⬝ᵥ fun k => crfAxis k j

/-- `efc_point` of `angle_to_poca`. -/
def efcPoint (llhToEcef : K → K → K → Fin 3 → K) (angle lat lon alt corRange : K)
    (velVec baseVec : Fin 3 → K) : Fin 3 → K :=
  let crfCentre : Fin 3 → K := fun i => baseVec i * (corRange * f.sin angle)
  let radius := corRange * f.cos angle
  let aaa := radius ^ 2 - crfCentre 1 ^ 2
  let bbb := baseVec 1 * crfCentre 1
  let crfPoint := solveEqn f aaa bbb baseVec crfCentre
  let frame := getCrfInEfc f llhToEcef lon lat alt velVec
  let efcVec := rotationMatrix frame.1 *ᵥ crfPoint
  efcVec + frame.2

/-- `angle_to_poca`, to latitude, longitude and height. -/
def angleToPoca (llhToEcef : K → K → K → Fin 3 → K) (ecefToLlh : (Fin 3 → K) → K × K × K)
    (angle lat lon alt corRange : K) (velVec baseVec : Fin 3 → K) : K × K × K :=
  let poca := ecefToLlh (efcPoint f llhToEcef angle lat lon alt corRange velVec baseVec)
  (poca.1, if 180 < poca.2.1 then poca.2.1 - 360 else poca.2.1, poca.2.2)

omit [LinearOrder K] in
/-- The rotation matrix is the matrix of the axes itself. -/
theorem rotationMatrix_eq (crfAxis : Matrix (Fin 3) (Fin 3) K) :
    rotationMatrix crfAxis = crfAxis := by
  ext i j
  rw [rotationMatrix, Matrix.of_apply, single_dotProduct, one_mul]

end Code

/-! ## The two points in the plane across the track -/

/-- The functions on real numbers. -/
noncomputable def numpyReal : NumpyFunctions ℝ := ⟨Real.sqrt, Real.sin, Real.cos⟩

section Plane

variable {b : Fin 3 → ℝ} {s ρ x z : ℝ}

/-- In coordinates from the centre of the circle, a point `(x, 0, z)` at distance
`s ^ 2 + ρ ^ 2` (squared) with component `s` along the baseline solves a quadratic
equation in `x`, and `z` follows from it. -/
theorem plane_iff (hb : b 0 ^ 2 + b 1 ^ 2 + b 2 ^ 2 = 1) (hb2 : b 2 ≠ 0) :
    (x ^ 2 + z ^ 2 = s ^ 2 + ρ ^ 2 ∧ b 0 * x + b 2 * z = s) ↔
      (b 0 ^ 2 / b 2 ^ 2 + 1) * ((x - b 0 * s) * (x - b 0 * s)) +
          -(2 * (b 1 * (b 1 * s)) * b 0 / b 2 ^ 2) * (x - b 0 * s) +
          ((b 1 * (b 1 * s)) ^ 2 / b 2 ^ 2 - (ρ ^ 2 - (b 1 * s) ^ 2)) = 0 ∧
        z = (b 1 * (b 1 * s) - b 0 * (x - b 0 * s)) / b 2 + b 2 * s := by
  have hb2' : b 2 ^ 2 ≠ 0 := pow_ne_zero 2 hb2
  have hz : b 0 * x + b 2 * z = s ↔
      z = (b 1 * (b 1 * s) - b 0 * (x - b 0 * s)) / b 2 + b 2 * s := by
    constructor
    · intro h
      field_simp
      linear_combination h - s * hb
    · intro h
      rw [h]
      field_simp
      linear_combination s * hb
  rw [← hz, and_congr_left_iff]
  intro hline
  have hquad : (b 0 ^ 2 / b 2 ^ 2 + 1) * ((x - b 0 * s) * (x - b 0 * s)) +
      -(2 * (b 1 * (b 1 * s)) * b 0 / b 2 ^ 2) * (x - b 0 * s) +
      ((b 1 * (b 1 * s)) ^ 2 / b 2 ^ 2 - (ρ ^ 2 - (b 1 * s) ^ 2)) =
      x ^ 2 + z ^ 2 - (s ^ 2 + ρ ^ 2) := by
    have hdz : (b 1 * (b 1 * s) - b 0 * (x - b 0 * s)) / b 2 = z - b 2 * s := by
      rw [hz.mp hline]
      ring
    calc _ = (x - b 0 * s) ^ 2 + ((b 1 * (b 1 * s) - b 0 * (x - b 0 * s)) / b 2) ^ 2 -
          (ρ ^ 2 - (b 1 * s) ^ 2) := by
          field_simp
          ring
      _ = (x - b 0 * s) ^ 2 + (z - b 2 * s) ^ 2 - (ρ ^ 2 - (b 1 * s) ^ 2) := by rw [hdz]
      _ = x ^ 2 + z ^ 2 - (s ^ 2 + ρ ^ 2) := by
          linear_combination (-2 * s) * hline + s ^ 2 * hb
  rw [hquad, sub_eq_zero]

/-- The discriminant, for a circle that the plane cuts twice. -/
theorem plane_discrim_pos (hb : b 0 ^ 2 + b 1 ^ 2 + b 2 ^ 2 = 1) (hb2 : b 2 ≠ 0)
    (hcut : b 1 ^ 2 * (s ^ 2 + ρ ^ 2) < ρ ^ 2) :
    0 < 4 * (b 1 * (b 1 * s)) ^ 2 * b 0 ^ 2 / b 2 ^ 4 -
      4 * (b 0 ^ 2 / b 2 ^ 2 + 1) * ((b 1 * (b 1 * s)) ^ 2 / b 2 ^ 2 - (ρ ^ 2 - (b 1 * s) ^ 2)) := by
  have hpos : 0 < b 2 ^ 2 := by positivity
  have heq : 4 * (b 1 * (b 1 * s)) ^ 2 * b 0 ^ 2 / b 2 ^ 4 -
      4 * (b 0 ^ 2 / b 2 ^ 2 + 1) * ((b 1 * (b 1 * s)) ^ 2 / b 2 ^ 2 - (ρ ^ 2 - (b 1 * s) ^ 2)) =
      4 * (ρ ^ 2 - b 1 ^ 2 * (s ^ 2 + ρ ^ 2)) / b 2 ^ 2 := by
    field_simp
    linear_combination (b 2 ^ 2 * (ρ ^ 2 - b 1 ^ 2 * s ^ 2)) * hb
  rw [heq]
  exact div_pos (by linarith) hpos

/-- The point in the plane across the track above an `x` of the quadratic
equation. -/
noncomputable def planePoint (b : Fin 3 → ℝ) (s x : ℝ) : Fin 3 → ℝ :=
  ![x + b 0 * s, 0, (b 1 * (b 1 * s) - b 0 * x) / b 2 + b 2 * s]

/-- **What `solve_eqn` finds**: of the two points `(x, 0, z)` at distance
`s ^ 2 + ρ ^ 2` (squared) with component `s` along the baseline, the one with the
larger `x`. -/
theorem solveEqn_spec (hb : b 0 ^ 2 + b 1 ^ 2 + b 2 ^ 2 = 1) (hb2 : b 2 ≠ 0)
    (hcut : b 1 ^ 2 * (s ^ 2 + ρ ^ 2) < ρ ^ 2) :
    ∃ other : Fin 3 → ℝ,
      other 0 < solveEqn numpyReal (ρ ^ 2 - (b 1 * s) ^ 2) (b 1 * (b 1 * s)) b
        (fun i => b i * s) 0 ∧
      ∀ p : Fin 3 → ℝ, (p 1 = 0 ∧ p 0 ^ 2 + p 2 ^ 2 = s ^ 2 + ρ ^ 2 ∧ b 0 * p 0 + b 2 * p 2 = s) ↔
        p = solveEqn numpyReal (ρ ^ 2 - (b 1 * s) ^ 2) (b 1 * (b 1 * s)) b (fun i => b i * s) ∨
          p = other := by
  have hdiscrim := plane_discrim_pos hb hb2 hcut
  have hlead : 0 < b 0 ^ 2 / b 2 ^ 2 + 1 := by positivity
  set d := 4 * (b 1 * (b 1 * s)) ^ 2 * b 0 ^ 2 / b 2 ^ 4 -
    4 * (b 0 ^ 2 / b 2 ^ 2 + 1) * ((b 1 * (b 1 * s)) ^ 2 / b 2 ^ 2 - (ρ ^ 2 - (b 1 * s) ^ 2))
    with hd
  set xplus := (2 * (b 1 * (b 1 * s)) * b 0 / b 2 ^ 2 + √d) / (2 * (b 0 ^ 2 / b 2 ^ 2 + 1))
    with hxplus
  set xminus := (2 * (b 1 * (b 1 * s)) * b 0 / b 2 ^ 2 - √d) / (2 * (b 0 ^ 2 / b 2 ^ 2 + 1))
    with hxminus
  have hroot : 0 < √d := Real.sqrt_pos.mpr hdiscrim
  have hlt : xminus < xplus := by
    rw [hxplus, hxminus]
    exact div_lt_div_of_pos_right (by linarith) (by linarith)
  have hsolve : solveEqn numpyReal (ρ ^ 2 - (b 1 * s) ^ 2) (b 1 * (b 1 * s)) b
      (fun i => b i * s) = planePoint b s xplus := by
    have hcond : xminus + b 0 * s < xplus + b 0 * s := by linarith
    exact if_pos hcond
  rw [hsolve]
  refine ⟨planePoint b s xminus, ?_, ?_⟩
  · show xminus + b 0 * s < xplus + b 0 * s
    linarith
  intro p
  rw [plane_iff hb hb2]
  have hsquare : discrim (b 0 ^ 2 / b 2 ^ 2 + 1) (-(2 * (b 1 * (b 1 * s)) * b 0 / b 2 ^ 2))
      ((b 1 * (b 1 * s)) ^ 2 / b 2 ^ 2 - (ρ ^ 2 - (b 1 * s) ^ 2)) = √d * √d := by
    rw [Real.mul_self_sqrt hdiscrim.le, hd, discrim]
    ring
  rw [quadratic_eq_zero_iff (ne_of_gt hlead) hsquare, neg_neg]
  have hpoint : ∀ x, p = planePoint b s x ↔ p 1 = 0 ∧ p 0 - b 0 * s = x ∧
      p 2 = (b 1 * (b 1 * s) - b 0 * (p 0 - b 0 * s)) / b 2 + b 2 * s := by
    intro x
    constructor
    · rintro rfl
      refine ⟨rfl, ?_, ?_⟩
      · show x + b 0 * s - b 0 * s = x
        ring
      · show (b 1 * (b 1 * s) - b 0 * x) / b 2 + b 2 * s =
          (b 1 * (b 1 * s) - b 0 * (x + b 0 * s - b 0 * s)) / b 2 + b 2 * s
        rw [add_sub_cancel_right]
    · rintro ⟨h1, h0, h2⟩
      ext i
      fin_cases i
      · show p 0 = x + b 0 * s
        linarith
      · exact h1
      · rw [h0] at h2
        exact h2
  rw [hpoint, hpoint, ← hxplus, ← hxminus]
  tauto

end Plane

/-! ## The frame -/

section Frame

variable {llhToEcef : ℝ → ℝ → ℝ → Fin 3 → ℝ} {lat lon alt : ℝ} {velVec : Fin 3 → ℝ}

/-- **The axes are orthonormal**, for a velocity that is not along the nadir
direction. -/
theorem crf_orthonormal (hdist : llhToEcef lat lon 0 ≠ llhToEcef lat lon alt)
    (hvel : ∀ t : ℝ, velVec ≠ t • (llhToEcef lat lon 0 - llhToEcef lat lon alt)) :
    (getCrfInEfc numpyReal llhToEcef lon lat alt velVec).1.transpose *
      (getCrfInEfc numpyReal llhToEcef lon lat alt velVec).1 = 1 := by
  have hnad : llhToEcef lat lon 0 - llhToEcef lat lon alt ≠ 0 := sub_ne_zero.mpr hdist
  have hvel0 : velVec ≠ 0 := by
    have h := hvel 0
    rwa [zero_smul] at h
  simp only [getCrfInEfc, norm, numpyReal]
  generalize llhToEcef lat lon 0 - llhToEcef lat lon alt = n at hnad hvel
  have h1 := unit_dot_self hnad
  have hne : ∀ t : ℝ, (fun i => velVec i / √(velVec ⬝ᵥ velVec)) ≠
      t • (fun i => n i / √(n ⬝ᵥ n)) := by
    intro t heq
    apply hvel (√(velVec ⬝ᵥ velVec) * t / √(n ⬝ᵥ n))
    ext i
    have hi := congrFun heq i
    have hlen := ne_of_gt (sqrt_dot_self_pos hvel0)
    rw [Pi.smul_apply, smul_eq_mul] at hi ⊢
    rw [div_eq_iff hlen] at hi
    rw [hi]
    ring
  exact orthonormal_remainder h1 hne

/-- The nadir direction is the first axis. -/
theorem nadir_dot (hdist : llhToEcef lat lon 0 ≠ llhToEcef lat lon alt) (v : Fin 3 → ℝ) :
    (llhToEcef lat lon 0 - llhToEcef lat lon alt) ⬝ᵥ v =
      norm numpyReal (llhToEcef lat lon 0 - llhToEcef lat lon alt) *
        inFrame (getCrfInEfc numpyReal llhToEcef lon lat alt velVec).1 v 0 := by
  have hpos : 0 < norm numpyReal (llhToEcef lat lon 0 - llhToEcef lat lon alt) :=
    sqrt_dot_self_pos (sub_ne_zero.mpr hdist)
  simp only [getCrfInEfc, inFrame_ofColumns]
  generalize norm numpyReal (llhToEcef lat lon 0 - llhToEcef lat lon alt) = len at hpos
  generalize llhToEcef lat lon 0 - llhToEcef lat lon alt = n
  have hscale : (fun i => n i / len) = len⁻¹ • n := by
    ext i
    rw [Pi.smul_apply, smul_eq_mul, div_eq_inv_mul]
  show n ⬝ᵥ v = len * ((fun i => n i / len) ⬝ᵥ v)
  rw [hscale, smul_dotProduct, smul_eq_mul, mul_inv_cancel_left₀ (ne_of_gt hpos)]

/-- **A point at the measured range and angle**: at distance `range` from the
satellite, in the plane across the track, and with component
`range * sin angle` along the baseline. -/
structure SarinPoint (frame : Matrix (Fin 3) (Fin 3) ℝ × (Fin 3 → ℝ)) (baseVec : Fin 3 → ℝ)
    (range angle : ℝ) (q : Fin 3 → ℝ) : Prop where
  distance : norm numpyReal (q - frame.2) = range
  acrossTrack : inFrame frame.1 (q - frame.2) 1 = 0
  baseline : baseVec ⬝ᵥ inFrame frame.1 (q - frame.2) = range * Real.sin angle

/-- **The point nearer to nadir** of the two at the measured range and angle. -/
structure NadirwardPoint (frame : Matrix (Fin 3) (Fin 3) ℝ × (Fin 3 → ℝ))
    (nadirPoint baseVec : Fin 3 → ℝ) (range angle : ℝ) (p : Fin 3 → ℝ) : Prop where
  point : SarinPoint frame baseVec range angle p
  nadirward : ∃ other, SarinPoint frame baseVec range angle other ∧
    (nadirPoint - frame.2) ⬝ᵥ (other - frame.2) < (nadirPoint - frame.2) ⬝ᵥ (p - frame.2) ∧
    ∀ q, SarinPoint frame baseVec range angle q → q = p ∨ q = other

theorem dot_eq_three (x y : Fin 3 → ℝ) : x ⬝ᵥ y = x 0 * y 0 + x 1 * y 1 + x 2 * y 2 := by
  rw [dotProduct, Fin.sum_univ_three]

/-- Such a point, by its components in the frame. -/
theorem sarinPoint_iff {axes : Matrix (Fin 3) (Fin 3) ℝ} {cog baseVec q : Fin 3 → ℝ}
    {range angle : ℝ} (hortho : axes.transpose * axes = 1) (hrange : 0 < range) :
    SarinPoint (axes, cog) baseVec range angle q ↔
      inFrame axes (q - cog) 1 = 0 ∧
        inFrame axes (q - cog) 0 ^ 2 + inFrame axes (q - cog) 2 ^ 2 =
          (range * Real.sin angle) ^ 2 + (range * Real.cos angle) ^ 2 ∧
        baseVec 0 * inFrame axes (q - cog) 0 + baseVec 2 * inFrame axes (q - cog) 2 =
          range * Real.sin angle := by
  have hcircle : (range * Real.sin angle) ^ 2 + (range * Real.cos angle) ^ 2 = range ^ 2 := by
    linear_combination range ^ 2 * Real.sin_sq_add_cos_sq angle
  have hnorm : norm numpyReal (q - cog) = range ↔
      inFrame axes (q - cog) ⬝ᵥ inFrame axes (q - cog) = range ^ 2 := by
    rw [inFrame_dot hortho]
    show √((q - cog) ⬝ᵥ (q - cog)) = range ↔ _
    exact Real.sqrt_eq_iff_eq_sq (dot_self_nonneg _) hrange.le
  rw [hcircle]
  constructor
  · rintro ⟨hdistance, hacross, hbaseline⟩
    simp only at hdistance hacross hbaseline
    rw [hnorm, dot_eq_three, hacross] at hdistance
    rw [dot_eq_three, hacross] at hbaseline
    exact ⟨hacross, by linarith, by linarith⟩
  · rintro ⟨hacross, hdistance, hbaseline⟩
    refine ⟨?_, hacross, ?_⟩
    · show norm numpyReal (q - cog) = range
      rw [hnorm, dot_eq_three, hacross]
      linarith
    · show baseVec ⬝ᵥ inFrame axes (q - cog) = _
      rw [dot_eq_three, hacross]
      linarith

end Frame

/-- **The geometry of `angle_to_poca`.** For a unit baseline with third component,
an angle whose cone meets the plane across the track, a positive range, a
satellite above its nadir point and a velocity not along the nadir direction: the
axes of the frame are orthonormal, and the point computed is at the measured range
and angle, as is exactly one other, which lies less far towards nadir. -/
theorem angle_to_poca_point (llhToEcef : ℝ → ℝ → ℝ → Fin 3 → ℝ)
    (angle lat lon alt corRange : ℝ) (velVec baseVec : Fin 3 → ℝ)
    (hunit : baseVec ⬝ᵥ baseVec = 1) (hbase : baseVec 2 ≠ 0)
    (hangle : baseVec 1 ^ 2 < Real.cos angle ^ 2) (hrange : 0 < corRange)
    (hdist : llhToEcef lat lon 0 ≠ llhToEcef lat lon alt)
    (hvel : ∀ t : ℝ, velVec ≠ t • (llhToEcef lat lon 0 - llhToEcef lat lon alt)) :
    (getCrfInEfc numpyReal llhToEcef lon lat alt velVec).1.transpose *
          (getCrfInEfc numpyReal llhToEcef lon lat alt velVec).1 = 1 ∧
      NadirwardPoint (getCrfInEfc numpyReal llhToEcef lon lat alt velVec) (llhToEcef lat lon 0)
        baseVec corRange angle
        (efcPoint numpyReal llhToEcef angle lat lon alt corRange velVec baseVec) := by
  set frame := getCrfInEfc numpyReal llhToEcef lon lat alt velVec
  set point := efcPoint numpyReal llhToEcef angle lat lon alt corRange velVec baseVec
  set nadir := llhToEcef lat lon 0 - frame.2
  have hortho : frame.1.transpose * frame.1 = 1 := crf_orthonormal hdist hvel
  have hb : baseVec 0 ^ 2 + baseVec 1 ^ 2 + baseVec 2 ^ 2 = 1 := by
    rw [dot_eq_three] at hunit
    linarith
  have hcut : baseVec 1 ^ 2 *
      ((corRange * Real.sin angle) ^ 2 + (corRange * Real.cos angle) ^ 2) <
      (corRange * Real.cos angle) ^ 2 := by
    have hcircle : (corRange * Real.sin angle) ^ 2 + (corRange * Real.cos angle) ^ 2 =
        corRange ^ 2 := by
      linear_combination corRange ^ 2 * Real.sin_sq_add_cos_sq angle
    have hsq : 0 < corRange ^ 2 := by positivity
    rw [hcircle, mul_pow, mul_comm (corRange ^ 2)]
    exact mul_lt_mul_of_pos_right hangle hsq
  obtain ⟨other, hother, hsolutions⟩ := solveEqn_spec hb hbase hcut
  set crfPoint := solveEqn numpyReal ((corRange * Real.cos angle) ^ 2 -
    (baseVec 1 * (corRange * Real.sin angle)) ^ 2)
    (baseVec 1 * (baseVec 1 * (corRange * Real.sin angle))) baseVec
    (fun i => baseVec i * (corRange * Real.sin angle)) with hcrf
  have hpoint : point = frame.1 *ᵥ crfPoint + frame.2 := by
    show rotationMatrix frame.1 *ᵥ crfPoint + frame.2 = _
    rw [rotationMatrix_eq]
  -- a point is at the measured range and angle if its components are one of the two solutions
  have hiff : ∀ q, SarinPoint frame baseVec corRange angle q ↔
      inFrame frame.1 (q - frame.2) = crfPoint ∨ inFrame frame.1 (q - frame.2) = other :=
    fun q => (sarinPoint_iff hortho hrange).trans (hsolutions _)
  have hof : ∀ x, inFrame frame.1 (frame.1 *ᵥ x + frame.2 - frame.2) = x := by
    intro x
    rw [add_sub_cancel_right, inFrame_mulVec hortho]
  have hback : ∀ q x, inFrame frame.1 (q - frame.2) = x → q = frame.1 *ᵥ x + frame.2 := by
    rintro q x rfl
    rw [mulVec_inFrame hortho, sub_add_cancel]
  refine ⟨hortho, ?_, frame.1 *ᵥ other + frame.2, ?_, ?_, ?_⟩
  · rw [hiff, hpoint]
    exact Or.inl (hof crfPoint)
  · rw [hiff]
    exact Or.inr (hof other)
  · have hpos : 0 < norm numpyReal nadir := sqrt_dot_self_pos (sub_ne_zero.mpr hdist)
    have hnadir : ∀ v, nadir ⬝ᵥ v = norm numpyReal nadir * inFrame frame.1 v 0 :=
      fun v => nadir_dot hdist v
    rw [hnadir, hnadir, hpoint, hof, hof]
    exact mul_lt_mul_of_pos_left hother hpos
  · intro q hq
    rcases (hiff q).mp hq with h | h
    · left
      rw [hpoint]
      exact hback q _ h
    · exact Or.inr (hback q _ h)

/-- The location at latitude and longitude zero. -/
def equatorPoint (_ _ alt : ℝ) : Fin 3 → ℝ := ![6378137 + alt, 0, 0]

/-- A satellite above the equator that moves east, its baseline across the track. -/
theorem angle_to_poca_straight_down :
    (getCrfInEfc numpyReal equatorPoint 0 0 717000 ![0, 1, 0]).1.transpose *
          (getCrfInEfc numpyReal equatorPoint 0 0 717000 ![0, 1, 0]).1 = 1 ∧
      NadirwardPoint (getCrfInEfc numpyReal equatorPoint 0 0 717000 ![0, 1, 0])
        (equatorPoint 0 0 0) ![0, 0, -1] 716000 0
        (efcPoint numpyReal equatorPoint 0 0 0 717000 716000 ![0, 1, 0] ![0, 0, -1]) := by
  refine angle_to_poca_point equatorPoint 0 0 0 717000 716000 ![0, 1, 0] ![0, 0, -1]
    ?_ ?_ ?_ ?_ ?_ ?_
  · simp
  · simp
  · simp
  · norm_num
  · intro heq
    have h0 : (6378137 + 0 : ℝ) = 6378137 + 717000 := congrFun heq 0
    norm_num at h0
  · intro t heq
    have h1 : (1 : ℝ) = t * (0 - 0) := congrFun heq 1
    norm_num at h1

end Clev2er.Cryotempo
