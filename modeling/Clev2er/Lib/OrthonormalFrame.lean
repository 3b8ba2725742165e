import Mathlib.Analysis.SpecialFunctions.Sqrt
import Mathlib.LinearAlgebra.CrossProduct
import Mathlib.LinearAlgebra.Matrix.DotProduct
import Mathlib.LinearAlgebra.Matrix.NonsingularInverse

/-!
# Orthonormal frames of three axes

A frame is a matrix whose columns are its axes. The components of a vector in an
orthonormal frame have the inner products of the vectors themselves
(`inFrame_dot`), and give the vector back (`mulVec_inFrame`). `orthonormal_cross`
makes a frame of two axes and their cross product, and `orthonormal_remainder` one of
two directions that are not parallel.
-/

namespace Clev2er.Lib

open Matrix

/-- The matrix with given columns. -/
def ofColumns {K : Type} (a b c : Fin 3 → K) : Matrix (Fin 3) (Fin 3) K :=
  Matrix.of fun i j => (![a i, b i, c i] : Fin 3 → K) j

/-- The components of a vector along the axes of a frame. -/
def inFrame {K : Type} [NonUnitalNonAssocSemiring K] (axes : Matrix (Fin 3) (Fin 3) K)
    (v : Fin 3 → K) : Fin 3 → K :=
  axes.transpose *ᵥ v

section Frame

variable {K : Type} [CommRing K] {axes : Matrix (Fin 3) (Fin 3) K} {a b c v : Fin 3 → K}

theorem inFrame_ofColumns :
    inFrame (ofColumns a b c) v = ![a ⬝ᵥ v, b ⬝ᵥ v, c ⬝ᵥ v] := by
  ext j
  fin_cases j <;> rfl

theorem inFrame_mulVec (h : axes.transpose * axes = 1) (x : Fin 3 → K) :
    inFrame axes (axes *ᵥ x) = x := by
  rw [inFrame, Matrix.mulVec_mulVec, h, Matrix.one_mulVec]

theorem mulVec_inFrame (h : axes.transpose * axes = 1) (v : Fin 3 → K) :
    axes *ᵥ inFrame axes v = v := by
  rw [inFrame, Matrix.mulVec_mulVec, mul_eq_one_comm.mp h, Matrix.one_mulVec]

/-- Components have the inner product of the vectors. -/
theorem inFrame_dot (h : axes.transpose * axes = 1) (v w : Fin 3 → K) :
    inFrame axes v ⬝ᵥ inFrame axes w = v ⬝ᵥ w := by
  rw [inFrame, inFrame, Matrix.dotProduct_mulVec, Matrix.vecMul_transpose, Matrix.mulVec_mulVec,
    mul_eq_one_comm.mp h, Matrix.one_mulVec]

/-- Two orthonormal axes and their cross product. -/
theorem orthonormal_cross (ha : a ⬝ᵥ a = 1) (hb : b ⬝ᵥ b = 1) (hab : a ⬝ᵥ b = 0) :
    (ofColumns a b (crossProduct b a)).transpose * ofColumns a b (crossProduct b a) = 1 := by
  have hba : b ⬝ᵥ a = 0 := by rw [dotProduct_comm, hab]
  have hc : crossProduct b a ⬝ᵥ crossProduct b a = 1 := by
    rw [cross_dot_cross, hb, ha, hba, hab]
    ring
  have hac : a ⬝ᵥ crossProduct b a = 0 := dot_cross_self b a
  have hbc : b ⬝ᵥ crossProduct b a = 0 := dot_self_cross b a
  have hca : crossProduct b a ⬝ᵥ a = 0 := by rw [dotProduct_comm, hac]
  have hcb : crossProduct b a ⬝ᵥ b = 0 := by rw [dotProduct_comm, hbc]
  generalize crossProduct b a = c at hc hac hbc hca hcb
  -- entry (i, j) is the inner product of the axes i and j
  have hentry : ∀ i j, ((ofColumns a b c).transpose * ofColumns a b c) i j =
      (![a, b, c] : Fin 3 → Fin 3 → K) i ⬝ᵥ (![a, b, c] : Fin 3 → Fin 3 → K) j := by
    intro i j
    rw [Matrix.mul_apply', dotProduct, dotProduct]
    fin_cases i <;> fin_cases j <;> rfl
  ext i j
  rw [hentry]
  fin_cases i <;> fin_cases j <;> simp [ha, hb, hab, hba, hc, hac, hbc, hca, hcb]

end Frame

section Axes

variable {v w : Fin 3 → ℝ}

theorem dot_self_nonneg (v : Fin 3 → ℝ) : 0 ≤ v ⬝ᵥ v :=
  Finset.sum_nonneg fun i _ => mul_self_nonneg (v i)

theorem dot_self_pos (h : v ≠ 0) : 0 < v ⬝ᵥ v :=
  lt_of_le_of_ne (dot_self_nonneg v) fun heq => h (dotProduct_self_eq_zero.mp heq.symm)

theorem sqrt_dot_self_pos (h : v ≠ 0) : 0 < √(v ⬝ᵥ v) := Real.sqrt_pos.mpr (dot_self_pos h)

/-- A vector divided by its length. -/
theorem unit_dot_self (h : v ≠ 0) :
    (fun i => v i / √(v ⬝ᵥ v)) ⬝ᵥ (fun i => v i / √(v ⬝ᵥ v)) = 1 := by
  have hpos := sqrt_dot_self_pos h
  have hscale : (fun i => v i / √(v ⬝ᵥ v)) = (√(v ⬝ᵥ v))⁻¹ • v := by
    ext i
    rw [Pi.smul_apply, smul_eq_mul, div_eq_inv_mul]
  rw [hscale, smul_dotProduct, dotProduct_smul, smul_eq_mul, smul_eq_mul, ← mul_assoc, ← mul_inv,
    Real.mul_self_sqrt (dot_self_nonneg v)]
  exact inv_mul_cancel₀ (ne_of_gt (dot_self_pos h))

/-- What is left of `w` without its component along the unit vector `v`. -/
theorem dot_remainder (hv : v ⬝ᵥ v = 1) : v ⬝ᵥ (fun i => w i - v i * (v ⬝ᵥ w)) = 0 := by
  have hsub : (fun i => w i - v i * (v ⬝ᵥ w)) = w - (v ⬝ᵥ w) • v := by
    ext i
    rw [Pi.sub_apply, Pi.smul_apply, smul_eq_mul, mul_comm]
  rw [hsub, dotProduct_sub, dotProduct_smul, hv, smul_eq_mul, mul_one, sub_self]

/-- It is not zero if the two are not parallel. -/
theorem remainder_ne_zero (h : ∀ t : ℝ, w ≠ t • v) : (fun i => w i - v i * (v ⬝ᵥ w)) ≠ 0 := by
  intro hzero
  apply h (v ⬝ᵥ w)
  ext i
  have hi := congrFun hzero i
  rw [Pi.zero_apply, sub_eq_zero] at hi
  rw [Pi.smul_apply, smul_eq_mul, hi, mul_comm]

/-- **The frame of two directions**: the first axis along a unit vector, the second
along what is left of the other direction. -/
theorem orthonormal_remainder (hv : v ⬝ᵥ v = 1) (h : ∀ t : ℝ, w ≠ t • v) :
    let rest : Fin 3 → ℝ := fun i => w i - v i * (v ⬝ᵥ w)
    let second : Fin 3 → ℝ := fun i => rest i / √(rest ⬝ᵥ rest)
    (ofColumns v second (crossProduct second v)).transpose *
      ofColumns v second (crossProduct second v) = 1 := by
  intro rest second
  have hne : rest ≠ 0 := remainder_ne_zero h
  have hperp : v ⬝ᵥ rest = 0 := dot_remainder hv
  refine orthonormal_cross hv (unit_dot_self hne) ?_
  have hscale : second = (√(rest ⬝ᵥ rest))⁻¹ • rest := by
    ext i
    rw [Pi.smul_apply, smul_eq_mul, inv_mul_eq_div]
  rw [hscale, dotProduct_smul, hperp, smul_zero]

end Axes

end Clev2er.Lib
