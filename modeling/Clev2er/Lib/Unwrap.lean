import Mathlib.Algebra.Group.ModEq
import Mathlib.Algebra.Order.Round
import Mathlib.Data.List.Chain
import Mathlib.Data.List.Forall2
import Mathlib.Tactic.Linarith
import Mathlib.Tactic.Ring

/-!
# Unwrapping

Values that are known up to whole periods are unwrapped by adding periods so that
neighbours differ by half a period at most (`unwrap_sameModulo`, `unwrap_steps`). Up to
periods that are added to all of them, there is only one list of such values whose
neighbours differ by less than half a period (`eq_shift_of_sameModulo`).
-/

namespace Clev2er.Lib

open AddCommGroup

section Lists

variable {K : Type} [Field K]

/-- The same values up to whole periods. -/
def SameModulo (period : K) (xs ys : List K) : Prop :=
  List.Forall₂ (fun x y => x ≡ y [PMOD period]) xs ys

theorem SameModulo.symm {period : K} {xs ys : List K} (h : SameModulo period xs ys) :
    SameModulo period ys xs :=
  h.flip.imp fun _ _ h => ModEq.symm h

theorem SameModulo.trans {period : K} {xs ys zs : List K} (h : SameModulo period xs ys)
    (h' : SameModulo period ys zs) : SameModulo period xs zs := by
  induction h generalizing zs with
  | nil => exact h'
  | cons hxy _ ih =>
      obtain _ | ⟨hyz, hrest⟩ := h'
      exact .cons (hxy.trans hyz) (ih hrest)

/-- Whole periods added to all values. -/
theorem sameModulo_shift (period : K) (k : ℤ) (xs : List K) :
    SameModulo period xs (xs.map (· + k • period)) := by
  induction xs with
  | nil => exact .nil
  | cons x xs ih => exact .cons (add_zsmul_modEq k).symm ih

variable [LinearOrder K]

/-- Neighbours differ by `d` at most. -/
def StepsUpTo (d : K) (ys : List K) : Prop := ys.IsChain fun a b => |b - a| ≤ d

/-- Neighbours differ by less than `d`. -/
def StepsBelow (d : K) (ys : List K) : Prop := ys.IsChain fun a b => |b - a| < d

theorem stepsUpTo_shift {d : K} {ys : List K} (h : StepsUpTo d ys) (c : K) :
    StepsUpTo d (ys.map (· + c)) := by
  rw [StepsUpTo, List.isChain_map]
  exact h.imp fun a b hab => by rwa [add_sub_add_right_eq_sub]

end Lists

variable {K : Type} [Field K] [LinearOrder K] [IsStrictOrderedRing K]

/-! ## One value -/

section Step

variable {half a b d : K}

/-- Values that agree up to whole periods and differ by less than one are equal. -/
theorem eq_of_modEq (h : a ≡ b [PMOD 2 * half]) (hlt : |b - a| < 2 * half) : a = b := by
  obtain ⟨k, hk⟩ := modEq_iff_zsmul.mp h
  have hpos : 0 < 2 * half := lt_of_le_of_lt (abs_nonneg _) hlt
  rw [← hk, zsmul_eq_mul, abs_mul, abs_of_pos hpos, mul_lt_iff_lt_one_left hpos] at hlt
  have hk0 : k = 0 := by
    have hlt' : |k| < 1 := by exact_mod_cast hlt
    exact Int.abs_lt_one_iff.mp hlt'
  rw [hk0, zero_zsmul] at hk
  exact (sub_eq_zero.mp hk.symm).symm

variable [FloorRing K]

/-- A difference, up to whole periods, of `-half` at least and less than `half`. -/
def wrapped (half d : K) : K :=
  d + half - (half + half) * ⌊(d + half) / (half + half)⌋ - half

/-- The difference that `np.unwrap` makes of the difference `d`. -/
def unwrapStep (half d : K) : K :=
  if |d| < half then d
  else if wrapped half d = -half ∧ 0 < d then half
  else wrapped half d

theorem wrapped_bounds (hpos : 0 < half) : -half ≤ wrapped half d ∧ wrapped half d < half := by
  have hperiod : 0 < 2 * half := by linarith
  have hlow := Int.floor_le ((d + half) / (2 * half))
  have hhigh := Int.lt_floor_add_one ((d + half) / (2 * half))
  rw [le_div_iff₀ hperiod] at hlow
  rw [div_lt_iff₀ hperiod] at hhigh
  rw [wrapped, ← two_mul]
  constructor
  · linarith
  · linarith

omit [IsStrictOrderedRing K] in
theorem wrapped_modEq : wrapped half d ≡ d [PMOD 2 * half] := by
  refine modEq_iff_zsmul.mpr ⟨⌊(d + half) / (2 * half)⌋, ?_⟩
  rw [zsmul_eq_mul, wrapped, ← two_mul]
  ring

omit [IsStrictOrderedRing K] in
theorem unwrapStep_modEq : unwrapStep half d ≡ d [PMOD 2 * half] := by
  unfold unwrapStep
  split
  · exact modEq_rfl
  · split
    · next hambiguous =>
      have hends : half ≡ wrapped half d [PMOD 2 * half] := by
        rw [hambiguous.1]
        exact modEq_iff_zsmul.mpr ⟨-1, by rw [neg_zsmul, one_zsmul]; ring⟩
      exact hends.trans wrapped_modEq
    · exact wrapped_modEq

theorem abs_unwrapStep_le (hpos : 0 < half) : |unwrapStep half d| ≤ half := by
  obtain ⟨hlow, hhigh⟩ : -half ≤ wrapped half d ∧ wrapped half d < half := wrapped_bounds hpos
  unfold unwrapStep
  split
  · next hlt => exact hlt.le
  · split
    · rw [abs_of_pos hpos]
    · exact abs_le.mpr ⟨hlow, hhigh.le⟩

end Step

/-! ## Lists -/

section Unwrap

variable {half : K}

/-- **Uniqueness.** -/
theorem eq_shift_from {y z : K} {ys zs : List K} {k : ℤ} (hz : z = y + k • (2 * half))
    (hmod : SameModulo (2 * half) ys zs) (hys : StepsUpTo half (y :: ys))
    (hzs : StepsBelow half (z :: zs)) : zs = ys.map (· + k • (2 * half)) := by
  induction hmod generalizing y z with
  | nil => rfl
  | @cons y' z' ys zs hyz hrest ih =>
      obtain ⟨hstepY, hys⟩ := List.isChain_cons_cons.mp hys
      obtain ⟨hstepZ, hzs⟩ := List.isChain_cons_cons.mp hzs
      -- the two steps agree up to whole periods
      have hsame : y' + k • (2 * half) ≡ z' [PMOD 2 * half] := (add_zsmul_modEq k).trans hyz
      have hlt : |z' - (y' + k • (2 * half))| < 2 * half := by
        have hsplit : z' - (y' + k • (2 * half)) = (z' - z) - (y' - y) := by
          rw [hz]
          ring
        have htriangle := abs_sub (z' - z) (y' - y)
        rw [hsplit]
        linarith
      have hz' := (eq_of_modEq hsame hlt).symm
      rw [List.map_cons, ← ih hz' hys hzs, hz']

theorem eq_shift_of_sameModulo {ys zs : List K} (hmod : SameModulo (2 * half) ys zs)
    (hys : StepsUpTo half ys) (hzs : StepsBelow half zs) :
    ∃ k : ℤ, zs = ys.map (· + k • (2 * half)) := by
  cases hmod with
  | nil => exact ⟨0, rfl⟩
  | @cons y z ys zs hyz hrest =>
      obtain ⟨k, hk⟩ := modEq_iff_eq_add_zsmul.mp hyz
      exact ⟨k, by rw [List.map_cons, ← eq_shift_from hk hrest hys hzs, hk]⟩

variable [FloorRing K]

/-- The values after `y`, where `x` is what `y` was made of. -/
def unwrapFrom (half x y : K) : List K → List K
  | [] => []
  | x' :: xs =>
      let y' := y + unwrapStep half (x' - x)
      y' :: unwrapFrom half x' y' xs

/-- `np.unwrap`. -/
def unwrap (half : K) : List K → List K
  | [] => []
  | x :: xs => x :: unwrapFrom half x x xs

omit [IsStrictOrderedRing K] in
theorem unwrapFrom_sameModulo {x y : K} (xs : List K) (h : x ≡ y [PMOD 2 * half]) :
    SameModulo (2 * half) xs (unwrapFrom half x y xs) := by
  induction xs generalizing x y with
  | nil => exact .nil
  | cons x' xs ih =>
      have hstep : x' ≡ y + unwrapStep half (x' - x) [PMOD 2 * half] := by
        have hdiff : unwrapStep half (x' - x) ≡ x' - x [PMOD 2 * half] := unwrapStep_modEq
        have hadd := h.add hdiff.symm
        rwa [add_sub_cancel] at hadd
      exact .cons hstep (ih hstep)

omit [IsStrictOrderedRing K] in
/-- The values are the same up to whole periods. -/
theorem unwrap_sameModulo (xs : List K) : SameModulo (2 * half) xs (unwrap half xs) := by
  cases xs with
  | nil => exact .nil
  | cons x xs => exact .cons modEq_rfl (unwrapFrom_sameModulo xs modEq_rfl)

theorem unwrapFrom_steps (hpos : 0 < half) {x y : K} (xs : List K) :
    StepsUpTo half (y :: unwrapFrom half x y xs) := by
  induction xs generalizing x y with
  | nil => exact .singleton y
  | cons x' xs ih =>
      refine List.isChain_cons_cons.mpr ⟨?_, ih⟩
      rw [add_sub_cancel_left]
      exact abs_unwrapStep_le hpos

/-- Neighbours differ by half a period at most. -/
theorem unwrap_steps (hpos : 0 < half) (xs : List K) : StepsUpTo half (unwrap half xs) := by
  cases xs with
  | nil => exact .nil
  | cons x xs => exact unwrapFrom_steps hpos xs

end Unwrap

end Clev2er.Lib
