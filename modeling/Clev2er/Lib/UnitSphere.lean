import Mathlib.Analysis.SpecialFunctions.Trigonometric.Basic
import Mathlib.Tactic.Linarith

/-!
# Angles of a point of the unit sphere

A latitude beyond a pole and a longitude beyond a full turn name a point of the sphere
as well. `foldLatitude` and `wrapLongitude` bring them back into their ranges, and
`unitVector` says that the point stays the same.
-/

namespace Clev2er.Lib

open Real

/-- The point of the unit sphere at a latitude and a longitude, in radians. -/
noncomputable def unitVector (lat lon : ℝ) : ℝ × ℝ × ℝ :=
  (cos lat * cos lon, cos lat * sin lon, sin lat)

/-- Behind the north pole, the angles are counted from the other side of it. -/
noncomputable def crossNorth (lat lon : ℝ) : ℝ × ℝ :=
  if π / (2 : ℕ) < lat then (π - lat, lon + π) else (lat, lon)

noncomputable def crossSouth (lat lon : ℝ) : ℝ × ℝ :=
  if lat < -(π / (2 : ℕ)) then (-π - lat, lon + π) else (lat, lon)

/-- Both poles in turn. -/
noncomputable def foldLatitude (lat lon : ℝ) : ℝ × ℝ :=
  crossSouth (crossNorth lat lon).1 (crossNorth lat lon).2

noncomputable def addTurn (lon : ℝ) : ℝ := if lon < 0 then lon + π * (2 : ℕ) else lon

noncomputable def dropTurn (bound lon : ℝ) : ℝ := if bound < lon then lon - π * (2 : ℕ) else lon

/-- A longitude without its full turns, first between 0 and a full turn. -/
noncomputable def wrapLongitude (lon : ℝ) : ℝ := dropTurn π (dropTurn (π * (2 : ℕ)) (addTurn lon))

section Position

variable (lat lon : ℝ)

theorem crossNorth_eq :
    crossNorth lat lon = if π / 2 < lat then (π - lat, lon + π) else (lat, lon) := by
  rw [crossNorth, Nat.cast_ofNat]

theorem crossSouth_eq :
    crossSouth lat lon = if lat < -(π / 2) then (-π - lat, lon + π) else (lat, lon) := by
  rw [crossSouth, Nat.cast_ofNat]

theorem addTurn_eq : addTurn lon = if lon < 0 then lon + 2 * π else lon := by
  rw [addTurn, Nat.cast_ofNat, mul_comm]

theorem dropTurn_eq (bound : ℝ) :
    dropTurn bound lon = if bound < lon then lon - 2 * π else lon := by
  rw [dropTurn, Nat.cast_ofNat, mul_comm]

theorem unitVector_crossNorth :
    unitVector (crossNorth lat lon).1 (crossNorth lat lon).2 = unitVector lat lon := by
  rw [crossNorth_eq]
  split
  · show unitVector (π - lat) (lon + π) = _
    rw [unitVector, unitVector, cos_pi_sub, sin_pi_sub, cos_add_pi, sin_add_pi, neg_mul_neg,
      neg_mul_neg]
  · rfl

theorem unitVector_crossSouth :
    unitVector (crossSouth lat lon).1 (crossSouth lat lon).2 = unitVector lat lon := by
  have hangle : -π - lat = -(lat + π) := by ring
  have hcos : cos (-π - lat) = -cos lat := by rw [hangle, cos_neg, cos_add_pi]
  have hsin : sin (-π - lat) = sin lat := by rw [hangle, sin_neg, sin_add_pi, neg_neg]
  rw [crossSouth_eq]
  split
  · show unitVector (-π - lat) (lon + π) = _
    rw [unitVector, unitVector, hcos, hsin, cos_add_pi, sin_add_pi, neg_mul_neg, neg_mul_neg]
  · rfl

theorem unitVector_addTurn : unitVector lat (addTurn lon) = unitVector lat lon := by
  rw [addTurn_eq]
  split
  · rw [unitVector, unitVector, cos_add_two_pi, sin_add_two_pi]
  · rfl

theorem unitVector_dropTurn (bound : ℝ) :
    unitVector lat (dropTurn bound lon) = unitVector lat lon := by
  rw [dropTurn_eq]
  split
  · rw [unitVector, unitVector, cos_sub_two_pi, sin_sub_two_pi]
  · rfl

/-- **Folding keeps the point.** -/
theorem unitVector_foldLatitude :
    unitVector (foldLatitude lat lon).1 (foldLatitude lat lon).2 = unitVector lat lon := by
  rw [foldLatitude, unitVector_crossSouth, unitVector_crossNorth]

/-- **Wrapping keeps the point.** -/
theorem unitVector_wrapLongitude : unitVector lat (wrapLongitude lon) = unitVector lat lon := by
  rw [wrapLongitude, unitVector_dropTurn, unitVector_dropTurn, unitVector_addTurn]

end Position

section Ranges

variable {lat lon : ℝ}

/-- One pole crossing is enough within one and a half turns, and it turns the longitude by
half a circle. -/
theorem foldLatitude_mem (lon : ℝ) (hlow : -(3 * π / 2) < lat) (hhigh : lat < 3 * π / 2) :
    (-(π / 2) ≤ (foldLatitude lat lon).1 ∧ (foldLatitude lat lon).1 ≤ π / 2) ∧
      ((foldLatitude lat lon).2 = lon ∨ (foldLatitude lat lon).2 = lon + π) := by
  have hpi := pi_pos
  by_cases hnorth : π / 2 < lat
  · -- the reflected latitude is no longer beyond a pole
    have hsouth : ¬ π - lat < -(π / 2) := by linarith
    have hfold : foldLatitude lat lon = (π - lat, lon + π) := by
      rw [foldLatitude, crossNorth_eq, if_pos hnorth, crossSouth_eq, if_neg hsouth]
    rw [hfold]
    exact ⟨⟨by linarith, by linarith⟩, .inr rfl⟩
  · by_cases hsouth : lat < -(π / 2)
    · have hfold : foldLatitude lat lon = (-π - lat, lon + π) := by
        rw [foldLatitude, crossNorth_eq, if_neg hnorth, crossSouth_eq, if_pos hsouth]
      rw [hfold]
      exact ⟨⟨by linarith, by linarith⟩, .inr rfl⟩
    · have hfold : foldLatitude lat lon = (lat, lon) := by
        rw [foldLatitude, crossNorth_eq, if_neg hnorth, crossSouth_eq, if_neg hsouth]
      rw [hfold]
      exact ⟨⟨by linarith, by linarith⟩, .inl rfl⟩

theorem addTurn_mem (hlow : -(2 * π) < lon) (hhigh : lon < 4 * π) :
    0 ≤ addTurn lon ∧ addTurn lon < 4 * π := by
  have hpi := pi_pos
  rw [addTurn_eq]
  split
  · constructor <;> linarith
  · constructor <;> linarith

theorem dropTurn_mem (hlow : 0 ≤ lon) (hhigh : lon < 4 * π) :
    0 ≤ dropTurn (π * (2 : ℕ)) lon ∧ dropTurn (π * (2 : ℕ)) lon ≤ 2 * π := by
  rw [dropTurn_eq, Nat.cast_ofNat]
  split
  · constructor <;> linarith
  · constructor <;> linarith

/-- **The order of the turns matters**: the first two reach `[0, 2π]`, from where one more
turn is enough. -/
theorem wrapLongitude_mem (hlow : -(2 * π) < lon) (hhigh : lon < 4 * π) :
    -π < wrapLongitude lon ∧ wrapLongitude lon ≤ π := by
  have hpi := pi_pos
  obtain ⟨hzero, hfour⟩ := addTurn_mem hlow hhigh
  obtain ⟨hzero', htwo⟩ := dropTurn_mem hzero hfour
  rw [wrapLongitude, dropTurn_eq]
  split
  · constructor <;> linarith
  · constructor <;> linarith

end Ranges

end Clev2er.Lib
