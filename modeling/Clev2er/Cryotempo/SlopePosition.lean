import Clev2er.Cryotempo.LrmSlope
import Clev2er.Lib.UnitSphere

/-!
# The position of the echo

`proc_elev` moves the nadir by the slope correction and brings the angles back into
their ranges: one reflection at a pole and three turns of the longitude, the order of
which matters. The position on the sphere stays the displaced one.
-/

namespace Clev2er.Cryotempo

open Clev2er.Lib Clev2er.Retrack Real

/-! ## The displaced angles -/

/-- The arguments of `proc_elev`, with the latitude and the longitude in degrees. -/
structure ProcElevInput where
  lat : ℝ
  lon : ℝ
  alt : ℝ
  range : ℝ
  att : ℝ
  azimuth : ℝ
  meridional : ℝ
  zonal : ℝ

namespace ProcElevInput

variable (i : ProcElevInput)

/-- `proc_elev` of these arguments. -/
noncomputable def run : Except PyExc (WithNan ℝ × WithNan ℝ × WithNan ℝ) :=
  procElev mathReal (.num i.lat) (.num i.lon) (.num i.alt) (.num i.range)
    ⟨0, .num i.att, .num i.azimuth, .num i.meridional, .num i.zonal⟩

noncomputable def latRad : ℝ := i.lat * (π / (180 : ℕ))

noncomputable def lonRad : ℝ := i.lon * (π / (180 : ℕ))

/-- What is added to the latitude. -/
noncomputable def latShift : ℝ := i.range * cos i.azimuth * sin i.att / i.meridional

/-- What is added to the longitude. -/
noncomputable def lonShift : ℝ := i.range * sin i.azimuth * sin i.att / i.zonal

/-- What `rho` is divided by. -/
noncomputable def rhoDivisor : ℝ :=
  i.meridional * cos i.latRad * sin i.azimuth * sin i.azimuth +
    i.zonal * cos i.azimuth * cos i.azimuth

/-- The height above the echo: the range straight down, and the sag over the distance. -/
noncomputable def height : ℝ :=
  i.alt - i.range * cos i.att + i.range * sin i.att * i.range * sin i.att /
    ((2 : ℕ) * (i.meridional * i.zonal / i.rhoDivisor))

/-- The domain of the correction: a position, shifts of less than half a circle, and
radii that are not zero. -/
structure InDomain : Prop where
  south : -(π / 2) ≤ i.latRad
  north : i.latRad ≤ π / 2
  west : -π ≤ i.lonRad
  east : i.lonRad ≤ 2 * π
  latShift : |i.latShift| < π
  lonShift : |i.lonShift| < π
  meridional : i.meridional ≠ 0
  zonal : i.zonal ≠ 0

/-- **Normalised, and the same position**: `proc_elev` returns a height and angles in
their ranges, which name the point of the displaced angles. -/
inductive Normalised : Prop where
  | intro (height lat lon : ℝ) (run_eq : i.run = .ok (.num height, .num lat, .num lon))
      (lat_mem : -(π / 2) ≤ lat ∧ lat ≤ π / 2) (lon_mem : -π < lon ∧ lon ≤ π)
      (same_point : unitVector lat lon =
        unitVector (i.latRad + i.latShift) (i.lonRad + i.lonShift))

end ProcElevInput

/-! ## The branches of the code -/

section Branches

variable {K : Type} [Field K] [LinearOrder K] (pi lat lon bound : K)

theorem north_code :
    (if .num (pi / (2 : ℕ)) < WithNan.num lat then
      (WithNan.num pi - .num lat, WithNan.num lon + .num pi) else (.num lat, .num lon)) =
      (.num (if pi / (2 : ℕ) < lat then (pi - lat, lon + pi) else (lat, lon)).1,
        .num (if pi / (2 : ℕ) < lat then (pi - lat, lon + pi) else (lat, lon)).2) := by
  by_cases h : pi / (2 : ℕ) < lat
  · rw [if_pos h, if_pos ((WithNan.num_lt_num _ _).mpr h)]
    rfl
  · rw [if_neg h, if_neg fun hlt => h ((WithNan.num_lt_num _ _).mp hlt)]

theorem south_code :
    (if WithNan.num lat < .num (pi / -(2 : ℕ)) then
      (WithNan.num (-1 * pi) - .num lat, WithNan.num lon + .num pi) else (.num lat, .num lon)) =
      (.num (if lat < -(pi / (2 : ℕ)) then (-pi - lat, lon + pi) else (lat, lon)).1,
        .num (if lat < -(pi / (2 : ℕ)) then (-pi - lat, lon + pi) else (lat, lon)).2) := by
  have hbound : WithNan.num lat < .num (pi / -(2 : ℕ)) ↔ lat < -(pi / (2 : ℕ)) := by
    rw [WithNan.num_lt_num, div_neg]
  by_cases h : lat < -(pi / (2 : ℕ))
  · rw [if_pos h, if_pos (hbound.mpr h), neg_one_mul]
    rfl
  · rw [if_neg h, if_neg fun hlt => h (hbound.mp hlt)]

theorem below_code :
    (if WithNan.num lon < .num 0 then WithNan.num lon + .num (pi * (2 : ℕ)) else .num lon) =
      .num (if lon < 0 then lon + pi * (2 : ℕ) else lon) := by
  by_cases h : lon < 0
  · rw [if_pos h, if_pos ((WithNan.num_lt_num _ _).mpr h)]
    rfl
  · rw [if_neg h, if_neg fun hlt => h ((WithNan.num_lt_num _ _).mp hlt)]

theorem above_code :
    (if WithNan.num bound < .num lon then WithNan.num lon - .num (pi * (2 : ℕ)) else .num lon) =
      .num (if bound < lon then lon - pi * (2 : ℕ) else lon) := by
  by_cases h : bound < lon
  · rw [if_pos h, if_pos ((WithNan.num_lt_num _ _).mpr h)]
    rfl
  · rw [if_neg h, if_neg fun hlt => h ((WithNan.num_lt_num _ _).mp hlt)]

end Branches

namespace ProcElevInput

variable {i : ProcElevInput}

theorem latRad_eq : i.latRad = i.lat * (π / 180) := by rw [latRad, Nat.cast_ofNat]

theorem lonRad_eq : i.lonRad = i.lon * (π / 180) := by rw [lonRad, Nat.cast_ofNat]

/-- The divisor of `rho`, as the code computes it. -/
theorem rhoDivisor_code :
    .num i.meridional * (radians mathReal (.num i.lat)).map mathReal.cos *
        (WithNan.num i.azimuth).map mathReal.sin * (WithNan.num i.azimuth).map mathReal.sin +
      .num i.zonal * (WithNan.num i.azimuth).map mathReal.cos *
        (WithNan.num i.azimuth).map mathReal.cos = .num i.rhoDivisor := rfl

theorem run_divisor_zero (h : i.rhoDivisor = 0) : i.run = .error zeroDivision := by
  have hrho : divide zeroDivision (WithNan.num i.meridional * .num i.zonal)
      (.num i.rhoDivisor) = .error zeroDivision := by
    rw [h]
    exact if_pos rfl
  rw [run]
  unfold procElev
  simp only [rhoDivisor_code, hrho, bind, Except.bind]

/-- **What `proc_elev` returns**: the displaced angles, folded and wrapped. -/
theorem run_eq (hdivisor : i.rhoDivisor ≠ 0) (hm : i.meridional ≠ 0) (hz : i.zonal ≠ 0) :
    i.run = .ok (.num i.height,
      .num (foldLatitude (i.latRad + i.latShift) (i.lonRad + i.lonShift)).1,
      .num (wrapLongitude (foldLatitude (i.latRad + i.latShift) (i.lonRad + i.lonShift)).2)) := by
  have hrho : divide zeroDivision (WithNan.num i.meridional * .num i.zonal)
      (.num i.rhoDivisor) = .ok (.num (i.meridional * i.zonal / i.rhoDivisor)) :=
    divide_num hdivisor
  have htwo : (2 : ℕ) * (i.meridional * i.zonal / i.rhoDivisor) ≠ 0 :=
    mul_ne_zero (Nat.cast_ne_zero.mpr two_ne_zero) (div_ne_zero (mul_ne_zero hm hz) hdivisor)
  have hsag : divide (floatingPointError "divide")
      (.num i.range * (WithNan.num i.att).map mathReal.sin * .num i.range *
        (WithNan.num i.att).map mathReal.sin)
      (.num (2 : ℕ) * .num (i.meridional * i.zonal / i.rhoDivisor)) =
      .ok (.num (i.range * sin i.att * i.range * sin i.att /
        ((2 : ℕ) * (i.meridional * i.zonal / i.rhoDivisor)))) := divide_num htwo
  have hlatShift : divide (floatingPointError "divide")
      (.num i.range * (WithNan.num i.azimuth).map mathReal.cos *
        (WithNan.num i.att).map mathReal.sin) (.num i.meridional) = .ok (.num i.latShift) :=
    divide_num hm
  have hlonShift : divide (floatingPointError "divide")
      (.num i.range * (WithNan.num i.azimuth).map mathReal.sin *
        (WithNan.num i.att).map mathReal.sin) (.num i.zonal) = .ok (.num i.lonShift) :=
    divide_num hz
  have hlat : radians mathReal (.num i.lat) + .num i.latShift = .num (i.latRad + i.latShift) := rfl
  have hlon : radians mathReal (.num i.lon) + .num i.lonShift = .num (i.lonRad + i.lonShift) := rfl
  rw [run]
  unfold procElev
  simp only [rhoDivisor_code, hrho, hsag, hlatShift, hlonShift, bind, Except.bind]
  -- the two reflections, then the three turns
  rw [hlat, hlon, north_code]
  dsimp only
  rw [south_code]
  dsimp only
  rw [below_code, above_code, above_code]
  rfl

/-! ## The position that is returned -/

/-- A position in degrees and shifts of up to one radian. -/
theorem inDomain_of_degrees (hlat : -90 ≤ i.lat ∧ i.lat ≤ 90) (hlon : -180 ≤ i.lon ∧ i.lon ≤ 360)
    (hlatShift : |i.latShift| ≤ 1) (hlonShift : |i.lonShift| ≤ 1) (hm : i.meridional ≠ 0)
    (hz : i.zonal ≠ 0) : i.InDomain := by
  have hpi : 1 < π := by linarith [two_le_pi]
  have hdegree : 0 < π / 180 := by positivity
  refine ⟨?_, ?_, ?_, ?_, hlatShift.trans_lt hpi, hlonShift.trans_lt hpi, hm, hz⟩
  · rw [latRad_eq]
    linarith [mul_le_mul_of_nonneg_right hlat.1 hdegree.le]
  · rw [latRad_eq]
    linarith [mul_le_mul_of_nonneg_right hlat.2 hdegree.le]
  · rw [lonRad_eq]
    linarith [mul_le_mul_of_nonneg_right hlon.1 hdegree.le]
  · rw [lonRad_eq]
    linarith [mul_le_mul_of_nonneg_right hlon.2 hdegree.le]

theorem InDomain.latitude_lt (h : i.InDomain) :
    -(3 * π / 2) < i.latRad + i.latShift ∧ i.latRad + i.latShift < 3 * π / 2 := by
  obtain ⟨hlow, hhigh⟩ := abs_lt.mp h.latShift
  constructor <;> linarith [h.south, h.north]

theorem InDomain.longitude_lt (h : i.InDomain) :
    -(2 * π) < i.lonRad + i.lonShift ∧ i.lonRad + i.lonShift < 3 * π := by
  obtain ⟨hlow, hhigh⟩ := abs_lt.mp h.lonShift
  constructor <;> linarith [h.west, h.east]

/-- **Where a height is computed, the position is normalised and the displaced one**; where
the divisor of `rho` is zero, the code raises. -/
theorem normalised_or_raises (h : i.InDomain) :
    (i.rhoDivisor ≠ 0 → i.Normalised) ∧ (i.rhoDivisor = 0 → i.run = .error zeroDivision) := by
  refine ⟨fun hdivisor => ?_, run_divisor_zero⟩
  obtain ⟨hlow, hhigh⟩ := h.latitude_lt
  obtain ⟨hwest, heast⟩ := h.longitude_lt
  obtain ⟨hlat, hlon⟩ := foldLatitude_mem (i.lonRad + i.lonShift) hlow hhigh
  have hwrap : -(2 * π) < (foldLatitude (i.latRad + i.latShift) (i.lonRad + i.lonShift)).2 ∧
      (foldLatitude (i.latRad + i.latShift) (i.lonRad + i.lonShift)).2 < 4 * π := by
    have hpi := pi_pos
    rcases hlon with hlon | hlon
    · rw [hlon]
      constructor <;> linarith
    · rw [hlon]
      constructor <;> linarith
  refine .intro _ _ _ (run_eq hdivisor h.meridional h.zonal) hlat
    (wrapLongitude_mem hwrap.1 hwrap.2) ?_
  rw [unitVector_wrapLongitude, unitVector_foldLatitude]

/-- **Off the poles, positive radii are enough**: such are those of an ellipsoid. -/
theorem rhoDivisor_pos (hm : 0 < i.meridional) (hz : 0 < i.zonal) (hsouth : -(π / 2) < i.latRad)
    (hnorth : i.latRad < π / 2) : 0 < i.rhoDivisor := by
  have hcos : 0 < cos i.latRad := cos_pos_of_mem_Ioo ⟨hsouth, hnorth⟩
  have hsplit : i.rhoDivisor = i.meridional * cos i.latRad * sin i.azimuth ^ 2 +
      i.zonal * cos i.azimuth ^ 2 := by
    rw [rhoDivisor]
    ring
  rw [hsplit]
  by_cases hzero : cos i.azimuth = 0
  · have hsin : sin i.azimuth ^ 2 = 1 := by
      rw [sin_sq, hzero]
      ring
    rw [hsin, hzero]
    have hpos := mul_pos hm hcos
    linarith
  · have hfirst : 0 ≤ i.meridional * cos i.latRad * sin i.azimuth ^ 2 :=
      mul_nonneg (mul_pos hm hcos).le (sq_nonneg _)
    have hsecond : 0 < i.zonal * cos i.azimuth ^ 2 := mul_pos hz (by positivity)
    linarith

/-! ## Over the pole, and without a radius of curvature -/

/-- One radian north of 80 degrees: over the pole. -/
noncomputable def overPole : ProcElevInput where
  lat := (80 : ℕ)
  lon := (100 : ℕ)
  alt := (717000 : ℕ)
  range := 1
  att := π / (2 : ℕ)
  azimuth := 0
  meridional := 1
  zonal := 1

theorem inDomain_overPole : overPole.InDomain := by
  have hlat : overPole.latShift = 1 := by
    show 1 * cos 0 * sin (π / (2 : ℕ)) / 1 = 1
    rw [Nat.cast_ofNat, cos_zero, sin_pi_div_two]
    norm_num
  have hlon : overPole.lonShift = 0 := by
    rw [lonShift, overPole, sin_zero]
    norm_num
  refine inDomain_of_degrees ?_ ?_ ?_ ?_ one_ne_zero one_ne_zero
  · norm_num [overPole]
  · norm_num [overPole]
  · rw [hlat, abs_one]
  · rw [hlon, abs_zero]
    exact zero_le_one

theorem normalised_overPole : overPole.rhoDivisor ≠ 0 ∧ overPole.Normalised := by
  have hdivisor : overPole.rhoDivisor ≠ 0 := by
    rw [rhoDivisor, overPole, sin_zero, cos_zero]
    norm_num
  exact ⟨hdivisor, (normalised_or_raises inDomain_overPole).1 hdivisor⟩

/-- Radii of opposite signs, at 45 degrees of azimuth on the equator. In doubles, whose
sine and cosine of `math.pi / 4` differ, the divisor is zero for the azimuth 1.0, the
meridional radius 1.0 and the zonal radius -2.425518820814759. -/
noncomputable def oppositeRadii : ProcElevInput where
  lat := 0
  lon := 0
  alt := (717000 : ℕ)
  range := 1
  att := 0
  azimuth := π / (4 : ℕ)
  meridional := 1
  zonal := -1

theorem inDomain_oppositeRadii : oppositeRadii.InDomain := by
  have hlat : oppositeRadii.latShift = 0 := by
    rw [latShift, oppositeRadii, sin_zero]
    norm_num
  have hlon : oppositeRadii.lonShift = 0 := by
    rw [lonShift, oppositeRadii, sin_zero]
    norm_num
  refine inDomain_of_degrees ?_ ?_ ?_ ?_ one_ne_zero (neg_ne_zero.mpr one_ne_zero)
  · norm_num [oppositeRadii]
  · norm_num [oppositeRadii]
  · rw [hlat, abs_zero]
    exact zero_le_one
  · rw [hlon, abs_zero]
    exact zero_le_one

/-- **No radius of curvature**: the shifts are zero and the radii are not, and the code
divides by zero. -/
theorem procElev_divides_by_zero :
    oppositeRadii.InDomain ∧ oppositeRadii.run = .error zeroDivision ∧
      ¬ oppositeRadii.Normalised := by
  have hdivisor : oppositeRadii.rhoDivisor = 0 := by
    have hlat : oppositeRadii.latRad = 0 := zero_mul _
    rw [rhoDivisor, hlat]
    show 1 * cos 0 * sin (π / (4 : ℕ)) * sin (π / (4 : ℕ)) +
      -1 * cos (π / (4 : ℕ)) * cos (π / (4 : ℕ)) = 0
    rw [Nat.cast_ofNat, cos_zero, sin_pi_div_four, cos_pi_div_four]
    ring
  refine ⟨inDomain_oppositeRadii, run_divisor_zero hdivisor, ?_⟩
  rintro ⟨height, lat, lon, hrun, -⟩
  rw [run_divisor_zero hdivisor] at hrun
  cases hrun

end ProcElevInput

end Clev2er.Cryotempo
