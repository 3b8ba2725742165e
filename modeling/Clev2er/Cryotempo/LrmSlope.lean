import Clev2er.Cryotempo.Algorithms
import Mathlib.Algebra.Order.Floor.Ring
import Mathlib.Analysis.SpecialFunctions.Complex.Arg
import Mathlib.Analysis.SpecialFunctions.Trigonometric.Inverse

/-!
# `lrm_slope`

The slope correction of LRM records with a slope model. `setup_slopes` finds the
grid cell of a location, `interp_slope` interpolates the slope from six grid
points, `calc_echo_dir` turns it into the direction of the echo, and `proc_elev`
into a height and a position. `do_slope` passes an error status along the chain;
`doSlope_found` says what is left of it.

A number that is not finite is NaN here, but for an infinite slope of the file,
which counts as a number above 999.
-/

namespace Clev2er.Cryotempo

open Clev2er.Lib Clev2er.Retrack

/-- The functions of `math` that the code calls. -/
structure MathFunctions (K : Type) where
  pi : K
  sqrt : K → K
  sin : K → K
  cos : K → K
  asin : K → K
  atan2 : K → K → K

/-! ## Python arithmetic -/

def mathDomain : PyExc := ⟨.valueError, "math domain error"⟩

section Code

variable {K : Type} [Field K] [LinearOrder K]

/-- `x / y`, where a division by zero raises. -/
def divide (e : PyExc) (x y : WithNan K) : Except PyExc (WithNan K) :=
  if y = .num 0 then .error e else .ok (x / y)

/-- `int(x)`: towards zero. -/
def intOf [FloorRing K] : WithNan K → Except PyExc Int
  | .nan => .error ⟨.valueError, "cannot convert float NaN to integer"⟩
  | .num q => .ok (if 0 ≤ q then ⌊q⌋ else ⌈q⌉)

/-- `np.sign`. -/
def sign (x : K) : K := if x < 0 then -1 else if 0 < x then 1 else 0

/-- `x % 360.0`. -/
def modulo360 [FloorRing K] (x : WithNan K) : WithNan K := x.map (fun q => q - (360 : ℕ) * ⌊q / (360 : ℕ)⌋)

variable (f : MathFunctions K)

/-- `math.sqrt`. -/
def mathSqrt (x : WithNan K) : Except PyExc (WithNan K) :=
  if x < .num 0 then .error mathDomain else .ok (x.map f.sqrt)

/-- `math.asin`. -/
def mathAsin (x : WithNan K) : Except PyExc (WithNan K) :=
  if x < .num (-1) ∨ .num 1 < x then .error mathDomain else .ok (x.map f.asin)

def radians (x : WithNan K) : WithNan K := x * .num (f.pi / (180 : ℕ))

def degrees (x : WithNan K) : WithNan K := x * .num ((180 : ℕ) / f.pi)

/-! ## From a location to its grid cell -/

/-- What `trans_coord` returns. -/
structure SlopeCoord (K : Type) where
  x : WithNan K
  y : WithNan K
  meridional : WithNan K
  zonal : WithNan K

/-- `trans_coord`. -/
def transCoord (lat lon : WithNan K) (eccentricity semimajor : K) :
    Except PyExc (SlopeCoord K) := do
  let latRad := radians f lat
  let lonRad := radians f lon
  let temp := .num eccentricity * latRad.map f.sin
  let temp := .num 1 - temp * temp
  let meridional ← divide zeroDivision (.num (semimajor * (1 - eccentricity * eccentricity)))
    (← mathSqrt f (temp * temp * temp))
  let zonal ← divide zeroDivision (.num semimajor * latRad.map f.cos) (← mathSqrt f temp)
  let xCoord := .num (2 : ℕ) * meridional *
    ((.num (f.pi / (2 : ℕ)) - latRad.map abs) / .num (2 : ℕ)).map f.sin
  .ok ⟨xCoord * lonRad.map f.cos, xCoord * lonRad.map f.sin, meridional, zonal⟩

/-- The header of one model of the slope file. -/
structure SlopeModel (K : Type) where
  hemisphereFlag : Int
  cornerX : K
  cornerY : K
  xNum : Int
  yNum : Int
  resolution : K
  offset : Int

/-- What `setup_slopes` returns. -/
structure SlopeCell (K : Type) where
  error : Nat
  model : Nat
  m : Int
  n : Int
  p : WithNan K
  q : WithNan K

/-- The index of the grid square of a coordinate. -/
def squareIndex [FloorRing K] (coordinate : WithNan K) (corner resolution : K) :
    Except PyExc Int := do
  intOf (← divide zeroDivision (coordinate - .num corner) (.num resolution))

/-- The loop of `setup_slopes`, from model `i` on. -/
def setupSlopesFrom [FloorRing K] (x y lat : WithNan K) :
    Nat → Int → Int → List (SlopeModel K) → Except PyExc (SlopeCell K)
  | _, m, n, [] => .ok ⟨1, 0, m, n, .num 0, .num 0⟩
  | i, _, _, slp :: rest => do
      let n ← squareIndex x slp.cornerX slp.resolution
      let m ← squareIndex y slp.cornerY slp.resolution
      let hemi := if lat < .num 0 then 2 else 1
      if 0 < n ∧ n < slp.xNum - 1 ∧ 0 < m ∧ m < slp.yNum - 1 ∧ slp.hemisphereFlag = hemi then
        .ok
          { error := 0
            model := i
            m := m
            n := n
            p := (x - .num slp.cornerX - .num (n * slp.resolution)) / .num slp.resolution
            q := (y - .num slp.cornerY - .num (m * slp.resolution)) / .num slp.resolution }
      else setupSlopesFrom x y lat (i + 1) m n rest

/-- `setup_slopes`. -/
def setupSlopes [FloorRing K] (x y lat : WithNan K) (slope : List (SlopeModel K)) :
    Except PyExc (SlopeCell K) :=
  setupSlopesFrom x y lat 0 0 0 slope

/-! ## The slope of a cell -/

/-- A slope file: the two floats at a byte position, or what reading them raises. -/
abbrev SlopeFile (K : Type) := Int → Except PyExc (WithNan K × WithNan K)

/-- The grid points that `interp_slope` reads, with their weights. -/
def slopePoints (n m : Int) (p q : WithNan K) : List ((Int × Int) × WithNan K) :=
  [((n, m - 1), q * (q - .num 1) / .num (2 : ℕ)),
    ((n - 1, m), p * (p - .num 1) / .num (2 : ℕ)),
    ((n, m), .num 1 + p * q - p * p - q * q),
    ((n + 1, m), p * (p - q * .num (2 : ℕ) + .num 1) / .num (2 : ℕ)),
    ((n, m + 1), q * (q - p * .num (2 : ℕ) + .num 1) / .num (2 : ℕ)),
    ((n + 1, m + 1), q * p)]

/-- The byte position of a grid point. -/
def SlopeModel.position (model : SlopeModel K) (point : Int × Int) : Int :=
  model.offset + 8 * (point.1 * model.yNum + point.2)

/-- A slope that stands for a void. -/
def isVoid (slopes : WithNan K × WithNan K) : Bool :=
  decide (.num 999 < slopes.1) || decide (.num 999 < slopes.2)

/-- The weighted sum over grid points; `none` at the first void. -/
def sumSlopes (file : SlopeFile K) (model : SlopeModel K) :
    WithNan K → WithNan K → List ((Int × Int) × WithNan K) →
      Except PyExc (Option (WithNan K × WithNan K))
  | xso, yso, [] => .ok (some (xso, yso))
  | xso, yso, (point, weight) :: rest => do
      let slopes ← file (model.position point)
      if isVoid slopes then .ok none
      else sumSlopes file model (xso + slopes.1 * weight) (yso + slopes.2 * weight) rest

/-- `interp_slope`: its error and the slope. -/
def interpSlope (file : SlopeFile K) (model : SlopeModel K) (n m : Int) (p q : WithNan K) :
    Except PyExc (Nat × WithNan K × WithNan K) := do
  match ← sumSlopes file model (.num 0) (.num 0) (slopePoints n m p q) with
  | none => .ok (1, .num 0, .num 0)
  | some (xso, yso) => .ok (0, xso, yso)

/-! ## The direction of the echo -/

/-- `comp_part_devs`. -/
def compPartDevs (lat lon meridional : WithNan K) (eccentricity : K) :
    Except PyExc (WithNan K × WithNan K × WithNan K × WithNan K) := do
  let latRad := radians f lat
  let lonRad := radians f lon
  let colatitude := (.num (f.pi / (2 : ℕ)) - latRad.map abs) / .num (2 : ℕ)
  let deriv00 := colatitude.map f.sin * (.num (3 : ℕ) * (.num (2 : ℕ) * latRad).map f.sin) *
    .num (eccentricity * eccentricity)
  let denom := .num 1 - .num (eccentricity * eccentricity) * latRad.map f.sin * latRad.map f.sin
  if denom.map abs < .num (1 / 10000000) then .ok (.num 0, .num 0, .num 0, .num 0)
  else
    let deriv00 ← divide zeroDivision deriv00 denom
    let deriv00 := (deriv00 - latRad.map sign * colatitude.map f.cos) * meridional
    let deriv10 := .num (2 : ℕ) * meridional * colatitude.map f.sin
    .ok (deriv00 * lonRad.map f.cos, deriv00 * lonRad.map f.sin,
      deriv10 * (.num (-1) * lonRad.map f.sin), deriv10 * lonRad.map f.cos)

/-- `calc_echo_dir`: its error, the attitude and the azimuth. -/
def calcEchoDir (deriv : WithNan K × WithNan K × WithNan K × WithNan K)
    (xs ys meridional zonal alt lat : WithNan K) :
    Except PyExc (Nat × WithNan K × WithNan K) := do
  let latRad := radians f lat
  let corSlopeX ← divide (floatingPointError "divide") (xs * deriv.1 + ys * deriv.2.1)
    (meridional + alt)
  let corSlopeY ← divide (floatingPointError "divide") (xs * deriv.2.2.1 + ys * deriv.2.2.2)
    (zonal + alt * latRad.map f.cos)
  let azimuth := WithNan.lift₂ f.atan2 (.num (-1) * corSlopeY) (.num (-1) * corSlopeX)
  let att ← mathSqrt f (corSlopeX * corSlopeX + corSlopeY * corSlopeY)
  let att ← mathAsin f att
  .ok (0, att, azimuth)

/-- What `do_slope` returns. -/
structure SlopeResult (K : Type) where
  error : Nat
  att : WithNan K
  azimuth : WithNan K
  meridional : WithNan K
  zonal : WithNan K

/-- `do_slope`; the model of the cell found is one of the list. -/
def doSlope [FloorRing K] (lat lon alt : WithNan K) (slope : List (SlopeModel K))
    (file : SlopeFile K) (eccentricity semimajor : K) : Except PyExc (SlopeResult K) := do
  let coord ← transCoord f lat lon eccentricity semimajor
  let cell ← setupSlopes coord.x coord.y lat slope
  if cell.error ≠ 0 then .ok ⟨cell.error, .num 0, .num 0, coord.meridional, coord.zonal⟩
  else
    match slope[cell.model]? with
    | none => .error ⟨.other "IndexError", "list index out of range"⟩
    | some model =>
        let (_, xs, ys) ← interpSlope file model cell.n cell.m cell.p cell.q
        let deriv ← compPartDevs f lat lon coord.meridional eccentricity
        let (error, att, azimuth) ←
          calcEchoDir f deriv xs ys coord.meridional coord.zonal alt lat
        .ok ⟨error, att, azimuth, coord.meridional, coord.zonal⟩

/-! ## The height and the position -/

/-- `proc_elev`: the height, and the position in radians. -/
def procElev (lat lon alt range : WithNan K) (r : SlopeResult K) :
    Except PyExc (WithNan K × WithNan K × WithNan K) := do
  let latRad := radians f lat
  let lonRad := radians f lon
  let cosAzimuth := r.azimuth.map f.cos
  let sinAzimuth := r.azimuth.map f.sin
  let rho ← divide zeroDivision (r.meridional * r.zonal)
    (r.meridional * latRad.map f.cos * sinAzimuth * sinAzimuth +
      r.zonal * cosAzimuth * cosAzimuth)
  let sag ← divide (floatingPointError "divide")
    (range * r.att.map f.sin * range * r.att.map f.sin) (.num (2 : ℕ) * rho)
  let height := alt - range * r.att.map f.cos + sag
  let latCor := latRad +
    (← divide (floatingPointError "divide") (range * cosAzimuth * r.att.map f.sin) r.meridional)
  let lonCor := lonRad +
    (← divide (floatingPointError "divide") (range * sinAzimuth * r.att.map f.sin) r.zonal)
  -- over a pole the longitude turns by half a circle
  let (latCor, lonCor) :=
    if .num (f.pi / (2 : ℕ)) < latCor then (.num f.pi - latCor, lonCor + .num f.pi) else (latCor, lonCor)
  let (latCor, lonCor) :=
    if latCor < .num (f.pi / -(2 : ℕ)) then (.num (-1 * f.pi) - latCor, lonCor + .num f.pi)
    else (latCor, lonCor)
  let lonCor := if lonCor < .num 0 then lonCor + .num (f.pi * (2 : ℕ)) else lonCor
  let lonCor := if .num (f.pi * (2 : ℕ)) < lonCor then lonCor - .num (f.pi * (2 : ℕ)) else lonCor
  let lonCor := if .num f.pi < lonCor then lonCor - .num (f.pi * (2 : ℕ)) else lonCor
  .ok (height, latCor, lonCor)

/-- `do_slope` and `proc_elev` of a record: `none` after a slope error. -/
def slopeCorrect [FloorRing K] (slope : List (SlopeModel K)) (file : SlopeFile K)
    (eccentricity semimajor : K) (lat lon alt range : WithNan K) :
    Except PyExc (Option (WithNan K × WithNan K × WithNan K)) := do
  let r ← doSlope f lat lon alt slope file eccentricity semimajor
  if r.error = 0 then
    let (height, latCor, lonCor) ← procElev f lat lon alt range r
    .ok (some (height, degrees f latCor, degrees f lonCor))
  else .ok none

/-- One pass of the loop of `geolocate_lrm`, with the slope Doppler correction where
the slope was corrected. -/
def lrmPass [FloorRing K] (slope : List (SlopeModel K)) (file : SlopeFile K)
    (eccentricity semimajor : K) (surfaceType : Nat)
    (lat lon alt range dopCor slopeDoppler : WithNan K) :
    Except PyExc (WithNan K × WithNan K × WithNan K) :=
  if surfaceType = 1 then
    if !range.isNan then
      match slopeCorrect f slope file eccentricity semimajor lat lon alt range with
      | .error e => .error e
      | .ok (some (height, latCor, lonCor)) => .ok (height + dopCor - slopeDoppler, latCor, lonCor)
      | .ok none => .ok (.nan, lat, modulo360 lon)
    else .ok (.nan, lat, modulo360 lon)
  else .ok (alt - range, lat, modulo360 lon)

end Code

/-- The slope correction of the chain, by this code. -/
def lrmLib (f : MathFunctions ℚ) (slope : List (SlopeModel ℚ)) (file : SlopeFile ℚ)
    (eccentricity semimajor : ℚ) (slopeDoppler : Nat → Sample) : LrmLib where
  slopeCorrect := slopeCorrect f slope file eccentricity semimajor
  slopeDoppler := slopeDoppler

/-- `lrmPass` is the pass of the chain's geolocation. -/
theorem lrmRecord_eq_lrmPass {c : CryotempoChain} {p : L1bProduct} {f : MathFunctions ℚ}
    {slope : List (SlopeModel ℚ)} {file : SlopeFile ℚ} {eccentricity semimajor : ℚ}
    {slopeDoppler : Nat → Sample}
    (hlib : c.lrm p = lrmLib f slope file eccentricity semimajor slopeDoppler)
    (surfaceType i : Nat) (range : Sample) :
    lrmRecord c p surfaceType i range =
      lrmPass f slope file eccentricity semimajor surfaceType (p.lat.getD i .nan)
        (p.lon.getD i .nan) (p.alt.getD i .nan) range (p.dopCor.getD i .nan) (slopeDoppler i) := by
  rw [lrmRecord, lrmPass, hlib]
  simp only [lrmLib]
  rcases slopeCorrect f slope file eccentricity semimajor (p.lat.getD i .nan) (p.lon.getD i .nan)
    (p.alt.getD i .nan) range with e | _ | ⟨height, latCor, lonCor⟩ <;> rfl

/-! ## The error status -/

section Status

variable {K : Type} [Field K] [LinearOrder K] {f : MathFunctions K} {file : SlopeFile K}
  {model : SlopeModel K} {eccentricity semimajor : K} {lat lon alt : WithNan K}

theorem calcEchoDir_error {deriv : WithNan K × WithNan K × WithNan K × WithNan K}
    {xs ys meridional zonal : WithNan K} {r : Nat × WithNan K × WithNan K}
    (h : calcEchoDir f deriv xs ys meridional zonal alt lat = .ok r) : r.1 = 0 := by
  obtain ⟨corSlopeX, -, h⟩ := except_bind_ok h
  obtain ⟨corSlopeY, -, h⟩ := except_bind_ok h
  obtain ⟨att, -, h⟩ := except_bind_ok h
  obtain ⟨att, -, h⟩ := except_bind_ok h
  obtain rfl := Except.ok.inj h
  rfl

/-- The sum stops at a void among grid points that can be read. -/
theorem sumSlopes_void :
    ∀ (points : List ((Int × Int) × WithNan K)) (xso yso : WithNan K),
      (∀ point ∈ points, ∃ slopes, file (model.position point.1) = .ok slopes) →
      (∃ point ∈ points, ∃ slopes, file (model.position point.1) = .ok slopes ∧
        isVoid slopes = true) →
      sumSlopes file model xso yso points = .ok none := by
  intro points
  induction points with
  | nil =>
      rintro xso yso - ⟨point, hpoint, -⟩
      cases hpoint
  | cons head rest ih =>
      intro xso yso hread hvoid
      obtain ⟨point, weight⟩ := head
      obtain ⟨slopes, hslopes⟩ := hread (point, weight) (by simp)
      simp only at hslopes
      rw [sumSlopes, hslopes]
      show (if isVoid slopes = true then _ else _) = _
      by_cases hfirst : isVoid slopes = true
      · rw [if_pos hfirst]
      · rw [if_neg hfirst]
        apply ih
        · exact fun point hpoint => hread point (List.mem_cons_of_mem _ hpoint)
        · obtain ⟨other, hother, slopes', hslopes', hvoid'⟩ := hvoid
          rcases List.mem_cons.mp hother with rfl | hrest
          · -- the first point is no void
            simp only at hslopes'
            obtain rfl := Except.ok.inj (hslopes.symm.trans hslopes')
            exact absurd hvoid' hfirst
          · exact ⟨other, hrest, slopes', hslopes', hvoid'⟩

/-- One of the six grid points of a cell holds a void. -/
def HasVoid (file : SlopeFile K) (model : SlopeModel K) (n m : Int) (p q : WithNan K) : Prop :=
  ∃ point ∈ slopePoints n m p q, ∃ slopes, file (model.position point.1) = .ok slopes ∧
    isVoid slopes = true

/-- **`interp_slope` reports a void**, if it can read the six points. -/
theorem interpSlope_void {n m : Int} {p q : WithNan K}
    (hread : ∀ point ∈ slopePoints n m p q, ∃ slopes, file (model.position point.1) = .ok slopes)
    (hvoid : HasVoid file model n m p q) :
    interpSlope file model n m p q = .ok (1, .num 0, .num 0) := by
  rw [interpSlope, sumSlopes_void _ _ _ hread hvoid]
  rfl

variable [FloorRing K] {slope : List (SlopeModel K)}

/-- **Once the cell is found, `do_slope` reports no error**, whatever `interp_slope`
has reported. -/
theorem doSlope_found {coord : SlopeCoord K} {cell : SlopeCell K} {r : SlopeResult K}
    (hcoord : transCoord f lat lon eccentricity semimajor = .ok coord)
    (hcell : setupSlopes coord.x coord.y lat slope = .ok cell) (hfound : cell.error = 0)
    (h : doSlope f lat lon alt slope file eccentricity semimajor = .ok r) : r.error = 0 := by
  obtain ⟨coord', hcoord', h⟩ := except_bind_ok h
  obtain rfl := Except.ok.inj (hcoord'.symm.trans hcoord)
  obtain ⟨cell', hcell', h⟩ := except_bind_ok h
  obtain rfl := Except.ok.inj (hcell'.symm.trans hcell)
  rw [if_neg (not_not.mpr hfound)] at h
  split at h
  · cases h
  · obtain ⟨⟨status, xs, ys⟩, -, h⟩ := except_bind_ok h
    obtain ⟨deriv, -, h⟩ := except_bind_ok h
    obtain ⟨⟨error, att, azimuth⟩, hdir, h⟩ := except_bind_ok h
    obtain rfl := Except.ok.inj h
    exact calcEchoDir_error hdir

end Status

/-! ## What a void record gets -/

section Numbers

variable {K : Type} [Field K] [LinearOrder K] {f : MathFunctions K}

theorem divide_num {e : PyExc} {x y : K} (hy : y ≠ 0) :
    divide e (.num x) (.num y) = .ok (.num (x / y)) :=
  if_neg fun h => hy (WithNan.num.inj h)

theorem mathSqrt_num {x : K} (hx : 0 ≤ x) : mathSqrt f (.num x) = .ok (.num (f.sqrt x)) :=
  if_neg (not_lt.mpr hx)

theorem mathAsin_num {x : K} (hx : -1 ≤ x) (hx' : x ≤ 1) :
    mathAsin f (.num x) = .ok (.num (f.asin x)) :=
  if_neg (not_or.mpr ⟨not_lt.mpr hx, not_lt.mpr hx'⟩)

/-- `trans_coord` of numbers, where `temp` has a root that is not zero. -/
theorem transCoord_num {lat e temp : K} (lon a : K)
    (htemp : temp = 1 - e * f.sin (lat * (f.pi / 180)) * (e * f.sin (lat * (f.pi / 180))))
    (hpos : 0 ≤ temp) (hcube : 0 ≤ temp * temp * temp) (hroot : f.sqrt temp ≠ 0)
    (hrootCube : f.sqrt (temp * temp * temp) ≠ 0) :
    transCoord f (.num lat) (.num lon) e a =
      .ok ⟨.num (2 * (a * (1 - e * e) / f.sqrt (temp * temp * temp)) *
            f.sin ((f.pi / 2 - |lat * (f.pi / 180)|) / 2) * f.cos (lon * (f.pi / 180))),
        .num (2 * (a * (1 - e * e) / f.sqrt (temp * temp * temp)) *
            f.sin ((f.pi / 2 - |lat * (f.pi / 180)|) / 2) * f.sin (lon * (f.pi / 180))),
        .num (a * (1 - e * e) / f.sqrt (temp * temp * temp)),
        .num (a * f.cos (lat * (f.pi / 180)) / f.sqrt temp)⟩ := by
  rw [transCoord]
  simp only [radians, Nat.cast_ofNat, WithNan.num_mul_num, WithNan.map_num, WithNan.num_sub_num,
    WithNan.num_div_num, ← htemp, mathSqrt_num hpos, mathSqrt_num hcube, divide_num hroot,
    divide_num hrootCube, bind, Except.bind]

theorem compPartDevs_num [IsStrictOrderedRing K] (f : MathFunctions K) (lat lon m e : K) :
    ∃ d00 d01 d10 d11, compPartDevs f (.num lat) (.num lon) (.num m) e =
      .ok (.num d00, .num d01, .num d10, .num d11) := by
  rw [compPartDevs]
  simp only [radians, Nat.cast_ofNat, WithNan.num_mul_num, WithNan.map_num, WithNan.num_sub_num,
    WithNan.num_div_num, WithNan.num_lt_num]
  split
  · exact ⟨0, 0, 0, 0, rfl⟩
  · next hlarge =>
    have hne : 1 - e * e * f.sin (lat * (f.pi / 180)) * f.sin (lat * (f.pi / 180)) ≠ 0 := by
      intro hzero
      rw [hzero, abs_zero] at hlarge
      exact hlarge (by positivity)
    rw [divide_num hne]
    exact ⟨_, _, _, _, rfl⟩

/-- The functions at zero. -/
structure ExactAtZero (f : MathFunctions K) : Prop where
  sqrt : f.sqrt 0 = 0
  sin : f.sin 0 = 0
  cos : f.cos 0 = 1
  asin : f.asin 0 = 0
  atan2 : f.atan2 0 0 = 0

variable [IsStrictOrderedRing K]

theorem calcEchoDir_flat (hf : ExactAtZero f) {d00 d01 d10 d11 m z alt lat : K}
    (hm : m + alt ≠ 0) (hz : z + alt * f.cos (lat * (f.pi / 180)) ≠ 0) :
    calcEchoDir f (.num d00, .num d01, .num d10, .num d11) (.num 0) (.num 0) (.num m) (.num z)
      (.num alt) (.num lat) = .ok (0, .num 0, .num 0) := by
  rw [calcEchoDir]
  simp only [radians, Nat.cast_ofNat, WithNan.num_mul_num, WithNan.map_num, WithNan.num_add_num, zero_mul,
    add_zero, divide_num hm, divide_num hz, zero_div, bind, Except.bind]
  rw [mathSqrt_num (le_refl _)]
  simp only [hf.sqrt, mul_zero]
  rw [mathAsin_num (by linarith [zero_lt_one (α := K)]) zero_le_one]
  simp only [hf.asin, WithNan.lift₂, hf.atan2]

/-- Straight down, `proc_elev` gives the nadir. -/
theorem procElev_flat (hf : ExactAtZero f) {lat lon alt range m z : K} (hm : m ≠ 0) (hz : z ≠ 0)
    (hlat : -(f.pi / 2) ≤ lat * (f.pi / 180)) (hlat' : lat * (f.pi / 180) ≤ f.pi / 2)
    (hlon : 0 ≤ lon * (f.pi / 180)) (hlon' : lon * (f.pi / 180) ≤ f.pi) :
    procElev f (.num lat) (.num lon) (.num alt) (.num range) ⟨0, .num 0, .num 0, .num m, .num z⟩ =
      .ok (.num (alt - range), .num (lat * (f.pi / 180)), .num (lon * (f.pi / 180))) := by
  have hpi : 0 ≤ f.pi := le_trans hlon hlon'
  -- none of the turns at the poles and at the date line is taken
  have hnorth : ¬ (WithNan.num (f.pi / 2) < WithNan.num (lat * (f.pi / 180))) := not_lt.mpr hlat'
  have hsouth : ¬ (WithNan.num (lat * (f.pi / 180)) < WithNan.num (f.pi / -2)) := by
    rw [WithNan.num_lt_num, not_lt, div_neg]
    exact hlat
  have hwest : ¬ (WithNan.num (lon * (f.pi / 180)) < WithNan.num 0) := not_lt.mpr hlon
  have hturn : ¬ (WithNan.num (f.pi * 2) < WithNan.num (lon * (f.pi / 180))) := by
    rw [WithNan.num_lt_num, not_lt]
    linarith
  have heast : ¬ (WithNan.num f.pi < WithNan.num (lon * (f.pi / 180))) := not_lt.mpr hlon'
  have hrho : 2 * (m * z / z) ≠ 0 :=
    mul_ne_zero two_ne_zero (div_ne_zero (mul_ne_zero hm hz) hz)
  rw [procElev]
  simp only [radians, Nat.cast_ofNat, WithNan.num_mul_num, WithNan.map_num, WithNan.num_add_num,
    WithNan.num_sub_num, hf.sin, hf.cos, mul_zero, mul_one, zero_add, bind,
    Except.bind, divide_num hz, divide_num hm, divide_num hrho, zero_mul, zero_div, add_zero]
  simp only [hnorth, hsouth, hwest, hturn, heast, if_false]

variable [FloorRing K]

section Void

variable {slope : List (SlopeModel K)} {file : SlopeFile K}
  {eccentricity semimajor lat lon alt range dopCor slopeDoppler x y m z : K}
  {cell : SlopeCell K} {model : SlopeModel K}

/-- `do_slope` at a void: no error, and the direction straight down. -/
theorem doSlope_void (hf : ExactAtZero f)
    (hcoord : transCoord f (.num lat) (.num lon) eccentricity semimajor =
      .ok ⟨.num x, .num y, .num m, .num z⟩)
    (hcell : setupSlopes (.num x) (.num y) (.num lat) slope = .ok cell) (hfound : cell.error = 0)
    (hmodel : slope[cell.model]? = some model)
    (hread : ∀ point ∈ slopePoints cell.n cell.m cell.p cell.q,
      ∃ slopes, file (model.position point.1) = .ok slopes)
    (hvoid : HasVoid file model cell.n cell.m cell.p cell.q)
    (hm : m + alt ≠ 0) (hz : z + alt * f.cos (lat * (f.pi / 180)) ≠ 0) :
    doSlope f (.num lat) (.num lon) (.num alt) slope file eccentricity semimajor =
      .ok ⟨0, .num 0, .num 0, .num m, .num z⟩ := by
  obtain ⟨d00, d01, d10, d11, hderiv⟩ := compPartDevs_num f lat lon m eccentricity
  rw [doSlope, hcoord]
  simp only [bind, Except.bind]
  rw [hcell]
  simp only [hfound, ne_eq, not_true_eq_false, if_false, hmodel]
  rw [interpSlope_void hread hvoid, hderiv]
  simp only
  rw [calcEchoDir_flat hf hm hz]

/-- **What a void record gets**: the height of a flat surface, at nadir. -/
theorem lrmPass_flat (hf : ExactAtZero f)
    (hslope : doSlope f (.num lat) (.num lon) (.num alt) slope file eccentricity semimajor =
      .ok ⟨0, .num 0, .num 0, .num m, .num z⟩)
    (hpi : f.pi ≠ 0) (hm : m ≠ 0) (hz : z ≠ 0)
    (hlat : -(f.pi / 2) ≤ lat * (f.pi / 180)) (hlat' : lat * (f.pi / 180) ≤ f.pi / 2)
    (hlon : 0 ≤ lon * (f.pi / 180)) (hlon' : lon * (f.pi / 180) ≤ f.pi) :
    lrmPass f slope file eccentricity semimajor 1 (.num lat) (.num lon) (.num alt) (.num range)
        (.num dopCor) (.num slopeDoppler) =
      .ok (.num (alt - range + dopCor - slopeDoppler), .num lat, .num lon) := by
  have hback : ∀ q : K, q * (f.pi / 180) * (180 / f.pi) = q := by
    intro q
    field_simp
  have hcorrect : slopeCorrect f slope file eccentricity semimajor (.num lat) (.num lon)
      (.num alt) (.num range) = .ok (some (.num (alt - range), .num lat, .num lon)) := by
    rw [slopeCorrect, hslope]
    simp only [bind, Except.bind, if_true]
    rw [procElev_flat hf hm hz hlat hlat' hlon hlon']
    simp only [degrees, Nat.cast_ofNat, WithNan.num_mul_num, hback]
  rw [lrmPass, hcorrect]
  rfl

end Void

end Numbers

/-! ## Voids -/

section Rejected

variable {K : Type} [Field K] [LinearOrder K] [FloorRing K]

/-- The cell of a location is found, and one of its six grid points holds a void. -/
def VoidLocation (f : MathFunctions K) (slope : List (SlopeModel K)) (file : SlopeFile K)
    (eccentricity semimajor : K) (lat lon : WithNan K) : Prop :=
  ∃ coord cell model, transCoord f lat lon eccentricity semimajor = .ok coord ∧
    setupSlopes coord.x coord.y lat slope = .ok cell ∧ cell.error = 0 ∧
    slope[cell.model]? = some model ∧ HasVoid file model cell.n cell.m cell.p cell.q

/-- **A record of land ice is rejected**: `do_slope` reports an error, and the record
gets no height and its nadir position. -/
structure SlopeRejected (f : MathFunctions K) (slope : List (SlopeModel K)) (file : SlopeFile K)
    (eccentricity semimajor : K) (lat lon alt range dopCor slopeDoppler : WithNan K) : Prop where
  error : ∃ r, doSlope f lat lon alt slope file eccentricity semimajor = .ok r ∧ r.error ≠ 0
  nadir : lrmPass f slope file eccentricity semimajor 1 lat lon alt range dopCor slopeDoppler =
    .ok (.nan, lat, modulo360 lon)

/-- **No void is propagated**: a record whose location has a void is never rejected
for it, so only locations without one meet the rule that voids are. -/
theorem slopeRejected_iff (f : MathFunctions K) (slope : List (SlopeModel K))
    (file : SlopeFile K) (eccentricity semimajor : K)
    (lat lon alt range dopCor slopeDoppler : WithNan K) :
    (VoidLocation f slope file eccentricity semimajor lat lon →
        SlopeRejected f slope file eccentricity semimajor lat lon alt range dopCor
          slopeDoppler) ↔
      ¬ VoidLocation f slope file eccentricity semimajor lat lon := by
  constructor
  · intro hrejected hvoid
    obtain ⟨r, hr, herror⟩ := (hrejected hvoid).error
    obtain ⟨coord, cell, model, hcoord, hcell, hfound, -, -⟩ := hvoid
    exact herror (doSlope_found hcoord hcell hfound hr)
  · exact fun hnone hvoid => absurd hvoid hnone

end Rejected

/-! ## A void at 70 degrees south -/

/-- The functions on real numbers. -/
noncomputable def mathReal : MathFunctions ℝ where
  pi := Real.pi
  sqrt := Real.sqrt
  sin := Real.sin
  cos := Real.cos
  asin := Real.arcsin
  atan2 y x := Complex.arg ⟨x, y⟩

theorem exactAtZero_mathReal : ExactAtZero mathReal where
  sqrt := Real.sqrt_zero
  sin := Real.sin_zero
  cos := Real.cos_zero
  asin := Real.arcsin_zero
  atan2 := Complex.arg_zero

/-- A slope file of voids. -/
def voidFile : SlopeFile ℝ := fun _ => .ok (.num 9999, .num 9999)

/-- A coarse model of the southern hemisphere. -/
def southernModel : SlopeModel ℝ where
  hemisphereFlag := 2
  cornerX := -100000000
  cornerY := -100000000
  xNum := 3
  yNum := 3
  resolution := 100000000
  offset := 0

/-- The eccentricity is small, so `temp` is close to one. -/
theorem temp_south (lat : ℝ) :
    9 / 10 ≤ 1 - 8181919078479198 / 10 ^ 17 * Real.sin lat *
      (8181919078479198 / 10 ^ 17 * Real.sin lat) := by
  have hsq := Real.sin_sq_le_one lat
  have hprod : 8181919078479198 / 10 ^ 17 * Real.sin lat *
      (8181919078479198 / 10 ^ 17 * Real.sin lat) =
      (8181919078479198 / 10 ^ 17) ^ 2 * Real.sin lat ^ 2 := by ring
  have hsmall : (8181919078479198 / 10 ^ 17 : ℝ) ^ 2 ≤ 1 / 10 := by norm_num
  have hle : (8181919078479198 / 10 ^ 17 : ℝ) ^ 2 * Real.sin lat ^ 2 ≤ 1 / 10 * 1 :=
    mul_le_mul hsmall hsq (sq_nonneg _) (by norm_num)
  rw [hprod]
  linarith

/-- The position of a location at 70 degrees south on the meridian of Greenwich. -/
theorem transCoord_south :
    ∃ x m z, transCoord mathReal (.num (-70)) (.num 0) (8181919078479198 / 10 ^ 17) 6378137 =
        .ok ⟨.num x, .num 0, .num m, .num z⟩ ∧
      0 ≤ x ∧ x < 100000000 ∧ 0 < m ∧ 0 < z := by
  have hlat : (-70 : ℝ) * (Real.pi / 180) = -(70 * (Real.pi / 180)) := by ring
  have hcos : 0 < Real.cos (-70 * (Real.pi / 180)) := by
    apply Real.cos_pos_of_mem_Ioo
    constructor <;> linarith [Real.pi_pos]
  set colatitude := (Real.pi / 2 - |(-70 : ℝ) * (Real.pi / 180)|) / 2 with hcolatitude
  have hsin : 0 ≤ Real.sin colatitude := by
    rw [hcolatitude, hlat, abs_neg, abs_of_pos (by positivity)]
    apply Real.sin_nonneg_of_nonneg_of_le_pi <;> linarith [Real.pi_pos]
  have hlow := temp_south (-70 * (Real.pi / 180))
  set temp : ℝ := 1 - 8181919078479198 / 10 ^ 17 * Real.sin (-70 * (Real.pi / 180)) *
    (8181919078479198 / 10 ^ 17 * Real.sin (-70 * (Real.pi / 180))) with htemp
  have hcube : 1 / 4 ≤ temp * temp * temp := by
    calc (1 / 4 : ℝ) ≤ (9 / 10) ^ 3 := by norm_num
      _ ≤ temp ^ 3 := pow_le_pow_left₀ (by norm_num) hlow 3
      _ = temp * temp * temp := by ring
  have hroot : 0 < √temp := Real.sqrt_pos.mpr (by linarith)
  have hrootCube : 1 / 2 ≤ √(temp * temp * temp) := by
    apply Real.le_sqrt_of_sq_le
    linarith
  have hcoord := transCoord_num (f := mathReal) 0 6378137 htemp
    (by linarith) (by linarith) hroot.ne' (by linarith : √(temp * temp * temp) ≠ 0)
  set m : ℝ := 6378137 * (1 - 8181919078479198 / 10 ^ 17 * (8181919078479198 / 10 ^ 17)) /
    √(temp * temp * temp) with hmeridional
  have hm : 0 < m := div_pos (by norm_num) (by linarith)
  have hm' : m ≤ 20000000 := by
    rw [hmeridional, div_le_iff₀ (by linarith)]
    linarith
  have heast : Real.cos (0 * (Real.pi / 180)) = 1 ∧ Real.sin (0 * (Real.pi / 180)) = 0 := by
    rw [zero_mul, Real.cos_zero, Real.sin_zero]
    exact ⟨rfl, rfl⟩
  refine ⟨2 * m * Real.sin colatitude, m, 6378137 * Real.cos (-70 * (Real.pi / 180)) / √temp,
    ?_, ?_, ?_, hm, div_pos (mul_pos (by norm_num) hcos) hroot⟩
  · rw [hcoord]
    show Except.ok (SlopeCoord.mk
      (.num (2 * m * Real.sin colatitude * Real.cos (0 * (Real.pi / 180))))
      (.num (2 * m * Real.sin colatitude * Real.sin (0 * (Real.pi / 180)))) _ _) = _
    rw [heast.1, heast.2, mul_one, mul_zero]
    rfl
  · exact mul_nonneg (mul_nonneg two_pos.le hm.le) hsin
  · calc 2 * m * Real.sin colatitude ≤ 2 * m * 1 :=
          mul_le_mul_of_nonneg_left (Real.sin_le_one _) (by linarith)
      _ < 100000000 := by linarith

theorem squareIndex_south {x : ℝ} (hx : 0 ≤ x) (hx' : x < 100000000) :
    squareIndex (.num x) (-100000000 : ℝ) 100000000 = .ok 1 := by
  have hfloor : ⌊(x - -100000000) / 100000000⌋ = 1 := by
    rw [Int.floor_eq_iff, le_div_iff₀ (by norm_num), div_lt_iff₀ (by norm_num)]
    constructor <;> norm_num <;> linarith
  have hnonneg : 0 ≤ (x - -100000000) / 100000000 := by
    apply div_nonneg <;> linarith
  rw [squareIndex, WithNan.num_sub_num, divide_num (by norm_num)]
  show Except.ok (if 0 ≤ (x - -100000000) / 100000000 then _ else _) = _
  rw [if_pos hnonneg, hfloor]

/-- The cell of that location. -/
theorem setupSlopes_south {x : ℝ} (hx : 0 ≤ x) (hx' : x < 100000000) :
    ∃ p q, setupSlopes (.num x) (.num 0) (.num (-70)) [southernModel] = .ok ⟨0, 0, 1, 1, p, q⟩ := by
  have hsouth : (WithNan.num (-70) : WithNan ℝ) < .num 0 := by
    rw [WithNan.num_lt_num]
    norm_num
  rw [setupSlopes, setupSlopesFrom]
  simp only [southernModel, squareIndex_south hx hx', squareIndex_south (le_refl 0) (by norm_num),
    bind, Except.bind, if_pos hsouth]
  exact ⟨_, _, rfl⟩

/-- **A void of the model gives a height**: at 70 degrees south, with a slope file of
voids, the record gets the height of a flat surface at nadir. -/
theorem geolocateLrm_height_of_void :
    (∃ r, doSlope mathReal (.num (-70)) (.num 0) (.num 717000) [southernModel] voidFile
        (8181919078479198 / 10 ^ 17) 6378137 = .ok r ∧ r.error = 0) ∧
      lrmPass mathReal [southernModel] voidFile (8181919078479198 / 10 ^ 17) 6378137 1
          (.num (-70)) (.num 0) (.num 717000) (.num 716000) (.num 0) (.num 0) =
        .ok (.num (717000 - 716000 + 0 - 0), .num (-70), .num 0) ∧
      ¬ (VoidLocation mathReal [southernModel] voidFile (8181919078479198 / 10 ^ 17) 6378137
          (.num (-70)) (.num 0) →
        SlopeRejected mathReal [southernModel] voidFile (8181919078479198 / 10 ^ 17) 6378137
          (.num (-70)) (.num 0) (.num 717000) (.num 716000) (.num 0) (.num 0)) := by
  obtain ⟨x, m, z, hcoord, hx, hx', hm, hz⟩ := transCoord_south
  obtain ⟨p, q, hcell⟩ := setupSlopes_south hx hx'
  have hvoid : HasVoid voidFile southernModel 1 1 p q :=
    ⟨_, List.mem_cons_self, _, rfl, by simp [isVoid]; norm_num⟩
  have hcos : 0 < Real.cos (-70 * (Real.pi / 180)) := by
    apply Real.cos_pos_of_mem_Ioo
    constructor <;> linarith [Real.pi_pos]
  have hslope : doSlope mathReal (.num (-70)) (.num 0) (.num 717000) [southernModel] voidFile
      (8181919078479198 / 10 ^ 17) 6378137 = .ok ⟨0, .num 0, .num 0, .num m, .num z⟩ :=
    doSlope_void exactAtZero_mathReal hcoord hcell rfl rfl (fun _ _ => ⟨_, rfl⟩) hvoid
      (by linarith) (ne_of_gt (by simp only [mathReal]; positivity))
  refine ⟨⟨_, hslope, rfl⟩, ?_, ?_⟩
  · have hpi := Real.pi_pos
    refine lrmPass_flat exactAtZero_mathReal hslope hpi.ne' hm.ne' hz.ne' ?_ ?_ ?_ ?_
    · show -(Real.pi / 2) ≤ -70 * (Real.pi / 180)
      linarith
    · show -70 * (Real.pi / 180) ≤ Real.pi / 2
      linarith
    · show 0 ≤ 0 * (Real.pi / 180)
      linarith
    · show 0 * (Real.pi / 180) ≤ Real.pi
      linarith
  · intro hrejected
    obtain ⟨r, hr, herror⟩ := (hrejected ⟨_, _, _, hcoord, hcell, rfl, rfl, hvoid⟩).error
    obtain rfl := Except.ok.inj (hslope.symm.trans hr)
    exact herror rfl

end Clev2er.Cryotempo
