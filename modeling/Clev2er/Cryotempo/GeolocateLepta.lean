import Clev2er.Cryotempo.DemMedian
import Clev2er.Cryotempo.RoemerOutputs
import Clev2er.Retrack.CoherencePoint

/-!
# `geolocate_lepta`

The slope correction of LRM records by the ranges of the DEM: of the heights inside the
beam those are kept whose distance to the satellite lies in a window, about the
retracking point or over the leading edge, and the POCA is made of these. If no height
lies in the window about the retracking point, it is moved to start at the closest one.

With the POCA at the closest height, `geolocateLepta_near_dem` says how far the elevation
of a record is from its DEM height.
-/

namespace Clev2er.Cryotempo

open Clev2er.Lib Clev2er.Retrack Clev2er.Uncertainty

/-! ## Settings -/

/-- The parameters `geolocate_lepta` takes from the configuration. -/
structure LeptaConfig where
  referenceBinIndex : ℚ
  rangeBinSize : ℚ
  acrossTrackBeamWidth : ℚ
  pulseLimitedFootprintSize : ℚ
  useWindowAroundRetrackingPoint : Bool
  useFullLeadingEdge : Bool
  deltaRangeOffset : ℚ
  useXyAtMinDemToSatDistance : Bool
  useMeanXyInWindow : Bool
  useMeanZInWindow : Bool
  useMedianZInWindow : Bool
  useZAtMinDemToSatDistance : Bool
  useMedianHeightAroundPoint : Bool
  includeDhdtCorrection : Bool
  medianFilter : Bool
  includeSlopeDopplerCorrection : Bool

/-- The library functions. Here `medianFilter` has a size of 3. -/
structure LeptaLib extends RoemerLib where
  /-- `thisdem.interp_dem` at a nadir position. -/
  interpDem : Sample → Sample → Sample

/-- What `geolocate_lepta` reads besides what `geolocate_roemer` reads. -/
structure LeptaTrack extends RoemerTrack where
  leadingEdgeStart : List (List Sample)
  leadingEdgeStop : List (List Sample)

section Model

variable (cfg : LeptaConfig) (lib : LeptaLib)

/-! ## The heights inside the beam -/

/-- `calculate_distances` to one location. -/
def distance3d (x1 y1 z1 : Sample) (p : DemPoint) : Sample :=
  ((p.x - x1) * (p.x - x1) + (p.y - y1) * (p.y - y1) + (p.z - z1) * (p.z - z1)).map lib.sqrt

/-- The locations inside the beam, with a height, and one below 5000 m; `none` if at some
stage there is none. -/
def leptaPoints (nadirX nadirY heightAtNadir : Sample) (points : List DemPoint) :
    Option (List DemPoint) :=
  let near := points.filter fun p =>
    distance3d lib nadirX nadirY heightAtNadir p < .num (cfg.acrossTrackBeamWidth / 2)
  if near.isEmpty then none
  else
    let good := near.filter fun p => !p.z.isNan
    if good.isEmpty then none
    else
      let valid := good.filter fun p => isSensible p.z
      if valid.isEmpty then none else some valid

/-- A height after the dh/dt correction. -/
def leptaHeight (yearDifference : ℚ) (p : DemPoint) : DemPoint :=
  if cfg.includeDhdtCorrection then
    match lib.interpDhdt with
    | some interpDhdt => { p with z := p.z + interpDhdt p.x p.y * .num yearDifference }
    | none => p
  else p

/-- The corrected heights, each with its distance to the satellite. -/
def leptaRanges (yearDifference : ℚ) (nadirX nadirY altitude : Sample) (points : List DemPoint) :
    List (DemPoint × Sample) :=
  (points.map (leptaHeight cfg lib yearDifference)).map fun p =>
    (p, distance3d lib nadirX nadirY altitude p)

/-- From the segment of a record to its heights: `none` where the record is rejected. -/
def leptaCandidates (dem : Dem) (yearDifference : ℚ) (nadirX nadirY altitude : Sample) :
    Option (List (DemPoint × Sample)) :=
  match dem.getGridSegment
      (squareAbout nadirX nadirY (cfg.acrossTrackBeamWidth / 2 + dem.binsize)) with
  | .error _ => none
  | .ok rows =>
      let rows' :=
        if cfg.medianFilter then
          List.zipWith (List.zipWith (fun (p : DemPoint) z => { p with z := z })) rows
            (lib.medianFilter (rows.map (List.map DemPoint.z)))
        else rows
      (leptaPoints cfg lib nadirX nadirY (lib.interpDem nadirX nadirY) rows'.flatten).map
        (leptaRanges cfg lib yearDifference nadirX nadirY altitude)

/-! ## The window -/

/-- `np.min`, by its place. -/
def npMin (xs : List Sample) : Except PyExc Sample :=
  match argmin xs with
  | .ok k => .ok (xs.getD k .nan)
  | .error e => .error e

/-- The heights whose distance lies in a window. -/
def inWindow (rangeStart rangeEnd : Sample) (points : List (DemPoint × Sample)) :
    List (DemPoint × Sample) :=
  points.filter fun p => decide (rangeStart ≤ p.2) && decide (p.2 ≤ rangeEnd)

/-- `leading_edge[i][0]`. -/
def edgeAt (edge : List Sample) : Except PyExc Sample :=
  match edge with
  | position :: _ => .ok position
  | [] => .error ⟨.other "IndexError", "list index out of range"⟩

/-- The heights of the window. -/
def leptaWindow (range correction : Sample) (edgeStart edgeStop : List Sample)
    (points : List (DemPoint × Sample)) : Except PyExc (List (DemPoint × Sample)) :=
  if cfg.useFullLeadingEdge then do
    let edgeStart ← edgeAt edgeStart
    let edgeStop ← edgeAt edgeStop
    .ok (inWindow (range - (.num cfg.referenceBinIndex - edgeStart) * .num cfg.rangeBinSize)
      (range + (edgeStop - .num cfg.referenceBinIndex) * .num cfg.rangeBinSize) points)
  else if cfg.useWindowAroundRetrackingPoint then
    let rangeToRetrackingPoint := range + correction
    let rangeStart := rangeToRetrackingPoint - .num cfg.deltaRangeOffset
    let rangeEnd := rangeToRetrackingPoint + .num cfg.deltaRangeOffset
    let found := inWindow rangeStart rangeEnd points
    if found.isEmpty then do
      let closest ← npMin (points.map Prod.snd)
      let diff := closest - rangeStart
      .ok (inWindow (rangeStart + diff) (rangeEnd + diff) points)
    else .ok found
  else .error ⟨.valueError, "No LEPTA window method selected"⟩

/-! ## The POCA -/

/-- `np.mean`. -/
def npMean (xs : List Sample) : Sample := xs.foldr (· + ·) 0 / (xs.length : Sample)

/-- `np.median`. -/
def npMedian (xs : List Sample) : Sample := if xs.any WithNan.isNan then .nan else median xs

/-- The position of the POCA, and `index_of_closest`. -/
def leptaXy (window : List (DemPoint × Sample)) : Except PyExc (Sample × Sample × Option Nat) :=
  if cfg.useMeanXyInWindow then
    .ok (npMean (window.map fun p => p.1.x), npMean (window.map fun p => p.1.y), none)
  else if cfg.useXyAtMinDemToSatDistance then do
    let indexOfClosest ← argmin (window.map Prod.snd)
    let p := (window.getD indexOfClosest (⟨.nan, .nan, .nan⟩, .nan)).1
    .ok (p.x, p.y, some indexOfClosest)
  else .error ⟨.valueError, "no method selected for LEPTA POCA(x,y)"⟩

/-- The height of the POCA; `None` is stored as NaN. -/
def leptaZ (dem : Dem) (window : List (DemPoint × Sample)) (pocaX pocaY : Sample)
    (indexOfClosest : Option Nat) : Except PyExc Sample :=
  if cfg.useMeanZInWindow then .ok (npMean (window.map fun p => p.1.z))
  else if cfg.useMedianZInWindow then .ok (npMedian (window.map fun p => p.1.z))
  else if cfg.useZAtMinDemToSatDistance then do
    let indexOfClosest ← match indexOfClosest with
      | some k => .ok k
      | none => argmin (window.map Prod.snd)
    .ok (window.getD indexOfClosest (⟨.nan, .nan, .nan⟩, .nan)).1.z
  else if cfg.useMedianHeightAroundPoint then
    .ok ((medianDemHeightAroundAPoint dem pocaX pocaY cfg.pulseLimitedFootprintSize).getD .nan)
  else .error ⟨.valueError, "no method selected for LEPTA POCA(z)"⟩

/-! ## One record -/

/-- The record with the POCA of its window. -/
def leptaPlace (dem : Dem) (start : RoemerRecord) (window : List (DemPoint × Sample))
    (nadirX nadirY altitude : Sample) : Except PyExc RoemerRecord := do
  let (pocaX, pocaY, indexOfClosest) ← leptaXy cfg window
  let pocaZ ← leptaZ cfg dem window pocaX pocaY indexOfClosest
  .ok { start with
    pocaX := pocaX
    pocaY := pocaY
    pocaZ := pocaZ
    slopeCorrection := distance3d lib nadirX nadirY altitude ⟨pocaX, pocaY, pocaZ⟩ + pocaZ -
      altitude }

/-- One pass of the loop; the relocation distance is not used. -/
def leptaRecord (dem : Dem) (yearDifference : ℚ)
    (nadirX nadirY altitude range correction : Sample) (edgeStart edgeStop : List Sample)
    (included : Bool) : Except PyExc RoemerRecord :=
  let start := RoemerRecord.start nadirX nadirY
  if !included then .ok start
  else
    match leptaCandidates cfg lib dem yearDifference nadirX nadirY altitude with
    | none => .ok start.reject
    | some points => do
        let window ← leptaWindow cfg range correction edgeStart edgeStop points
        if window.isEmpty then .ok start.reject
        else leptaPlace cfg lib dem start window nadirX nadirY altitude

/-! ## The track -/

/-- What it returns. -/
structure LeptaOutput where
  height : List Sample
  latPoca : List Sample
  lonPoca : List Sample
  slopeOk : List Bool

/-- The Doppler corrections of a height that is finite. -/
def leptaDoppler (t : LeptaTrack) (i : Nat) (h : Sample × Sample × Sample) : Sample :=
  if cfg.includeSlopeDopplerCorrection && !h.1.isNan then
    h.1 + t.dopCor.getD i .nan -
      lib.slopeDoppler i (t.lon.getD i .nan, t.lat.getD i .nan, t.alt.getD i .nan)
        (h.2.2, h.2.1, h.1)
  else h.1

/-- The pass of record `i`. -/
def leptaPass (dem : Dem) (yearDifference : ℚ) (t : LeptaTrack) (i : Nat) :
    Except PyExc RoemerRecord :=
  let nadir := lib.lonlatToXy (t.lon.getD i .nan) (t.lat.getD i .nan)
  leptaRecord cfg lib dem yearDifference nadir.1 nadir.2 (t.alt.getD i .nan)
    (t.geoCorrectedTrackerRange.getD i .nan) (t.retrackerCorrection.getD i .nan)
    (t.leadingEdgeStart.getD i []) (t.leadingEdgeStop.getD i [])
    (t.waveformsToInclude.getD i false)

/-- `year_difference`. -/
def leptaYears : Except PyExc ℚ :=
  if cfg.includeDhdtCorrection then lib.yearDifference else .ok 0

/-- `geolocate_lepta`. The heights and positions are made of the working arrays as
`geolocate_roemer` makes them. -/
def geolocateLepta (thisdem : Option Dem) (t : LeptaTrack) : Except PyExc LeptaOutput :=
  match thisdem with
  | none => .error ⟨.valueError, "thisdem None value passed"⟩
  | some dem => do
      let yearDifference ← leptaYears cfg lib
      let records ← forEach (fun i _ => leptaPass cfg lib dem yearDifference t i) 0 t.lat
      let heights := records.zipIdx.map fun r => roemerHeight lib.toRoemerLib t.toRoemerTrack r.2 r.1
      .ok
        { height := heights.zipIdx.map fun h => leptaDoppler cfg lib t h.2 h.1
          latPoca := heights.map fun h => h.2.1
          lonPoca := heights.map fun h => h.2.2
          slopeOk := records.map RoemerRecord.slopeOk }

end Model

/-! ## The closest height of a window -/

/-- `argmin` of numbers. -/
theorem argmin_closest {points : List (DemPoint × Sample)} (hne : points ≠ [])
    (hnum : ∀ p ∈ points, p.2 ≠ .nan) :
    ∃ k p d, argmin (points.map Prod.snd) = .ok k ∧ points[k]? = some (p, .num d) ∧
      ∀ q v, (q, .num v) ∈ points → d ≤ v := by
  have hnumbers : ∀ x ∈ points.map Prod.snd, x ≠ .nan := by
    intro x hx
    obtain ⟨p, hp, rfl⟩ := List.mem_map.mp hx
    exact hnum p hp
  obtain ⟨ds, hds⟩ := exists_map_num hnumbers
  have hdsne : ds ≠ [] := by
    rintro rfl
    rw [List.map_nil, List.map_eq_nil_iff] at hds
    exact hne hds
  obtain ⟨k, d, hk, hbest⟩ := argmin_num ds hdsne
  rw [← hds] at hk hbest
  have hentry := hbest.entry
  rw [List.getElem?_map, Option.map_eq_some_iff] at hentry
  obtain ⟨⟨p, d'⟩, hpoint, rfl⟩ := hentry
  refine ⟨k, p, d, hk, hpoint, ?_⟩
  intro q v hq
  obtain ⟨j, hj, hjq⟩ := List.mem_iff_getElem.mp hq
  have hv : (points.map Prod.snd)[j]? = some (.num v) := by
    rw [List.getElem?_map, List.getElem?_eq_getElem hj, hjq]
    rfl
  simpa [closer] using hbest.best j v hv

/-- A NaN is the place that the scan of `argmin` gives. -/
theorem argminFrom_nan (ys xs : List Sample) (best i : Nat) (value : Sample)
    (hbest : ys.getD best .nan = value) (hxs : ∀ k, ys.getD (i + k) .nan = xs.getD k .nan)
    (hnan : value = .nan ∨ .nan ∈ xs) : ys.getD (argminFrom best value i xs) .nan = .nan := by
  induction xs generalizing best i value with
  | nil =>
      rcases hnan with rfl | hnan
      · exact hbest
      · cases hnan
  | cons x xs ih =>
      have hx : ys.getD i .nan = x := by simpa using hxs 0
      have hrest : ∀ k, ys.getD (i + 1 + k) .nan = xs.getD k .nan := by
        intro k
        rw [Nat.add_right_comm, Nat.add_assoc, hxs (k + 1), List.getD_cons_succ]
      rw [argminFrom]
      cases value with
      | nan => exact hbest
      | num v =>
          have hmem : x = .nan ∨ .nan ∈ xs := by
            rcases hnan with hnan | hnan
            · cases hnan
            · exact (List.mem_cons.mp hnan).imp_left Eq.symm
          rw [if_neg (by simp)]
          split
          · exact ih i (i + 1) x hx hrest hmem
          · next hless =>
            refine ih best (i + 1) (.num v) hbest hrest (.inr (hmem.resolve_left ?_))
            rintro rfl
            exact hless (by simp)

/-- `np.min` of a list with a NaN is NaN. -/
theorem npMin_nan {xs : List Sample} (hnan : .nan ∈ xs) : npMin xs = .ok .nan := by
  cases xs with
  | nil => cases hnan
  | cons x xs =>
      have hplace := argminFrom_nan (x :: xs) xs 0 1 x rfl
        (fun k => by rw [Nat.add_comm, List.getD_cons_succ])
        ((List.mem_cons.mp hnan).imp_left Eq.symm)
      rw [npMin, argmin]
      simp only
      rw [hplace]

/-- `np.min` of numbers is the least distance. -/
theorem npMin_closest {points : List (DemPoint × Sample)} (hne : points ≠ [])
    (hnum : ∀ p ∈ points, p.2 ≠ .nan) :
    ∃ p d, npMin (points.map Prod.snd) = .ok (.num d) ∧ (p, .num d) ∈ points ∧
      ∀ q v, (q, .num v) ∈ points → d ≤ v := by
  obtain ⟨k, p, d, hk, hpoint, hleast⟩ := argmin_closest hne hnum
  have hget : (points.map Prod.snd).getD k .nan = .num d := by
    rw [List.getD_eq_getElem?_getD, List.getElem?_map, hpoint]
    rfl
  refine ⟨p, d, ?_, List.mem_of_getElem? hpoint, hleast⟩
  rw [npMin, hk]
  simp only
  rw [hget]

theorem mem_inWindow {rangeStart rangeEnd : Sample} {points : List (DemPoint × Sample)}
    {p : DemPoint × Sample} :
    p ∈ inWindow rangeStart rangeEnd points ↔ p ∈ points ∧ rangeStart ≤ p.2 ∧ p.2 ≤ rangeEnd := by
  rw [inWindow, List.mem_filter, Bool.and_eq_true, decide_eq_true_eq, decide_eq_true_eq]

/-- A height lies within `δ` of a range `r`. -/
def Within (points : List (DemPoint × Sample)) (r δ : ℚ) : Prop :=
  ∃ q v, (q, WithNan.num v) ∈ points ∧ |v - r| ≤ δ

/-- The closest height of a window, `d` from the satellite: that within `δ` of the range
if there is one, otherwise that of all heights. -/
structure ClosestHeight (points : List (DemPoint × Sample)) (r δ d : ℚ) : Prop where
  within : Within points r δ → |d - r| ≤ δ ∧
    ∀ q v, (q, WithNan.num v) ∈ points → |v - r| ≤ δ → d ≤ v
  closest : ¬ Within points r δ → ∀ q v, (q, WithNan.num v) ∈ points → d ≤ v

section Closest

variable {cfg : LeptaConfig} {lib : LeptaLib} {points window : List (DemPoint × Sample)}
  {range correction : Sample} {edgeStart edgeStop : List Sample} {r : ℚ}

theorem mem_inWindow_about {δ v : ℚ} {q : DemPoint} :
    (q, .num v) ∈ inWindow (.num r - .num δ) (.num r + .num δ) points ↔
      (q, .num v) ∈ points ∧ |v - r| ≤ δ := by
  rw [mem_inWindow, WithNan.num_sub_num, WithNan.num_add_num, WithNan.num_le_num,
    WithNan.num_le_num, abs_le]
  constructor
  · rintro ⟨hmem, hlow, hhigh⟩
    exact ⟨hmem, by linarith, by linarith⟩
  · rintro ⟨hmem, hlow, hhigh⟩
    exact ⟨hmem, by linarith, by linarith⟩

theorem num_of_inWindow {rangeStart rangeEnd : Sample} {p : DemPoint × Sample}
    (hp : p ∈ inWindow rangeStart rangeEnd points) : p.2 ≠ .nan := by
  obtain ⟨-, hstart, -⟩ := mem_inWindow.mp hp
  intro hnan
  rw [hnan] at hstart
  exact WithNan.not_le_nan _ hstart

/-- **The window about the retracking point**: the height at which its distances are
smallest is the closest height. -/
theorem leptaWindow_closest (hedge : cfg.useFullLeadingEdge = false)
    (hpoint : cfg.useWindowAroundRetrackingPoint = true) (hrange : range + correction = .num r)
    (hwindow : leptaWindow cfg range correction edgeStart edgeStop points = .ok window)
    (hne : window ≠ []) :
    (∀ p ∈ window, p ∈ points ∧ p.2 ≠ .nan) ∧
      ∀ p d, (p, WithNan.num d) ∈ window → (∀ q v, (q, .num v) ∈ window → d ≤ v) →
        ClosestHeight points r cfg.deltaRangeOffset d := by
  rw [leptaWindow, if_neg (by simp [hedge]), if_pos hpoint] at hwindow
  simp only [hrange] at hwindow
  split at hwindow
  · next hempty =>
    -- no height within the offset: the window starts at the closest one
    have hnone : ¬ Within points r cfg.deltaRangeOffset := by
      rintro ⟨q, v, hq, hv⟩
      have hmem := mem_inWindow_about.mpr ⟨hq, hv⟩
      rw [List.isEmpty_iff.mp hempty] at hmem
      exact List.not_mem_nil hmem
    obtain ⟨closest, hclosest, hwindow⟩ := except_bind_ok hwindow
    obtain rfl := Except.ok.inj hwindow
    refine ⟨fun p hp => ⟨(mem_inWindow.mp hp).1, num_of_inWindow hp⟩, ?_⟩
    intro p d hp hleast
    refine ⟨fun hwithin => absurd hwithin hnone, fun _ => ?_⟩
    have hpoints : points ≠ [] := by
      rintro rfl
      cases (mem_inWindow.mp hp).1
    -- a distance that is not a number leaves the window empty
    have hnum : ∀ q ∈ points, q.2 ≠ .nan := by
      intro q hq hnan
      rw [npMin_nan (hnan ▸ List.mem_map_of_mem hq)] at hclosest
      obtain rfl := Except.ok.inj hclosest
      obtain ⟨-, hstart, -⟩ := mem_inWindow.mp hp
      exact WithNan.not_nan_le _ hstart
    obtain ⟨q, m, hm, hq, hmin⟩ := npMin_closest hpoints hnum
    rw [hclosest] at hm
    obtain rfl := Except.ok.inj hm
    -- the closest height is the start of the window, so the window has it
    have hstart : (.num r - .num cfg.deltaRangeOffset) +
        (.num m - (.num r - .num cfg.deltaRangeOffset)) = (.num m : Sample) := by simp
    have hend : (.num r + .num cfg.deltaRangeOffset) +
        (.num m - (.num r - .num cfg.deltaRangeOffset)) =
          (.num (m + 2 * cfg.deltaRangeOffset) : Sample) := by
      simp only [WithNan.num_add_num, WithNan.num_sub_num, WithNan.num.injEq]
      ring
    rw [hstart, hend] at hp hleast
    have hfound : (q, .num m) ∈ inWindow (.num m) (.num (m + 2 * cfg.deltaRangeOffset)) points := by
      obtain ⟨-, hlow, hhigh⟩ := mem_inWindow.mp hp
      rw [WithNan.num_le_num] at hlow hhigh
      exact mem_inWindow.mpr ⟨hq, (WithNan.num_le_num _ _).mpr le_rfl,
        (WithNan.num_le_num _ _).mpr (hlow.trans hhigh)⟩
    intro q' v hv
    exact (hleast q m hfound).trans (hmin q' v hv)
  · obtain rfl := Except.ok.inj hwindow
    refine ⟨fun p hp => ⟨(mem_inWindow.mp hp).1, num_of_inWindow hp⟩, ?_⟩
    intro p d hp hleast
    obtain ⟨hmem, hd⟩ := mem_inWindow_about.mp hp
    refine ⟨fun _ => ⟨hd, ?_⟩, fun hnone => absurd ⟨p, d, hmem, hd⟩ hnone⟩
    intro q v hq hv
    exact hleast q v (mem_inWindow_about.mpr ⟨hq, hv⟩)

end Closest

/-! ## The POCA at the closest height -/

section Record

variable {cfg : LeptaConfig} {lib : LeptaLib} {dem : Dem} {yearDifference : ℚ}
  {nadirX nadirY altitude range correction : Sample} {edgeStart edgeStop : List Sample}
  {included : Bool} {start r : RoemerRecord} {points window : List (DemPoint × Sample)}

/-- A record with a slope correction has a POCA of a window with heights. -/
theorem leptaRecord_window
    (hrecord : leptaRecord cfg lib dem yearDifference nadirX nadirY altitude range correction
      edgeStart edgeStop included = .ok r) (hcorrection : r.slopeCorrection ≠ .nan) :
    ∃ points window,
      leptaCandidates cfg lib dem yearDifference nadirX nadirY altitude = some points ∧
      leptaWindow cfg range correction edgeStart edgeStop points = .ok window ∧ window ≠ [] ∧
      leptaPlace cfg lib dem (RoemerRecord.start nadirX nadirY) window nadirX nadirY altitude =
        .ok r := by
  rw [leptaRecord] at hrecord
  split at hrecord
  · obtain rfl := Except.ok.inj hrecord
    exact absurd rfl hcorrection
  · split at hrecord
    · obtain rfl := Except.ok.inj hrecord
      exact absurd rfl hcorrection
    · next points hpoints =>
      obtain ⟨window, hwindow, hplace⟩ := except_bind_ok hrecord
      split at hplace
      · obtain rfl := Except.ok.inj hplace
        exact absurd rfl hcorrection
      · next hne =>
        exact ⟨points, window, hpoints, hwindow, fun hnil => hne (by rw [hnil]; rfl), hplace⟩

/-- A candidate has its distance to the satellite. -/
theorem leptaCandidates_distance
    (hpoints : leptaCandidates cfg lib dem yearDifference nadirX nadirY altitude = some points)
    {p : DemPoint × Sample} (hp : p ∈ points) :
    p.2 = distance3d lib nadirX nadirY altitude p.1 := by
  rw [leptaCandidates] at hpoints
  split at hpoints
  · cases hpoints
  · obtain ⟨heights, -, rfl⟩ := Option.map_eq_some_iff.mp hpoints
    obtain ⟨q, -, rfl⟩ := List.mem_map.mp hp
    rfl

/-- **The POCA at the closest height** of a window. -/
theorem leptaPlace_closest (hmean : cfg.useMeanXyInWindow = false)
    (hclosest : cfg.useXyAtMinDemToSatDistance = true) (hne : window ≠ [])
    (hnum : ∀ p ∈ window, p.2 ≠ .nan)
    (hplace : leptaPlace cfg lib dem start window nadirX nadirY altitude = .ok r) :
    ∃ k p d, window[k]? = some (p, .num d) ∧ (∀ q v, (q, .num v) ∈ window → d ≤ v) ∧
      r.pocaX = p.x ∧ r.pocaY = p.y ∧ leptaZ cfg dem window p.x p.y (some k) = .ok r.pocaZ ∧
      r.slopeCorrection =
        distance3d lib nadirX nadirY altitude ⟨p.x, p.y, r.pocaZ⟩ + r.pocaZ - altitude := by
  obtain ⟨k, p, d, hk, hentry, hleast⟩ := argmin_closest hne hnum
  have hxy : leptaXy cfg window = .ok (p.x, p.y, some k) := by
    rw [leptaXy, if_neg (by simp [hmean]), if_pos hclosest, hk]
    have hget : window.getD k (⟨.nan, .nan, .nan⟩, .nan) = (p, .num d) := by
      rw [List.getD_eq_getElem?_getD, hentry, Option.getD_some]
    show Except.ok _ = _
    rw [hget]
  rw [leptaPlace, hxy] at hplace
  obtain ⟨_, hpoca, hplace⟩ := except_bind_ok hplace
  obtain rfl := Except.ok.inj hpoca
  obtain ⟨z, hz, hr⟩ := except_bind_ok hplace
  obtain rfl := Except.ok.inj hr
  exact ⟨k, p, d, hentry, hleast, rfl, rfl, hz, rfl⟩

end Record

/-! ## The heights of a run -/

section Run

variable {cfg : LeptaConfig} {lib : LeptaLib} {dem : Dem} {t : LeptaTrack} {out : LeptaOutput}

/-- **A run that returns** has passed over every record, and its outputs are those of
the passes. -/
theorem geolocateLepta_ok (hout : geolocateLepta cfg lib (some dem) t = .ok out) :
    ∃ yearDifference, leptaYears cfg lib = .ok yearDifference ∧
      out.height.length = t.lat.length ∧
      ∀ i, i < t.lat.length → ∃ r, leptaPass cfg lib dem yearDifference t i = .ok r ∧
        out.height.getD i .nan =
          leptaDoppler cfg lib t i (roemerHeight lib.toRoemerLib t.toRoemerTrack i r) ∧
        out.latPoca.getD i .nan = (roemerHeight lib.toRoemerLib t.toRoemerTrack i r).2.1 ∧
        out.lonPoca.getD i .nan = (roemerHeight lib.toRoemerLib t.toRoemerTrack i r).2.2 := by
  rw [geolocateLepta] at hout
  obtain ⟨years, hyears, hout⟩ := except_bind_ok hout
  obtain ⟨records, hrecords, hout⟩ := except_bind_ok hout
  obtain rfl := Except.ok.inj hout
  obtain ⟨hlen, hpass⟩ := forEach_ok WithNan.nan (RoemerRecord.start .nan .nan) hrecords
  refine ⟨years, hyears, by simp [hlen], ?_⟩
  intro i hi
  rw [← hlen] at hi
  have hi' : i < (records.zipIdx.map
      (fun r => roemerHeight lib.toRoemerLib t.toRoemerTrack r.2 r.1)).length := by
    simpa using hi
  have hentry := getD_map_zipIdx
    (fun r : RoemerRecord × Nat => roemerHeight lib.toRoemerLib t.toRoemerTrack r.2 r.1) hi
    (RoemerRecord.start .nan .nan) (.nan, .nan, .nan)
  refine ⟨records.getD i (RoemerRecord.start .nan .nan), ?_, ?_, ?_, ?_⟩
  · have h := hpass i (by rwa [← hlen])
    rw [Nat.zero_add] at h
    exact h
  · rw [getD_map_zipIdx _ hi' (.nan, .nan, .nan), hentry]
  · rw [getD_map_of_lt _ hi' (.nan, .nan, .nan), hentry]
  · rw [getD_map_of_lt _ hi' (.nan, .nan, .nan), hentry]

/-- The candidates of record `i`. -/
def trackCandidates (cfg : LeptaConfig) (lib : LeptaLib) (dem : Dem) (yearDifference : ℚ)
    (t : LeptaTrack) (i : Nat) : Option (List (DemPoint × Sample)) :=
  let nadir := lib.lonlatToXy (t.lon.getD i .nan) (t.lat.getD i .nan)
  leptaCandidates cfg lib dem yearDifference nadir.1 nadir.2 (t.alt.getD i .nan)

/-- A height that is a number is made of numbers. -/
theorem eq_num_of_height {a range correction s : Sample} {h : ℚ}
    (hheight : a - (range + correction) + s = .num h) :
    ∃ a' r' s', a = .num a' ∧ range + correction = .num r' ∧ s = .num s' ∧ h = a' - r' + s' := by
  generalize range + correction = r at hheight
  cases a with
  | nan => simp at hheight
  | num a =>
      cases r with
      | nan => simp at hheight
      | num r =>
          cases s with
          | nan => simp at hheight
          | num s => exact ⟨a, r, s, rfl, rfl, rfl, (WithNan.num.inj hheight).symm⟩

/-- A record with a height is at its POCA, with the height that its slope correction
gives. -/
theorem roemerHeight_eq_num {lib : RoemerLib} {t : RoemerTrack} {i : Nat} {r : RoemerRecord}
    {h : ℚ} (hheight : (roemerHeight lib t i r).1 = .num h) :
    ∃ a range s, t.alt.getD i .nan = .num a ∧
      t.geoCorrectedTrackerRange.getD i .nan + t.retrackerCorrection.getD i .nan = .num range ∧
      r.slopeCorrection = .num s ∧ h = a - range + s ∧
      (roemerHeight lib t i r).2 = (lib.xyToLonlat r.pocaX r.pocaY).swap := by
  unfold roemerHeight at hheight ⊢
  simp only at hheight ⊢
  split
  · next hnadir =>
    rw [if_pos hnadir] at hheight
    cases hheight
  · next hplaced =>
    rw [if_neg hplaced] at hheight
    split at hheight
    · split at hheight
      · obtain ⟨a, range, s, ha, hrange, hs, rfl⟩ := eq_num_of_height hheight
        exact ⟨a, range, s, ha, hrange, hs, rfl, rfl⟩
      · cases hheight
    · cases hheight

/-- The slope correction of a POCA, as numbers. -/
theorem eq_num_of_slope {d z a : Sample} {s : ℚ} (hs : d + z - a = .num s) :
    ∃ d' z' a', d = .num d' ∧ z = .num z' ∧ a = .num a' ∧ s = d' + z' - a' := by
  cases d with
  | nan => simp at hs
  | num d =>
      cases z with
      | nan => simp at hs
      | num z =>
          cases a with
          | nan => simp at hs
          | num a => exact ⟨d, z, a, rfl, rfl, rfl, (WithNan.num.inj hs).symm⟩

/-- **How far the elevations are from the DEM.** With the window about the retracking
point and the POCA at the closest height, without Doppler corrections: an elevation is
given at one of the heights of the beam, the closest one of those within the offset of
the retracked range, or of all if there is none. It differs from the height by as much as
their distances differ from the range, so by no more than the offset exactly if a height
of the beam is within the offset. -/
theorem geolocateLepta_near_dem {i : Nat} {h : ℚ} (hedge : cfg.useFullLeadingEdge = false)
    (hpoint : cfg.useWindowAroundRetrackingPoint = true)
    (hmeanXy : cfg.useMeanXyInWindow = false) (hxy : cfg.useXyAtMinDemToSatDistance = true)
    (hmeanZ : cfg.useMeanZInWindow = false) (hmedianZ : cfg.useMedianZInWindow = false)
    (hz : cfg.useZAtMinDemToSatDistance = true)
    (hdoppler : cfg.includeSlopeDopplerCorrection = false)
    (hout : geolocateLepta cfg lib (some dem) t = .ok out)
    (hheight : out.height.getD i .nan = .num h) :
    ∃ yearDifference points p z d range,
      leptaYears cfg lib = .ok yearDifference ∧
      trackCandidates cfg lib dem yearDifference t i = some points ∧ (p, .num d) ∈ points ∧
      p.z = .num z ∧
      t.geoCorrectedTrackerRange.getD i .nan + t.retrackerCorrection.getD i .nan = .num range ∧
      (out.lonPoca.getD i .nan, out.latPoca.getD i .nan) = lib.xyToLonlat p.x p.y ∧
      ClosestHeight points range cfg.deltaRangeOffset d ∧ h = z + (d - range) ∧
      (|h - z| ≤ cfg.deltaRangeOffset ↔ Within points range cfg.deltaRangeOffset) := by
  obtain ⟨years, hyears, hlen, hpasses⟩ := geolocateLepta_ok hout
  have hi : i < t.lat.length := by
    by_contra hge
    rw [List.getD_eq_default _ _ (by omega)] at hheight
    cases hheight
  obtain ⟨r, hpass, hheightAt, hlat, hlon⟩ := hpasses i hi
  rw [hheightAt, leptaDoppler, if_neg (by simp [hdoppler])] at hheight
  obtain ⟨a, range, s, ha, hrange, hs, hsum, hposition⟩ := roemerHeight_eq_num hheight
  -- the window of the record
  obtain ⟨points, window, hpoints, hwindow, hne, hplace⟩ :=
    leptaRecord_window hpass (by simp [hs])
  obtain ⟨hwindowNum, hleastIs⟩ := leptaWindow_closest hedge hpoint hrange hwindow hne
  obtain ⟨k, p, d, hentry, hleast, hpocaX, hpocaY, hpocaZ, hslope⟩ :=
    leptaPlace_closest hmeanXy hxy hne (fun q hq => (hwindowNum q hq).2) hplace
  have hmem := List.mem_of_getElem? hentry
  have hmemPoints := (hwindowNum _ hmem).1
  have hclosest := hleastIs p d hmem hleast
  -- its height and its distance
  have hz' : r.pocaZ = p.z := by
    rw [leptaZ, if_neg (by simp [hmeanZ]), if_neg (by simp [hmedianZ]), if_pos hz] at hpocaZ
    obtain ⟨_, hk, hpocaZ⟩ := except_bind_ok hpocaZ
    obtain rfl := Except.ok.inj hk
    rw [← Except.ok.inj hpocaZ, List.getD_eq_getElem?_getD, hentry, Option.getD_some]
  have hdistance := leptaCandidates_distance hpoints hmemPoints
  rw [hz', ← hdistance, hs] at hslope
  obtain ⟨d', z, a', hd', hpz, ha', hs'⟩ := eq_num_of_slope hslope.symm
  obtain rfl := WithNan.num.inj hd'
  obtain rfl := WithNan.num.inj (ha.symm.trans ha')
  have hh : h = z + (d - range) := by
    rw [hsum, hs']
    ring
  refine ⟨years, points, p, z, d, range, hyears, hpoints, hmemPoints, hpz, hrange, ?_, hclosest,
    hh, ?_⟩
  · rw [hlat, hlon, hposition, hpocaX, hpocaY]
    rfl
  · have hdiff : h - z = d - range := by
      rw [hh]
      ring
    rw [hdiff]
    exact ⟨fun hd => ⟨p, d, hmemPoints, hd⟩, fun hwithin => (hclosest.within hwithin).1⟩

/-- A window of one metre about the retracking point. -/
def windowConfig : LeptaConfig where
  referenceBinIndex := 64
  rangeBinSize := 1
  acrossTrackBeamWidth := 24
  pulseLimitedFootprintSize := 2
  useWindowAroundRetrackingPoint := true
  useFullLeadingEdge := false
  deltaRangeOffset := 1
  useXyAtMinDemToSatDistance := true
  useMeanXyInWindow := false
  useMeanZInWindow := false
  useMedianZInWindow := false
  useZAtMinDemToSatDistance := true
  useMedianHeightAroundPoint := false
  includeDhdtCorrection := false
  medianFilter := false
  includeSlopeDopplerCorrection := false

/-- Two heights, 5 m and 13 m from a satellite at an altitude of 100 m. -/
def windowDem : Dem where
  xdem := uniformAxis (-32) 8 10
  ydem := uniformAxis 32 (-8) 9
  zdem := (List.range 9).map fun i => (List.range 10).map fun j =>
    if i = 4 ∧ j = 4 then .num 96 else if i = 4 ∧ j = 5 then .num 88 else .nan
  binsize := 8

def windowLib : LeptaLib where
  toRoemerLib := smallLib
  interpDem _ _ := .num 96

/-- A record with a range of 7 m. -/
def windowTrack : LeptaTrack where
  toRoemerTrack := { smallTrack with geoCorrectedTrackerRange := [.num 7] }
  leadingEdgeStart := [[.num 63]]
  leadingEdgeStop := [[.num 65]]

/-- No height lies within a metre of the range, and the elevation is 2 m below the closest
one. -/
theorem geolocateLepta_near_dem_closest :
    ∃ out, geolocateLepta windowConfig windowLib (some windowDem) windowTrack = .ok out ∧
      ∃ yearDifference points p z d range,
        leptaYears windowConfig windowLib = .ok yearDifference ∧
        trackCandidates windowConfig windowLib windowDem yearDifference windowTrack 0 = some points ∧
        (p, .num d) ∈ points ∧ p.z = .num z ∧
        windowTrack.geoCorrectedTrackerRange.getD 0 .nan +
          windowTrack.retrackerCorrection.getD 0 .nan = .num range ∧
        (out.lonPoca.getD 0 .nan, out.latPoca.getD 0 .nan) = windowLib.xyToLonlat p.x p.y ∧
        ClosestHeight points range 1 d ∧ 94 = z + (d - range) ∧
        (|94 - z| ≤ 1 ↔ Within points range 1) := by
  have hrun : (geolocateLepta windowConfig windowLib (some windowDem) windowTrack).toOption.map
      LeptaOutput.height = some [.num 94] := by
    decide +kernel
  rcases hout : geolocateLepta windowConfig windowLib (some windowDem) windowTrack with e | out
  · rw [hout] at hrun
    cases hrun
  · rw [hout] at hrun
    have hheight : out.height.getD 0 .nan = .num 94 := by
      rw [Option.some.inj hrun]
      rfl
    exact ⟨out, rfl, geolocateLepta_near_dem rfl rfl rfl rfl rfl rfl rfl rfl hout hheight⟩

end Run

end Clev2er.Cryotempo
