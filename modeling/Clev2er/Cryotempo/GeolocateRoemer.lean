import Clev2er.Lib.ForEach
import Clev2er.Retrack.Retracker

/-!
# `geolocate_roemer`

The slope correction of LRM records with the dual search on and the sliding
window off. For each included record the DEM is searched for the point closest
to the satellite, first inside the beam and then, on a finer grid, inside the
pulse-limited footprint; a second pass turns the corrections into heights, and a
third adds the Doppler corrections.

A record is given up by `slope_ok[i] = False`, by a NaN slope correction, or by a
NaN retracker correction. The library functions of the search are the fields of
`RoemerLib`. A number that is not finite is NaN here.
-/

namespace Clev2er.Cryotempo

open Clev2er.Lib Clev2er.Retrack

/-! ## numpy functions -/

/-- The scan of `argmin`: a NaN ends it, a smaller value replaces the best. -/
def argminFrom (best : Nat) (value : Sample) : Nat → List Sample → Nat
  | _, [] => best
  | i, x :: xs =>
      if value.isNan then best
      else if x.isNan || decide (x < value) then argminFrom i x (i + 1) xs
      else argminFrom best value (i + 1) xs

/-- `.argmin()`. -/
def argmin : List Sample → Except PyExc Nat
  | [] => .error ⟨.valueError, "attempt to get argmin of an empty sequence"⟩
  | x :: xs => .ok (argminFrom 0 x 1 xs)

/-- The scan of `np.nanargmin`, with the best so far. -/
def nanargminFrom : Nat → Option (Nat × Sample) → List Sample → Option (Nat × Sample)
  | _, best, [] => best
  | i, best, x :: xs =>
      if x.isNan then nanargminFrom (i + 1) best xs
      else
        match best with
        | none => nanargminFrom (i + 1) (some (i, x)) xs
        | some (k, value) =>
            if x < value then nanargminFrom (i + 1) (some (i, x)) xs
            else nanargminFrom (i + 1) (some (k, value)) xs

/-- `np.nanmin` and `np.nanargmin` together. -/
def nanargmin (xs : List Sample) : Except PyExc (Nat × Sample) :=
  match nanargminFrom 0 none xs with
  | some best => .ok best
  | none => .error ⟨.valueError, "All-NaN slice encountered"⟩

/-- One axis of `np.mgrid[lo:hi:step]`. -/
def mgridAxis (lo hi : Sample) (step : ℚ) : Except PyExc (List Sample) :=
  match lo, hi with
  | .num a, .num b =>
      .ok ((List.range ⌈(b - a) / step⌉.toNat).map (fun k => .num (a + k * step)))
  | _, _ => .error ⟨.valueError, "arange: cannot compute length"⟩

/-! ## The DEM -/

/-- A `Dem` object, as far as the search reads it. -/
structure Dem where
  xdem : List ℚ
  ydem : List ℚ
  zdem : List (List Sample)
  binsize : ℚ

/-- A square `[(x_min, x_max), (y_min, y_max)]`. -/
structure Square where
  xMin : Sample
  xMax : Sample
  yMin : Sample
  yMax : Sample

/-- The square about a point. -/
def squareAbout (x y : Sample) (halfWidth : ℚ) : Square :=
  ⟨x - .num halfWidth, x + .num halfWidth, y - .num halfWidth, y + .num halfWidth⟩

/-- A DEM location with its height. -/
structure DemPoint where
  x : Sample
  y : Sample
  z : Sample

/-- The index of the node closest to a coordinate. -/
def nearestNode (coordinate : Sample) (nodes : List ℚ) : Except PyExc Nat :=
  argmin (nodes.map (fun node => (coordinate - .num node).map abs))

/-- `get_segment(segment, grid_xy=False, flatten=False)`. -/
def Dem.getSegment (dem : Dem) (s : Square) :
    Except PyExc (List ℚ × List ℚ × List (List Sample)) := do
  let minxInd ← nearestNode s.xMin dem.xdem
  let maxxInd ← nearestNode s.xMax dem.xdem
  let minyInd ← nearestNode s.yMin dem.ydem
  let maxyInd ← nearestNode s.yMax dem.ydem
  .ok (slice dem.xdem minxInd maxxInd, slice dem.ydem maxyInd minyInd,
    (slice dem.zdem maxyInd minyInd).map (fun row => slice row minxInd maxxInd))

/-- `get_segment(segment, grid_xy=True, flatten=False)`: locations without height
have no coordinates either. -/
def Dem.getGridSegment (dem : Dem) (s : Square) : Except PyExc (List (List DemPoint)) :=
  match dem.getSegment s with
  | .error e => .error e
  | .ok (xs, ys, zs) =>
      .ok (List.zipWith (fun y row => List.zipWith (fun x z =>
        if z.isNan then ⟨.nan, .nan, z⟩ else ⟨.num x, .num y, z⟩) xs row) ys zs)

/-! ## Settings -/

/-- The parameters `geolocate_roemer` takes from the configuration. -/
structure RoemerConfig where
  acrossTrackBeamWidth : ℚ
  pulseLimitedFootprintSize : ℚ
  referenceBinIndex : ℚ
  rangeBinSize : ℚ
  numBins : ℚ
  includeDhdtCorrection : Bool
  maxPocaRelocDistance : ℚ
  fineGridSampling : ℚ
  medianFilter : Bool
  rejectOutsideRangeWindow : Bool
  rangeWindowLowerTrim : ℚ
  rangeWindowUpperTrim : ℚ
  includeSlopeDopplerCorrection : Bool

/-- The library functions of the search. -/
structure RoemerLib where
  sqrt : ℚ → ℚ
  /-- `lonlat_to_xy_transformer.transform`. -/
  lonlatToXy : Sample → Sample → Sample × Sample
  /-- `xy_to_lonlat_transformer.transform`, to longitude and latitude. -/
  xyToLonlat : Sample → Sample → Sample × Sample
  /-- `scipy.ndimage.median_filter(zdem, size=7)`. -/
  medianFilter : List (List Sample) → List (List Sample)
  /-- `scipy.interpolate.interpn` on the flipped segment, at `(y, x)` locations. -/
  interpn : List ℚ → List ℚ → List (List Sample) → List (Sample × Sample) →
    Except PyExc (List Sample)
  /-- `thisdhdt.interp_dhdt`, where there is such a grid. -/
  interpDhdt : Option (Sample → Sample → Sample)
  /-- `track_year - thisdem.reference_year`, or what its checks raise. -/
  yearDifference : Except PyExc ℚ
  /-- `slope_doppler` of a record, from its satellite and its echo position. -/
  slopeDoppler : Nat → Sample × Sample × Sample → Sample × Sample × Sample → Sample

section

variable (cfg : RoemerConfig) (lib : RoemerLib)

/-- The mean radius `EARTH_RADIUS`. -/
def earthRadius : ℚ := 6378137

/-- `calculate_distances2d` to one location. -/
def distance2d (x1 y1 x2 y2 : Sample) : Sample :=
  ((x2 - x1) * (x2 - x1) + (y2 - y1) * (y2 - y1)).map lib.sqrt

/-! ## One search -/

/-- What `find_poca` returns when it succeeds. -/
structure Poca where
  x : Sample
  y : Sample
  z : Sample
  slopeCorrectionToHeight : Sample
  rangeToSat : Sample

/-- `dem_range_vec` at one location. -/
def demRange (nadirX nadirY altitude : Sample) (p : DemPoint) : Sample :=
  let dx := p.x - nadirX
  let dy := p.y - nadirY
  let dmagSquared := dx * dx + dy * dy
  let dz := p.z - altitude - dmagSquared / .num (2 * earthRadius)
  (dmagSquared + dz * dz).map lib.sqrt

/-- `find_poca`; `none` is a false `flg_success`. -/
def findPoca (points : List DemPoint) (nadirX nadirY altitude : Sample) :
    Except PyExc (Option Poca) :=
  match nanargmin (points.map (demRange lib nadirX nadirY altitude)) with
  | .error e => .error e
  | .ok (ind, demRpoca) =>
      let p := points.getD ind ⟨.nan, .nan, .nan⟩
      if p.z.isNan || decide (p.z = .num (-9999)) then .ok none
      else .ok (some ⟨p.x, p.y, p.z, demRpoca + p.z - altitude, demRpoca⟩)

/-- The locations closer to a centre than a radius, with a height, and one below
5000 m; `none` if at some stage there is none. -/
def usablePoints (centreX centreY : Sample) (radius : ℚ) (points : List DemPoint) :
    Option (List DemPoint) :=
  let near := points.filter (fun p => distance2d lib centreX centreY p.x p.y < .num radius)
  if near.isEmpty then none
  else
    let good := near.filter (fun p => !p.z.isNan)
    if good.isEmpty then none
    else
      let valid := good.filter (fun p => p.z.map abs < .num 5000)
      if valid.isEmpty then none else some valid

/-- A height after the dh/dt correction. -/
def correctedHeight (yearDifference : ℚ) (p : DemPoint) : DemPoint :=
  if cfg.includeDhdtCorrection then
    match lib.interpDhdt with
    | some interpDhdt => { p with z := p.z + interpDhdt p.x p.y * .num yearDifference }
    | none => p
  else p

/-- From the locations of a segment to the POCA; `none` if there is none. -/
def searchPoca (yearDifference : ℚ) (points : List DemPoint) (centreX centreY : Sample)
    (radius : ℚ) (nadirX nadirY altitude : Sample) : Except PyExc (Option Poca) :=
  match usablePoints lib centreX centreY radius points with
  | none => .ok none
  | some usable =>
      findPoca lib (usable.map (correctedHeight cfg lib yearDifference)) nadirX nadirY altitude

/-- The first search, inside the beam. -/
def beamPoca (dem : Dem) (yearDifference : ℚ) (nadirX nadirY altitude : Sample) :
    Except PyExc (Option Poca) :=
  match dem.getGridSegment
      (squareAbout nadirX nadirY (cfg.acrossTrackBeamWidth / 2 + dem.binsize)) with
  | .error _ => .ok none
  | .ok rows =>
      let rows' :=
        if cfg.medianFilter then
          List.zipWith (List.zipWith (fun (p : DemPoint) z => { p with z := z })) rows
            (lib.medianFilter (rows.map (List.map DemPoint.z)))
        else rows
      searchPoca cfg lib yearDifference rows'.flatten nadirX nadirY (cfg.acrossTrackBeamWidth / 2)
        nadirX nadirY altitude

/-- The second search, on a finer grid inside the pulse-limited footprint about
the first POCA. -/
def finePoca (dem demFine : Dem) (yearDifference : ℚ) (poca : Poca)
    (nadirX nadirY altitude : Sample) : Except PyExc (Option Poca) :=
  let s := squareAbout poca.x poca.y (cfg.pulseLimitedFootprintSize / 2 + dem.binsize)
  match demFine.getSegment s with
  | .error _ => .ok none
  | .ok (xs, ys, zs) => do
      let gridX ← mgridAxis s.xMin s.xMax cfg.fineGridSampling
      let gridY ← mgridAxis s.yMin s.yMax cfg.fineGridSampling
      let locations := gridX.flatMap (fun x => gridY.map (fun y => (x, y)))
      let newZ ← lib.interpn ys.reverse xs zs.reverse (locations.map Prod.swap)
      searchPoca cfg lib yearDifference
        (List.zipWith (fun (q : Sample × Sample) z => ⟨q.1, q.2, z⟩) locations newZ) poca.x poca.y
        (cfg.pulseLimitedFootprintSize / 2) nadirX nadirY altitude

/-! ## One record -/

/-- The working arrays of the loop, at one record. -/
structure RoemerRecord where
  pocaX : Sample
  pocaY : Sample
  pocaZ : Sample
  slopeCorrection : Sample
  relocationDistance : Sample
  slopeOk : Bool

/-- A record before its search: the POCA at nadir, no correction. -/
def RoemerRecord.start (nadirX nadirY : Sample) : RoemerRecord :=
  ⟨nadirX, nadirY, .nan, .nan, .nan, true⟩

def RoemerRecord.place (r : RoemerRecord) (poca : Poca) : RoemerRecord :=
  { r with pocaX := poca.x, pocaY := poca.y, pocaZ := poca.z }

/-- `slope_ok[i] = False`. -/
def RoemerRecord.reject (r : RoemerRecord) : RoemerRecord := { r with slopeOk := false }

/-- The POCA lies outside the trimmed range window. -/
def outsideRangeWindow (geoCorrectedTrackerRange : Sample) (poca : Poca) : Bool :=
  let windowStart := .num cfg.rangeWindowLowerTrim + geoCorrectedTrackerRange -
    .num (cfg.referenceBinIndex * cfg.rangeBinSize)
  let windowEnd := geoCorrectedTrackerRange +
    .num ((cfg.numBins - cfg.referenceBinIndex) * cfg.rangeBinSize) -
    .num cfg.rangeWindowUpperTrim
  decide (poca.rangeToSat < windowStart) || decide (windowEnd < poca.rangeToSat)

/-- The record with its final POCA. -/
def finishRecord (r : RoemerRecord) (poca : Poca) (nadirX nadirY geoCorrectedTrackerRange : Sample) :
    RoemerRecord :=
  let placed := r.place poca
  if cfg.rejectOutsideRangeWindow && outsideRangeWindow cfg geoCorrectedTrackerRange poca then
    placed.reject
  else
    let relocation := distance2d lib nadirX nadirY poca.x poca.y
    { placed with
      slopeCorrection := poca.slopeCorrectionToHeight
      relocationDistance := relocation
      slopeOk := !decide (.num cfg.maxPocaRelocDistance < relocation) }

/-- One pass of the loop. -/
def roemerRecord (dem demFine : Dem) (yearDifference : ℚ)
    (nadirX nadirY altitude geoCorrectedTrackerRange : Sample) (included : Bool) :
    Except PyExc RoemerRecord :=
  let start := RoemerRecord.start nadirX nadirY
  if !included then .ok start
  else
    match beamPoca cfg lib dem yearDifference nadirX nadirY altitude with
    | .error e => .error e
    | .ok none => .ok start.reject
    | .ok (some poca) =>
        if 0 < cfg.fineGridSampling then
          match finePoca cfg lib dem demFine yearDifference poca nadirX nadirY altitude with
          | .error e => .error e
          | .ok none => .ok (start.place poca).reject
          | .ok (some fine) =>
              .ok (finishRecord cfg lib start fine nadirX nadirY geoCorrectedTrackerRange)
        else .ok (finishRecord cfg lib start poca nadirX nadirY geoCorrectedTrackerRange)

/-! ## The track -/

/-- The variables of the L1b file, and the shared dictionary entries, that
`geolocate_roemer` reads. The longitudes are those modulo 360. -/
structure RoemerTrack where
  lat : List Sample
  lon : List Sample
  alt : List Sample
  dopCor : List Sample
  surfaceType : List Nat
  geoCorrectedTrackerRange : List Sample
  retrackerCorrection : List Sample
  waveformsToInclude : List Bool

/-- What it returns. -/
structure RoemerOutput where
  height : List Sample
  latPoca : List Sample
  lonPoca : List Sample
  slopeOk : List Bool
  relocationDistance : List Sample

/-- The height and the POCA position of a record, from its working arrays. -/
def roemerHeight (t : RoemerTrack) (i : Nat) (r : RoemerRecord) : Sample × Sample × Sample :=
  let range := t.geoCorrectedTrackerRange.getD i .nan
  let height :=
    if !range.isNan then
      if r.slopeOk && decide (t.surfaceType.getD i 0 = 1) then
        t.alt.getD i .nan - (range + t.retrackerCorrection.getD i .nan) + r.slopeCorrection
      else .nan
    else .nan
  let (lonPoca, latPoca) := lib.xyToLonlat r.pocaX r.pocaY
  if latPoca.isNan || lonPoca.isNan || !r.slopeOk then
    (.nan, t.lat.getD i .nan, t.lon.getD i .nan)
  else (height, latPoca, lonPoca)

/-- The Doppler corrections of a height that is finite. -/
def dopplerHeight (t : RoemerTrack) (i : Nat) (h : Sample × Sample × Sample) : Sample :=
  if cfg.includeSlopeDopplerCorrection && !h.1.isNan then
    h.1 + t.dopCor.getD i .nan -
      lib.slopeDoppler i (t.lon.getD i .nan, t.lat.getD i .nan, t.alt.getD i .nan)
        (h.2.2, h.2.1, h.1)
  else h.1

/-- `geolocate_roemer`. -/
def geolocateRoemer (thisdem thisdemFine : Option Dem) (t : RoemerTrack) :
    Except PyExc RoemerOutput :=
  match thisdem, thisdemFine with
  | none, _ => .error ⟨.valueError, "thisdem None value passed"⟩
  | some _, none => .error ⟨.valueError, "thisdem_fine None value passed"⟩
  | some dem, some demFine =>
      match (if cfg.includeDhdtCorrection then lib.yearDifference else .ok 0) with
      | .error e => .error e
      | .ok yearDifference =>
          match forEach (fun i _ =>
              let nadir := lib.lonlatToXy (t.lon.getD i .nan) (t.lat.getD i .nan)
              roemerRecord cfg lib dem demFine yearDifference nadir.1 nadir.2
                (t.alt.getD i .nan) (t.geoCorrectedTrackerRange.getD i .nan)
                (t.waveformsToInclude.getD i false)) 0 t.lat with
          | .error e => .error e
          | .ok records =>
              let heights := records.zipIdx.map (fun r => roemerHeight lib t r.2 r.1)
              .ok
                { height := heights.zipIdx.map (fun h => dopplerHeight cfg lib t h.2 h.1)
                  latPoca := heights.map (fun h => h.2.1)
                  lonPoca := heights.map (fun h => h.2.2)
                  slopeOk := records.map RoemerRecord.slopeOk
                  relocationDistance := records.map RoemerRecord.relocationDistance }

/-! ## The outputs of a run -/

/-- The pass of record `i`. -/
def roemerPass (dem demFine : Dem) (yearDifference : ℚ) (t : RoemerTrack) (i : Nat) :
    Except PyExc RoemerRecord :=
  let nadir := lib.lonlatToXy (t.lon.getD i .nan) (t.lat.getD i .nan)
  roemerRecord cfg lib dem demFine yearDifference nadir.1 nadir.2 (t.alt.getD i .nan)
    (t.geoCorrectedTrackerRange.getD i .nan) (t.waveformsToInclude.getD i false)

/-- The difference in years that a run uses. -/
def roemerYears : Except PyExc ℚ :=
  if cfg.includeDhdtCorrection then lib.yearDifference else .ok 0

/-- The outputs at record `i`, from its working arrays `r`. -/
structure RoemerOutput.At (t : RoemerTrack) (out : RoemerOutput) (i : Nat) (r : RoemerRecord) :
    Prop where
  height : out.height.getD i .nan = dopplerHeight cfg lib t i (roemerHeight lib t i r)
  latPoca : out.latPoca.getD i .nan = (roemerHeight lib t i r).2.1
  lonPoca : out.lonPoca.getD i .nan = (roemerHeight lib t i r).2.2
  slopeOk : ∀ d, out.slopeOk.getD i d = r.slopeOk
  relocationDistance : out.relocationDistance.getD i .nan = r.relocationDistance

variable {cfg lib}

/-- **A run that returns** has passed over every record, and its outputs are those
of the passes. -/
theorem geolocateRoemer_ok {dem demFine : Dem} {t : RoemerTrack} {out : RoemerOutput}
    (hout : geolocateRoemer cfg lib (some dem) (some demFine) t = .ok out) :
    ∃ yearDifference, roemerYears cfg lib = .ok yearDifference ∧
      out.height.length = t.lat.length ∧
      ∀ i, i < t.lat.length → ∃ r, roemerPass cfg lib dem demFine yearDifference t i = .ok r ∧
        out.At cfg lib t i r := by
  rw [geolocateRoemer] at hout
  rcases hyears : (if cfg.includeDhdtCorrection then lib.yearDifference else .ok 0) with e | years
  · simp [hyears] at hout
  · rw [hyears] at hout
    simp only at hout
    split at hout
    · cases hout
    · next records hrecords =>
      obtain rfl := Except.ok.inj hout
      obtain ⟨hlen, hpass⟩ := forEach_ok WithNan.nan (RoemerRecord.start .nan .nan) hrecords
      refine ⟨years, hyears, by simp [hlen], ?_⟩
      intro i hi
      rw [← hlen] at hi
      have hi' : i < (records.zipIdx.map (fun r => roemerHeight lib t r.2 r.1)).length := by
        simpa using hi
      refine ⟨records.getD i (RoemerRecord.start .nan .nan), ?_, ?_, ?_, ?_, ?_, ?_⟩
      · have h := hpass i (by rwa [← hlen])
        rw [Nat.zero_add] at h
        exact h
      · rw [getD_map_zipIdx _ hi' (.nan, .nan, .nan),
          getD_map_zipIdx _ hi (RoemerRecord.start .nan .nan)]
      · rw [getD_map_of_lt _ hi' (.nan, .nan, .nan),
          getD_map_zipIdx _ hi (RoemerRecord.start .nan .nan)]
      · rw [getD_map_of_lt _ hi' (.nan, .nan, .nan),
          getD_map_zipIdx _ hi (RoemerRecord.start .nan .nan)]
      · intro d
        exact getD_map_of_lt _ hi _ d
      · exact getD_map_of_lt _ hi _ _

/-- A run none of whose passes raises returns. -/
theorem geolocateRoemer_of_ok {dem demFine : Dem} {t : RoemerTrack} {yearDifference : ℚ}
    (hyears : roemerYears cfg lib = .ok yearDifference)
    (hpass : ∀ i, i < t.lat.length →
      ∃ r, roemerPass cfg lib dem demFine yearDifference t i = .ok r) :
    ∃ out, geolocateRoemer cfg lib (some dem) (some demFine) t = .ok out := by
  rw [roemerYears] at hyears
  rw [geolocateRoemer, hyears]
  obtain ⟨records, hrecords⟩ : ∃ records, forEach (fun i _ =>
      roemerPass cfg lib dem demFine yearDifference t i) 0 t.lat = .ok records := by
    apply forEach_of_ok WithNan.nan
    intro j hj
    rw [Nat.zero_add]
    exact hpass j hj
  simp only [roemerPass] at hrecords
  simp only [hrecords]
  exact ⟨_, rfl⟩

/-! ## What a height needs -/

/-- A height of the second pass has a slope that is ok, grounded ice under it, a
range, a retracker correction and a slope correction. -/
theorem roemerHeight_num {t : RoemerTrack} {i : Nat} {r : RoemerRecord}
    (h : (roemerHeight lib t i r).1 ≠ .nan) :
    r.slopeOk = true ∧ t.surfaceType.getD i 0 = 1 ∧
      t.geoCorrectedTrackerRange.getD i .nan ≠ .nan ∧ t.retrackerCorrection.getD i .nan ≠ .nan ∧
      r.slopeCorrection ≠ .nan := by
  unfold roemerHeight at h
  simp only at h
  split at h
  · exact absurd rfl h
  · split at h
    · next hrange =>
      split at h
      · next hok =>
        simp only [Bool.and_eq_true, decide_eq_true_eq] at hok
        refine ⟨hok.1, hok.2, ?_, ?_, ?_⟩
        · intro hnan
          rw [hnan] at hrange
          cases hrange
        · intro hnan
          rw [hnan] at h
          simp at h
        · intro hnan
          rw [hnan] at h
          simp at h
      · exact absurd rfl h
    · exact absurd rfl h

/-- A record whose slope is not ok is put at nadir, without a height. -/
theorem roemerHeight_rejected {t : RoemerTrack} {i : Nat} {r : RoemerRecord}
    (h : r.slopeOk = false) :
    roemerHeight lib t i r = (.nan, t.lat.getD i .nan, t.lon.getD i .nan) := by
  unfold roemerHeight
  simp [h]

/-- The Doppler corrections give no height to a record that has none. -/
theorem dopplerHeight_ne_nan {t : RoemerTrack} {i : Nat} {h : Sample × Sample × Sample}
    (hne : dopplerHeight cfg lib t i h ≠ .nan) : h.1 ≠ .nan := by
  rintro hnan
  apply hne
  unfold dopplerHeight
  rw [if_neg (by simp [hnan])]
  exact hnan

/-- A record without a height gets none from the Doppler corrections. -/
theorem dopplerHeight_nan {t : RoemerTrack} {i : Nat} {h : Sample × Sample × Sample}
    (hnan : h.1 = .nan) : dopplerHeight cfg lib t i h = .nan := by
  by_contra hne
  exact dopplerHeight_ne_nan hne hnan

/-- **A height of `geolocate_roemer`** stands only at records with `slope_ok`, over
grounded ice, and with a retracker correction. -/
theorem geolocateRoemer_height {thisdem thisdemFine : Option Dem} {t : RoemerTrack}
    {out : RoemerOutput} (hout : geolocateRoemer cfg lib thisdem thisdemFine t = .ok out) {i : Nat}
    (h : out.height.getD i .nan ≠ .nan) :
    out.slopeOk.getD i false = true ∧ t.surfaceType.getD i 0 = 1 ∧
      t.retrackerCorrection.getD i .nan ≠ .nan := by
  rcases thisdem with _ | dem
  · cases hout
  rcases thisdemFine with _ | demFine
  · cases hout
  obtain ⟨years, -, hlen, hpass⟩ := geolocateRoemer_ok hout
  have hi : i < t.lat.length := by
    by_contra hge
    apply h
    rw [List.getD_eq_default _ _ (by omega)]
  obtain ⟨r, -, hat⟩ := hpass i hi
  rw [hat.height] at h
  obtain ⟨hok, hsurface, -, hcorrection, -⟩ := roemerHeight_num (dopplerHeight_ne_nan h)
  exact ⟨(hat.slopeOk false).trans hok, hsurface, hcorrection⟩

end

end Clev2er.Cryotempo
