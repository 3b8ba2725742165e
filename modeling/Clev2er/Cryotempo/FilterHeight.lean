import Clev2er.Cryotempo.GeolocateRoemer
import Clev2er.Cryotempo.GeolocateSin

/-!
# From the waveforms to the filtered heights

`alg_filter_height`, and the way of a file through `alg_waveform_quality`,
`alg_retrack`, the geolocation of its mode and the filter. No stage looks at the
flags of an earlier one: that a record is rejected is passed on as a NaN or as
the fill value of the retracking index. `heightFilt_valid` shows that no stage
brings a rejected record back.
-/

namespace Clev2er.Cryotempo

open Clev2er.Lib Clev2er.Retrack

/-! ## `alg_filter_height` -/

/-- `shared_dict["hemisphere"]`. -/
inductive Hemisphere where
  | north
  | south
deriving DecidableEq, Repr

/-- The keys that `config["height_filters"]` must have. -/
def requiredFilters : List String :=
  ["min_elevation_antarctica", "max_elevation_antarctica", "min_elevation_greenland",
    "max_elevation_greenland"]

/-- `max_diff`: the value of the mode over the one for both. -/
def maxDiff (filters : List (String × ℚ)) (mode : InstrMode) : Option ℚ :=
  let ofMode := match mode with
    | .lrm => filters.lookup "max_diff_to_ref_dem_lrm"
    | .sin => filters.lookup "max_diff_to_ref_dem_sin"
  match ofMode with
  | some d => some d
  | none => filters.lookup "max_diff_to_ref_dem"

/-- `max_elevation` of the hemisphere. -/
def maxElevation (filters : List (String × ℚ)) : Hemisphere → ℚ
  | .south => (filters.lookup "max_elevation_antarctica").getD 0
  | .north => (filters.lookup "max_elevation_greenland").getD 0

/-- `min_elevation` of the hemisphere. -/
def minElevation (filters : List (String × ℚ)) : Hemisphere → ℚ
  | .south => (filters.lookup "min_elevation_antarctica").getD 0
  | .north => (filters.lookup "min_elevation_greenland").getD 0

/-- `height_filt` of a record. -/
def filterRecord (maxDiff minElevation maxElevation : ℚ) (height dem : Sample) : Sample :=
  let filt := if .num maxDiff < (height - dem).map abs then .nan else height
  if .num maxElevation < height ∨ height < .num minElevation then .nan else filt

/-- `process()`: the message of a failure, or `shared_dict["height_filt"]`. -/
def filterHeight (heightFilters : Option (List (String × ℚ))) (mode : InstrMode)
    (hemisphere : Hemisphere) (height demElevationValues : Option (List Sample)) :
    Except PyExc (Except String (List Sample)) :=
  match height, demElevationValues, heightFilters with
  | none, _, _ => .ok (.error "height_20_ku is not in shared_dict")
  | some _, none, _ => .ok (.error "dem_elevation_values is not in shared_dict")
  | some _, some _, none => .ok (.error "height_filters not in config")
  | some height, some dem, some filters =>
      match requiredFilters.find? (fun key => (filters.lookup key).isNone) with
      | some key => .ok (.error ("height_filters." ++ key ++ " not in config"))
      | none =>
          match maxDiff filters mode with
          | none =>
              .error ⟨.valueError, "max_diff_to_ref_dem[_lrm,sin] not in height_filters"⟩
          | some maxDiff =>
              .ok (.ok (List.zipWith (filterRecord maxDiff (minElevation filters hemisphere)
                (maxElevation filters hemisphere)) height dem))

/-! ## The way of a file -/

/-- The settings of the four stages. -/
structure HeightSettings where
  sinTests : SinQualityTests
  lrmTests : LrmQualityTests
  retrack : RetrackConfig
  roemer : RoemerConfig
  sin : SinConfig
  heightFilters : Option (List (String × ℚ))

/-- The functions the four stages call. -/
structure HeightLib where
  numerics : Numerics
  doubles : Doubles
  roemer : RoemerLib
  sin : SinLib
  dem : Option Dem
  demFine : Option Dem

/-- A file as it comes to these stages: the variables of the L1b file and the
entries of the shared dictionary. -/
structure HeightTrack where
  file : L1bFile
  dilatedSurfaceMask : List Bool
  sumCor : List Sample
  lat : List Sample
  lon : List Sample
  alt : List Sample
  dopCor : List Sample
  surfaceType : List Nat
  hemisphere : Hemisphere
  demElevationValues : Option (List Sample)
  length_dilatedSurfaceMask : dilatedSurfaceMask.length = file.numRecords
  length_sumCor : sumCor.length = file.numRecords
  length_lat : lat.length = file.numRecords
  length_lon : lon.length = file.numRecords
  length_alt : alt.length = file.numRecords
  length_dopCor : dopCor.length = file.numRecords
  length_surfaceType : surfaceType.length = file.numRecords

/-- What the stages leave in the shared dictionary. -/
structure HeightEntries where
  waveformsToInclude : List Bool
  retracked : RetrackEntries
  height : List Sample
  /-- `roemer_slope_ok`, of an LRM file. -/
  slopeOk : List Bool
  heightFilt : List Sample

variable (s : HeightSettings) (lib : HeightLib)

/-- `alg_geolocate_roemer` or `alg_geolocate_sin`: the heights, and the slope flags
of an LRM file. -/
def geolocate (t : HeightTrack) (included : List Bool) (entries : RetrackEntries) :
    Except PyExc (List Sample × List Bool) :=
  match t.file.mode with
  | .lrm =>
      match geolocateRoemer s.roemer lib.roemer lib.dem lib.demFine
          ⟨t.lat, t.lon, t.alt, t.dopCor, t.surfaceType, entries.geoCorrectedTrackerRange,
            entries.retrackerCorrection, included⟩ with
      | .error e => .error e
      | .ok out => .ok (out.height, out.slopeOk)
  | .sin =>
      match geolocateSin s.sin lib.sin t.lat entries.rangeCor entries.indWfmRetrack with
      | .error e => .error e
      | .ok out => .ok (out.height, [])

/-- The four stages in turn. -/
def heightChain (t : HeightTrack) : Except PyExc (Except String HeightEntries) :=
  match waveformQuality lib.doubles s.sinTests s.lrmTests t.file t.dilatedSurfaceMask with
  | .error e => .error e
  | .ok included =>
      match retrack lib.numerics s.retrack t.file included t.sumCor with
      | .error e => .error e
      | .ok entries =>
          match geolocate s lib t included entries with
          | .error e => .error e
          | .ok (height, slopeOk) =>
              match filterHeight s.heightFilters t.file.mode t.hemisphere (some height)
                  t.demElevationValues with
              | .error e => .error e
              | .ok (.error msg) => .ok (.error msg)
              | .ok (.ok heightFilt) =>
                  .ok (.ok ⟨included, entries, height, slopeOk, heightFilt⟩)

/-! ## Retracking -/

/-- Rows that are finished have one offset each, NaN where the row is untouched. -/
theorem finishRetrack_drBin {rows : List Row} {counted : Nat → Bool} {refBin rbinSize : ℚ}
    {r : RetrackResult} (h : finishRetrack rows counted refBin rbinSize = .ok r) :
    r.drBin.length = rows.length ∧ r.drMeters = r.drBin.map (fun d => d * .num rbinSize) ∧
      ∀ i, rows.getD i Row.initial = Row.initial → r.drBin.getD i .nan = .nan := by
  unfold finishRetrack at h
  split at h
  · cases h
  · obtain rfl := Except.ok.inj h
    refine ⟨by simp, rfl, ?_⟩
    intro i hrow
    by_cases hi : i < rows.length
    · simp only
      rw [getD_map_of_lt _ hi Row.initial, hrow]
      rfl
    · exact List.getD_eq_default _ _ (by simpa using hi)

/-- Rows that are finished have no more failures than rows. -/
theorem finishRetrack_failures_le {rows : List Row} {counted : Nat → Bool} {refBin rbinSize : ℚ}
    {r : RetrackResult} (h : finishRetrack rows counted refBin rbinSize = .ok r) :
    r.nRetrackerFailures ≤ rows.length := by
  unfold finishRetrack at h
  split at h
  · cases h
  · obtain rfl := Except.ok.inj h
    exact (List.length_filter_le _ _).trans (List.length_range).le

/-- The retracker of either mode runs its loop over the included waveforms and
finishes the rows. -/
theorem callRetracker_rows {num : Numerics} {c : RetrackConfig} {f : L1bFile}
    {included : List Bool} {r : RetrackResult} (h : callRetracker num c f included = .ok r) :
    ∃ process selected rows counted refBin rbinSize,
      retrackLoop process selected 0 f.pwrWaveform.rows = .ok rows ∧
      finishRetrack rows counted refBin rbinSize = .ok r ∧
      ∀ i, selected i = included.getD i false := by
  unfold callRetracker at h
  cases hmode : f.mode with
  | sin =>
      rw [hmode] at h
      simp only [retrackCs2SinMaxCoherence] at h
      split at h
      · cases h
      · split at h
        · cases h
        · split at h
          · cases h
          · next rows hloop => exact ⟨_, _, rows, _, _, _, hloop, h, fun i => rfl⟩
  | lrm =>
      rw [hmode] at h
      simp only [retrackTcogWaveformsCs2] at h
      split at h
      · cases h
      · split at h
        · cases h
        · split at h
          · cases h
          · split at h
            · cases h
            · next rows hloop =>
              exact ⟨_, _, rows, _, _, _, hloop, h, fun i => by simp [tcogSelected, tcogIncluded]⟩

/-- **The retracker of a file** gives every record an offset, in bins and in
metres, and NaN to a record that is not included. -/
theorem callRetracker_drBin {num : Numerics} {c : RetrackConfig} {f : L1bFile}
    {included : List Bool} {r : RetrackResult} (h : callRetracker num c f included = .ok r) :
    r.drBin.length = f.numRecords ∧
    (∃ rbinSize, r.drMeters = r.drBin.map (fun d => d * .num rbinSize)) ∧
    ∀ i, r.drBin.getD i .nan ≠ .nan → included.getD i false = true := by
  obtain ⟨process, selected, rows, counted, refBin, rbinSize, hloop, hfinish, hselected⟩ :=
    callRetracker_rows h
  obtain ⟨hlen, hrows⟩ := retrackLoop_rows hloop
  obtain ⟨hlenBin, hmeters, hnan⟩ := finishRetrack_drBin hfinish
  refine ⟨hlenBin.trans hlen, ⟨rbinSize, hmeters⟩, ?_⟩
  intro i hne
  by_contra hout
  rw [Bool.not_eq_true] at hout
  apply hne
  apply hnan
  by_cases hi : i < f.pwrWaveform.rows.length
  · exact (hrows i hi).1 (by rw [hselected, hout])
  · exact List.getD_eq_default _ _ (by omega)

/-- What `alg_retrack` stores, from what the retracker returned. -/
theorem retrack_entries {num : Numerics} {c : RetrackConfig} {f : L1bFile} {included : List Bool}
    {sumCor : List Sample} {entries : RetrackEntries}
    (h : retrack num c f included sumCor = .ok entries) :
    ∃ r, callRetracker num c f included = .ok r ∧ entries.retrackerCorrection = r.drMeters ∧
      entries.indWfmRetrack = r.drBin.map (indWfmRetrackOf (refBinIndex c f)) ∧
      entries.numRetrackerFailures = r.nRetrackerFailures := by
  unfold retrack at h
  simp only at h
  split at h
  · cases h
  · next r hr =>
    split at h
    · cases h
    · obtain rfl := Except.ok.inj h
      exact ⟨r, hr, rfl, rfl, rfl⟩

/-- A file has no more retracker failures than records. -/
theorem retrack_failures_le {num : Numerics} {c : RetrackConfig} {f : L1bFile}
    {included : List Bool} {sumCor : List Sample} {entries : RetrackEntries}
    (h : retrack num c f included sumCor = .ok entries) :
    entries.numRetrackerFailures ≤ f.numRecords := by
  obtain ⟨r, hr, -, -, hfailures⟩ := retrack_entries h
  obtain ⟨process, selected, rows, counted, refBin, rbinSize, hloop, hfinish, -⟩ :=
    callRetracker_rows hr
  rw [hfailures, L1bFile.numRecords, ← (retrackLoop_rows hloop).1]
  exact finishRetrack_failures_le hfinish

/-! ## Filtering -/

/-- A height that passes the filters is the one before them, and inside the
bounds. -/
theorem filterRecord_num {maxDiff minElevation maxElevation h : ℚ} {height dem : Sample}
    (hfilt : filterRecord maxDiff minElevation maxElevation height dem = .num h) :
    height = .num h ∧ minElevation ≤ h ∧ h ≤ maxElevation ∧
      ∀ d, dem = .num d → |h - d| ≤ maxDiff := by
  unfold filterRecord at hfilt
  simp only at hfilt
  split at hfilt
  · cases hfilt
  · next hrange =>
    split at hfilt
    · cases hfilt
    · next hdiff =>
      subst hfilt
      simp only [WithNan.num_lt_num, not_or, not_lt] at hrange
      refine ⟨rfl, hrange.2, hrange.1, ?_⟩
      rintro d rfl
      simpa using hdiff

/-- The filtered heights come from heights inside the bounds of the
configuration. -/
theorem filterHeight_num {heightFilters : Option (List (String × ℚ))} {mode : InstrMode}
    {hemisphere : Hemisphere} {height heightFilt : List Sample} {dem : Option (List Sample)}
    (hok : filterHeight heightFilters mode hemisphere (some height) dem = .ok (.ok heightFilt))
    {i : Nat} {h : ℚ} (hnum : heightFilt.getD i .nan = .num h) :
    ∃ filters dems m, heightFilters = some filters ∧ dem = some dems ∧
      maxDiff filters mode = some m ∧ height.getD i .nan = .num h ∧
      minElevation filters hemisphere ≤ h ∧ h ≤ maxElevation filters hemisphere ∧
      ∀ d, dems.getD i .nan = .num d → |h - d| ≤ m := by
  cases dem with
  | none => simp [filterHeight] at hok
  | some dems =>
      cases heightFilters with
      | none => simp [filterHeight] at hok
      | some filters =>
          simp only [filterHeight] at hok
          split at hok
          · cases hok
          · split at hok
            · cases hok
            · next m hm =>
              obtain rfl := Except.ok.inj (Except.ok.inj hok)
              rw [List.getD_eq_getElem?_getD, List.getElem?_zipWith] at hnum
              cases hheight : height[i]? with
              | none => simp [hheight] at hnum
              | some a =>
                  cases hdem : dems[i]? with
                  | none => simp [hheight, hdem] at hnum
                  | some b =>
                      simp only [hheight, hdem, Option.getD_some] at hnum
                      obtain ⟨rfl, hmin, hmax, hdiff⟩ := filterRecord_num hnum
                      refine ⟨filters, dems, m, rfl, rfl, hm, ?_, hmin, hmax, ?_⟩
                      · rw [List.getD_eq_getElem?_getD, hheight]
                        rfl
                      · intro d hd
                        rw [List.getD_eq_getElem?_getD, hdem] at hd
                        exact hdiff d hd

/-! ## No elevation without a measurement -/

/-- What stands behind an elevation `h` of record `i`: an included waveform, an
offset of the retracker, the bounds of the configuration, and, for an LRM file,
grounded ice and a slope correction. -/
structure ValidElevation (t : HeightTrack) (out : HeightEntries) (i : Nat) (h : ℚ) : Prop where
  included : out.waveformsToInclude.getD i false = true
  retracked : ∃ r, callRetracker lib.numerics s.retrack t.file out.waveformsToInclude = .ok r ∧
    r.drBin.getD i .nan ≠ .nan
  bounded : ∃ filters, s.heightFilters = some filters ∧
    minElevation filters t.hemisphere ≤ h ∧ h ≤ maxElevation filters t.hemisphere
  near_dem : ∃ filters dems m, s.heightFilters = some filters ∧ t.demElevationValues = some dems ∧
    maxDiff filters t.file.mode = some m ∧ ∀ d, dems.getD i .nan = .num d → |h - d| ≤ m
  grounded : t.file.mode = .lrm → t.surfaceType.getD i 0 = 1 ∧ out.slopeOk.getD i false = true

variable {s lib}

/-- A height out of the geolocation has an offset of the retracker behind it. -/
theorem geolocate_height {t : HeightTrack} {included : List Bool} {entries : RetrackEntries}
    {height : List Sample} {slopeOk : List Bool}
    (hgeo : geolocate s lib t included entries = .ok (height, slopeOk)) {r : RetrackResult}
    (hr : callRetracker lib.numerics s.retrack t.file included = .ok r)
    (hcorrection : entries.retrackerCorrection = r.drMeters)
    (hind : entries.indWfmRetrack = r.drBin.map (indWfmRetrackOf (refBinIndex s.retrack t.file)))
    {i : Nat} (hne : height.getD i .nan ≠ .nan) :
    r.drBin.getD i .nan ≠ .nan ∧
      (t.file.mode = .lrm → t.surfaceType.getD i 0 = 1 ∧ slopeOk.getD i false = true) := by
  obtain ⟨hlen, ⟨rbinSize, hmeters⟩, -⟩ := callRetracker_drBin hr
  unfold geolocate at hgeo
  cases hmode : t.file.mode with
  | lrm =>
      rw [hmode] at hgeo
      simp only at hgeo
      split at hgeo
      · cases hgeo
      · next out hout =>
        obtain ⟨rfl, rfl⟩ := Prod.mk.inj (Except.ok.inj hgeo)
        obtain ⟨hok, hsurface, hcor⟩ := geolocateRoemer_height hout hne
        -- a record without an offset has a NaN correction, which the loop over the records skips
        refine ⟨?_, fun _ => ⟨hsurface, hok⟩⟩
        intro hnan
        apply hcor
        rw [hcorrection, hmeters]
        by_cases hi : i < r.drBin.length
        · rw [getD_map_of_lt _ hi .nan, hnan]
          rfl
        · rw [List.getD_eq_default _ _ (by simpa using hi)]
  | sin =>
      rw [hmode] at hgeo
      simp only at hgeo
      split at hgeo
      · cases hgeo
      · next out hout =>
        obtain ⟨rfl, rfl⟩ := Prod.mk.inj (Except.ok.inj hgeo)
        obtain ⟨hi, hfill⟩ := geolocateSin_height hout hne
        -- a record without an offset has the fill value as its index
        refine ⟨?_, fun h => by cases h⟩
        intro hnan
        apply hfill
        rw [hind, getD_map_of_lt _ (by rw [hlen, ← t.length_lat]; exact hi) .nan, hnan]
        rfl

/-- **No elevation without a valid measurement.** Whatever the waveforms, the DEMs,
the phases and the settings, a record with a filtered height was included, was
retracked, lies inside the bounds, and, in an LRM file, on grounded ice with its
slope corrected. -/
theorem heightFilt_valid {t : HeightTrack} {out : HeightEntries}
    (hchain : heightChain s lib t = .ok (.ok out)) {i : Nat} {h : ℚ}
    (hnum : out.heightFilt.getD i .nan = .num h) : ValidElevation s lib t out i h := by
  unfold heightChain at hchain
  split at hchain
  · cases hchain
  · split at hchain
    · cases hchain
    · next included hincluded entries hentries =>
      split at hchain
      · cases hchain
      · next height slopeOk hgeo =>
        split at hchain
        · cases hchain
        · cases hchain
        · next heightFilt hfilt =>
          obtain rfl := Except.ok.inj (Except.ok.inj hchain)
          obtain ⟨r, hr, hcorrection, hind, -⟩ := retrack_entries hentries
          -- from the filter back to the geolocation, and from there to the retracker
          obtain ⟨filters, dems, m, hfilters, hdems, hm, hheight, hmin, hmax, hdiff⟩ :=
            filterHeight_num hfilt hnum
          have hne : height.getD i .nan ≠ .nan := by
            rw [hheight]
            nofun
          obtain ⟨hbin, hground⟩ := geolocate_height hgeo hr hcorrection hind hne
          obtain ⟨-, -, hinc⟩ := callRetracker_drBin hr
          exact
            { included := hinc i hbin
              retracked := ⟨r, hr, hbin⟩
              bounded := ⟨filters, hfilters, hmin, hmax⟩
              near_dem := ⟨filters, dems, m, hfilters, hdems, hm, hdiff⟩
              grounded := hground }

/-! ## A record over the South Pole -/

/-- An LRM echo: no power, a rise over eight bins, and a plateau. -/
def rampWaveform : List ℚ :=
  List.replicate 60 0 ++ [1, 2, 3, 4, 5, 6, 7, 8] ++ List.replicate 60 8

/-- The TCOG settings without oversampling. -/
def plainTcog : TcogSettings :=
  { defaultTcog with wfOversamplingFactor := 1, factor_pos := by decide }

theorem noiseMean_ramp : noiseMean (rampWaveform.map (fun q => q / 8)) = 0 := by
  have hsorted : (rampWaveform.map (fun q => q / 8)).Pairwise
      (fun a b => decide (a ≤ b) = true) := by
    decide +kernel
  unfold noiseMean
  rw [List.mergeSort_of_pairwise hsorted]
  decide +kernel

/-- What the retracker makes of it. -/
def rampRow : Row where
  leadingEdgeStart := (.num 61, .num (1 / 4))
  leadingEdgeStop := (.num 68, .num 1)
  bin := .num 62
  normPower := .num (3 / 8)
  power := .num 3
  flags := [0, 0, 0, 0, 0, 0]

theorem tcogWaveform_ramp :
    tcogWaveform interpolatingNumerics plainTcog true rampWaveform = .ok rampRow := by
  have hmax : rampWaveform.max? = some 8 := by decide +kernel
  unfold tcogWaveform
  rw [hmax]
  simp only [noiseMean_ramp]
  decide +kernel

/-- The file of the echo, from a satellite 720 km above the pole. -/
def poleTrack : HeightTrack where
  file :=
    { mode := .lrm
      pwrWaveform :=
        { size := 128
          rows := [rampWaveform]
          length_row := by
            intro w hw
            rw [List.mem_singleton.mp hw]
            rfl
          nonneg := by
            intro w hw
            rw [List.mem_singleton.mp hw]
            decide +kernel }
      coherenceWaveform := []
      echoScaleFactor := [1]
      echoScalePwr := [0]
      noisePower := [0]
      windowDel := [.num (2 * 717200 / 299792458)]
      size_eq := rfl
      sameShape := nofun
      length_echoScaleFactor := rfl
      length_echoScalePwr := rfl
      length_noisePower := rfl
      length_windowDel := rfl }
  dilatedSurfaceMask := [true]
  sumCor := [.num 0]
  lat := [.num (-90)]
  lon := [.num 0]
  alt := [.num 720000]
  dopCor := [.num 0]
  surfaceType := [1]
  hemisphere := .south
  demElevationValues := some [.num 2800]
  length_dilatedSurfaceMask := rfl
  length_sumCor := by decide
  length_lat := rfl
  length_lon := by decide
  length_alt := rfl
  length_dopCor := by decide
  length_surfaceType := rfl

/-- A flat DEM about the pole, whose projection has the pole at its origin. -/
def poleLib : HeightLib where
  numerics := interpolatingNumerics
  doubles := binary64
  roemer :=
    { sqrt := interpolatingNumerics.sqrt
      lonlatToXy := fun _ _ => (.num 0, .num 0)
      xyToLonlat := fun _ _ => (.num 0, .num (-90))
      medianFilter := id
      interpn := fun _ _ _ locations => .ok (locations.map (fun _ => .num 2800))
      interpDhdt := none
      yearDifference := .ok 0
      slopeDoppler := fun _ _ _ => .num 0 }
  sin := ⟨3, fun _ _ => .ok .nan, fun _ _ _ => .ok (.nan, .nan, .nan), none, none⟩
  dem := some ⟨[-1000, 0, 1000], [1000, 0, -1000],
    List.replicate 3 (List.replicate 3 (.num 2800)), 1000⟩
  demFine := some ⟨[-1000, 0, 1000], [1000, 0, -1000],
    List.replicate 3 (List.replicate 3 (.num 2800)), 1000⟩

def poleSettings : HeightSettings where
  sinTests := ⟨5 / 10 ^ 17, 9 / 10, 2, 1011⟩
  lrmTests := ⟨3 / 10 ^ 16, 17 / 20, 14 / 5⟩
  retrack := ⟨defaultMc, plainTcog, 299792458⟩
  roemer := ⟨1000, 1600, 64, 299792458 / 640000000, 128, false, 6600, 0, false, true, 0, 0, false⟩
  sin := ⟨false, -100, 4500, 100⟩
  heightFilters := some [("min_elevation_antarctica", -100), ("max_elevation_antarctica", 4500),
    ("min_elevation_greenland", -100), ("max_elevation_greenland", 3700),
    ("max_diff_to_ref_dem", 100)]

/-- The height of the record: 2800 m and two range bins. -/
def poleHeight : ℚ := 2800 + 2 * (299792458 / 640000000)

theorem retrackLoop_pole : retrackLoop (fun _ => tcogWaveform interpolatingNumerics plainTcog true)
    (tcogSelected 1 none (some [true])) 0 [rampWaveform] = .ok [rampRow] := by
  have hselected : tcogSelected 1 none (some [true]) 0 = true := rfl
  simp only [retrackLoop, retrackOne, hselected, if_true, tcogWaveform_ramp]
  rfl

/-- What `alg_retrack` stores of the record. -/
def poleEntries : RetrackEntries where
  indWfmRetrack := [.num 62]
  pwrAtRtrkPoint := [.num 3]
  leadingEdgeStart := [rampRow.leadingEdgeStart]
  leadingEdgeStop := [rampRow.leadingEdgeStop]
  geoCorrectedTrackerRange := [.num 717200]
  retrackerCorrection := [.num (-2 * rbinSizeLrm)]
  rangeCor := [.num (717200 - 2 * rbinSizeLrm)]
  numRetrackerFailures := 0
  percentRetrackerFailure := 0

theorem callRetracker_pole : callRetracker poleLib.numerics poleSettings.retrack poleTrack.file
    [true] = finishRetrack [rampRow] (fun _ => true) 64 rbinSizeLrm := by
  have hcheck : checkTcogArgs interpolatingNumerics plainTcog = .ok () := by decide +kernel
  have hsize : ¬(poleTrack.file.pwrWaveform.size ≠ 128 ∧ poleTrack.file.pwrWaveform.size ≠ 1024) :=
    fun h => h.1 rfl
  have hselection : checkTcogSelection poleTrack.file.pwrWaveform.rows.length none (some [true]) =
      .ok () := rfl
  have hlrm : (poleTrack.file.pwrWaveform.size == 128) = true := rfl
  have hloop : retrackLoop (fun _ => tcogWaveform interpolatingNumerics plainTcog true)
      (tcogSelected poleTrack.file.pwrWaveform.rows.length none (some [true])) 0
      poleTrack.file.pwrWaveform.rows = .ok [rampRow] := retrackLoop_pole
  have hcall : callRetracker poleLib.numerics poleSettings.retrack poleTrack.file [true] =
      retrackTcogWaveformsCs2 interpolatingNumerics plainTcog poleTrack.file.pwrWaveform none
        (some [true]) := rfl
  rw [hcall]
  unfold retrackTcogWaveformsCs2
  rw [hcheck]
  simp only []
  rw [if_neg hsize, hselection]
  simp only [hlrm, hloop]
  rfl

theorem retrack_pole : retrack poleLib.numerics poleSettings.retrack poleTrack.file [true]
    poleTrack.sumCor = .ok poleEntries := by
  unfold retrack
  rw [callRetracker_pole]
  decide +kernel

theorem waveformQuality_pole : waveformQuality poleLib.doubles poleSettings.sinTests
    poleSettings.lrmTests poleTrack.file poleTrack.dilatedSurfaceMask = .ok [true] := by
  decide +kernel

theorem geolocate_pole : geolocate poleSettings poleLib poleTrack [true] poleEntries =
    .ok ([.num poleHeight], [true]) := by
  decide +kernel

theorem filterHeight_pole : filterHeight poleSettings.heightFilters .lrm .south
    (some [.num poleHeight]) poleTrack.demElevationValues = .ok (.ok [.num poleHeight]) := by
  decide +kernel

theorem heightChain_pole : heightChain poleSettings poleLib poleTrack =
    .ok (.ok ⟨[true], poleEntries, [.num poleHeight], [true], [.num poleHeight]⟩) := by
  have hfilter : filterHeight poleSettings.heightFilters poleTrack.file.mode poleTrack.hemisphere
      (some [.num poleHeight]) poleTrack.demElevationValues = .ok (.ok [.num poleHeight]) :=
    filterHeight_pole
  unfold heightChain
  rw [waveformQuality_pole]
  simp only [retrack_pole, geolocate_pole, hfilter]

/-- The record keeps its height, and everything the theorem says of it. -/
theorem heightFilt_valid_pole : ∃ out, heightChain poleSettings poleLib poleTrack = .ok (.ok out) ∧
    out.heightFilt.getD 0 .nan = .num poleHeight ∧
    ValidElevation poleSettings poleLib poleTrack out 0 poleHeight :=
  ⟨_, heightChain_pole, rfl, heightFilt_valid heightChain_pole rfl⟩

end Clev2er.Cryotempo
