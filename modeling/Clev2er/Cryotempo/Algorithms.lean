import Clev2er.Cryotempo.Corrections
import Clev2er.Cryotempo.FilterHeight
import Clev2er.RunChain.Breakpoint

/-!
# The algorithms of the chain

The algorithms from `alg_waveform_quality` to `alg_product_output` on the shared
dictionary, and all algorithms of the three algorithm lists as classes of the run
control. What they read outside the dictionary (the L1b product, the masks, DEMs
and tide files, the configuration and the numerical libraries) is a
`CryotempoChain`.
-/

namespace Clev2er.Cryotempo

open Clev2er.Lib Clev2er.Retrack Clev2er.Breakpoints Clev2er.Masks Clev2er.RunChain

/-! ## The surroundings -/

/-- `lrm_slope`, as far as `geolocate_lrm` calls it. -/
structure LrmLib where
  /-- `do_slope` and `proc_elev` at a latitude, longitude, altitude and range: the
  height and the position in degrees, `none` after a slope error. -/
  slopeCorrect : Sample → Sample → Sample → Sample →
    Except PyExc (Option (Sample × Sample × Sample))
  /-- `slope_doppler` at a record. -/
  slopeDoppler : Nat → Sample

/-- Values at some latitudes and longitudes. -/
abbrev TrackLookup := List Sample → List Sample → Except PyExc (List Sample)

/-- What the algorithms work with, besides the shared dictionary. -/
structure CryotempoChain where
  /-- The L1b products, by the number of the file. -/
  products : Nat → L1bProduct
  switches : ChainSwitches
  settings : HeightSettings
  numerics : Numerics
  doubles : Doubles
  log10 : ℚ → ℚ
  pi : ℚ
  sigmaBiasLrm : ℚ
  sigmaBiasSin : ℚ
  greenlandMask : Mask
  antarcticSurfaceMask : Option Mask
  greenlandSurfaceMask : Mask
  antarcticDilatedMask : Option Mask
  greenlandDilatedMask : Mask
  fes2014bBaseDir : String
  openFes : String → Option FesFile
  cats2008aBaseDir : String
  glob : String → List String
  openCats : String → Option CatsFile
  roemer : L1bProduct → Hemisphere → RoemerLib
  roemerDem : Hemisphere → Option Dem
  roemerDemFine : Hemisphere → Option Dem
  lrm : L1bProduct → LrmLib
  sin : L1bProduct → SinLib
  zwallyBasinMaskAnt : Option Mask
  rignotBasinMaskAnt : Option Mask
  mouginotBasinMaskGrn : Mask
  rignotBasinMaskGrn : Mask
  /-- `interp_dem` of the reference DEMs. -/
  demAnt : Option TrackLookup
  demGrn : TrackLookup
  /-- The uncertainty at a position, from the slope and roughness grids and the
  tables. -/
  uncertaintyAnt : Option TrackLookup
  uncertaintyGrn : TrackLookup
  /-- Writing the product: its file name, or the reason of a failure. -/
  writeProduct : L1bProduct → Dict → Except PyExc (Except String String)

/-- The hemisphere of a value of `shared_dict["hemisphere"]`. -/
def hemisphereOf (hemisphere : Value) : Hemisphere :=
  if hemisphere = .text "south" then .south else .north

/-! ## `alg_waveform_quality` and `alg_retrack` -/

variable (c : CryotempoChain) (p : L1bProduct)

def algWaveformQualityProcess (d : Dict) : Except PyExc Outcome := do
  let _ ← item d "instr_mode"
  let mask ← (← item d "dilated_surface_mask").flags
  let included ← waveformQuality c.doubles c.settings.sinTests c.settings.lrmTests p.file mask
  .ok (.success "" [("waveforms_to_include", .bools included)])

def algRetrackProcess (d : Dict) : Except PyExc Outcome := do
  let included ← (← item d "waveforms_to_include").flags
  let _ ← item d "instr_mode"
  let sumCor ← (← item d "sum_cor_20_ku").samples
  let r ← retrack c.numerics c.settings.retrack p.file included sumCor
  .ok (.success ""
    [("ind_wfm_retrack_20_ku", .floats r.indWfmRetrack),
      ("pwr_at_rtrk_point", .floats r.pwrAtRtrkPoint),
      ("leading_edge_start", .pairs r.leadingEdgeStart),
      ("leading_edge_stop", .pairs r.leadingEdgeStop),
      ("geo_corrected_tracker_range", .floats r.geoCorrectedTrackerRange),
      ("retracker_correction", .floats r.retrackerCorrection),
      ("range_cor_20_ku", .floats r.rangeCor),
      ("num_retracker_failures", .leaf (.pyInt r.numRetrackerFailures)),
      ("percent_retracker_failure", .leaf (.pyFloat (.num r.percentRetrackerFailure)))])

/-! ## `alg_backscatter` -/

/-- The retrackers let numpy raise on a division by zero. -/
def floatingPointError (operation : String) : PyExc :=
  ⟨.other "FloatingPointError", "divide by zero encountered in " ++ operation⟩

/-- `x / y`. -/
def divideSamples (x y : Sample) : Except PyExc Sample :=
  if y = .num 0 then .error (floatingPointError "divide") else .ok (x / y)

/-- `np.log10(x)`. -/
def log10Sample (x : Sample) : Except PyExc Sample :=
  if x ≤ .num 0 then .error (floatingPointError "log10") else .ok (x.map c.log10)

/-- `compute_backscatter` of a record, without compensation for mispointing and
roughness. -/
def computeBackscatter (rxPow range txPow : Sample) (sigmaBias : ℚ) : Except PyExc Sample := do
  let powerRatio ← log10Sample c (← divideSamples rxPow txPow)
  let semiMajor : Sample := .num 6378137
  let radar : ℚ := 299792458 * c.pi * (22084 / 10 ^ 6) ^ 2 * (18197008586099826 / 10 ^ 12) ^ 2 *
    (4183 / 10 ^ 12)
  let distance := .num (4 * c.pi) * range
  let sigmaCalcConst ← log10Sample c (← divideSamples (.num radar)
    (distance * distance * distance * ((range + semiMajor) / semiMajor)))
  .ok (.num 10 * powerRatio - .num 10 * sigmaCalcConst + .num sigmaBias)

def algBackscatterProcess (d : Dict) : Except PyExc Outcome := do
  let pwr ← (← item d "pwr_at_rtrk_point").samples
  let range ← (← item d "range_cor_20_ku").samples
  let mode ← item d "instr_mode"
  if mode = .text "LRM" ∨ mode = .text "SIN" then
    let sigmaBias := if mode = .text "LRM" then c.sigmaBiasLrm else c.sigmaBiasSin
    let sig0 ← forEach (fun i (pwr : Sample) =>
      computeBackscatter c
        (pwr * .num (p.file.echoScaleFactor.getD i 0 * 2 ^ p.file.echoScalePwr.getD i 0))
        (range.getD i .nan) (p.transmitPwr.getD i .nan) sigmaBias) 0 pwr
    .ok (.success "" [("sig0_20_ku", .floats sig0)])
  else .ok (.failure ("instrument mode " ++ (← mode.asText) ++ " must be LRM or SIN : "))

/-! ## The geolocations -/

/-- One pass of the loop of `geolocate_lrm`: height, latitude and longitude, with
the slope Doppler correction where the slope was corrected. -/
def lrmRecord (surfaceType i : Nat) (range : Sample) : Except PyExc (Sample × Sample × Sample) :=
  let lat := p.lat.getD i .nan
  let lon := p.lon.getD i .nan
  let alt := p.alt.getD i .nan
  if surfaceType = 1 then
    if !range.isNan then
      match (c.lrm p).slopeCorrect lat lon alt range with
      | .error e => .error e
      | .ok (some (height, latCor, lonCor)) =>
          .ok (height + p.dopCor.getD i .nan - (c.lrm p).slopeDoppler i, latCor, lonCor)
      | .ok none => .ok (.nan, lat, mod360 lon)
    else .ok (.nan, lat, mod360 lon)
  else .ok (alt - range, lat, mod360 lon)

/-- What `alg_geolocate_lrm` and `alg_geolocate_sin` store of a geolocation. The
array of the latitudes is the one stored as `lat_poca_20_ku`, and both have the
nadir in the places without POCA. -/
def pocaEntries (height latPoca lonPoca : List Sample) : List (String × Value) :=
  let latitudes := List.zipWith (fun (lat nadir : Sample) => if lat.isNan then nadir else lat)
    latPoca p.lat
  let longitudes := List.zipWith (fun (q : Sample × Sample) nadir =>
    if q.1.isNan then nadir else q.2) (latPoca.zip lonPoca) p.lon
  [("lat_poca_20_ku", .floats latitudes), ("lon_poca_20_ku", .floats (lonPoca.map mod360)),
    ("height_20_ku", .floats height), ("latitudes", .floats latitudes),
    ("longitudes", .floats longitudes)]

def algGeolocateLrmProcess (d : Dict) : Except PyExc Outcome := do
  let mode ← item d "instr_mode"
  if mode ≠ .text "LRM" then .ok (.success "algorithm skipped as not LRM file" [])
  else
    let types ← (← item d "cryotempo_surface_type").indices
    let range ← (← item d "range_cor_20_ku").samples
    let records ← forEach (fun i (x : Sample) => lrmRecord c p (types.getD i 0) i x) 0 range
    .ok (.success "" (pocaEntries p (records.map (fun r => r.1)) (records.map (fun r => r.2.1))
      (records.map (fun r => r.2.2))))

def algGeolocateRoemerProcess (d : Dict) : Except PyExc Outcome := do
  let mode ← item d "instr_mode"
  if mode ≠ .text "LRM" then .ok (.success "algorithm skipped as not LRM file" [])
  else
    let hemisphere := hemisphereOf (← item d "hemisphere")
    let types ← (← item d "cryotempo_surface_type").indices
    let range ← (← item d "geo_corrected_tracker_range").samples
    let correction ← (← item d "retracker_correction").samples
    let included ← (← item d "waveforms_to_include").flags
    let out ← geolocateRoemer c.settings.roemer (c.roemer p hemisphere) (c.roemerDem hemisphere)
      (c.roemerDemFine hemisphere)
      ⟨p.lat, p.lon.map mod360, p.alt, p.dopCor, types, range, correction, included⟩
    .ok (.success ""
      [("lat_poca_20_ku", .floats out.latPoca), ("lon_poca_20_ku", .floats (out.lonPoca.map mod360)),
        ("latitudes", .floats out.latPoca), ("longitudes", .floats out.lonPoca),
        ("height_20_ku", .floats out.height), ("roemer_slope_ok", .bools out.slopeOk),
        ("relocation_distance", .floats out.relocationDistance)])

def algGeolocateSinProcess (d : Dict) : Except PyExc Outcome := do
  let mode ← item d "instr_mode"
  if mode ≠ .text "SIN" then .ok (.success "algorithm skipped as not SIN file" [])
  else
    let range ← (← item d "range_cor_20_ku").samples
    let ind ← (← item d "ind_wfm_retrack_20_ku").samples
    let out ← geolocateSin c.settings.sin (c.sin p) p.lat range ind
    .ok (.success "" (pocaEntries p out.height out.lat out.lon))

/-! ## From `alg_basin_ids` to `alg_product_output` -/

/-- The basin of a Rignot number of Antarctica. -/
def rignotAnt (m : Nat) : Nat := if m ≤ 18 then m + 1 else 0

/-- The basin of a Rignot number of Greenland. -/
def rignotGrn (m : Nat) : Nat :=
  if 1 ≤ m ∧ m ≤ 50 then 1 else if 51 ≤ m ∧ m ≤ 56 then (m - 50) + 1 else 0

def algBasinIdsProcess (d : Dict) : Except PyExc Outcome := do
  let hemisphere ← item d "hemisphere"
  let lats ← (← item d "latitudes").samples
  let lons ← (← item d "longitudes").samples
  if hemisphere = .text "south" then
    match c.zwallyBasinMaskAnt, c.rignotBasinMaskAnt with
    | none, _ => .error ⟨.valueError, "zwally_basin_mask_ant should not be None"⟩
    | some _, none => .error ⟨.valueError, "rignot_basin_mask_ant should not be None"⟩
    | some zwally, some rignot =>
        let zwallyValues ← zwally.gridMaskValues lats lons 0
        let rignotValues ← rignot.gridMaskValues lats lons 999
        .ok (.success ""
          [("basin_mask_values_rignot", .nats .uint64 (rignotValues.map rignotAnt)),
            ("basin_mask_values_zwally", .nats .uint64 zwallyValues),
            ("basin_mask_values_mouginot", .none)])
  else
    let mouginotValues ← c.mouginotBasinMaskGrn.gridMaskValues lats lons 0
    let rignotValues ← c.rignotBasinMaskGrn.gridMaskValues lats lons 0
    .ok (.success ""
      [("basin_mask_values_rignot", .nats .uint64 (rignotValues.map rignotGrn)),
        ("basin_mask_values_zwally", .none),
        ("basin_mask_values_mouginot", .nats .uint64 mouginotValues)])

/-- `alg_ref_dem` and `alg_uncertainty`: the values along the track, and `None` in
the south where nothing was loaded for it. -/
def trackValues (key : String) (ant : Option TrackLookup) (grn : TrackLookup) (d : Dict) :
    Except PyExc Outcome := do
  let hemisphere ← item d "hemisphere"
  let lats ← (← item d "latitudes").samples
  let lons ← (← item d "longitudes").samples
  if hemisphere = .text "south" then
    match ant with
    | none => .ok (.success "" [(key, .none)])
    | some lookup => .ok (.success "" [(key, .floats (← lookup lats lons))])
  else .ok (.success "" [(key, .floats (← grn lats lons))])

def algRefDemProcess : Dict → Except PyExc Outcome :=
  trackValues "dem_elevation_values" c.demAnt c.demGrn

def algUncertaintyProcess : Dict → Except PyExc Outcome :=
  trackValues "uncertainty" c.uncertaintyAnt c.uncertaintyGrn

/-- The array of a key, where it is there. -/
def samples? (d : Dict) (key : String) : Except PyExc (Option (List Sample)) :=
  match get? key d with
  | none => .ok none
  | some v => do .ok (some (← v.samples))

def algFilterHeightProcess (d : Dict) : Except PyExc Outcome := do
  let height ← samples? d "height_20_ku"
  let dem ← samples? d "dem_elevation_values"
  let hemisphere ← item d "hemisphere"
  match ← filterHeight c.settings.heightFilters p.file.mode (hemisphereOf hemisphere) height dem with
  | .error reason => .ok (.failure reason)
  | .ok heightFilt => .ok (.success "" [("height_filt", .floats heightFilt)])

def algProductOutputProcess (d : Dict) : Except PyExc Outcome := do
  match ← c.writeProduct p d with
  | .error reason => .ok (.failure reason)
  | .ok productFilename => .ok (.success "" [("product_filename", .text productFilename)])

/-! ## The lists -/

/-- The algorithms. -/
inductive Alg where
  | identifyFile
  | skipOnMode
  | skipOnAreaBounds
  | surfaceType
  | dilatedCoastalMask
  | fes2014bTideCorrection
  | cats2008aTideCorrection
  | geoCorrections
  | waveformQuality
  | retrack
  | backscatter
  | geolocateLrm
  | geolocateRoemer
  | geolocateSin
  | basinIds
  | refDem
  | filterHeight
  | uncertainty
  | productOutput
deriving DecidableEq, Repr

/-- The name in an algorithm list. -/
def Alg.name : Alg → String
  | .identifyFile => "alg_identify_file"
  | .skipOnMode => "alg_skip_on_mode"
  | .skipOnAreaBounds => "alg_skip_on_area_bounds"
  | .surfaceType => "alg_surface_type"
  | .dilatedCoastalMask => "alg_dilated_coastal_mask"
  | .fes2014bTideCorrection => "alg_fes2014b_tide_correction"
  | .cats2008aTideCorrection => "alg_cats2008a_tide_correction"
  | .geoCorrections => "alg_geo_corrections"
  | .waveformQuality => "alg_waveform_quality"
  | .retrack => "alg_retrack"
  | .backscatter => "alg_backscatter"
  | .geolocateLrm => "alg_geolocate_lrm"
  | .geolocateRoemer => "alg_geolocate_roemer"
  | .geolocateSin => "alg_geolocate_sin"
  | .basinIds => "alg_basin_ids"
  | .refDem => "alg_ref_dem"
  | .filterHeight => "alg_filter_height"
  | .uncertainty => "alg_uncertainty"
  | .productOutput => "alg_product_output"

/-- The modules of the chain that the lists name. -/
def Alg.modules : List Alg :=
  [.identifyFile, .skipOnMode, .skipOnAreaBounds, .surfaceType, .dilatedCoastalMask,
    .fes2014bTideCorrection, .cats2008aTideCorrection, .geoCorrections, .waveformQuality, .retrack,
    .backscatter, .geolocateLrm, .geolocateRoemer, .geolocateSin, .basinIds, .refDem,
    .filterHeight, .uncertainty, .productOutput]

/-- The algorithms up to the geolocation of LRM files, the same in all lists. -/
def beforeLrmGeolocation : List Alg :=
  [.identifyFile, .skipOnMode, .skipOnAreaBounds, .surfaceType, .dilatedCoastalMask,
    .fes2014bTideCorrection, .cats2008aTideCorrection, .geoCorrections, .waveformQuality, .retrack,
    .backscatter]

/-- The algorithms after it. -/
def afterLrmGeolocation : List Alg :=
  [.geolocateSin, .basinIds, .refDem, .filterHeight, .uncertainty, .productOutput]

/-- `cryotempo_B001.yml`. -/
def cryotempoB001 : List Alg := beforeLrmGeolocation ++ .geolocateLrm :: afterLrmGeolocation

/-- `cryotempo_C001.xml`. -/
def cryotempoC001 : List Alg := beforeLrmGeolocation ++ .geolocateRoemer :: afterLrmGeolocation

/-- `cryotempo_D001.xml`. -/
def cryotempoD001 : List Alg := beforeLrmGeolocation ++ .geolocateRoemer :: afterLrmGeolocation

/-- `process()` of an algorithm on a product and the shared dictionary. -/
def processOf : Alg → Dict → Except PyExc Outcome
  | .identifyFile, _ => identifyFile p
  | .skipOnMode, d => skipOnMode c.switches d
  | .skipOnAreaBounds, d => skipOnAreaBounds c.switches c.greenlandMask p d
  | .surfaceType, d => surfaceType c.antarcticSurfaceMask c.greenlandSurfaceMask d
  | .dilatedCoastalMask, d => dilatedCoastalMask c.antarcticDilatedMask c.greenlandDilatedMask d
  | .fes2014bTideCorrection, d => fes2014bTideCorrection c.fes2014bBaseDir c.openFes d
  | .cats2008aTideCorrection, d => cats2008aTideCorrection c.cats2008aBaseDir c.glob c.openCats d
  | .geoCorrections, d => geoCorrections p d
  | .waveformQuality, d => algWaveformQualityProcess c p d
  | .retrack, d => algRetrackProcess c p d
  | .backscatter, d => algBackscatterProcess c p d
  | .geolocateLrm, d => algGeolocateLrmProcess c p d
  | .geolocateRoemer, d => algGeolocateRoemerProcess c p d
  | .geolocateSin, d => algGeolocateSinProcess c p d
  | .basinIds, d => algBasinIdsProcess c d
  | .refDem, d => algRefDemProcess c d
  | .filterHeight, d => algFilterHeightProcess c p d
  | .uncertainty, d => algUncertaintyProcess c d
  | .productOutput, d => algProductOutputProcess c p d

/-! ## The classes -/

/-- What the classes do besides `process()`. -/
structure AlgSetUp where
  construct : Alg → Bool → Option PyExc
  init : Alg → InitContext → InitRun
  finalize : Alg → Stage → Option (Nat × PyExc)

/-- `Algorithm` of the module of an algorithm. -/
def algClass (setUp : AlgSetUp) (alg : Alg) : AlgClass Dict where
  construct := setUp.construct alg
  init := setUp.init alg
  body filenum d :=
    match processOf c (c.products filenum) alg d with
    | .error e => (d, .error e)
    | .ok (.failure reason) => (d, .ok (false, reason))
    | .ok (.success message stored) => (update stored d, .ok (true, message))
  finalize := setUp.finalize alg

/-- The chain as the run control sees it. -/
def chainEnv (setUp : AlgSetUp) (openDataset : String → Option PyExc)
    (hashName : String → String) (strict : Bool) : Env Dict where
  modules name :=
    match Alg.modules.find? (fun alg => alg.name == name) with
    | some alg => .ok (algClass c setUp alg)
    | none => .error ⟨.importError, "No module named " ++ name⟩
  openDataset := openDataset
  hashName := hashName
  newDict file := .leaf "l1b_file_name" (.str file) .nil
  l1bFileName d :=
    match get? "l1b_file_name" d with
    | some (.leaf (.str name)) => some name
    | _ => none
  createNetcdfFile _ d :=
    match Breakpoints.createNetcdfFile strict d with
    | .error e => some e
    | .ok _ => none

end Clev2er.Cryotempo
