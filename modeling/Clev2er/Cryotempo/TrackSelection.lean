import Clev2er.Cryotempo.Retracking
import Clev2er.Cryotempo.SharedDict
import Clev2er.Masks.Mask

/-!
# Selecting the tracks

The algorithms at the head of the chain: `alg_identify_file`, `alg_skip_on_mode`,
`alg_skip_on_area_bounds`, `alg_surface_type` and `alg_dilated_coastal_mask`. They
find the mode and the hemisphere of a file, classify its records and skip what
does not concern the ice sheets.
-/

namespace Clev2er.Cryotempo

open Clev2er.Lib Clev2er.Retrack Clev2er.Breakpoints Clev2er.Masks

/-! ## The L1b product -/

/-- The value of `shared_dict["instr_mode"]` for a mode attribute. -/
def instrModeOf (sirOpMode : String) : Option String :=
  if isIn "LRM" sirOpMode then some "LRM"
  else if isIn "SARIN" sirOpMode then some "SIN"
  else if isIn "SAR" sirOpMode then some "SAR"
  else none

/-- `shared_dict["instr_mode"]` of a mode. -/
def InstrMode.name : InstrMode → String
  | .lrm => "LRM"
  | .sin => "SIN"

/-- An L1b product in LRM or SARIn mode: its waveforms, its variables for each
20 Hz record, its corrections at 1 Hz and its attributes. The 20 Hz variables have
one entry for each record, and the waveforms are those of the mode the product
names. -/
structure L1bProduct where
  file : L1bFile
  lat : List Sample
  lon : List Sample
  alt : List Sample
  dopCor : List Sample
  transmitPwr : List Sample
  offNadirPitchAngle : List Sample
  offNadirRollAngle : List Sample
  indMeas1hz : List ℤ
  modDryTropoCor : List Sample
  modWetTropoCor : List Sample
  ionoCorGim : List Sample
  solidEarthTide : List Sample
  poleTide : List Sample
  hfFluctTotalCor : List Sample
  sirOpMode : Option String
  firstRecordLat : Option ℤ
  lastRecordLat : Option ℤ
  length_lat : lat.length = file.numRecords
  length_lon : lon.length = file.numRecords
  length_alt : alt.length = file.numRecords
  length_dopCor : dopCor.length = file.numRecords
  length_transmitPwr : transmitPwr.length = file.numRecords
  length_indMeas1hz : indMeas1hz.length = file.numRecords
  /-- A NetCDF-4 dimension. -/
  numRecords_lt : file.numRecords < 2 ^ 63
  mode_named : ∀ text, sirOpMode = some text →
    instrModeOf text = some file.mode.name

/-- `x % 360.0`. -/
def mod360 (x : Sample) : Sample := x.map (fun q => q - 360 * ⌊q / 360⌋)

/-! ## `alg_identify_file` -/

def identifyFile (p : L1bProduct) : Except PyExc Outcome :=
  match p.sirOpMode with
  | none => .ok (.failure "Missing attribute .sir_op_mode in L1b file")
  | some text =>
      match instrModeOf text with
      | none =>
          .ok (.failure ("Invalid mode attribute .sir_op_mode in L1b file " ++ text))
      | some mode =>
          .ok (.success "" [("num_20hz_records", .leaf (.pyInt p.lat.length)),
            ("instr_mode", .text mode)])

/-! ## `alg_skip_on_mode` -/

/-- The switches of the configuration; one that is missing is off. -/
structure ChainSwitches where
  lrmOnly : Bool
  sinOnly : Bool
  grnOnly : Bool

def skipOnMode (c : ChainSwitches) (d : Dict) : Except PyExc Outcome :=
  match get? "instr_mode" d with
  | none => .ok (.failure "instr_mode not in shared_dict")
  | some mode =>
      if mode = .text "SAR" then .ok (.failure "SKIP_OK: SAR mode file not required")
      else if c.lrmOnly ∧ mode ≠ .text "LRM" then
        .ok (.failure "SKIP_OK: config:lrm_only specified")
      else if c.sinOnly ∧ mode ≠ .text "SIN" then
        .ok (.failure "SKIP_OK: config:sin_only specified")
      else .ok (.success "" [])

/-! ## `alg_skip_on_area_bounds` -/

/-- `f"{x:.2f}"`. -/
def twoDecimals (x : ℚ) : String :=
  let hundredths := (around (|x| * 100)).toNat
  let fraction := hundredths % 100
  (if x < 0 then "-" else "") ++ toString (hundredths / 100) ++ "." ++
    (if fraction < 10 then "0" else "") ++ toString fraction

/-- The loop over the latitudes: `southern_hemisphere` and `northern_hemisphere`. -/
def hemisphereFlags : List Sample → Bool × Bool
  | [] => (false, false)
  | lat :: lats =>
      if lat < .num (-55) then (true, false)
      else if .num 55 < lat then (false, true)
      else hemisphereFlags lats

/-- The file is of `mode`, and its first record lies between the two latitudes. -/
def outsideCryosphere (instrMode : Value) (mode : String) (north south firstRecordLat : ℚ) : Bool :=
  decide (instrMode = .text mode) && decide (firstRecordLat < north ∧ south < firstRecordLat)

def skipOnAreaBounds (c : ChainSwitches) (greenlandMask : Mask) (p : L1bProduct) (d : Dict) :
    Except PyExc Outcome :=
  match p.firstRecordLat, p.lastRecordLat with
  | some first, some last =>
      let firstRecordLat : ℚ := first / 10 ^ 6
      let lastRecordLat : ℚ := last / 10 ^ 6
      match get? "instr_mode" d with
      | none => .ok (.failure "instr_mode missing from shared dict")
      | some mode =>
          if outsideCryosphere mode "LRM" 62 (-69) firstRecordLat ||
              outsideCryosphere mode "SIN" 58 (-59) firstRecordLat then
            .ok (.failure ("SKIP_OK, file outside cryosphere, [" ++ twoDecimals firstRecordLat ++
              "N -> " ++ twoDecimals lastRecordLat ++ "N]"))
          else
            let lons := p.lon.map mod360
            let (south, north) := hemisphereFlags p.lat
            if north && south then
              .ok (.failure "File is in both northern and southern polar areas")
            else if !south && !north && !hasKey d "hemisphere" then
              .ok (.failure "hemisphere of file could not be determined")
            else
              let stored := (if south then [("hemisphere", Value.text "south")] else []) ++
                (if north then [("hemisphere", Value.text "north")] else []) ++
                [("lats_nadir", .floats p.lat), ("lons_nadir", .floats lons)]
              if north then
                match greenlandMask.pointsInside p.lat lons [] with
                | .error e => .error e
                | .ok (_, nInside) =>
                    if nInside = 0 then
                      .ok (.failure "SKIP_OK, No locations within Greenland rectangular mask ")
                    else .ok (.success "" stored)
              else if c.grnOnly && south then .ok (.failure "SKIP_OK, grn_only specificed ")
              else .ok (.success "" stored)
  | _, _ => .ok (.failure "Missing attribute .sir_op_mode in L1b file")

/-! ## `alg_surface_type` -/

/-- `np.where(values == value)[0]`. -/
def locationsOf (value : Nat) (values : List Nat) : List Nat :=
  (List.range values.length).filter (fun i => values.getD i 0 = value)

/-- The Cryo-TEMPO surface type of a mask value. -/
def cryotempoType (south : Bool) (value : Nat) : Nat :=
  let mapped := match value with
    | 1 => 3
    | 2 => 1
    | 3 => 2
    | v => v
  if south && mapped == 4 then 1 else mapped

/-- `surface_type_20_ku` before it is mapped; without a mask there are no values. -/
def maskedSurfaceType (mask : Option Mask) (lats lons : List Sample) : Except PyExc (List Nat) :=
  match mask with
  | some m => m.gridMaskValues lats lons 0
  | none => .ok []

def surfaceType (antarcticSurfaceMask : Option Mask) (greenlandSurfaceMask : Mask) (d : Dict) :
    Except PyExc Outcome :=
  match get? "hemisphere" d with
  | none => .ok (.failure "hemisphere not set in shared_dict")
  | some hemisphere => do
      let south := decide (hemisphere = .text "south")
      let lats ← (← item d "lats_nadir").samples
      let lons ← (← item d "lons_nadir").samples
      let values ← maskedSurfaceType
        (if south then antarcticSurfaceMask else some greenlandSurfaceMask) lats lons
      if (locationsOf 2 values).length + (locationsOf 3 values).length +
          (locationsOf 1 values).length = 0 then
        let name ← (← item d "l1b_file_name").asText
        .ok (.failure ("SKIP_OK, No grounded or floating ice or icefree_land in file " ++ name))
      else
        let types := values.map (cryotempoType south)
        let totalRecords ← (← item d "num_20hz_records").asInt
        -- the percentages in the log
        if totalRecords = 0 then .error zeroDivision
        else
          .ok (.success ""
            [("cryotempo_surface_type", .nats .uint8 types),
              ("ocean_locations", .nats .int64 (locationsOf 0 types)),
              ("grounded_ice_locations", .nats .int64 (locationsOf 1 types)),
              ("floating_ice_locations", .nats .int64 (locationsOf 2 types)),
              ("icefree_land_locations", .nats .int64 (locationsOf 3 types)),
              ("non_grn_land_locations", .nats .int64 (locationsOf 4 types))])

/-! ## `alg_dilated_coastal_mask` -/

/-- `required_surface_mask` and `n_inside`; without a mask there is no point
inside. -/
def dilatedMask (mask : Option Mask) (lats lons : List Sample) : Except PyExc (Value × Nat) :=
  match mask with
  | none => .ok (.none, 0)
  | some m =>
      match m.pointsInside lats lons [] with
      | .error e => .error e
      | .ok (inmask, nInside) => .ok (.bools inmask, nInside)

def dilatedCoastalMask (antarcticDilatedMask : Option Mask) (greenlandDilatedMask : Mask)
    (d : Dict) : Except PyExc Outcome :=
  match get? "hemisphere" d with
  | none => .ok (.failure "hemisphere not set in shared_dict")
  | some hemisphere => do
      let lats ← (← item d "lats_nadir").samples
      let lons ← (← item d "lons_nadir").samples
      let (mask, nInside) ← dilatedMask
        (if hemisphere = .text "south" then antarcticDilatedMask else some greenlandDilatedMask)
        lats lons
      if nInside = 0 then .ok (.failure "SKIP_OK, no locations inside dilated mask")
      else
        let numRecords ← (← item d "num_20hz_records").asInt
        -- the percentage in the log
        if numRecords = 0 then .error zeroDivision
        else .ok (.success "" [("dilated_surface_mask", mask)])

end Clev2er.Cryotempo
