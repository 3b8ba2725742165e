import Clev2er.Cryotempo.Retracking

/-!
# `geolocate_sin`

The geolocation of SARIn records. For each record the phase at the retracking
point gives an angle and the angle a position and height; with unwrapping on, a
second solution is computed from the phase one turn away, and afterwards it
replaces the first one where it is closer to the DEM.

A record is given up by a NaN height: for a fill-valued retracking index, or for
a `SINLocateError` on the way. The phase retrieval and the solution of the
geometry are the fields of `SinLib`.
-/

namespace Clev2er.Cryotempo

open Clev2er.Lib Clev2er.Retrack

/-- `config["sin_geolocation"]`. -/
structure SinConfig where
  unwrap : Bool
  heightMin : ℚ
  heightMax : ℚ
  unwrapTrigger : ℚ

/-- The functions `geolocate_sin` calls. -/
structure SinLib where
  /-- `np.pi`. -/
  pi : ℚ
  /-- The phase fitter of the configuration, on a record and its retracking
  index. -/
  fitter : Nat → Sample → Except PyExc Sample
  /-- `angle_to_poca` of a record, from the angle and the corrected range, to
  latitude, longitude and height. -/
  angleToPoca : Nat → Sample → Sample → Except PyExc (Sample × Sample × Sample)
  /-- `dem_ant.interp_dem` and `dem_grn.interp_dem` at a latitude and longitude,
  where the DEM is there. -/
  demAnt : Option (Sample → Sample → Sample)
  demGrn : Option (Sample → Sample → Sample)

section

variable (cfg : SinConfig) (lib : SinLib)

/-- `phase_to_angle`. -/
def phaseToAngle (phase : Sample) : Sample :=
  let angle := phase * .num (22084 / 1000000)
  let angle := .num (-1) * angle / .num (2 * lib.pi * (11676 / 10000))
  .num (102775 / 100000) * angle + .num 0

/-! ## One record -/

/-- The arrays of the loop, at one record. -/
structure SinRecord where
  height : Sample
  lat : Sample
  lon : Sample
  heightUnwrap : Sample
  latUnwrap : Sample
  lonUnwrap : Sample

/-- `np.zeros`. -/
def SinRecord.zero : SinRecord := ⟨0, 0, 0, 0, 0, 0⟩

/-- The record after a `SINLocateError`: no height and no position. The second
solution keeps what it has. -/
def SinRecord.default (r : SinRecord) : SinRecord :=
  { r with height := .nan, lat := .nan, lon := .nan }

/-- `except SINLocateError`; all else is raised on. -/
def SinRecord.onError (r : SinRecord) (e : PyExc) : Except PyExc SinRecord :=
  if e.cls = .other "SINLocateError" then .ok r.default else .error e

/-- The test of the height, the last of the `try` block. -/
def SinRecord.checkHeight (r : SinRecord) : SinRecord :=
  if .num cfg.heightMax < r.height ∨ r.height < .num cfg.heightMin then r.default else r

/-- The second solution, from the phase one turn away. -/
def unwrapRecord (i : Nat) (phase range : Sample) (r : SinRecord) : Except PyExc SinRecord :=
  if cfg.unwrap then
    let unwrapPhase :=
      if .num 0 < phase then .num (-2 * lib.pi) + phase else .num (2 * lib.pi) + phase
    match lib.angleToPoca i (phaseToAngle lib unwrapPhase) range with
    | .error e => r.onError e
    | .ok (lat, lon, elev) =>
        .ok (SinRecord.checkHeight cfg
          { r with heightUnwrap := elev, latUnwrap := lat, lonUnwrap := lon })
  else .ok (SinRecord.checkHeight cfg { r with latUnwrap := .nan, lonUnwrap := .nan })

/-- One pass of the loop. -/
def sinRecord (i : Nat) (indWfmRetrack range : Sample) : Except PyExc SinRecord :=
  if indWfmRetrack = .num fillIndex then .ok SinRecord.zero.default
  else
    match lib.fitter i indWfmRetrack with
    | .error e => SinRecord.zero.onError e
    | .ok phase =>
        -- "Phase retrieval failed", "Phase out of bounds"
        if phase.isNan || decide (.num lib.pi < phase.map abs) then .ok SinRecord.zero.default
        else
          match lib.angleToPoca i (phaseToAngle lib phase) range with
          | .error e => SinRecord.zero.onError e
          | .ok (lat, lon, elev) =>
              unwrapRecord cfg lib i phase range
                { SinRecord.zero with height := elev, lat := lat, lon := lon }

/-! ## The track -/

/-- The solution closer to the DEM, where the first one is off by the trigger or
more. -/
def chooseSolution (interpDem : Sample → Sample → Sample) (r : SinRecord) : SinRecord :=
  let unwrapDiff := (r.heightUnwrap - interpDem r.latUnwrap r.lonUnwrap).map abs
  let origDiff := (r.height - interpDem r.lat r.lon).map abs
  if unwrapDiff < origDiff ∧ .num cfg.unwrapTrigger ≤ origDiff then
    { r with height := r.heightUnwrap, lat := r.latUnwrap, lon := r.lonUnwrap }
  else r

/-- What `geolocate_sin` returns. -/
structure SinOutput where
  height : List Sample
  lat : List Sample
  lon : List Sample

/-- The output of some records. -/
def sinOutput (records : List SinRecord) : SinOutput :=
  ⟨records.map SinRecord.height, records.map SinRecord.lat, records.map SinRecord.lon⟩

/-- `geolocate_sin`, for the nadir latitudes `lat`. -/
def geolocateSin (lat : List Sample) (rangeCor indWfmRetrack : List Sample) :
    Except PyExc SinOutput :=
  match forEach (fun i _ => sinRecord cfg lib i (indWfmRetrack.getD i .nan)
      (rangeCor.getD i .nan)) 0 lat with
  | .error e => .error e
  | .ok records =>
      -- without records neither `lat_20_ku[0]` nor the loop variable is there
      if lat.isEmpty then
        .error (if cfg.unwrap then
            ⟨.other "IndexError", "index 0 is out of bounds for axis 0 with size 0"⟩
          else ⟨.nameError, "local variable 'i' referenced before assignment"⟩)
      else if cfg.unwrap then
        match (if lat.getD 0 .nan < .num 0 then lib.demAnt else lib.demGrn) with
        | none => .error ⟨.attributeError, "'NoneType' object has no attribute 'interp_dem'"⟩
        | some interpDem => .ok (sinOutput (records.map (chooseSolution cfg interpDem)))
      else .ok (sinOutput records)

/-! ## What a height needs -/

variable {cfg lib}

/-- A record given up stays so: a comparison with its NaN height is false. -/
theorem chooseSolution_of_nan {interpDem : Sample → Sample → Sample} {r : SinRecord}
    (h : r.height = .nan) : chooseSolution cfg interpDem r = r := by
  unfold chooseSolution
  simp [h]

/-- **A height of `geolocate_sin`** stands only at records whose retracking index
is not the fill value. -/
theorem geolocateSin_height {lat rangeCor indWfmRetrack : List Sample} {out : SinOutput}
    (hout : geolocateSin cfg lib lat rangeCor indWfmRetrack = .ok out) {i : Nat}
    (h : out.height.getD i .nan ≠ .nan) :
    i < lat.length ∧ indWfmRetrack.getD i .nan ≠ .num fillIndex := by
  unfold geolocateSin at hout
  split at hout
  · cases hout
  · next records hrecords =>
    obtain ⟨hlen, hentries⟩ := forEach_ok .nan SinRecord.zero hrecords
    -- with and without unwrapping, a height needs one at the end of the loop
    have hloop : i < lat.length ∧ (records.getD i SinRecord.zero).height ≠ .nan := by
      have hof : ∀ choose : SinRecord → SinRecord,
          (∀ r : SinRecord, r.height = .nan → (choose r).height = .nan) →
          (sinOutput (records.map choose)).height.getD i .nan ≠ .nan →
          i < lat.length ∧ (records.getD i SinRecord.zero).height ≠ .nan := by
        intro choose hchoose hne
        simp only [sinOutput] at hne
        by_cases hi : i < records.length
        · rw [getD_map_of_lt _ (by simpa using hi) SinRecord.zero,
            getD_map_of_lt _ hi SinRecord.zero] at hne
          exact ⟨by rw [← hlen]; exact hi, fun hnan => hne (hchoose _ hnan)⟩
        · rw [List.getD_eq_getElem?_getD, List.getElem?_eq_none (by simpa using hi)] at hne
          exact absurd rfl hne
      split at hout
      · cases hout
      · split at hout
        · split at hout
          · cases hout
          · next interpDem hdem =>
            obtain rfl := Except.ok.inj hout
            exact hof _ (fun r hr => by rw [chooseSolution_of_nan hr]; exact hr) h
        · obtain rfl := Except.ok.inj hout
          refine hof id (fun r hr => hr) ?_
          rwa [List.map_id]
    obtain ⟨hi, hne⟩ := hloop
    refine ⟨hi, ?_⟩
    intro hfill
    have hentry := hentries i hi
    rw [Nat.zero_add, hfill, sinRecord, if_pos rfl] at hentry
    rw [← Except.ok.inj hentry] at hne
    exact hne rfl

end

end Clev2er.Cryotempo
