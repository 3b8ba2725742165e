import Clev2er.Cryotempo.TrackSelection

/-!
# The hemisphere of a file

`alg_skip_on_area_bounds` with its dictionary, which holds the hemisphere also when
the file is skipped afterwards. The scan of the latitudes ends at the first polar
record, so it never sees a second hemisphere: `hemisphereDetermined_iff` says that the
hemisphere is determined as documented unless the file has both.
-/

namespace Clev2er.Cryotempo

open Clev2er.Lib Clev2er.Retrack Clev2er.Breakpoints Clev2er.Masks

/-! ## `alg_skip_on_area_bounds` and its dictionary -/

/-- The dictionary after `process()`, and what it returns or raises. -/
structure ProcessRun where
  dict : Dict
  result : Except PyExc (Bool × String)

/-- The run returns what `process()` is modelled by, and has stored what it stores. -/
def ProcessRun.Realises (run : ProcessRun) (d : Dict) : Except PyExc Outcome → Prop
  | .error e => run.result = .error e
  | .ok (.failure reason) => run.result = .ok (false, reason)
  | .ok (.success message stored) => run = ⟨update stored d, .ok (true, message)⟩

/-- The loop over the latitudes: `southern_hemisphere`, `northern_hemisphere` and the
dictionary. -/
def scanLatitudes (d : Dict) : List Sample → Bool × Bool × Dict
  | [] => (false, false, d)
  | lat :: lats =>
      if lat < .num (-55) then (true, false, setItem "hemisphere" (.text "south") d)
      else if .num 55 < lat then (false, true, setItem "hemisphere" (.text "north") d)
      else scanLatitudes d lats

def bothHemispheres : String := "File is in both northern and southern polar areas"

def hemisphereUndetermined : String := "hemisphere of file could not be determined"

/-- The code after the scan of the latitudes. -/
def afterScan (c : ChainSwitches) (greenlandMask : Mask) (lats lons : List Sample)
    (south north : Bool) (d : Dict) : ProcessRun :=
  if north && south then ⟨d, .ok (false, bothHemispheres)⟩
  else if !hasKey d "hemisphere" then ⟨d, .ok (false, hemisphereUndetermined)⟩
  else
    let d := setItem "lons_nadir" (.floats lons) (setItem "lats_nadir" (.floats lats) d)
    if north then
      match greenlandMask.pointsInside lats lons [] with
      | .error e => ⟨d, .error e⟩
      | .ok (_, nInside) =>
          if nInside = 0 then
            ⟨d, .ok (false, "SKIP_OK, No locations within Greenland rectangular mask ")⟩
          else ⟨d, .ok (true, "")⟩
    else if c.grnOnly && south then ⟨d, .ok (false, "SKIP_OK, grn_only specificed ")⟩
    else ⟨d, .ok (true, "")⟩

/-- `alg_skip_on_area_bounds`. -/
def skipOnAreaBoundsRun (c : ChainSwitches) (greenlandMask : Mask) (p : L1bProduct) (d : Dict) :
    ProcessRun :=
  match p.firstRecordLat, p.lastRecordLat with
  | some first, some last =>
      let firstRecordLat : ℚ := first / 10 ^ 6
      let lastRecordLat : ℚ := last / 10 ^ 6
      match get? "instr_mode" d with
      | none => ⟨d, .ok (false, "instr_mode missing from shared dict")⟩
      | some mode =>
          if outsideCryosphere mode "LRM" 62 (-69) firstRecordLat ||
              outsideCryosphere mode "SIN" 58 (-59) firstRecordLat then
            ⟨d, .ok (false, "SKIP_OK, file outside cryosphere, [" ++ twoDecimals firstRecordLat ++
              "N -> " ++ twoDecimals lastRecordLat ++ "N]")⟩
          else
            let (south, north, d) := scanLatitudes d p.lat
            afterScan c greenlandMask p.lat (p.lon.map mod360) south north d
  | _, _ => ⟨d, .ok (false, "Missing attribute .sir_op_mode in L1b file")⟩

/-! ## The scan -/

/-- Some latitude is below -55. -/
def HasSouth (lats : List Sample) : Prop := ∃ lat ∈ lats, lat < .num (-55)

/-- Some latitude is above 55. -/
def HasNorth (lats : List Sample) : Prop := ∃ lat ∈ lats, .num 55 < lat

/-- The scan ends at the first polar record, so it never reports both hemispheres. -/
theorem scanLatitudes_cases (d : Dict) (lats : List Sample) :
    (hemisphereFlags lats = (true, false) ∧
        scanLatitudes d lats = (true, false, setItem "hemisphere" (.text "south") d)) ∨
      (hemisphereFlags lats = (false, true) ∧
        scanLatitudes d lats = (false, true, setItem "hemisphere" (.text "north") d)) ∨
      hemisphereFlags lats = (false, false) ∧ scanLatitudes d lats = (false, false, d) := by
  induction lats with
  | nil => exact .inr (.inr ⟨rfl, rfl⟩)
  | cons lat lats ih =>
      rw [hemisphereFlags, scanLatitudes]
      by_cases hsouth : lat < .num (-55)
      · rw [if_pos hsouth, if_pos hsouth]
        exact .inl ⟨rfl, rfl⟩
      · rw [if_neg hsouth, if_neg hsouth]
        by_cases hnorth : .num 55 < lat
        · rw [if_pos hnorth, if_pos hnorth]
          exact .inr (.inl ⟨rfl, rfl⟩)
        · rw [if_neg hnorth, if_neg hnorth]
          exact ih

theorem scanLatitudes_south {d : Dict} {lats : List Sample} (hsouth : HasSouth lats)
    (hnorth : ¬ HasNorth lats) :
    scanLatitudes d lats = (true, false, setItem "hemisphere" (.text "south") d) := by
  induction lats with
  | nil =>
      obtain ⟨lat, hlat, -⟩ := hsouth
      cases hlat
  | cons lat lats ih =>
      rw [scanLatitudes]
      by_cases hlat : lat < .num (-55)
      · rw [if_pos hlat]
      · rw [if_neg hlat, if_neg fun h => hnorth ⟨lat, List.mem_cons_self .., h⟩]
        apply ih
        · obtain ⟨other, hother, hpolar⟩ := hsouth
          rcases List.mem_cons.mp hother with rfl | hrest
          · exact absurd hpolar hlat
          · exact ⟨other, hrest, hpolar⟩
        · exact fun ⟨other, hother, hpolar⟩ => hnorth ⟨other, List.mem_cons_of_mem _ hother, hpolar⟩

theorem scanLatitudes_north {d : Dict} {lats : List Sample} (hsouth : ¬ HasSouth lats)
    (hnorth : HasNorth lats) :
    scanLatitudes d lats = (false, true, setItem "hemisphere" (.text "north") d) := by
  induction lats with
  | nil =>
      obtain ⟨lat, hlat, -⟩ := hnorth
      cases hlat
  | cons lat lats ih =>
      rw [scanLatitudes, if_neg fun h => hsouth ⟨lat, List.mem_cons_self .., h⟩]
      by_cases hlat : .num 55 < lat
      · rw [if_pos hlat]
      · rw [if_neg hlat]
        apply ih
        · exact fun ⟨other, hother, hpolar⟩ => hsouth ⟨other, List.mem_cons_of_mem _ hother, hpolar⟩
        · obtain ⟨other, hother, hpolar⟩ := hnorth
          rcases List.mem_cons.mp hother with rfl | hrest
          · exact absurd hpolar hlat
          · exact ⟨other, hrest, hpolar⟩

theorem scanLatitudes_neither {d : Dict} {lats : List Sample} (hsouth : ¬ HasSouth lats)
    (hnorth : ¬ HasNorth lats) : scanLatitudes d lats = (false, false, d) := by
  induction lats with
  | nil => rfl
  | cons lat lats ih =>
      rw [scanLatitudes, if_neg fun h => hsouth ⟨lat, List.mem_cons_self .., h⟩,
        if_neg fun h => hnorth ⟨lat, List.mem_cons_self .., h⟩]
      apply ih
      · exact fun ⟨other, hother, hpolar⟩ => hsouth ⟨other, List.mem_cons_of_mem _ hother, hpolar⟩
      · exact fun ⟨other, hother, hpolar⟩ => hnorth ⟨other, List.mem_cons_of_mem _ hother, hpolar⟩

/-! ## The code after the scan -/

section After

variable {c : ChainSwitches} {greenlandMask : Mask} {lats lons : List Sample} {south north : Bool}
  {d : Dict}

theorem get?_nadir (lats lons : List Sample) (d : Dict) :
    get? "hemisphere"
        (setItem "lons_nadir" (.floats lons) (setItem "lats_nadir" (.floats lats) d)) =
      get? "hemisphere" d := by
  rw [get?_setItem, if_neg (by decide), get?_setItem, if_neg (by decide)]

/-- The hemisphere stays as the scan has left it. -/
theorem afterScan_hemisphere :
    get? "hemisphere" (afterScan c greenlandMask lats lons south north d).dict =
      get? "hemisphere" d := by
  rw [afterScan]
  split
  · rfl
  · split
    · rfl
    · split
      · split
        · exact get?_nadir lats lons d
        · split <;> exact get?_nadir lats lons d
      · split <;> exact get?_nadir lats lons d

/-- Past the two checks of the hemisphere neither of their errors is returned. -/
theorem afterScan_determined (hboth : (north && south) = false)
    (hkey : hasKey d "hemisphere" = true) :
    (afterScan c greenlandMask lats lons south north d).result ≠ .ok (false, bothHemispheres) ∧
      (afterScan c greenlandMask lats lons south north d).result ≠
        .ok (false, hemisphereUndetermined) := by
  rw [afterScan, hboth, hkey]
  simp only [Bool.false_eq_true, if_false, Bool.not_true]
  split
  · split
    · simp
    · split <;> simp [bothHemispheres, hemisphereUndetermined]
  · split <;> simp [bothHemispheres, hemisphereUndetermined]

theorem afterScan_undetermined (hboth : (north && south) = false)
    (hkey : hasKey d "hemisphere" = false) :
    afterScan c greenlandMask lats lons south north d =
      ⟨d, .ok (false, hemisphereUndetermined)⟩ := by
  rw [afterScan, hboth, hkey]
  rfl

end After

/-- `process()` by what it stores is `process()` with its dictionary. -/
theorem skipOnAreaBoundsRun_realises (c : ChainSwitches) (greenlandMask : Mask) (p : L1bProduct)
    (d : Dict) : (skipOnAreaBoundsRun c greenlandMask p d).Realises d
      (skipOnAreaBounds c greenlandMask p d) := by
  rw [skipOnAreaBounds, skipOnAreaBoundsRun]
  rcases p.firstRecordLat with _ | first
  · rfl
  rcases p.lastRecordLat with _ | last
  · rfl
  simp only
  rcases get? "instr_mode" d with _ | mode
  · rfl
  simp only
  by_cases houtside : (outsideCryosphere mode "LRM" 62 (-69) (first / 10 ^ 6) ||
      outsideCryosphere mode "SIN" 58 (-59) (first / 10 ^ 6)) = true
  · rw [if_pos houtside, if_pos houtside]
    rfl
  rw [if_neg houtside, if_neg houtside]
  rcases scanLatitudes_cases d p.lat with ⟨hflags, hscan⟩ | ⟨hflags, hscan⟩ | ⟨hflags, hscan⟩
  · have hkey : hasKey (setItem "hemisphere" (.text "south") d) "hemisphere" = true := by
      rw [hasKey, get?_setItem, if_pos rfl]
      rfl
    simp only [hflags, hscan, afterScan, hkey]
    cases c.grnOnly <;> rfl
  · have hkey : hasKey (setItem "hemisphere" (.text "north") d) "hemisphere" = true := by
      rw [hasKey, get?_setItem, if_pos rfl]
      rfl
    simp only [hflags, hscan, afterScan, hkey]
    rcases greenlandMask.pointsInside p.lat (p.lon.map mod360) [] with e | ⟨inmask, nInside⟩
    · rfl
    · cases nInside <;> rfl
  · simp only [hflags, hscan, afterScan]
    cases hasKey d "hemisphere" with
    | false => rfl
    | true => cases c.grnOnly <;> rfl

/-! ## The hemisphere -/

/-- The file has its latitudes and its mode, and is not skipped for its first record. -/
def PassesFirstRecord (p : L1bProduct) (d : Dict) : Prop :=
  ∃ first last mode, p.firstRecordLat = some first ∧ p.lastRecordLat = some last ∧
    get? "instr_mode" d = some mode ∧
    outsideCryosphere mode "LRM" 62 (-69) (first / 10 ^ 6) = false ∧
    outsideCryosphere mode "SIN" 58 (-59) (first / 10 ^ 6) = false

variable {c : ChainSwitches} {greenlandMask : Mask} {p : L1bProduct} {d : Dict}

theorem skipOnAreaBoundsRun_passes (c : ChainSwitches) (greenlandMask : Mask)
    (h : PassesFirstRecord p d) :
    skipOnAreaBoundsRun c greenlandMask p d =
      afterScan c greenlandMask p.lat (p.lon.map mod360) (scanLatitudes d p.lat).1
        (scanLatitudes d p.lat).2.1 (scanLatitudes d p.lat).2.2 := by
  obtain ⟨first, last, mode, hfirst, hlast, hmode, hlrm, hsin⟩ := h
  simp only [skipOnAreaBoundsRun, hfirst, hlast, hmode, hlrm, hsin, Bool.or_self,
    Bool.false_eq_true, if_false]

/-- **The hemisphere is determined as documented**, in any order of the records. -/
structure HemisphereDetermined (c : ChainSwitches) (greenlandMask : Mask) (p : L1bProduct)
    (d : Dict) : Prop where
  south : HasSouth p.lat → ¬ HasNorth p.lat →
    get? "hemisphere" (skipOnAreaBoundsRun c greenlandMask p d).dict = some (.text "south")
  north : ¬ HasSouth p.lat → HasNorth p.lat →
    get? "hemisphere" (skipOnAreaBoundsRun c greenlandMask p d).dict = some (.text "north")
  both : (skipOnAreaBoundsRun c greenlandMask p d).result = .ok (false, bothHemispheres) ↔
    HasSouth p.lat ∧ HasNorth p.lat
  undetermined :
    (skipOnAreaBoundsRun c greenlandMask p d).result = .ok (false, hemisphereUndetermined) ↔
      ¬ HasSouth p.lat ∧ ¬ HasNorth p.lat
  order : ∀ lats, lats.Perm p.lat → scanLatitudes d lats = scanLatitudes d p.lat

/-- One polar area: the scan stores its hemisphere, and neither error is returned. -/
theorem afterScan_polar {lats lons : List Sample} {south north : Bool} (name : String)
    (hboth : (north && south) = false) :
    let run := afterScan c greenlandMask lats lons south north
      (setItem "hemisphere" (.text name) d)
    get? "hemisphere" run.dict = some (.text name) ∧ run.result ≠ .ok (false, bothHemispheres) ∧
      run.result ≠ .ok (false, hemisphereUndetermined) := by
  have hread : get? "hemisphere" (setItem "hemisphere" (.text name) d) = some (.text name) := by
    rw [get?_setItem, if_pos rfl]
  have hkey : hasKey (setItem "hemisphere" (.text name) d) "hemisphere" = true := by
    rw [hasKey, hread]
    rfl
  exact ⟨afterScan_hemisphere.trans hread, afterScan_determined hboth hkey⟩

/-- The error for a file in both polar areas is out of reach. -/
theorem result_ne_both (c : ChainSwitches) (greenlandMask : Mask)
    (hpasses : PassesFirstRecord p d) :
    (skipOnAreaBoundsRun c greenlandMask p d).result ≠ .ok (false, bothHemispheres) := by
  rw [skipOnAreaBoundsRun_passes c greenlandMask hpasses]
  rcases scanLatitudes_cases d p.lat with ⟨-, hscan⟩ | ⟨-, hscan⟩ | ⟨-, hscan⟩
  · rw [hscan]
    exact (afterScan_polar "south" rfl).2.1
  · rw [hscan]
    exact (afterScan_polar "north" rfl).2.1
  · rw [hscan]
    cases hkey : hasKey d "hemisphere" with
    | false =>
        rw [afterScan_undetermined rfl hkey]
        simp [bothHemispheres, hemisphereUndetermined]
    | true => exact (afterScan_determined rfl hkey).1

theorem hasSouth_perm {lats lats' : List Sample} (h : lats.Perm lats') :
    HasSouth lats ↔ HasSouth lats' := by
  simp only [HasSouth, h.mem_iff]

theorem hasNorth_perm {lats lats' : List Sample} (h : lats.Perm lats') :
    HasNorth lats ↔ HasNorth lats' := by
  simp only [HasNorth, h.mem_iff]

/-- Without a second hemisphere the order of the records does not matter. -/
theorem scanLatitudes_perm {lats lats' : List Sample} (hone : ¬ (HasSouth lats ∧ HasNorth lats))
    (h : lats'.Perm lats) : scanLatitudes d lats' = scanLatitudes d lats := by
  by_cases hsouth : HasSouth lats
  · have hnorth : ¬ HasNorth lats := fun hnorth => hone ⟨hsouth, hnorth⟩
    rw [scanLatitudes_south hsouth hnorth, scanLatitudes_south ((hasSouth_perm h).mpr hsouth)
      (mt (hasNorth_perm h).mp hnorth)]
  · by_cases hnorth : HasNorth lats
    · rw [scanLatitudes_north hsouth hnorth, scanLatitudes_north (mt (hasSouth_perm h).mp hsouth)
        ((hasNorth_perm h).mpr hnorth)]
    · rw [scanLatitudes_neither hsouth hnorth, scanLatitudes_neither
        (mt (hasSouth_perm h).mp hsouth) (mt (hasNorth_perm h).mp hnorth)]

/-- **The hemisphere is determined just for files without both polar areas.** -/
theorem hemisphereDetermined_iff (hpasses : PassesFirstRecord p d)
    (hfresh : get? "hemisphere" d = none) :
    HemisphereDetermined c greenlandMask p d ↔ ¬ (HasSouth p.lat ∧ HasNorth p.lat) := by
  have hrun := skipOnAreaBoundsRun_passes c greenlandMask hpasses
  have hboth := result_ne_both c greenlandMask hpasses
  constructor
  · exact fun hdetermined hpolar => hboth (hdetermined.both.mpr hpolar)
  · intro hone
    refine ⟨?_, ?_, iff_of_false hboth hone, ?_, fun lats => scanLatitudes_perm hone⟩
    · intro hsouth hnorth
      rw [hrun, scanLatitudes_south hsouth hnorth]
      exact (afterScan_polar "south" rfl).1
    · intro hsouth hnorth
      rw [hrun, scanLatitudes_north hsouth hnorth]
      exact (afterScan_polar "north" rfl).1
    · rw [hrun]
      by_cases hsouth : HasSouth p.lat
      · have hnorth : ¬ HasNorth p.lat := fun hnorth => hone ⟨hsouth, hnorth⟩
        rw [scanLatitudes_south hsouth hnorth]
        exact iff_of_false (afterScan_polar "south" rfl).2.2 fun h => h.1 hsouth
      · by_cases hnorth : HasNorth p.lat
        · rw [scanLatitudes_north hsouth hnorth]
          exact iff_of_false (afterScan_polar "north" rfl).2.2 fun h => h.2 hnorth
        · have hundetermined : hasKey d "hemisphere" = false := by
            rw [hasKey, hfresh]
            rfl
          rw [scanLatitudes_neither hsouth hnorth, afterScan_undetermined rfl hundetermined]
          exact iff_of_true rfl ⟨hsouth, hnorth⟩

/-! ## Files of two records -/

/-- Records without any power. -/
def quietWaveforms (n : Nat) : WaveformArray where
  size := 128
  rows := List.replicate n (List.replicate 128 0)
  length_row := by
    intro w hw
    rw [List.eq_of_mem_replicate hw, List.length_replicate]
  nonneg := by
    intro w hw x hx
    rw [List.eq_of_mem_replicate hw] at hx
    rw [List.eq_of_mem_replicate hx]

def quietFile (n : Nat) : L1bFile where
  mode := .lrm
  pwrWaveform := quietWaveforms n
  coherenceWaveform := []
  echoScaleFactor := List.replicate n 1
  echoScalePwr := List.replicate n 0
  noisePower := List.replicate n 0
  windowDel := List.replicate n (.num 0)
  size_eq := rfl
  sameShape := by
    intro h
    cases h
  length_echoScaleFactor := by simp [quietWaveforms]
  length_echoScalePwr := by simp [quietWaveforms]
  length_noisePower := by simp [quietWaveforms]
  length_windowDel := by simp [quietWaveforms]

theorem numRecords_quietFile (n : Nat) : (quietFile n).numRecords = n := by
  simp [L1bFile.numRecords, quietFile, quietWaveforms]

theorem lrm_named (n : Nat) (text : String) (h : some "LRM" = some text) :
    instrModeOf text = some (quietFile n).mode.name := by
  cases h
  show instrModeOf "LRM" = some "LRM"
  decide

theorem northFile_lt : (quietFile 2).numRecords < 2 ^ 63 := by
  rw [numRecords_quietFile]
  norm_num

/-- Two records, the first of them at 70 degrees north. -/
def northProduct (lat : Sample) : L1bProduct where
  file := quietFile 2
  lat := [.num 70, lat]
  lon := [.num 0, .num 0]
  alt := [.num 0, .num 0]
  dopCor := [.num 0, .num 0]
  transmitPwr := [.num 0, .num 0]
  offNadirPitchAngle := []
  offNadirRollAngle := []
  indMeas1hz := [0, 0]
  modDryTropoCor := []
  modWetTropoCor := []
  ionoCorGim := []
  solidEarthTide := []
  poleTide := []
  hfFluctTotalCor := []
  sirOpMode := some "LRM"
  firstRecordLat := some 70000000
  lastRecordLat := some 70000000
  length_lat := rfl
  length_lon := rfl
  length_alt := rfl
  length_dopCor := rfl
  length_transmitPwr := rfl
  length_indMeas1hz := rfl
  numRecords_lt := northFile_lt
  mode_named := lrm_named 2

/-- The dictionary that `alg_identify_file` leaves. -/
def lrmDict : Dict := setItem "instr_mode" (.text "LRM") .nil

def noSwitches : ChainSwitches := ⟨false, false, false⟩

/-- A mask with every point inside. -/
def everywhereMask : Mask where
  area := .xylimits 0 0 0 0
  basinNumbers := []
  latlonToXy _ _ := (.finite 0, .finite 0)

theorem northProduct_passes (lat : Sample) : PassesFirstRecord (northProduct lat) lrmDict := by
  refine ⟨70000000, 70000000, .text "LRM", rfl, rfl, by rw [lrmDict, get?_setItem, if_pos rfl],
    ?_, ?_⟩ <;> norm_num [outsideCryosphere]

/-- A file in the north alone. -/
theorem hemisphereDetermined_north :
    HemisphereDetermined noSwitches everywhereMask (northProduct (.num 71)) lrmDict := by
  refine (hemisphereDetermined_iff (northProduct_passes _) rfl).mpr ?_
  rintro ⟨⟨lat, hlat, hsouth⟩, -⟩
  simp only [northProduct, List.mem_cons, List.not_mem_nil, or_false] at hlat
  rcases hlat with rfl | rfl <;> norm_num at hsouth

/-- **A file in both polar areas** is taken for a file of the north. -/
theorem hemisphere_of_both :
    ¬ HemisphereDetermined noSwitches everywhereMask (northProduct (.num (-70))) lrmDict := by
  intro hdetermined
  have hboth : HasSouth (northProduct (.num (-70))).lat ∧
      HasNorth (northProduct (.num (-70))).lat := by
    constructor
    · exact ⟨.num (-70), by simp [northProduct], by norm_num⟩
    · exact ⟨.num 70, by simp [northProduct], by norm_num⟩
  exact result_ne_both _ _ (northProduct_passes _) (hdetermined.both.mpr hboth)

end Clev2er.Cryotempo
