import Clev2er.Cryotempo.Algorithms
import Clev2er.Uncertainty.BinnedTable
import Clev2er.Uncertainty.CalcUncertainty

/-!
# Uncertainty where slope or roughness is missing

`alg_uncertainty` reads two kinds of tables. In Greenland a slope of NaN fails every
comparison and its uncertainty stays NaN. In Antarctica NaN is digitized behind the
last edge and clipped to the last bin, so that a number is stored for it.
-/

namespace Clev2er.Cryotempo

open Clev2er.Lib Clev2er.Retrack Clev2er.Breakpoints Clev2er.Uncertainty

/-! ## The algorithm -/

/-- A table for Greenland: uncertainties by slope band. -/
structure GreenlandTable where
  utTableGrn : List ℚ
  utMinSlopeGrn : ℚ
  utMaxSlopeGrn : ℚ
  nonempty : utTableGrn ≠ []
  slopes : utMinSlopeGrn < utMaxSlopeGrn

/-- A table for Antarctica: uncertainties over the slope and roughness bins, without
gaps. -/
structure AntarcticTable where
  utTableAnt : BinnedTable ℚ
  cell : ℕ → ℕ → ℚ
  complete : TableOver antBins antBins utTableAnt fun i j => .num (cell i j)

/-- What `alg_uncertainty` loads. -/
structure UncertaintySetup where
  interp1d : Interp1d ℚ
  antarctic : AntarcticTable
  greenland : GreenlandTable
  /-- `interp_slopes` of `slope_ant` and `interp_roughness` of `roughness_ant`, unless
  the chain is for Greenland only. -/
  terrainAnt : Option (TrackLookup × TrackLookup)
  slopeGrn : TrackLookup

namespace UncertaintySetup

variable (u : UncertaintySetup)

def uncertaintyAnt : Option TrackLookup :=
  u.terrainAnt.map fun terrain lats lons => do
    let slopeValues ← terrain.1 lats lons
    let roughnessValues ← terrain.2 lats lons
    getBinnedValues slopeValues roughnessValues u.antarctic.utTableAnt antBins antBins

def uncertaintyGrn : TrackLookup := fun lats lons => do
  let slopes ← u.slopeGrn lats lons
  calcUncertainty u.interp1d slopes u.greenland.utTableGrn u.greenland.utMinSlopeGrn
    u.greenland.utMaxSlopeGrn

/-- `alg_uncertainty`. -/
def process (d : Dict) : Except PyExc Outcome :=
  trackValues "uncertainty" u.uncertaintyAnt u.uncertaintyGrn d

/-- A chain that has loaded these tables runs this algorithm. -/
theorem algUncertaintyProcess_eq {c : CryotempoChain} (hant : c.uncertaintyAnt = u.uncertaintyAnt)
    (hgrn : c.uncertaintyGrn = u.uncertaintyGrn) : algUncertaintyProcess c = u.process := by
  funext d
  rw [algUncertaintyProcess, hant, hgrn, process]

end UncertaintySetup

/-! ## The records of a file -/

/-- The slope and the roughness at the position of a record. -/
structure TerrainRecord where
  slope : Sample
  roughness : Sample

/-- Slope or, in Antarctica, roughness is missing. -/
def TerrainRecord.Missing (south : Bool) (record : TerrainRecord) : Prop :=
  record.slope = .nan ∨ (south = true ∧ record.roughness = .nan)

/-- A file whose records have these slopes and roughnesses. -/
structure UncertaintyInputs (u : UncertaintySetup) (d : Dict) (south : Bool)
    (records : List TerrainRecord) (lats lons : List Sample) : Prop where
  hemisphere : ∃ value, item d "hemisphere" = .ok value ∧ decide (value = .text "south") = south
  latitudes : ∃ value, item d "latitudes" = .ok value ∧ value.samples = .ok lats
  longitudes : ∃ value, item d "longitudes" = .ok value ∧ value.samples = .ok lons
  terrainAnt : south = true → ∃ terrain, u.terrainAnt = some terrain ∧
    terrain.1 lats lons = .ok (records.map (·.slope)) ∧
    terrain.2 lats lons = .ok (records.map (·.roughness))
  slopeGrn : south = false → u.slopeGrn lats lons = .ok (records.map (·.slope))

/-- The values of the table of a hemisphere. -/
def UncertaintySetup.tableValues (u : UncertaintySetup) (south : Bool) : List Sample :=
  if south then u.antarctic.utTableAnt.values.flatten else u.greenland.utTableGrn.map .num

/-- A record's uncertainty: NaN where the terrain is missing, and otherwise a value of
the table or between two. -/
def UncertaintyCorrect (u : UncertaintySetup) (south : Bool) (record : TerrainRecord)
    (uncertainty : Sample) : Prop :=
  (record.Missing south → uncertainty = .nan) ∧
    (¬ record.Missing south → ∃ a b v, .num a ∈ u.tableValues south ∧
      .num b ∈ u.tableValues south ∧ uncertainty = .num v ∧ a ≤ v ∧ v ≤ b)

/-- The algorithm stores a correct uncertainty for each record. -/
def StoresUncertainty (u : UncertaintySetup) (d : Dict) (south : Bool)
    (records : List TerrainRecord) : Prop :=
  ∃ uncertainty, u.process d = .ok (.success "" [("uncertainty", .floats uncertainty)]) ∧
    List.Forall₂ (UncertaintyCorrect u south) records uncertainty

variable {u : UncertaintySetup} {d : Dict} {south : Bool} {records : List TerrainRecord}
  {lats lons : List Sample}

/-! ## What is stored -/

/-- What the look-up of the hemisphere returns is stored. -/
theorem UncertaintyInputs.process_eq (h : UncertaintyInputs u d south records lats lons)
    {lookup : TrackLookup} {uncertainty : List Sample}
    (hsouth : south = true → u.uncertaintyAnt = some lookup)
    (hnorth : south = false → u.uncertaintyGrn = lookup)
    (hlookup : lookup lats lons = .ok uncertainty) :
    u.process d = .ok (.success "" [("uncertainty", .floats uncertainty)]) := by
  obtain ⟨hemisphere, hhemisphere, hvalue⟩ := h.hemisphere
  obtain ⟨latitudes, hlatitudes, hlats⟩ := h.latitudes
  obtain ⟨longitudes, hlongitudes, hlons⟩ := h.longitudes
  rw [UncertaintySetup.process, trackValues]
  simp only [hhemisphere, hlatitudes, hlongitudes, hlats, hlons, bind, Except.bind]
  cases south with
  | false =>
      rw [if_neg (of_decide_eq_false hvalue), hnorth rfl, hlookup]
  | true =>
      rw [if_pos (of_decide_eq_true hvalue), hsouth rfl]
      simp only [hlookup]

theorem UncertaintyInputs.process_south (h : UncertaintyInputs u d true records lats lons) :
    u.process d = .ok (.success "" [("uncertainty", .floats (records.map fun record =>
      .num (u.antarctic.cell (antBins.binIndex record.slope)
        (antBins.binIndex record.roughness))))]) := by
  obtain ⟨terrain, hterrain, hslope, hroughness⟩ := h.terrainAnt rfl
  have hvalues := u.antarctic.complete.getBinnedValues_eq two_le_antBins two_le_antBins
    (show (records.map (·.slope)).length = (records.map (·.roughness)).length by simp)
  rw [List.zip_map', List.map_map] at hvalues
  refine h.process_eq (fun _ => by rw [UncertaintySetup.uncertaintyAnt, hterrain]; rfl)
    (fun hnorth => absurd hnorth.symm Bool.false_ne_true) ?_
  simp only [hslope, hroughness, bind, Except.bind]
  exact hvalues

theorem UncertaintyInputs.process_north (h : UncertaintyInputs u d false records lats lons)
    (hinterp : InterpolatesLinearly u.interp1d) :
    u.process d = .ok (.success "" [("uncertainty", .floats (records.map fun record =>
      record.slope.map (curve u.greenland.utTableGrn u.greenland.utMinSlopeGrn
        u.greenland.utMaxSlopeGrn)))]) := by
  have hvalues := calcUncertainty_eq hinterp u.greenland.slopes u.greenland.nonempty
    (records.map (·.slope))
  rw [List.map_map] at hvalues
  refine h.process_eq (fun hsouth => absurd hsouth Bool.false_ne_true) (fun _ => rfl) ?_
  simp only [UncertaintySetup.uncertaintyGrn, h.slopeGrn rfl, bind, Except.bind]
  exact hvalues

/-- In Greenland every record gets a correct uncertainty. -/
theorem uncertaintyCorrect_north (u : UncertaintySetup) (record : TerrainRecord) :
    UncertaintyCorrect u false record (record.slope.map (curve u.greenland.utTableGrn
      u.greenland.utMinSlopeGrn u.greenland.utMaxSlopeGrn)) := by
  constructor
  · rintro (hslope | ⟨hsouth, -⟩)
    · rw [hslope, WithNan.map_nan]
    · cases hsouth
  · intro hpresent
    cases hslope : record.slope with
    | nan => exact absurd (.inl hslope) hpresent
    | num s =>
        obtain ⟨a, ha, b, hb, hlow, hhigh⟩ :=
          curve_between u.greenland.slopes u.greenland.nonempty s
        exact ⟨a, b, _, List.mem_map_of_mem ha, List.mem_map_of_mem hb, rfl, hlow, hhigh⟩

/-- Every bin has a value of the table. -/
theorem AntarcticTable.cell_mem (table : AntarcticTable) {i j : ℕ} (hi : i + 1 < antBins.length)
    (hj : j + 1 < antBins.length) :
    .num (table.cell i j) ∈ table.utTableAnt.values.flatten := by
  rw [table.complete.values, List.mem_flatten]
  refine ⟨_, List.mem_map_of_mem (List.mem_range.mpr (show i < antBins.length - 1 by omega)), ?_⟩
  exact List.mem_map_of_mem (List.mem_range.mpr (by omega))

/-- In Antarctica a record gets a correct uncertainty unless its terrain is missing. -/
theorem uncertaintyCorrect_south_iff (u : UncertaintySetup) (record : TerrainRecord) :
    UncertaintyCorrect u true record (.num (u.antarctic.cell (antBins.binIndex record.slope)
      (antBins.binIndex record.roughness))) ↔ ¬ record.Missing true := by
  constructor
  · intro hcorrect hmissing
    cases hcorrect.1 hmissing
  · intro hpresent
    refine ⟨fun hmissing => absurd hmissing hpresent, fun _ => ?_⟩
    have hmem := u.antarctic.cell_mem (Axis.binIndex_lt two_le_antBins record.slope)
      (Axis.binIndex_lt two_le_antBins record.roughness)
    exact ⟨_, _, _, hmem, hmem, rfl, le_refl _, le_refl _⟩

/-- What is stored is correct when it is so record by record. -/
theorem storesUncertainty_iff_forall {g : TerrainRecord → Sample}
    (h : u.process d = .ok (.success "" [("uncertainty", .floats (records.map g))])) :
    StoresUncertainty u d south records ↔
      ∀ record ∈ records, UncertaintyCorrect u south record (g record) := by
  have hforall : List.Forall₂ (UncertaintyCorrect u south) records (records.map g) ↔
      ∀ record ∈ records, UncertaintyCorrect u south record (g record) := by
    rw [List.forall₂_map_right_iff, List.forall₂_same]
  constructor
  · rintro ⟨uncertainty, hstored, hcorrect⟩
    rw [h] at hstored
    obtain rfl : records.map g = uncertainty := by
      simp only [Except.ok.injEq, Outcome.success.injEq, List.cons.injEq, Prod.mk.injEq,
        Value.floats, Value.array, Value.leaf.injEq, Leaf.array.injEq, NdArray.mk.injEq, and_true,
        true_and] at hstored
      exact hstored.2
    exact hforall.mp hcorrect
  · exact fun hcorrect => ⟨records.map g, h, hforall.mpr hcorrect⟩

/-- **Missing terrain gives missing uncertainty** in Greenland always, and in Antarctica
only where no terrain is missing. -/
theorem storesUncertainty_iff (hinterp : InterpolatesLinearly u.interp1d)
    (h : UncertaintyInputs u d south records lats lons) :
    StoresUncertainty u d south records ↔
      (south = true → ∀ record ∈ records, record.slope ≠ .nan ∧ record.roughness ≠ .nan) := by
  cases south with
  | false =>
      rw [storesUncertainty_iff_forall (h.process_north hinterp)]
      exact iff_of_true (fun record _ => uncertaintyCorrect_north u record)
        fun hsouth => absurd hsouth Bool.false_ne_true
  | true =>
      rw [storesUncertainty_iff_forall h.process_south]
      simp only [uncertaintyCorrect_south_iff, TerrainRecord.Missing, true_and, not_or,
        forall_true_left]

/-! ## Two files -/

/-- Tables in which every uncertainty is 1, and terrain that is the same everywhere. -/
def uniformSetup (record : TerrainRecord) : UncertaintySetup where
  interp1d := polylineInterp1d
  antarctic := {
    utTableAnt := {
      index := antBins.labels
      columns := antBins.labels
      values := (List.range (antBins.length - 1)).map fun _ =>
        (List.range (antBins.length - 1)).map fun _ => .num 1 }
    cell := fun _ _ => 1
    complete := ⟨rfl, rfl, rfl⟩ }
  greenland := ⟨[1], 0, 1, List.cons_ne_nil _ _, zero_lt_one⟩
  terrainAnt := some (fun lats _ => .ok (lats.map fun _ => record.slope),
    fun lats _ => .ok (lats.map fun _ => record.roughness))
  slopeGrn := fun lats _ => .ok (lats.map fun _ => record.slope)

/-- The dictionary of a file with one record. -/
def oneRecordDict (south : Bool) : Dict :=
  .leaf "hemisphere" (.str (if south then "south" else "north")) <|
  .leaf "latitudes" (.array ⟨.float64, [1], [.num 75]⟩) <|
  .leaf "longitudes" (.array ⟨.float64, [1], [.num 0]⟩) .nil

theorem oneRecordDict_inputs (record : TerrainRecord) (south : Bool) :
    UncertaintyInputs (uniformSetup record) (oneRecordDict south) south [record] [.num 75]
      [.num 0] where
  hemisphere := ⟨_, rfl, by cases south <;> decide⟩
  latitudes := ⟨_, rfl, rfl⟩
  longitudes := ⟨_, rfl, rfl⟩
  terrainAnt _ := ⟨_, rfl, rfl, rfl⟩
  slopeGrn _ := rfl

/-- A record in Greenland without a slope. -/
theorem storesUncertainty_north :
    StoresUncertainty (uniformSetup ⟨.nan, .nan⟩) (oneRecordDict false) false [⟨.nan, .nan⟩] :=
  (storesUncertainty_iff interpolatesLinearly_polyline (oneRecordDict_inputs _ false)).mpr
    fun hsouth => absurd hsouth Bool.false_ne_true

/-- **A record in Antarctica without a slope** has an uncertainty of 1. -/
theorem uncertainty_antarcticNan :
    UncertaintyInputs (uniformSetup ⟨.nan, .num 0⟩) (oneRecordDict true) true
        [⟨.nan, .num 0⟩] [.num 75] [.num 0] ∧
      (uniformSetup ⟨.nan, .num 0⟩).process (oneRecordDict true) =
        .ok (.success "" [("uncertainty", .floats [.num 1])]) ∧
      ¬ StoresUncertainty (uniformSetup ⟨.nan, .num 0⟩) (oneRecordDict true) true
        [⟨.nan, .num 0⟩] := by
  have hinputs := oneRecordDict_inputs ⟨.nan, .num 0⟩ true
  refine ⟨hinputs, hinputs.process_south, fun hstores => ?_⟩
  rw [storesUncertainty_iff_forall hinputs.process_south] at hstores
  have hcorrect := hstores _ (List.mem_singleton_self _)
  exact (uncertaintyCorrect_south_iff _ _).mp hcorrect (.inl rfl)

end Clev2er.Cryotempo
