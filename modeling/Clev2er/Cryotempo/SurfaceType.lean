import Clev2er.Cryotempo.TrackSelection
import Clev2er.Lib.IndexArray

/-!
# Surface types

`alg_surface_type` with its array updated in place: the locations of the source
values are taken before the update, the locations of the Cryo-TEMPO values after it,
and the decision to skip the file uses the first. `surfaceTypeInPlace_eq` says that
the updates come to one table of values; `surfaceTypeCorrect_iff` says for which
files the decision to skip is the documented one.
-/

namespace Clev2er.Cryotempo

open Clev2er.Lib Clev2er.Retrack Clev2er.Breakpoints Clev2er.Masks

/-! ## The updates in place -/

/-- The mapping of `surface_type_20_ku` to Cryo-TEMPO values. -/
def remapSurfaceType (south : Bool) (surfaceType : List Nat) : List Nat :=
  let icefreeLandLocations := locationsOf 1 surfaceType
  let groundedIceLocations := locationsOf 2 surfaceType
  let floatingIceLocations := locationsOf 3 surfaceType
  let surfaceType := assignAt icefreeLandLocations 3 surfaceType
  let surfaceType := assignAt groundedIceLocations 1 surfaceType
  let surfaceType := assignAt floatingIceLocations 2 surfaceType
  if south then assignAt (locationsOf 4 surfaceType) 1 surfaceType else surfaceType

/-- `alg_surface_type`, statement by statement. -/
def surfaceTypeInPlace (antarcticSurfaceMask : Option Mask) (greenlandSurfaceMask : Mask)
    (d : Dict) : Except PyExc Outcome :=
  match get? "hemisphere" d with
  | none => .ok (.failure "hemisphere not set in shared_dict")
  | some hemisphere => do
      let south := decide (hemisphere = .text "south")
      let surfaceMask := if south then antarcticSurfaceMask else some greenlandSurfaceMask
      let lats ← (← item d "lats_nadir").samples
      let lons ← (← item d "lons_nadir").samples
      let surfaceType ← maskedSurfaceType surfaceMask lats lons
      let icefreeLandLocations := locationsOf 1 surfaceType
      let groundedIceLocations := locationsOf 2 surfaceType
      let floatingIceLocations := locationsOf 3 surfaceType
      let cryotempoSurfaceType := remapSurfaceType south surfaceType
      -- the locations of the source values
      if groundedIceLocations.length + floatingIceLocations.length +
          icefreeLandLocations.length = 0 then
        let name ← (← item d "l1b_file_name").asText
        .ok (.failure ("SKIP_OK, No grounded or floating ice or icefree_land in file " ++ name))
      else
        let totalRecords ← (← item d "num_20hz_records").asInt
        if totalRecords = 0 then .error zeroDivision
        else
          .ok (.success ""
            [("cryotempo_surface_type", .nats .uint8 cryotempoSurfaceType),
              ("ocean_locations", .nats .int64 (locationsOf 0 cryotempoSurfaceType)),
              ("grounded_ice_locations", .nats .int64 (locationsOf 1 cryotempoSurfaceType)),
              ("floating_ice_locations", .nats .int64 (locationsOf 2 cryotempoSurfaceType)),
              ("icefree_land_locations", .nats .int64 (locationsOf 3 cryotempoSurfaceType)),
              ("non_grn_land_locations", .nats .int64 (locationsOf 4 cryotempoSurfaceType))])

theorem mem_locationsOf {value i : Nat} {values : List Nat} :
    i ∈ locationsOf value values ↔ i < values.length ∧ values.getD i 0 = value :=
  mem_classPositions

theorem length_locationsOf {value : Nat} {values : List Nat} :
    (locationsOf value values).length = 0 ↔ value ∉ values := by
  rw [List.length_eq_zero_iff, List.eq_nil_iff_forall_not_mem]
  constructor
  · intro hnone hmem
    obtain ⟨i, hi, rfl⟩ := List.mem_iff_getElem.mp hmem
    exact hnone i (mem_locationsOf.mpr ⟨hi, List.getD_eq_getElem _ _ hi⟩)
  · rintro hnot i hi
    obtain ⟨hlt, rfl⟩ := mem_locationsOf.mp hi
    exact hnot (getD_mem hlt 0)

theorem length_remapSurfaceType (south : Bool) (values : List Nat) :
    (remapSurfaceType south values).length = values.length := by
  unfold remapSurfaceType
  cases south <;> simp

/-- The three updates that both hemispheres make. -/
theorem getD_remapSurfaceType_false {values : List Nat} {i : Nat} (hi : i < values.length) :
    (remapSurfaceType false values).getD i 0 = cryotempoType false (values.getD i 0) := by
  have hmem : ∀ value, i ∈ locationsOf value values ↔ values.getD i 0 = value := by
    intro value
    rw [mem_locationsOf, and_iff_right hi]
  simp only [remapSurfaceType, Bool.false_eq_true, if_false]
  rw [getD_assignAt (by simpa using hi), getD_assignAt (by simpa using hi), getD_assignAt hi]
  simp only [hmem]
  generalize values.getD i 0 = value
  match value with
  | 0 => rfl
  | 1 => rfl
  | 2 => rfl
  | 3 => rfl
  | _ + 4 => rfl

/-- **The updates come to one table**: no update changes a value that another one has
written. -/
theorem remapSurfaceType_eq (south : Bool) (values : List Nat) :
    remapSurfaceType south values = values.map (cryotempoType south) := by
  apply List.ext_getElem
  · rw [length_remapSurfaceType, List.length_map]
  · intro i hi hi'
    have hlt : i < values.length := by rwa [length_remapSurfaceType] at hi
    rw [← List.getD_eq_getElem _ 0, List.getElem_map, ← List.getD_eq_getElem _ 0]
    cases south with
    | false => exact getD_remapSurfaceType_false hlt
    | true =>
        have hlake : remapSurfaceType true values =
            assignAt (locationsOf 4 (remapSurfaceType false values)) 1
              (remapSurfaceType false values) := rfl
        have hlength : i < (remapSurfaceType false values).length := by
          rwa [length_remapSurfaceType]
        rw [hlake, getD_assignAt hlength]
        simp only [mem_locationsOf, and_iff_right hlength, getD_remapSurfaceType_false hlt]
        generalize values.getD i 0 = value
        match value with
        | 0 => rfl
        | 1 => rfl
        | 2 => rfl
        | 3 => rfl
        | 4 => rfl
        | _ + 5 => rfl

/-- The updates in place store what `surfaceType` says. -/
theorem surfaceTypeInPlace_eq (antarcticSurfaceMask : Option Mask) (greenlandSurfaceMask : Mask)
    (d : Dict) :
    surfaceTypeInPlace antarcticSurfaceMask greenlandSurfaceMask d =
      surfaceType antarcticSurfaceMask greenlandSurfaceMask d := by
  rw [surfaceTypeInPlace, surfaceType]
  cases get? "hemisphere" d with
  | none => rfl
  | some hemisphere => simp only [remapSurfaceType_eq]

/-! ## The documented values -/

/-- The Cryo-TEMPO values of the documentation, each with a source value. -/
def documentedTypes (south : Bool) : List (Nat × Nat) :=
  if south then [(0, 0), (1, 2), (1, 4), (2, 3), (3, 1)]
  else [(0, 0), (1, 2), (2, 3), (3, 1), (4, 4)]

/-- The table of the code is the documented one. -/
theorem mem_documentedTypes {south : Bool} {type value : Nat} :
    (type, value) ∈ documentedTypes south ↔ value ≤ 4 ∧ type = cryotempoType south value := by
  match value with
  | 0 => cases south <;> simp [documentedTypes, cryotempoType]
  | 1 => cases south <;> simp [documentedTypes, cryotempoType]
  | 2 => cases south <;> simp [documentedTypes, cryotempoType]
  | 3 => cases south <;> simp [documentedTypes, cryotempoType]
  | 4 => cases south <;> simp [documentedTypes, cryotempoType]
  | n + 5 => cases south <;> simp [documentedTypes]

theorem cryotempoType_le (south : Bool) {value : Nat} (h : value ≤ 4) :
    cryotempoType south value ≤ 4 := by
  match value with
  | 0 | 1 | 2 | 3 | 4 => cases south <;> decide
  | n + 5 => omega

/-- A mask whose cells hold the values 0 to 4. -/
def BedMachine (m : Mask) : Prop :=
  ∃ g, m.area = .grid g ∧ ∀ row ∈ g.cells, ∀ cell ∈ row, cell ≤ 4

theorem getD_le {xs : List Nat} {k : Nat} (h : ∀ x ∈ xs, x ≤ k) (i : Nat) : xs.getD i 0 ≤ k := by
  by_cases hi : i < xs.length
  · exact h _ (getD_mem hi 0)
  · rw [List.getD_eq_default _ _ (Nat.le_of_not_lt hi)]
    exact Nat.zero_le k

theorem cellAt_le {g : MaskGrid} (hcells : ∀ row ∈ g.cells, ∀ cell ∈ row, cell ≤ 4) {x y : Coord}
    {cell : Nat} (h : g.cellAt x y = .ok (some cell)) : cell ≤ 4 := by
  rw [MaskGrid.cellAt] at h
  rcases hx : x.toIndex g.minxm g.binsize with e | ii
  · rw [hx] at h
    cases h
  rcases hy : y.toIndex g.minym g.binsize with e | jj
  · rw [hx, hy] at h
    cases h
  rw [hx, hy] at h
  simp only at h
  split at h
  · cases h
  · split at h
    · cases h
    · cases h
      apply getD_le
      by_cases hj : jj.toNat < g.cells.length
      · exact hcells _ (getD_mem hj [])
      · rw [List.getD_eq_default _ _ (Nat.le_of_not_lt hj)]
        exact fun x hx => absurd hx List.not_mem_nil

/-- The source values of the records. -/
theorem BedMachine.gridMaskValues {m : Mask} (hm : BedMachine m) {lats lons : List Sample}
    {values : List Nat} (h : m.gridMaskValues lats lons 0 = .ok values) :
    values.length = (lats.zip lons).length ∧ ∀ value ∈ values, value ≤ 4 := by
  obtain ⟨g, harea, hcells⟩ := hm
  simp only [Mask.gridMaskValues, harea] at h
  obtain ⟨hlength, hentry⟩ := forEach_ok (WithNan.nan, WithNan.nan) 0 h
  refine ⟨hlength, ?_⟩
  intro value hvalue
  obtain ⟨i, hi, rfl⟩ := List.mem_iff_getElem.mp hvalue
  have hbody := hentry i (hlength ▸ hi)
  rw [List.getD_eq_getElem values _ hi] at hbody
  split at hbody
  · exact (Except.ok.inj hbody) ▸ Nat.zero_le 4
  · split at hbody
    · cases hbody
    · next cell hcell =>
      obtain hbody := Except.ok.inj hbody
      cases cell with
      | none => exact hbody ▸ Nat.zero_le 4
      | some cell => exact hbody ▸ cellAt_le hcells hcell

/-! ## What `alg_surface_type` returns -/

/-- The entries of the dictionary that `alg_surface_type` reads. -/
structure SurfaceInputs (d : Dict) (south : Bool) (lats lons : List Sample) (name : String) :
    Prop where
  hemisphere : ∃ v, get? "hemisphere" d = some v ∧ south = decide (v = .text "south")
  latsNadir : get? "lats_nadir" d = some (.floats lats)
  lonsNadir : get? "lons_nadir" d = some (.floats lons)
  length_lons : lons.length = lats.length
  l1bFileName : get? "l1b_file_name" d = some (.text name)
  numRecords : get? "num_20hz_records" d = some (.leaf (.pyInt lats.length))

section Result

variable {antarcticSurfaceMask greenlandSurfaceMask : Mask} {d : Dict} {south : Bool}
  {lats lons : List Sample} {name : String} {values : List Nat}

theorem item_of_get? {key : String} {v : Value} (h : get? key d = some v) : item d key = .ok v := by
  rw [item, h]

/-- A file without ice or ice-free land among its source values is skipped; otherwise
the Cryo-TEMPO values and the locations are stored. -/
theorem surfaceTypeInPlace_run (hd : SurfaceInputs d south lats lons name)
    (hvalues : (if south then antarcticSurfaceMask else greenlandSurfaceMask).gridMaskValues
      lats lons 0 = .ok values) (hlength : values.length = lats.length) :
    surfaceTypeInPlace (some antarcticSurfaceMask) greenlandSurfaceMask d =
      if 1 ∉ values ∧ 2 ∉ values ∧ 3 ∉ values then
        .ok (.failure ("SKIP_OK, No grounded or floating ice or icefree_land in file " ++ name))
      else
        .ok (.success ""
          [("cryotempo_surface_type", .nats .uint8 (remapSurfaceType south values)),
            ("ocean_locations", .nats .int64 (locationsOf 0 (remapSurfaceType south values))),
            ("grounded_ice_locations", .nats .int64 (locationsOf 1 (remapSurfaceType south values))),
            ("floating_ice_locations", .nats .int64 (locationsOf 2 (remapSurfaceType south values))),
            ("icefree_land_locations", .nats .int64 (locationsOf 3 (remapSurfaceType south values))),
            ("non_grn_land_locations",
              .nats .int64 (locationsOf 4 (remapSurfaceType south values)))]) := by
  obtain ⟨v, hv, hsouth⟩ := hd.hemisphere
  have hmask : maskedSurfaceType
      (if south then some antarcticSurfaceMask else some greenlandSurfaceMask) lats lons =
      .ok values := by
    cases south
    · exact hvalues
    · exact hvalues
  have hcount : (locationsOf 2 values).length + (locationsOf 3 values).length +
      (locationsOf 1 values).length = 0 ↔ 1 ∉ values ∧ 2 ∉ values ∧ 3 ∉ values := by
    rw [← length_locationsOf, ← length_locationsOf, ← length_locationsOf]
    omega
  simp only [surfaceTypeInPlace, hv, ← hsouth, item_of_get? hd.latsNadir,
    item_of_get? hd.lonsNadir, item_of_get? hd.l1bFileName, item_of_get? hd.numRecords, bind,
    Except.bind]
  simp only [Value.floats, Value.array, Value.text, Value.samples, Value.asText, Value.asInt, hmask,
    hcount]
  by_cases hskip : 1 ∉ values ∧ 2 ∉ values ∧ 3 ∉ values
  · rw [if_pos hskip, if_pos hskip]
  · rw [if_neg hskip, if_neg hskip, if_neg]
    -- a file with a record has a positive number of them
    rw [← hlength, Nat.cast_eq_zero, List.length_eq_zero_iff]
    rintro rfl
    simp at hskip

/-- What a successful `alg_surface_type` has stored, for the source values of the
records: the documented values, and location arrays that split the records by them. -/
def SurfaceClassified (south : Bool) (values : List Nat) (stored : List (String × Value)) : Prop :=
  ∃ types ocean groundedIce floatingIce icefreeLand nonGrnLand,
    stored =
      [("cryotempo_surface_type", .nats .uint8 types), ("ocean_locations", .nats .int64 ocean),
        ("grounded_ice_locations", .nats .int64 groundedIce),
        ("floating_ice_locations", .nats .int64 floatingIce),
        ("icefree_land_locations", .nats .int64 icefreeLand),
        ("non_grn_land_locations", .nats .int64 nonGrnLand)] ∧
    types.length = values.length ∧
    (∀ i < values.length, (types.getD i 0, values.getD i 0) ∈ documentedTypes south) ∧
    (∀ i ∈ ocean, types.getD i 0 = 0) ∧ (∀ i ∈ groundedIce, types.getD i 0 = 1) ∧
    (∀ i ∈ floatingIce, types.getD i 0 = 2) ∧ (∀ i ∈ icefreeLand, types.getD i 0 = 3) ∧
    (∀ i ∈ nonGrnLand, types.getD i 0 = 4) ∧
    (ocean ++ groundedIce ++ floatingIce ++ icefreeLand ++ nonGrnLand).Perm
      (List.range values.length)

theorem classPositions_remap (c : Nat) :
    classPositions (fun i => (remapSurfaceType south values).getD i 0) values.length c =
      locationsOf c (remapSurfaceType south values) := by
  rw [locationsOf, length_remapSurfaceType]
  rfl

theorem surfaceClassified_remap (hle : ∀ value ∈ values, value ≤ 4) :
    SurfaceClassified south values
      [("cryotempo_surface_type", .nats .uint8 (remapSurfaceType south values)),
        ("ocean_locations", .nats .int64 (locationsOf 0 (remapSurfaceType south values))),
        ("grounded_ice_locations", .nats .int64 (locationsOf 1 (remapSurfaceType south values))),
        ("floating_ice_locations", .nats .int64 (locationsOf 2 (remapSurfaceType south values))),
        ("icefree_land_locations", .nats .int64 (locationsOf 3 (remapSurfaceType south values))),
        ("non_grn_land_locations",
          .nats .int64 (locationsOf 4 (remapSurfaceType south values)))] := by
  have hentry : ∀ i < values.length, (remapSurfaceType south values).getD i 0 =
      cryotempoType south (values.getD i 0) := by
    intro i hi
    rw [remapSurfaceType_eq, getD_map_of_lt _ hi]
  have hvalue : ∀ c, ∀ i ∈ locationsOf c (remapSurfaceType south values),
      (remapSurfaceType south values).getD i 0 = c := fun c i hi => (mem_locationsOf.mp hi).2
  refine ⟨_, _, _, _, _, _, rfl, length_remapSurfaceType .., ?_, hvalue 0, hvalue 1, hvalue 2,
    hvalue 3, hvalue 4, ?_⟩
  · intro i hi
    exact mem_documentedTypes.mpr ⟨hle _ (getD_mem hi 0), hentry i hi⟩
  · have hclass : ∀ i < (remapSurfaceType south values).length,
        (remapSurfaceType south values).getD i 0 < 5 := by
      intro i hi
      rw [length_remapSurfaceType] at hi
      rw [hentry i hi]
      exact Nat.lt_succ_of_le (cryotempoType_le south (hle _ (getD_mem hi 0)))
    have hperm := classPositions_perm hclass
    rw [length_remapSurfaceType] at hperm
    simpa only [List.range_succ, List.range_zero, List.nil_append, List.flatMap_append,
      List.flatMap_singleton, classPositions_remap] using hperm

/-- **The classification is correct**: what is stored on success, and a file is skipped
just if no record is grounded ice, floating ice or ice-free land. -/
structure SurfaceTypeCorrect (antarcticSurfaceMask greenlandSurfaceMask : Mask) (d : Dict)
    (south : Bool) (values : List Nat) : Prop where
  classified : ∀ message stored,
    surfaceTypeInPlace (some antarcticSurfaceMask) greenlandSurfaceMask d =
      .ok (.success message stored) → SurfaceClassified south values stored
  skipped : (∃ reason, surfaceTypeInPlace (some antarcticSurfaceMask) greenlandSurfaceMask d =
      .ok (.failure ("SKIP_OK" ++ reason))) ↔
    ∀ value ∈ values, ∀ type, (type, value) ∈ documentedTypes south →
      type ≠ 1 ∧ type ≠ 2 ∧ type ≠ 3

/-- Grounded ice of Lake Vostok in a file without any other ice or ice-free land. -/
def OnlyLakeVostok (south : Bool) (values : List Nat) : Prop :=
  south = true ∧ 4 ∈ values ∧ 1 ∉ values ∧ 2 ∉ values ∧ 3 ∉ values

/-- The documented decision to skip, by source values. -/
theorem skip_documented_iff (hle : ∀ value ∈ values, value ≤ 4) :
    (∀ value ∈ values, ∀ type, (type, value) ∈ documentedTypes south →
        type ≠ 1 ∧ type ≠ 2 ∧ type ≠ 3) ↔
      (1 ∉ values ∧ 2 ∉ values ∧ 3 ∉ values) ∧ ¬ (south = true ∧ 4 ∈ values) := by
  constructor
  · intro h
    have hland : ∀ value, (value = 1 ∨ value = 2 ∨ value = 3) → value ∉ values := by
      rintro value hvalue hmem
      have htype := h value hmem (cryotempoType south value)
        (mem_documentedTypes.mpr ⟨by omega, rfl⟩)
      rcases hvalue with rfl | rfl | rfl <;> cases south <;> simp [cryotempoType] at htype
    refine ⟨⟨hland 1 (by decide), hland 2 (by decide), hland 3 (by decide)⟩, ?_⟩
    rintro ⟨rfl, hmem⟩
    exact (h 4 hmem 1 (by decide)).1 rfl
  · rintro ⟨⟨hland, hgrounded, hfloating⟩, hlake⟩ value hvalue type htype
    obtain ⟨-, rfl⟩ := mem_documentedTypes.mp htype
    have hvalue' := hle value hvalue
    match value with
    | 0 => cases south <;> decide
    | 1 => exact absurd hvalue hland
    | 2 => exact absurd hvalue hgrounded
    | 3 => exact absurd hvalue hfloating
    | 4 =>
        cases south
        · decide
        · exact absurd ⟨rfl, hvalue⟩ hlake
    | n + 5 => omega

/-- **The classification is correct but for files whose only ice is Lake Vostok**, which
are skipped although their records are grounded ice. -/
theorem surfaceTypeCorrect_iff (hd : SurfaceInputs d south lats lons name)
    (hmask : BedMachine (if south then antarcticSurfaceMask else greenlandSurfaceMask))
    (hvalues : (if south then antarcticSurfaceMask else greenlandSurfaceMask).gridMaskValues
      lats lons 0 = .ok values) :
    SurfaceTypeCorrect antarcticSurfaceMask greenlandSurfaceMask d south values ↔
      ¬ OnlyLakeVostok south values := by
  obtain ⟨hlength, hle⟩ := hmask.gridMaskValues hvalues
  rw [List.length_zip, hd.length_lons, Nat.min_self] at hlength
  have hrun := surfaceTypeInPlace_run hd hvalues hlength
  have hreason : "SKIP_OK, No grounded or floating ice or icefree_land in file " ++ name =
      "SKIP_OK" ++ (", No grounded or floating ice or icefree_land in file " ++ name) := by
    rw [← String.append_assoc]
    rfl
  have hskipped : (∃ reason, surfaceTypeInPlace (some antarcticSurfaceMask) greenlandSurfaceMask d =
      .ok (.failure ("SKIP_OK" ++ reason))) ↔ 1 ∉ values ∧ 2 ∉ values ∧ 3 ∉ values := by
    rw [hrun]
    split
    · next hnone =>
      rw [hreason]
      exact iff_of_true ⟨_, rfl⟩ hnone
    · next hsome =>
      refine iff_of_false ?_ hsome
      rintro ⟨reason, h⟩
      cases h
  have hstored : ∀ message stored,
      surfaceTypeInPlace (some antarcticSurfaceMask) greenlandSurfaceMask d =
        .ok (.success message stored) → SurfaceClassified south values stored := by
    intro message stored h
    rw [hrun] at h
    split at h
    · cases h
    · cases h
      exact surfaceClassified_remap hle
  constructor
  · rintro ⟨-, hdocumented⟩ ⟨hsouth, hlake, hnone⟩
    exact ((skip_documented_iff hle).mp (hdocumented.mp (hskipped.mpr hnone))).2 ⟨hsouth, hlake⟩
  · intro hlake
    refine ⟨hstored, ?_⟩
    rw [hskipped, skip_documented_iff hle]
    constructor
    · exact fun hnone => ⟨hnone, fun h => hlake ⟨h.1, h.2, hnone⟩⟩
    · exact fun h => h.1

end Result

/-! ## Two files of the south -/

/-- A mask of one cell, and every point in it. -/
def oneTypeGrid (cell : Fin 5) : MaskGrid where
  minxm := 0
  minym := 0
  binsize := 1
  numX := 1
  numY := 1
  cells := [[cell]]
  length_cells := List.length_singleton
  length_row := by simp
  cell_lt := by
    intro row hrow x hx
    rw [List.mem_singleton.mp hrow, List.mem_singleton] at hx
    omega

def oneTypeMask (cell : Fin 5) : Mask where
  area := .grid (oneTypeGrid cell)
  basinNumbers := []
  latlonToXy _ _ := (.finite 0, .finite 0)

/-- The dictionary of a file of the south with one record. -/
def vostokDict : Dict :=
  .leaf "l1b_file_name" (.str "CS_vostok.nc") <|
  .leaf "num_20hz_records" (.pyInt 1) <|
  .leaf "hemisphere" (.str "south") <|
  .leaf "lats_nadir" (.array ⟨.float64, [1], [.num (-77)]⟩) <|
  .leaf "lons_nadir" (.array ⟨.float64, [1], [.num 106]⟩) .nil

theorem vostokDict_inputs :
    SurfaceInputs vostokDict true [.num (-77)] [.num 106] "CS_vostok.nc" where
  hemisphere := ⟨.text "south", rfl, rfl⟩
  latsNadir := rfl
  lonsNadir := rfl
  length_lons := rfl
  l1bFileName := rfl
  numRecords := rfl

theorem oneTypeMask_bedMachine (cell : Fin 5) : BedMachine (oneTypeMask cell) := by
  refine ⟨oneTypeGrid cell, rfl, ?_⟩
  intro row hrow x hx
  rw [List.mem_singleton.mp hrow, List.mem_singleton] at hx
  omega

theorem oneTypeMask_values (cell : Fin 5) (lat lon : Sample) :
    (oneTypeMask cell).gridMaskValues [lat] [lon] 0 = .ok [cell.val] := by
  norm_num [Mask.gridMaskValues, oneTypeMask, oneTypeGrid, forEach, Coord.isFinite,
    MaskGrid.cellAt, Coord.toIndex, around]

/-! ### A record of each type -/

/-- A row of cells, one of each source value. -/
def allTypesGrid : MaskGrid where
  minxm := 0
  minym := 0
  binsize := 1
  numX := 5
  numY := 1
  cells := [[0, 1, 2, 3, 4]]
  length_cells := List.length_singleton
  length_row := by simp
  cell_lt := by simp

/-- The mask of these cells, along the longitude. -/
def allTypesMask : Mask where
  area := .grid allTypesGrid
  basinNumbers := []
  latlonToXy _ lon :=
    match lon with
    | .num x => (.finite x, .finite 0)
    | .nan => (.nan, .nan)

/-- The dictionary of a file of the south with a record over each cell. -/
def allTypesDict : Dict :=
  .leaf "l1b_file_name" (.str "CS_coast.nc") <|
  .leaf "num_20hz_records" (.pyInt 5) <|
  .leaf "hemisphere" (.str "south") <|
  .leaf "lats_nadir" (.array ⟨.float64, [5], List.replicate 5 (.num (-77))⟩) <|
  .leaf "lons_nadir"
    (.array ⟨.float64, [5], [.num 4, .num 3, .num 2, .num 1, .num 0]⟩) .nil

theorem allTypesDict_inputs :
    SurfaceInputs allTypesDict true (List.replicate 5 (.num (-77)))
      [.num 4, .num 3, .num 2, .num 1, .num 0] "CS_coast.nc" where
  hemisphere := ⟨.text "south", rfl, rfl⟩
  latsNadir := rfl
  lonsNadir := rfl
  length_lons := rfl
  l1bFileName := rfl
  numRecords := rfl

theorem allTypesMask_bedMachine : BedMachine allTypesMask := by
  refine ⟨allTypesGrid, rfl, ?_⟩
  simp [allTypesGrid]

/-- A track over Lake Vostok, floating ice, grounded ice, ice-free land and ocean. -/
theorem surfaceTypeCorrect_allTypes :
    SurfaceTypeCorrect allTypesMask (oneTypeMask 0) allTypesDict true [4, 3, 2, 1, 0] :=
  (surfaceTypeCorrect_iff allTypesDict_inputs allTypesMask_bedMachine (by decide +kernel)).mpr
    fun h => by simp [OnlyLakeVostok] at h

/-! ### A record on Lake Vostok -/

/-- **A record on Lake Vostok** is grounded ice, and its file is skipped. -/
theorem surfaceType_lakeVostok :
    ¬ SurfaceTypeCorrect (oneTypeMask 4) (oneTypeMask 0) vostokDict true [4] := by
  intro hcorrect
  have hskipped : ∃ reason, surfaceTypeInPlace (some (oneTypeMask 4)) (oneTypeMask 0) vostokDict =
      .ok (.failure ("SKIP_OK" ++ reason)) := by
    refine ⟨", No grounded or floating ice or icefree_land in file CS_vostok.nc", ?_⟩
    exact surfaceTypeInPlace_run vostokDict_inputs (oneTypeMask_values 4 _ _) rfl
  exact (hcorrect.skipped.mp hskipped 4 (List.mem_singleton_self 4) 1 (by decide)).1 rfl

end Clev2er.Cryotempo
