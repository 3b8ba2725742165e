import Clev2er.Cryotempo.BreakpointAfter
import Clev2er.Cryotempo.ProductOutput
import Clev2er.Cryotempo.RecordArrays
import Clev2er.Lib.Pipeline

/-!
# What the algorithms read and write

`Alg.reads` and `Alg.keyLists` are the keys of the shared dictionary that each
`process()` reads, and those it stores. It looks at nothing else of the dictionary
(`processOf_local`) and stores nothing else (`processOf_keys`), so a run of the chain is
a pipeline over the dictionary (`algFlow`).
-/

namespace Clev2er.Cryotempo

open Clev2er.Lib Clev2er.Retrack Clev2er.Breakpoints Clev2er.Masks Clev2er.RunChain

/-! ## The keys -/

/-- The keys that `alg_product_output` reads. -/
def productKeys : List String :=
  ["hemisphere", "longitudes", "instr_mode", "l1b_file_name", "lats_nadir", "latitudes",
    "height_20_ku", "height_filt", "sig0_20_ku", "cryotempo_surface_type", "dem_elevation_values",
    "basin_mask_values_zwally", "basin_mask_values_mouginot", "basin_mask_values_rignot",
    "uncertainty", "relocation_distance"]

/-- The keys that an algorithm reads. -/
def Alg.reads : Alg → List String
  | .identifyFile => []
  | .skipOnMode => ["instr_mode"]
  | .skipOnAreaBounds => ["instr_mode", "hemisphere"]
  | .surfaceType =>
      ["hemisphere", "lats_nadir", "lons_nadir", "l1b_file_name", "num_20hz_records"]
  | .dilatedCoastalMask => ["hemisphere", "lats_nadir", "lons_nadir", "num_20hz_records"]
  | .fes2014bTideCorrection => ["l1b_file_name", "instr_mode", "num_20hz_records"]
  | .cats2008aTideCorrection =>
      ["hemisphere", "instr_mode", "floating_ice_locations", "ocean_locations", "l1b_file_name",
        "num_20hz_records"]
  | .geoCorrections =>
      ["fes2014b_corrections", "cats_tide_required", "cats_tide", "floating_ice_locations",
        "ocean_locations", "hemisphere", "instr_mode"]
  | .waveformQuality => ["instr_mode", "dilated_surface_mask"]
  | .retrack => ["waveforms_to_include", "instr_mode", "sum_cor_20_ku"]
  | .backscatter => ["pwr_at_rtrk_point", "range_cor_20_ku", "instr_mode"]
  | .geolocateLrm => ["instr_mode", "cryotempo_surface_type", "range_cor_20_ku"]
  | .geolocateRoemer =>
      ["instr_mode", "hemisphere", "cryotempo_surface_type", "geo_corrected_tracker_range",
        "retracker_correction", "waveforms_to_include"]
  | .geolocateSin => ["instr_mode", "range_cor_20_ku", "ind_wfm_retrack_20_ku"]
  | .basinIds | .refDem | .uncertainty => ["hemisphere", "latitudes", "longitudes"]
  | .filterHeight => ["height_20_ku", "dem_elevation_values", "hemisphere", "instr_mode"]
  | .productOutput => productKeys

/-- The keys of a geolocation. -/
def pocaKeys : List String :=
  ["lat_poca_20_ku", "lon_poca_20_ku", "height_20_ku", "latitudes", "longitudes"]

/-- The keys that an algorithm may store, in their order, for a dictionary in which the
instrument mode is `mode`. -/
def Alg.keyLists (mode : Option Value) : Alg → List (List String)
  | .identifyFile => [["num_20hz_records", "instr_mode"]]
  | .skipOnMode => [[]]
  | .skipOnAreaBounds =>
      [["hemisphere", "lats_nadir", "lons_nadir"], ["lats_nadir", "lons_nadir"]]
  | .surfaceType =>
      [["cryotempo_surface_type", "ocean_locations", "grounded_ice_locations",
        "floating_ice_locations", "icefree_land_locations", "non_grn_land_locations"]]
  | .dilatedCoastalMask => [["dilated_surface_mask"]]
  | .fes2014bTideCorrection => [["fes2014b_corrections"]]
  | .cats2008aTideCorrection =>
      [["cats_tide_required"], ["cats_tide_required", "cats_tide", "cats_tide_required"]]
  | .geoCorrections => [["invalid_corrections_locs", "sum_cor_20_ku"]]
  | .waveformQuality => [["waveforms_to_include"]]
  | .retrack =>
      [["ind_wfm_retrack_20_ku", "pwr_at_rtrk_point", "leading_edge_start", "leading_edge_stop",
        "geo_corrected_tracker_range", "retracker_correction", "range_cor_20_ku",
        "num_retracker_failures", "percent_retracker_failure"]]
  | .backscatter => [["sig0_20_ku"]]
  | .geolocateLrm => if mode = some (.text "LRM") then [pocaKeys] else [[]]
  | .geolocateRoemer =>
      if mode = some (.text "LRM") then
        [["lat_poca_20_ku", "lon_poca_20_ku", "latitudes", "longitudes", "height_20_ku",
          "roemer_slope_ok", "relocation_distance"]]
      else [[]]
  | .geolocateSin => if mode = some (.text "SIN") then [pocaKeys] else [[]]
  | .basinIds =>
      [["basin_mask_values_rignot", "basin_mask_values_zwally", "basin_mask_values_mouginot"]]
  | .refDem => [["dem_elevation_values"]]
  | .filterHeight => [["height_filt"]]
  | .uncertainty => [["uncertainty"]]
  | .productOutput => [["product_filename"]]

/-- The keys that an algorithm stores in some mode. -/
def Alg.writes (alg : Alg) : List String :=
  (alg.keyLists (some (.text "LRM")) ++ alg.keyLists (some (.text "SIN"))).flatten

/-! ## Nothing else is read -/

section Reads

variable {c : CryotempoChain} {p : L1bProduct} {d d' : Dict}

/-- Two dictionaries have the same values for some keys. -/
def AgreeOn (keys : List String) (d d' : Dict) : Prop := ∀ key ∈ keys, get? key d = get? key d'

theorem AgreeOn.item {keys : List String} (h : AgreeOn keys d d') (key : String)
    (hkey : key ∈ keys) : item d key = item d' key := by
  rw [Cryotempo.item, Cryotempo.item, h key hkey]

theorem AgreeOn.hasKey {keys : List String} (h : AgreeOn keys d d') (key : String)
    (hkey : key ∈ keys) : hasKey d key = hasKey d' key := by
  rw [Cryotempo.hasKey, Cryotempo.hasKey, h key hkey]

/-- What `writeProduct` of the chain looks at. -/
def WriterLocal (c : CryotempoChain) : Prop :=
  ∀ p d d', AgreeOn productKeys d d' → c.writeProduct p d = c.writeProduct p d'

theorem productOf_local {w : ProductWriter} (h : AgreeOn productKeys d d') :
    productOf w p d = productOf w p d' := by
  have hitem : ∀ key ∈ productKeys, Cryotempo.item d key = Cryotempo.item d' key :=
    h.item
  simp only [productKeys, List.forall_mem_cons] at hitem
  obtain ⟨hhem, hlon, hmode, hname, hnadir, hlat, hheight, hfilt, hsig, htype, hdem, hzwally,
    hmouginot, hrignot, hunc, hreloc, -⟩ := hitem
  have hhas : Cryotempo.hasKey d "relocation_distance" = Cryotempo.hasKey d' "relocation_distance" :=
    h.hasKey _ (by decide)
  have hbasin : ∀ b : Prop, [Decidable b] →
      Cryotempo.item d (if b then "basin_mask_values_zwally" else "basin_mask_values_mouginot") =
        Cryotempo.item d' (if b then "basin_mask_values_zwally" else "basin_mask_values_mouginot") := by
    intro b _
    split
    · exact hzwally
    · exact hmouginot
  have hattrs : ∀ times, productAttributes w p times d = productAttributes w p times d' := by
    intro times
    simp only [productAttributes, hlon, hmode, hname, hnadir, hlat, hheight, hhem]
  have hadditional : ∀ n, additionalVariables w n d = additionalVariables w n d' := by
    intro n
    simp only [additionalVariables, relocationVariable, doubleVariable, copiedVariable, hhas,
      hreloc]
  have hvars : ∀ times, productVariables w times d = productVariables w times d' := by
    intro times
    simp only [productVariables, doubleVariable, byteVariable, copiedVariable, hlat, hlon, hmode,
      hfilt, hsig, htype, hdem, hhem, hbasin, hrignot, hunc, hadditional]
  simp only [productOf, hhem, hattrs, hvars]

theorem writerLocal_writeProduct {w : ProductWriter} (h : c.writeProduct = writeProduct w) :
    WriterLocal c := by
  intro p d d' hagree
  rw [h, writeProduct, writeProduct, productOf_local hagree]

/-- **`process()` looks at its keys only.** -/
theorem processOf_local (hw : WriterLocal c) {alg : Alg} (h : AgreeOn alg.reads d d') :
    processOf c p alg d = processOf c p alg d' := by
  have hget := h
  have hitem := h.item
  cases alg with
  | identifyFile => rfl
  | skipOnMode => simp only [processOf, skipOnMode, hget "instr_mode" (by decide)]
  | skipOnAreaBounds =>
      simp only [processOf, skipOnAreaBounds, hget "instr_mode" (by decide),
        h.hasKey "hemisphere" (by decide)]
  | surfaceType =>
      simp only [processOf, surfaceType, hget "hemisphere" (by decide),
        hitem "lats_nadir" (by decide), hitem "lons_nadir" (by decide),
        hitem "l1b_file_name" (by decide), hitem "num_20hz_records" (by decide)]
  | dilatedCoastalMask =>
      simp only [processOf, dilatedCoastalMask, hget "hemisphere" (by decide),
        hitem "lats_nadir" (by decide), hitem "lons_nadir" (by decide),
        hitem "num_20hz_records" (by decide)]
  | fes2014bTideCorrection =>
      simp only [processOf, fes2014bTideCorrection, hitem "l1b_file_name" (by decide),
        hitem "instr_mode" (by decide), hitem "num_20hz_records" (by decide)]
  | cats2008aTideCorrection =>
      simp only [processOf, cats2008aTideCorrection, hitem "hemisphere" (by decide),
        hitem "instr_mode" (by decide), hitem "floating_ice_locations" (by decide),
        hitem "ocean_locations" (by decide), hitem "l1b_file_name" (by decide),
        hitem "num_20hz_records" (by decide)]
  | geoCorrections =>
      simp only [processOf, geoCorrections, fesEntry, catsTideOf,
        hget "fes2014b_corrections" (by decide), hget "cats_tide" (by decide),
        hitem "cats_tide_required" (by decide), hitem "floating_ice_locations" (by decide),
        hitem "ocean_locations" (by decide), hitem "hemisphere" (by decide),
        hitem "instr_mode" (by decide)]
  | waveformQuality =>
      simp only [processOf, algWaveformQualityProcess, hitem "instr_mode" (by decide),
        hitem "dilated_surface_mask" (by decide)]
  | retrack =>
      simp only [processOf, algRetrackProcess, hitem "waveforms_to_include" (by decide),
        hitem "instr_mode" (by decide), hitem "sum_cor_20_ku" (by decide)]
  | backscatter =>
      simp only [processOf, algBackscatterProcess, hitem "pwr_at_rtrk_point" (by decide),
        hitem "range_cor_20_ku" (by decide), hitem "instr_mode" (by decide)]
  | geolocateLrm =>
      simp only [processOf, algGeolocateLrmProcess, hitem "instr_mode" (by decide),
        hitem "cryotempo_surface_type" (by decide), hitem "range_cor_20_ku" (by decide)]
  | geolocateRoemer =>
      simp only [processOf, algGeolocateRoemerProcess, hitem "instr_mode" (by decide),
        hitem "hemisphere" (by decide), hitem "cryotempo_surface_type" (by decide),
        hitem "geo_corrected_tracker_range" (by decide), hitem "retracker_correction" (by decide),
        hitem "waveforms_to_include" (by decide)]
  | geolocateSin =>
      simp only [processOf, algGeolocateSinProcess, hitem "instr_mode" (by decide),
        hitem "range_cor_20_ku" (by decide), hitem "ind_wfm_retrack_20_ku" (by decide)]
  | basinIds =>
      simp only [processOf, algBasinIdsProcess, hitem "hemisphere" (by decide),
        hitem "latitudes" (by decide), hitem "longitudes" (by decide)]
  | refDem =>
      simp only [processOf, algRefDemProcess, trackValues, hitem "hemisphere" (by decide),
        hitem "latitudes" (by decide), hitem "longitudes" (by decide)]
  | uncertainty =>
      simp only [processOf, algUncertaintyProcess, trackValues, hitem "hemisphere" (by decide),
        hitem "latitudes" (by decide), hitem "longitudes" (by decide)]
  | filterHeight =>
      simp only [processOf, algFilterHeightProcess, samples?, hget "height_20_ku" (by decide),
        hget "dem_elevation_values" (by decide), hitem "hemisphere" (by decide)]
  | productOutput =>
      simp only [processOf, algProductOutputProcess, hw p d d' h]

end Reads

/-! ## Nothing else is stored -/

section Writes

variable {c : CryotempoChain} {p : L1bProduct} {d : Dict}

/-- The keys of some assignments are one of some lists. -/
def KeysIn (lists : List (List String)) (stored : List (String × Value)) : Prop :=
  stored.map Prod.fst ∈ lists

theorem KeysIn.head {keys : List String} {lists : List (List String)}
    {stored : List (String × Value)} (h : stored.map Prod.fst = keys) :
    KeysIn (keys :: lists) stored :=
  List.mem_cons.mpr (.inl h)

theorem KeysIn.tail {keys : List String} {lists : List (List String)}
    {stored : List (String × Value)} (h : KeysIn lists stored) : KeysIn (keys :: lists) stored :=
  List.mem_cons_of_mem _ h

theorem skipOnAreaBounds_keys : Stores (KeysIn (Alg.keyLists (get? "instr_mode" d) .skipOnAreaBounds))
    (skipOnAreaBounds c.switches c.greenlandMask p d) := by
  unfold skipOnAreaBounds
  rcases p.firstRecordLat with _ | first
  · exact Stores.failure _
  rcases p.lastRecordLat with _ | last
  · exact Stores.failure _
  rcases get? "instr_mode" d with _ | mode
  · exact Stores.failure _
  refine Stores.ite (Stores.failure _) ?_
  rcases hemisphereFlags p.lat with ⟨south, north⟩
  cases south with
  | true =>
      cases north with
      | true => exact Stores.failure _
      | false =>
          refine Stores.ite (Stores.failure _) (Stores.ite (Stores.failure _) ?_)
          dsimp only
          rw [if_neg Bool.false_ne_true]
          exact Stores.ite (Stores.failure _) (Stores.success (KeysIn.head rfl))
  | false =>
      refine Stores.ite (Stores.failure _) (Stores.ite (Stores.failure _) ?_)
      cases north with
      | true =>
          dsimp only
          rw [if_pos rfl]
          rcases c.greenlandMask.pointsInside p.lat (p.lon.map mod360) [] with e | ⟨inside, nInside⟩
          · exact Stores.error _
          · exact Stores.ite (Stores.failure _) (Stores.success (KeysIn.head rfl))
      | false =>
          dsimp only
          rw [if_neg Bool.false_ne_true]
          exact Stores.ite (Stores.failure _) (Stores.success (KeysIn.tail (KeysIn.head rfl)))

theorem cats2008aTideCorrection_keys :
    Stores (KeysIn (Alg.keyLists (get? "instr_mode" d) .cats2008aTideCorrection))
      (cats2008aTideCorrection c.cats2008aBaseDir c.glob c.openCats d) := by
  unfold cats2008aTideCorrection
  simp only []
  refine Stores.bind fun _ _ => ?_
  split
  · exact Stores.success (KeysIn.head rfl)
  · refine Stores.bind fun _ _ => ?_
    split
    · exact Stores.bind fun _ _ => Stores.success (KeysIn.head rfl)
    · refine Stores.bind fun _ _ => Stores.bind fun _ _ => Stores.bind fun _ _ =>
        Stores.bind fun _ _ => ?_
      split
      · exact Stores.success (KeysIn.head rfl)
      · refine Stores.bind fun _ _ => Stores.bind fun _ _ => Stores.bind fun _ _ => ?_
        split
        · exact Stores.failure _
        · split
          · split
            · exact Stores.failure _
            · refine Stores.bind fun _ _ => Stores.bind fun _ _ => ?_
              split
              · exact Stores.failure _
              · exact Stores.success (KeysIn.tail (KeysIn.head rfl))
          · exact Stores.failure _

theorem trackValues_keys {key : String} {ant : Option TrackLookup} {grn : TrackLookup} :
    Stores (KeysIn [[key]]) (trackValues key ant grn d) := by
  refine Stores.bind fun _ _ => Stores.bind fun _ _ => Stores.bind fun _ _ =>
    Stores.bind fun _ _ => Stores.bind fun _ _ => ?_
  split
  · split
    · exact Stores.success (KeysIn.head rfl)
    · exact Stores.bind fun _ _ => Stores.success (KeysIn.head rfl)
  · exact Stores.bind fun _ _ => Stores.success (KeysIn.head rfl)

theorem identifyFile_keys : Stores (KeysIn [["num_20hz_records", "instr_mode"]])
    (identifyFile p) := by
  rw [identifyFile]
  split
  · exact Stores.failure _
  · split
    · exact Stores.failure _
    · exact Stores.success (KeysIn.head rfl)

theorem skipOnMode_keys : Stores (KeysIn [[]]) (skipOnMode c.switches d) := by
  rw [skipOnMode]
  split
  · exact Stores.failure _
  · exact Stores.ite (Stores.failure _) (Stores.ite (Stores.failure _)
      (Stores.ite (Stores.failure _) (Stores.success (KeysIn.head rfl))))

theorem surfaceType_keys :
    Stores (KeysIn (Alg.keyLists (get? "instr_mode" d) .surfaceType))
      (surfaceType c.antarcticSurfaceMask c.greenlandSurfaceMask d) := by
  rw [surfaceType]
  split
  · exact Stores.failure _
  · refine Stores.bind fun _ _ => Stores.bind fun _ _ => Stores.bind fun _ _ =>
      Stores.bind fun _ _ => Stores.bind fun _ _ => ?_
    split
    · exact Stores.bind fun _ _ => Stores.bind fun _ _ => Stores.failure _
    · exact Stores.bind fun _ _ => Stores.bind fun _ _ =>
        Stores.ite (Stores.error _) (Stores.success (KeysIn.head rfl))

theorem dilatedCoastalMask_keys : Stores (KeysIn [["dilated_surface_mask"]])
    (dilatedCoastalMask c.antarcticDilatedMask c.greenlandDilatedMask d) := by
  rw [dilatedCoastalMask]
  split
  · exact Stores.failure _
  · refine Stores.bind fun _ _ => Stores.bind fun _ _ => Stores.bind fun _ _ =>
      Stores.bind fun _ _ => Stores.bind fun _ _ => ?_
    exact Stores.ite (Stores.failure _) (Stores.bind fun _ _ => Stores.bind fun _ _ =>
      Stores.ite (Stores.error _) (Stores.success (KeysIn.head rfl)))

theorem fes2014bTideCorrection_keys : Stores (KeysIn [["fes2014b_corrections"]])
    (fes2014bTideCorrection c.fes2014bBaseDir c.openFes d) := by
  refine Stores.bind fun _ _ => Stores.bind fun _ _ => Stores.bind fun _ _ => ?_
  refine Stores.ite (Stores.failure _) (Stores.bind fun _ _ => Stores.bind fun _ _ => ?_)
  dsimp only
  split
  · exact Stores.failure _
  · exact Stores.bind fun _ _ => Stores.bind fun _ _ =>
      Stores.ite (Stores.failure _) (Stores.success (KeysIn.head rfl))

theorem geoCorrections_keys : Stores (KeysIn [["invalid_corrections_locs", "sum_cor_20_ku"]])
    (geoCorrections p d) := by
  rw [geoCorrections]
  split
  · refine Stores.bind fun _ _ => ?_
    split
    · exact Stores.failure _
    · refine Stores.bind fun _ _ => Stores.bind fun _ _ => Stores.bind fun _ _ =>
        Stores.bind fun _ _ => Stores.bind fun _ _ => Stores.bind fun _ _ =>
        Stores.bind fun _ _ => Stores.bind fun _ _ => ?_
      exact Stores.ite (Stores.error _) (Stores.success (KeysIn.head rfl))
  · exact Stores.failure _

theorem backscatter_keys : Stores (KeysIn [["sig0_20_ku"]]) (algBackscatterProcess c p d) := by
  refine Stores.bind fun _ _ => Stores.bind fun _ _ => Stores.bind fun _ _ =>
    Stores.bind fun _ _ => Stores.bind fun _ _ => ?_
  exact Stores.ite (Stores.bind fun _ _ => Stores.success (KeysIn.head rfl))
    (Stores.bind fun _ _ => Stores.failure _)

/-- A geolocation stores its keys where it is one of the mode, and nothing elsewhere. -/
theorem ofMode_keys {wanted message : String} {keys : List String} {x : Except PyExc Outcome}
    (hx : Stores (KeysIn [keys]) x) :
    Stores (KeysIn (if get? "instr_mode" d = some (.text wanted) then [keys] else [[]]))
      (item d "instr_mode" >>= fun mode =>
        if mode ≠ .text wanted then .ok (.success message []) else x) := by
  refine Stores.bind fun mode hmode => ?_
  rw [get?_of_item hmode]
  by_cases heq : mode = .text wanted
  · rw [if_pos (congrArg some heq), if_neg (not_not.mpr heq)]
    exact hx
  · rw [if_neg (mt Option.some.inj heq), if_pos heq]
    exact Stores.success (KeysIn.head rfl)

theorem geolocateLrm_keys : Stores (KeysIn (Alg.keyLists (get? "instr_mode" d) .geolocateLrm))
    (algGeolocateLrmProcess c p d) :=
  ofMode_keys <| Stores.bind fun _ _ => Stores.bind fun _ _ => Stores.bind fun _ _ =>
    Stores.bind fun _ _ => Stores.bind fun _ _ => Stores.success (KeysIn.head rfl)

theorem geolocateRoemer_keys :
    Stores (KeysIn (Alg.keyLists (get? "instr_mode" d) .geolocateRoemer))
      (algGeolocateRoemerProcess c p d) :=
  ofMode_keys <| Stores.bind fun _ _ => Stores.bind fun _ _ => Stores.bind fun _ _ =>
    Stores.bind fun _ _ => Stores.bind fun _ _ => Stores.bind fun _ _ =>
    Stores.bind fun _ _ => Stores.bind fun _ _ => Stores.bind fun _ _ =>
    Stores.bind fun _ _ => Stores.success (KeysIn.head rfl)

theorem geolocateSin_keys : Stores (KeysIn (Alg.keyLists (get? "instr_mode" d) .geolocateSin))
    (algGeolocateSinProcess c p d) :=
  ofMode_keys <| Stores.bind fun _ _ => Stores.bind fun _ _ => Stores.bind fun _ _ =>
    Stores.bind fun _ _ => Stores.bind fun _ _ => Stores.success (KeysIn.head rfl)

theorem basinIds_keys : Stores (KeysIn (Alg.keyLists (get? "instr_mode" d) .basinIds))
    (algBasinIdsProcess c d) := by
  refine Stores.bind fun _ _ => Stores.bind fun _ _ => Stores.bind fun _ _ =>
    Stores.bind fun _ _ => Stores.bind fun _ _ => ?_
  split
  · split
    · exact Stores.error _
    · exact Stores.error _
    · exact Stores.bind fun _ _ => Stores.bind fun _ _ => Stores.success (KeysIn.head rfl)
  · exact Stores.bind fun _ _ => Stores.bind fun _ _ => Stores.success (KeysIn.head rfl)

theorem filterHeight_keys : Stores (KeysIn [["height_filt"]]) (algFilterHeightProcess c p d) := by
  refine Stores.bind fun _ _ => Stores.bind fun _ _ => Stores.bind fun _ _ =>
    Stores.bind fun _ _ => ?_
  split
  · exact Stores.failure _
  · exact Stores.success (KeysIn.head rfl)

theorem productOutput_keys : Stores (KeysIn [["product_filename"]])
    (algProductOutputProcess c p d) := by
  refine Stores.bind fun _ _ => ?_
  split
  · exact Stores.failure _
  · exact Stores.success (KeysIn.head rfl)

/-- **`process()` stores its keys only.** -/
theorem processOf_keys (c : CryotempoChain) (p : L1bProduct) (alg : Alg) (d : Dict) :
    Stores (KeysIn (alg.keyLists (get? "instr_mode" d))) (processOf c p alg d) := by
  cases alg with
  | identifyFile => exact identifyFile_keys
  | skipOnMode => exact skipOnMode_keys
  | skipOnAreaBounds => exact skipOnAreaBounds_keys
  | surfaceType => exact surfaceType_keys
  | dilatedCoastalMask => exact dilatedCoastalMask_keys
  | fes2014bTideCorrection => exact fes2014bTideCorrection_keys
  | cats2008aTideCorrection => exact cats2008aTideCorrection_keys
  | geoCorrections => exact geoCorrections_keys
  | waveformQuality =>
      exact Stores.bind fun _ _ => Stores.bind fun _ _ => Stores.bind fun _ _ =>
        Stores.bind fun _ _ => Stores.success (KeysIn.head rfl)
  | retrack =>
      exact Stores.bind fun _ _ => Stores.bind fun _ _ => Stores.bind fun _ _ =>
        Stores.bind fun _ _ => Stores.bind fun _ _ => Stores.bind fun _ _ =>
        Stores.success (KeysIn.head rfl)
  | backscatter => exact backscatter_keys
  | geolocateLrm => exact geolocateLrm_keys
  | geolocateRoemer => exact geolocateRoemer_keys
  | geolocateSin => exact geolocateSin_keys
  | basinIds => exact basinIds_keys
  | refDem => exact trackValues_keys
  | uncertainty => exact trackValues_keys
  | filterHeight => exact filterHeight_keys
  | productOutput => exact productOutput_keys

/-- In any mode the keys are none, or those of one of the two modes. -/
theorem keyLists_cases {alg : Alg} {mode : Option Value} {keys : List String}
    (h : keys ∈ alg.keyLists mode) :
    keys = [] ∨ keys ∈ alg.keyLists (some (.text "LRM")) ++ alg.keyLists (some (.text "SIN")) := by
  cases alg with
  | geolocateLrm =>
      rw [Alg.keyLists] at h
      split at h
      · exact .inr (List.mem_append_left _ h)
      · exact .inl (List.mem_singleton.mp h)
  | geolocateRoemer =>
      rw [Alg.keyLists] at h
      split at h
      · exact .inr (List.mem_append_left _ h)
      · exact .inl (List.mem_singleton.mp h)
  | geolocateSin =>
      rw [Alg.keyLists] at h
      split at h
      · exact .inr (List.mem_append_right _ h)
      · exact .inl (List.mem_singleton.mp h)
  | _ => exact .inr (List.mem_append_left _ h)

/-- What is stored is among what the algorithm writes. -/
theorem processOf_writes {alg : Alg} :
    Stores (fun stored => ∀ e ∈ stored, e.1 ∈ alg.writes) (processOf c p alg d) := by
  intro m stored hok e he
  have hkey : e.1 ∈ stored.map Prod.fst := List.mem_map_of_mem he
  rcases keyLists_cases (processOf_keys c p alg d m stored hok) with hnil | hmem
  · rw [hnil] at hkey
    exact absurd hkey List.not_mem_nil
  · exact List.mem_flatten.mpr ⟨_, hmem, hkey⟩

end Writes

/-! ## The pipeline -/

/-- The shared dictionary as a store. -/
def dictAccess : Access Dict String Value where
  get d key := get? key d
  put := update
  get_put_of_not_mem _ _ _ h := get?_update_of_not_mem h
  get_put_of_mem stored d d' key h := by
    induction stored generalizing d d' with
    | nil =>
        obtain ⟨e, he, -⟩ := h
        exact absurd he List.not_mem_nil
    | cons first rest ih =>
        show get? key (update rest (setItem first.1 first.2 d)) =
          get? key (update rest (setItem first.1 first.2 d'))
        by_cases hrest : ∃ e ∈ rest, e.1 = key
        · exact ih _ _ hrest
        · have hnot : ∀ e ∈ rest, e.1 ≠ key := fun e he heq => hrest ⟨e, he, heq⟩
          have hfirst : first.1 = key := by
            obtain ⟨e, he, heq⟩ := h
            rcases List.mem_cons.mp he with rfl | he
            · exact heq
            · exact absurd heq (hnot e he)
          rw [get?_update_of_not_mem hnot, get?_update_of_not_mem hnot, get?_setItem,
            get?_setItem, if_pos hfirst, if_pos hfirst]

section Pipeline

variable (c : CryotempoChain) (setUp : AlgSetUp) (cfg : ChainConfig) (filenum : Nat)

/-- `init()` of an algorithm in a child process, where there are any. -/
def initSucceeds (alg : Alg) : Bool :=
  if cfg.useMultiProcessing then
    match (setUp.init alg (.child filenum)).result with
    | .ok (true, _) => true
    | _ => false
  else true

/-- What a successful `process()` stores. -/
def algStep (alg : Alg) (d : Dict) : Option (List (String × Value)) :=
  if initSucceeds setUp cfg filenum alg then
    match processOf c (c.products filenum) alg d with
    | .ok (.success _ stored) => some stored
    | _ => none
  else none

variable {c setUp cfg filenum}

/-- **A run of the chain** is a pipeline over the dictionary. -/
theorem dictAfter_eq_pipeline : ∀ (algs : List Alg) (d : Dict),
    dictAfter cfg filenum (algs.map (algClass c setUp)) d =
      pipeline dictAccess (algStep c setUp cfg filenum) algs d := by
  intro algs
  induction algs with
  | nil => exact fun _ => rfl
  | cons alg algs ih =>
      intro d
      have hinit : (algClass c setUp alg).init = setUp.init alg := rfl
      have hraise : ∀ e, processOf c (c.products filenum) alg d = .error e →
          (algClass c setUp alg).body filenum d = (d, .error e) := by
        intro e h
        simp only [algClass, h]
      have hfail : ∀ reason, processOf c (c.products filenum) alg d = .ok (.failure reason) →
          (algClass c setUp alg).body filenum d = (d, .ok (false, reason)) := by
        intro reason h
        simp only [algClass, h]
      have hsuccess : ∀ m stored, processOf c (c.products filenum) alg d = .ok (.success m stored) →
          (algClass c setUp alg).body filenum d = (update stored d, .ok (true, m)) := by
        intro m stored h
        simp only [algClass, h]
      rw [List.map_cons, dictAfter, pipeline, algStep, initSucceeds, processResult, hinit]
      cases houtcome : processOf c (c.products filenum) alg d with
      | error e =>
          rw [hraise _ houtcome]
          cases cfg.useMultiProcessing with
          | false => rfl
          | true =>
              rcases (setUp.init alg (.child filenum)).result with e' | ⟨_ | _, errorStr⟩ <;> rfl
      | ok outcome =>
          cases outcome with
          | failure reason =>
              rw [hfail _ houtcome]
              cases cfg.useMultiProcessing with
              | false => rfl
              | true =>
                  rcases (setUp.init alg (.child filenum)).result with e' | ⟨_ | _, errorStr⟩ <;> rfl
          | success m stored =>
              rw [hsuccess _ _ houtcome]
              cases cfg.useMultiProcessing with
              | false => exact ih _
              | true =>
                  rcases (setUp.init alg (.child filenum)).result with e' | ⟨_ | _, errorStr⟩
                  · rfl
                  · rfl
                  · exact ih _

/-- **The algorithms read and write their keys only.** -/
theorem algFlow (hw : WriterLocal c) :
    Flow dictAccess (algStep c setUp cfg filenum) Alg.reads Alg.writes := by
  refine ⟨?_, ?_⟩
  · intro alg d d' h
    rw [algStep, algStep, processOf_local hw h]
  · intro alg d stored h
    rw [algStep] at h
    split at h
    · split at h
      · next m stored' hok =>
        obtain rfl := Option.some.inj h
        exact processOf_writes m _ hok
      · cases h
    · cases h

end Pipeline

end Clev2er.Cryotempo
