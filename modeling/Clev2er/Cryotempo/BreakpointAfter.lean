import Clev2er.Cryotempo.Algorithms
import Clev2er.Cryotempo.Writable

/-!
# Breakpoints after the algorithms of the chain

A breakpoint file can be written from a shared dictionary whose values are all of
kinds that `create_netcdf_file` knows, and whose nested dictionary uses only
lengths that the root has used before. Every algorithm up to the geolocation keeps
it so. `alg_basin_ids` stores `None` for the basins of the other ice sheet, which
the encoder does not know; no later algorithm replaces it.
`breakpointAfter_iff` says after which algorithms a breakpoint can be set.
-/

namespace Clev2er.Cryotempo

open Clev2er.Lib Clev2er.Retrack Clev2er.Breakpoints Clev2er.Masks Clev2er.RunChain

/-! ## What the algorithms store -/

section Algorithms

variable {c : CryotempoChain} {p : L1bProduct} {d : Dict}

/-- Every assignment of a list is of a plain leaf. -/
def Plain (n : Nat) (stored : List (String × Value)) : Prop := ∀ e ∈ stored, PlainEntry n e

/-- The keys the invariant has more to say about. -/
def specialKeys : List String := ["fes2014b_corrections", "lats_nadir", "num_20hz_records"]

theorem Plain.nil {n : Nat} : Plain n [] := nofun

theorem Plain.cons {n : Nat} {key : String} {v : Leaf} {stored : List (String × Value)}
    (hkey : key ∉ specialKeys) (hv : acceptedLeaf v = true) (h : Plain n stored) :
    Plain n ((key, .leaf v) :: stored) := by
  intro e he
  rcases List.mem_cons.mp he with rfl | he
  · refine ⟨v, rfl, hv, ?_, ?_, ?_⟩
    · rintro rfl
      exact hkey List.mem_cons_self
    · rintro rfl
      exact absurd (List.mem_cons_of_mem _ List.mem_cons_self) hkey
    · rintro rfl
      exact absurd (List.mem_cons_of_mem _ (List.mem_cons_of_mem _ List.mem_cons_self)) hkey
  · exact h e he

theorem Plain.append {n : Nat} {stored more : List (String × Value)} (h : Plain n stored)
    (hmore : Plain n more) : Plain n (stored ++ more) := by
  intro e he
  rcases List.mem_append.mp he with he | he
  · exact h e he
  · exact hmore e he

/-- The number of records of the track. -/
theorem Plain.records : Plain p.file.numRecords
    [("num_20hz_records", .leaf (.pyInt p.lat.length))] := by
  intro e he
  obtain rfl := List.mem_singleton.mp he
  have hlt := p.numRecords_lt
  refine ⟨.pyInt p.lat.length, rfl, ?_, ?_, ?_, ?_⟩
  · simp only [acceptedLeaf, Leaf.inDomain, Leaf.storable, fitsAttribute, p.length_lat,
      Bool.true_and, decide_eq_true_eq]
    omega
  · show "num_20hz_records" ≠ "fes2014b_corrections"
    decide
  · intro h
    exact absurd (show "num_20hz_records" = "lats_nadir" from h) (by decide)
  · intro _
    rw [p.length_lat]

/-- The nadir latitudes. -/
theorem Plain.latitudes : Plain p.file.numRecords [("lats_nadir", .floats p.lat)] := by
  intro e he
  obtain rfl := List.mem_singleton.mp he
  refine ⟨_, rfl, rfl, ?_, ?_, ?_⟩
  · show "lats_nadir" ≠ "fes2014b_corrections"
    decide
  · intro _
    exact ⟨_, rfl, by rw [p.length_lat]⟩
  · intro h
    exact absurd (show "lats_nadir" = "num_20hz_records" from h) (by decide)

theorem identifyFile_stores : Stores (Plain p.file.numRecords) (identifyFile p) := by
  unfold identifyFile
  split
  · exact Stores.failure _
  · split
    · exact Stores.failure _
    · exact Stores.success (Plain.records.append (Plain.nil.cons (by decide) rfl))

theorem skipOnMode_stores {n : Nat} : Stores (Plain n) (skipOnMode c.switches d) := by
  unfold skipOnMode
  split
  · exact Stores.failure _
  · split
    · exact Stores.failure _
    · split
      · exact Stores.failure _
      · split
        · exact Stores.failure _
        · exact Stores.success Plain.nil

/-- The area check stores the nadir latitudes. -/
theorem skipOnAreaBounds_stores : Stores (fun stored => Plain p.file.numRecords stored ∧
    ∃ e ∈ stored, e.1 = "lats_nadir") (skipOnAreaBounds c.switches c.greenlandMask p d) := by
  have hone : ∀ name, Plain p.file.numRecords [("hemisphere", Value.text name)] :=
    fun _ => Plain.nil.cons (by decide) rfl
  have hsouth : ∀ south : Bool, Plain p.file.numRecords
      (if south = true then [("hemisphere", Value.text "south")] else []) := by
    intro south
    split
    · exact hone "south"
    · exact Plain.nil
  have htrack : Plain p.file.numRecords
      [("lats_nadir", Value.floats p.lat), ("lons_nadir", .floats (p.lon.map mod360))] :=
    Plain.latitudes.append (Plain.nil.cons (by decide) rfl)
  have hlats : ∀ stored : List (String × Value), ∃ e ∈ stored ++
      [("lats_nadir", Value.floats p.lat), ("lons_nadir", .floats (p.lon.map mod360))],
      e.1 = "lats_nadir" :=
    fun stored => ⟨_, List.mem_append_right _ List.mem_cons_self, rfl⟩
  unfold skipOnAreaBounds
  rcases p.firstRecordLat with _ | first
  · exact Stores.failure _
  rcases p.lastRecordLat with _ | last
  · exact Stores.failure _
  rcases get? "instr_mode" d with _ | mode
  · exact Stores.failure _
  refine Stores.ite (Stores.failure _) ?_
  rcases hemisphereFlags p.lat with ⟨south, north⟩
  refine Stores.ite (Stores.failure _) (Stores.ite (Stores.failure _) ?_)
  cases north with
  | true =>
      rw [if_pos rfl]
      rcases c.greenlandMask.pointsInside p.lat (p.lon.map mod360) [] with e | ⟨inside, nInside⟩
      · exact Stores.error _
      · exact Stores.ite (Stores.failure _)
          (Stores.success ⟨((hsouth _).append (hone "north")).append htrack, hlats _⟩)
  | false =>
      rw [if_neg Bool.false_ne_true]
      exact Stores.ite (Stores.failure _)
        (Stores.success ⟨((hsouth _).append Plain.nil).append htrack, hlats _⟩)

theorem surfaceType_stores {n : Nat} :
    Stores (Plain n) (surfaceType c.antarcticSurfaceMask c.greenlandSurfaceMask d) := by
  unfold surfaceType
  split
  · exact Stores.failure _
  · refine Stores.bind fun _ _ => Stores.bind fun _ _ => Stores.bind fun _ _ =>
      Stores.bind fun _ _ => Stores.bind fun _ _ => ?_
    split
    · exact Stores.bind fun _ _ => Stores.bind fun _ _ => Stores.failure _
    · refine Stores.bind fun _ _ => Stores.bind fun _ _ => ?_
      split
      · exact Stores.error _
      · apply Stores.success
        repeat refine Plain.cons (by decide) rfl ?_
        exact Plain.nil

/-- A mask with a point inside is an array. -/
theorem dilatedMask_array {mask : Option Mask} {lats lons : List Sample} {found : Value × Nat}
    (h : dilatedMask mask lats lons = .ok found) (hinside : found.2 ≠ 0) :
    ∃ inmask, found.1 = .bools inmask := by
  unfold dilatedMask at h
  split at h
  · cases h
    exact absurd rfl hinside
  · split at h
    · cases h
    · next inmask nInside hpoints =>
      cases h
      exact ⟨inmask, rfl⟩

theorem dilatedCoastalMask_stores {n : Nat} :
    Stores (Plain n) (dilatedCoastalMask c.antarcticDilatedMask c.greenlandDilatedMask d) := by
  unfold dilatedCoastalMask
  split
  · exact Stores.failure _
  · refine Stores.bind fun _ _ => Stores.bind fun _ _ => Stores.bind fun _ _ =>
      Stores.bind fun _ _ => Stores.bind fun found hfound => ?_
    simp only []
    split
    · exact Stores.failure _
    · next hinside =>
      refine Stores.bind fun _ _ => Stores.bind fun _ _ => ?_
      split
      · exact Stores.error _
      · obtain ⟨inmask, harray⟩ := dilatedMask_array hfound hinside
        rw [harray]
        exact Stores.success (Plain.nil.cons (by decide) rfl)

/-- The tides are stored as they were read: with as many entries as the track has
records. -/
theorem fes2014bTideCorrection_stores {n : Nat} (hd : Kept n false d) :
    Stores (fun stored => ∃ tides, ArraysOf n tides ∧
      stored = [("fes2014b_corrections", .dict tides)])
      (fes2014bTideCorrection c.fes2014bBaseDir c.openFes d) := by
  unfold fes2014bTideCorrection
  refine Stores.bind fun _ _ => Stores.bind fun _ _ => Stores.bind fun _ _ => ?_
  simp only []
  split
  · exact Stores.failure _
  · refine Stores.bind fun _ _ => Stores.bind fun _ _ => ?_
    split
    · exact Stores.failure _
    · next f hf =>
      refine Stores.bind fun v hv => Stores.bind fun numRecords hnum => ?_
      split
      · exact Stores.failure _
      · next hlen =>
        rw [hd.numRecords_eq hv hnum, not_not, Nat.cast_inj] at hlen
        apply Stores.success
        refine ⟨f.corrections, ?_, rfl⟩
        exact ⟨⟨_, rfl, by rw [hlen], f.supported⟩, ⟨_, rfl, by rw [f.length_oceanTideEq, hlen], f.supported⟩,
          ⟨_, rfl, by rw [f.length_loadTide, hlen], f.supported⟩, trivial⟩

theorem cats2008aTideCorrection_stores {n : Nat} :
    Stores (Plain n) (cats2008aTideCorrection c.cats2008aBaseDir c.glob c.openCats d) := by
  have hnot : Plain n [("cats_tide_required", .leaf (.pyBool false))] :=
    Plain.nil.cons (by decide) rfl
  unfold cats2008aTideCorrection
  simp only []
  refine Stores.bind fun _ _ => ?_
  split
  · exact Stores.success hnot
  · refine Stores.bind fun _ _ => ?_
    split
    · exact Stores.bind fun _ _ => Stores.success hnot
    · refine Stores.bind fun _ _ => Stores.bind fun _ _ => Stores.bind fun _ _ =>
        Stores.bind fun _ _ => ?_
      split
      · exact Stores.success hnot
      · refine Stores.bind fun _ _ => Stores.bind fun _ _ => Stores.bind fun _ _ => ?_
        split
        · exact Stores.failure _
        · split
          · split
            · exact Stores.failure _
            · next f hf =>
              refine Stores.bind fun _ _ => Stores.bind fun _ _ => ?_
              split
              · exact Stores.failure _
              · exact Stores.success (Plain.cons (by decide) rfl (Plain.cons (by decide)
                  (acceptedLeaf_array f.supported _ _) (Plain.nil.cons (by decide) rfl)))
          · exact Stores.failure _

theorem geoCorrections_stores {n : Nat} : Stores (Plain n) (geoCorrections p d) := by
  unfold geoCorrections
  split
  · refine Stores.bind fun _ _ => ?_
    split
    · exact Stores.failure _
    · refine Stores.bind fun _ _ => Stores.bind fun _ _ => Stores.bind fun _ _ =>
        Stores.bind fun _ _ => Stores.bind fun _ _ => Stores.bind fun _ _ =>
        Stores.bind fun _ _ => Stores.bind fun _ _ => ?_
      split
      · exact Stores.error _
      · exact Stores.success (Plain.cons (by decide) rfl (Plain.nil.cons (by decide) rfl))
  · exact Stores.failure _

theorem algWaveformQuality_stores {n : Nat} : Stores (Plain n) (algWaveformQualityProcess c p d) :=
  Stores.bind fun _ _ => Stores.bind fun _ _ => Stores.bind fun _ _ => Stores.bind fun _ _ =>
    Stores.success (Plain.nil.cons (by decide) rfl)

/-- There are no more failures than records, so their number fits an attribute. -/
theorem algRetrack_stores {n : Nat} : Stores (Plain n) (algRetrackProcess c p d) := by
  refine Stores.bind fun _ _ => Stores.bind fun _ _ => Stores.bind fun _ _ =>
    Stores.bind fun _ _ => Stores.bind fun _ _ => Stores.bind fun r hr => ?_
  have hfailures : acceptedLeaf (.pyInt r.numRetrackerFailures) = true := by
    have hle := retrack_failures_le hr
    have hlt := p.numRecords_lt
    simp only [acceptedLeaf, Leaf.inDomain, Leaf.storable, fitsAttribute, Bool.true_and,
      decide_eq_true_eq]
    omega
  apply Stores.success
  iterate 7 refine Plain.cons (by decide) rfl ?_
  refine Plain.cons (by decide) hfailures ?_
  exact Plain.nil.cons (by decide) rfl

theorem algBackscatter_stores {n : Nat} : Stores (Plain n) (algBackscatterProcess c p d) := by
  refine Stores.bind fun _ _ => Stores.bind fun _ _ => Stores.bind fun _ _ =>
    Stores.bind fun _ _ => Stores.bind fun _ _ => ?_
  split
  · exact Stores.bind fun _ _ => Stores.success (Plain.nil.cons (by decide) rfl)
  · exact Stores.bind fun _ _ => Stores.failure _

theorem pocaEntries_plain {n : Nat} (height latPoca lonPoca : List Sample) :
    Plain n (pocaEntries p height latPoca lonPoca) := by
  unfold pocaEntries
  repeat refine Plain.cons (by decide) rfl ?_
  exact Plain.nil

theorem algGeolocateLrm_stores {n : Nat} : Stores (Plain n) (algGeolocateLrmProcess c p d) := by
  refine Stores.bind fun _ _ => ?_
  split
  · exact Stores.success Plain.nil
  · exact Stores.bind fun _ _ => Stores.bind fun _ _ => Stores.bind fun _ _ =>
      Stores.bind fun _ _ => Stores.bind fun _ _ => Stores.success (pocaEntries_plain _ _ _)

theorem algGeolocateRoemer_stores {n : Nat} :
    Stores (Plain n) (algGeolocateRoemerProcess c p d) := by
  refine Stores.bind fun _ _ => ?_
  split
  · exact Stores.success Plain.nil
  · refine Stores.bind fun _ _ => Stores.bind fun _ _ => Stores.bind fun _ _ =>
      Stores.bind fun _ _ => Stores.bind fun _ _ => Stores.bind fun _ _ =>
      Stores.bind fun _ _ => Stores.bind fun _ _ => Stores.bind fun _ _ =>
      Stores.bind fun out _ => ?_
    apply Stores.success
    repeat refine Plain.cons (by decide) rfl ?_
    exact Plain.nil

theorem algGeolocateSin_stores {n : Nat} : Stores (Plain n) (algGeolocateSinProcess c p d) := by
  refine Stores.bind fun _ _ => ?_
  split
  · exact Stores.success Plain.nil
  · exact Stores.bind fun _ _ => Stores.bind fun _ _ => Stores.bind fun _ _ =>
      Stores.bind fun _ _ => Stores.bind fun _ _ => Stores.success (pocaEntries_plain _ _ _)

/-- **`alg_basin_ids`** stores `None` in either hemisphere. -/
theorem algBasinIds_stores :
    Stores (fun stored => ∀ d', HasNone (update stored d')) (algBasinIdsProcess c d) := by
  refine Stores.bind fun _ _ => Stores.bind fun _ _ => Stores.bind fun _ _ =>
    Stores.bind fun _ _ => Stores.bind fun _ _ => ?_
  split
  · split
    · exact Stores.error _
    · exact Stores.error _
    · refine Stores.bind fun _ _ => Stores.bind fun _ _ => Stores.success ?_
      intro d'
      refine ⟨"basin_mask_values_mouginot", by decide, ?_⟩
      simp [update, get?_setItem]
  · refine Stores.bind fun _ _ => Stores.bind fun _ _ => Stores.success ?_
    intro d'
    refine ⟨"basin_mask_values_zwally", by decide, ?_⟩
    simp [update, get?_setItem]

/-- No assignment of a list is of a basin. -/
def LeavesBasins (stored : List (String × Value)) : Prop := ∀ e ∈ stored, e.1 ∉ basinKeys

theorem leavesBasins_single {key : String} (value : Value) (h : key ∉ basinKeys) :
    LeavesBasins [(key, value)] := by
  intro e he
  rwa [List.mem_singleton.mp he]

theorem trackValues_stores {key : String} (ant : Option TrackLookup) (grn : TrackLookup)
    (h : key ∉ basinKeys) : Stores LeavesBasins (trackValues key ant grn d) := by
  refine Stores.bind fun _ _ => Stores.bind fun _ _ => Stores.bind fun _ _ =>
    Stores.bind fun _ _ => Stores.bind fun _ _ => ?_
  split
  · split
    · exact Stores.success (leavesBasins_single _ h)
    · exact Stores.bind fun _ _ => Stores.success (leavesBasins_single _ h)
  · exact Stores.bind fun _ _ => Stores.success (leavesBasins_single _ h)

theorem algFilterHeight_stores : Stores LeavesBasins (algFilterHeightProcess c p d) := by
  refine Stores.bind fun _ _ => Stores.bind fun _ _ => Stores.bind fun _ _ =>
    Stores.bind fun _ _ => ?_
  split
  · exact Stores.failure _
  · exact Stores.success (leavesBasins_single _ (by decide))

theorem algProductOutput_stores : Stores LeavesBasins (algProductOutputProcess c p d) := by
  refine Stores.bind fun _ _ => ?_
  split
  · exact Stores.failure _
  · exact Stores.success (leavesBasins_single _ (by decide))

theorem HasNone.update {stored : List (String × Value)} (hd : HasNone d)
    (h : LeavesBasins stored) : HasNone (Cryotempo.update stored d) := by
  obtain ⟨key, hkey, hnone⟩ := hd
  refine ⟨key, hkey, ?_⟩
  rw [get?_update_of_not_mem]
  · exact hnone
  · rintro e he rfl
    exact h e he hkey

end Algorithms

/-! ## Runs -/

section Runs

variable {c : CryotempoChain} {setUp : AlgSetUp} {cfg : ChainConfig} {filenum : Nat}

/-- The algorithms that store plain leaves only. -/
def Alg.storesPlain : Alg → Bool
  | .fes2014bTideCorrection | .basinIds | .refDem | .filterHeight | .uncertainty
  | .productOutput => false
  | _ => true

theorem processOf_plain {alg : Alg} (h : alg.storesPlain = true) (p : L1bProduct) (d : Dict) :
    Stores (Plain p.file.numRecords) (processOf c p alg d) := by
  cases alg with
  | identifyFile => exact identifyFile_stores
  | skipOnMode => exact skipOnMode_stores
  | skipOnAreaBounds => exact fun m stored hok => (skipOnAreaBounds_stores m stored hok).1
  | surfaceType => exact surfaceType_stores
  | dilatedCoastalMask => exact dilatedCoastalMask_stores
  | cats2008aTideCorrection => exact cats2008aTideCorrection_stores
  | geoCorrections => exact geoCorrections_stores
  | waveformQuality => exact algWaveformQuality_stores
  | retrack => exact algRetrack_stores
  | backscatter => exact algBackscatter_stores
  | geolocateLrm => exact algGeolocateLrm_stores
  | geolocateRoemer => exact algGeolocateRoemer_stores
  | geolocateSin => exact algGeolocateSin_stores
  | fes2014bTideCorrection => cases h
  | basinIds => cases h
  | refDem => cases h
  | filterHeight => cases h
  | uncertainty => cases h
  | productOutput => cases h

/-- The algorithms after `alg_basin_ids`. -/
def afterBasinIds : List Alg := [.refDem, .filterHeight, .uncertainty, .productOutput]

theorem processOf_leavesBasins {alg : Alg} (h : alg ∈ afterBasinIds) (p : L1bProduct) (d : Dict) :
    Stores LeavesBasins (processOf c p alg d) := by
  simp only [afterBasinIds, List.mem_cons, List.not_mem_nil, or_false] at h
  rcases h with rfl | rfl | rfl | rfl
  · exact trackValues_stores _ _ (by decide)
  · exact algFilterHeight_stores
  · exact trackValues_stores _ _ (by decide)
  · exact algProductOutput_stores

/-- The run of an algorithm that succeeds has stored what its `process()` stores. -/
theorem dictAfter_cons {alg : Alg} {rest : List Alg} {d d' : Dict}
    (h : dictAfter cfg filenum ((alg :: rest).map (algClass c setUp)) d = some d') :
    ∃ m stored, processOf c (c.products filenum) alg d = .ok (.success m stored) ∧
      dictAfter cfg filenum (rest.map (algClass c setUp)) (update stored d) = some d' := by
  rw [List.map_cons, dictAfter] at h
  split at h
  · next d₁ m hresult =>
    have hbody : (algClass c setUp alg).body filenum d = (d₁, .ok (true, m)) := by
      unfold processResult at hresult
      split at hresult
      · split at hresult
        · cases hresult
        · cases hresult
        · exact hresult
      · exact hresult
    simp only [algClass] at hbody
    split at hbody
    · cases hbody
    · cases hbody
    · next message stored hok =>
      cases hbody
      exact ⟨_, stored, hok, h⟩
  · cases h

/-- An order in which the tides come after the nadir latitudes. -/
def keptFrom : Bool → List Alg → Bool
  | _, [] => true
  | tracked, alg :: rest =>
      (alg.storesPlain || (alg == .fes2014bTideCorrection && tracked)) &&
        keptFrom (tracked || alg == .skipOnAreaBounds) rest

theorem hasKey_update {key : String} : ∀ {stored : List (String × Value)} {d : Dict},
    (hasKey d key = true ∨ ∃ e ∈ stored, e.1 = key) → hasKey (update stored d) key = true := by
  intro stored
  induction stored with
  | nil =>
      rintro d (h | ⟨e, he, -⟩)
      · exact h
      · cases he
  | cons e stored ih =>
      intro d h
      apply ih
      by_cases hkey : e.1 = key
      · left
        rw [hasKey, get?_setItem, if_pos hkey]
        rfl
      · rcases h with h | ⟨e', he', rfl⟩
        · left
          rw [hasKey, get?_setItem, if_neg hkey]
          exact h
        · rcases List.mem_cons.mp he' with rfl | he'
          · exact absurd rfl hkey
          · exact Or.inr ⟨e', he', rfl⟩

/-- **A run before `alg_basin_ids`** keeps the invariant. -/
theorem kept_run : ∀ {algs : List Alg} {tracked : Bool} {d d' : Dict},
    keptFrom tracked algs = true → Kept (c.products filenum).file.numRecords false d →
    (tracked = true → hasKey d "lats_nadir" = true) →
    dictAfter cfg filenum (algs.map (algClass c setUp)) d = some d' →
    Kept (c.products filenum).file.numRecords false d' := by
  intro algs
  induction algs with
  | nil =>
      intro tracked d d' _ hd _ h
      obtain rfl := Option.some.inj h
      exact hd
  | cons alg rest ih =>
      intro tracked d d' horder hd htracked h
      obtain ⟨m, stored, hok, hrest⟩ := dictAfter_cons h
      rw [keptFrom, Bool.and_eq_true, Bool.or_eq_true] at horder
      obtain ⟨halg, horder⟩ := horder
      have hkept : Kept (c.products filenum).file.numRecords false (update stored d) := by
        rcases halg with hplain | hfes
        · exact hd.update (processOf_plain hplain _ _ m stored hok)
        -- the tides have the length of the nadir latitudes, which are in the root before them
        · obtain ⟨hfes, ht⟩ := Bool.and_eq_true_iff.mp hfes
          obtain rfl := beq_iff_eq.mp hfes
          obtain ⟨tides, htides, rfl⟩ := fes2014bTideCorrection_stores hd m stored hok
          exact hd.setTides htides (Or.inr (htracked ht))
      refine ih horder hkept ?_ hrest
      intro ht
      apply hasKey_update
      rcases Bool.or_eq_true_iff.mp ht with ht | hbounds
      · exact Or.inl (htracked ht)
      · obtain rfl := beq_iff_eq.mp hbounds
        exact Or.inr (skipOnAreaBounds_stores m stored hok).2

/-- **A run from `alg_basin_ids` on** leaves a `None`. -/
theorem hasNone_run : ∀ {algs : List Alg} {d d' : Dict}, (∀ alg ∈ algs, alg ∈ afterBasinIds) →
    HasNone d → dictAfter cfg filenum (algs.map (algClass c setUp)) d = some d' → HasNone d' := by
  intro algs
  induction algs with
  | nil =>
      intro d d' _ hd h
      obtain rfl := Option.some.inj h
      exact hd
  | cons alg rest ih =>
      intro d d' hafter hd h
      obtain ⟨m, stored, hok, hrest⟩ := dictAfter_cons h
      have hleaves := processOf_leavesBasins (hafter alg List.mem_cons_self) _ _ m stored hok
      exact ih (fun a ha => hafter a (List.mem_cons_of_mem _ ha)) (hd.update hleaves) hrest

variable (cfg) in
/-- A run of some algorithms and of more. -/
theorem dictAfter_append {D : Type} (more : List (AlgClass D)) : ∀ (classes : List (AlgClass D))
    (d : D), dictAfter cfg filenum (classes ++ more) d =
      (dictAfter cfg filenum classes d).bind (dictAfter cfg filenum more) := by
  intro classes
  induction classes with
  | nil =>
      intro d
      rfl
  | cons cls classes ih =>
      intro d
      rw [List.cons_append, dictAfter, dictAfter]
      split
      · exact ih _
      · rfl

/-! ## The result -/

theorem find?_module (alg : Alg) : Alg.modules.find? (fun a => a.name == alg.name) = some alg := by
  cases alg <;> decide

theorem algClasses_chain {openDataset : String → Option PyExc} {hashName : String → String}
    {strict : Bool} (algs : List Alg) :
    algClasses cfg (chainEnv c setUp openDataset hashName strict) (algs.map Alg.name) =
      algs.map (algClass c setUp) := by
  have himport : ∀ alg : Alg, importModule cfg (chainEnv c setUp openDataset hashName strict)
      alg.name = .ok (algClass c setUp alg) := by
    intro alg
    have hname : afterLast '.' alg.name ≠ "" := by
      cases alg <;> decide
    unfold importModule
    rw [if_neg hname]
    simp only [chainEnv, find?_module]
  induction algs with
  | nil => rfl
  | cons alg algs ih =>
      unfold algClasses at ih ⊢
      have hclass : (importModule cfg (chainEnv c setUp openDataset hashName strict)
          alg.name).toOption = some (algClass c setUp alg) := by
        rw [himport]
        rfl
      rw [List.map_cons, List.filterMap_cons]
      simp only [hclass, ih, List.map_cons]

/-- A breakpoint can be set after `b`, which leaves `d`: every value is of a kind the
encoder accepts, and the file is written. -/
structure CanBreakAfter (cfg : ChainConfig) (env : Env Dict) (d : Dict) (b : String) : Prop where
  accepted : Accepted d
  written : ∃ path, writeBreakpointFile cfg env d b = .ok path

/-- The part of a list up to `alg_basin_ids` keeps the order of the tides. -/
theorem keptFrom_of_split : ∀ algs ∈ [cryotempoB001, cryotempoC001, cryotempoD001],
    ∀ through ∈ algs.inits, Alg.basinIds ∉ through → keptFrom false through = true := by
  decide

/-- The part of a list that `alg_basin_ids` belongs to. -/
theorem split_prefix : ∀ algs ∈ [cryotempoB001, cryotempoC001, cryotempoD001],
    ∀ through ∈ algs.inits, Alg.basinIds ∈ through →
      through = through.takeWhile (fun a => a != .basinIds) ++
        .basinIds :: (through.dropWhile (fun a => a != .basinIds)).tail ∧
      ∀ a ∈ (through.dropWhile (fun a => a != .basinIds)).tail, a ∈ afterBasinIds := by
  decide

/-- **Breakpoints after the algorithms of the chain.** Let the algorithms of one of
the three lists succeed on a file up to `b`, and leave the dictionary `d`. A
breakpoint can be set after `b` exactly if `alg_basin_ids` is not among them (and
the configuration has a directory for the file), whatever the product, the masks,
DEMs, tide files and settings, and whether or not the library looks for
dimensions. -/
theorem breakpointAfter_iff (c : CryotempoChain) (setUp : AlgSetUp) (cfg : ChainConfig)
    (openDataset : String → Option PyExc) (hashName : String → String) (strict : Bool)
    {algs pre post : List Alg} {b : Alg}
    (hlist : algs ∈ [cryotempoB001, cryotempoC001, cryotempoD001])
    (hsplit : algs = pre ++ b :: post) (filenum : Nat) (file : String) {d : Dict}
    (hd : dictAfter cfg filenum
      (algClasses cfg (chainEnv c setUp openDataset hashName strict) ((pre ++ [b]).map Alg.name))
      ((chainEnv c setUp openDataset hashName strict).newDict file) = some d) :
    CanBreakAfter cfg (chainEnv c setUp openDataset hashName strict) d b.name ↔
      Alg.basinIds ∉ pre ++ [b] ∧ ∃ dir, breakpointDir cfg = .ok dir := by
  have hinits : pre ++ [b] ∈ algs.inits := by
    rw [List.mem_inits, hsplit]
    exact ⟨post, by simp⟩
  rw [algClasses_chain] at hd
  have hwrite : (∃ path, writeBreakpointFile cfg (chainEnv c setUp openDataset hashName strict)
      d b.name = .ok path) ↔
      ∃ dir, breakpointDir cfg = .ok dir ∧ ∃ f, createNetcdfFile strict d = .ok f := by
    rw [writeBreakpointFile_ok_iff]
    simp only [chainEnv]
    cases createNetcdfFile strict d <;> simp
  by_cases hbasin : Alg.basinIds ∈ pre ++ [b]
  -- from `alg_basin_ids` on the dictionary has a `None`
  · refine iff_of_false ?_ (fun h => h.1 hbasin)
    rintro ⟨-, hwritten⟩
    obtain ⟨hthrough, hafter⟩ := split_prefix algs hlist _ hinits hbasin
    rw [hthrough, List.map_append, dictAfter_append] at hd
    obtain ⟨d₁, -, hd⟩ := Option.bind_eq_some_iff.mp hd
    obtain ⟨m, stored, hok, hrest⟩ := dictAfter_cons hd
    have hnone : HasNone d := hasNone_run hafter (algBasinIds_stores m stored hok d₁) hrest
    obtain ⟨e, herr⟩ := hnone.not_written strict
    obtain ⟨dir, -, f, hf⟩ := hwrite.mp hwritten
    rw [herr] at hf
    cases hf
  -- before it the invariant holds, from the new dictionary with the file name on
  · have hstart : Kept (c.products filenum).file.numRecords false
        ((chainEnv c setUp openDataset hashName strict).newDict file) := by
      refine ⟨⟨rfl, by decide, ?_, ?_⟩, trivial⟩
      · intro h
        exact absurd h (by decide)
      · intro h
        exact absurd h (by decide)
    have hkept := kept_run (keptFrom_of_split algs hlist _ hinits hbasin) hstart nofun hd
    constructor
    · rintro ⟨-, hwritten⟩
      obtain ⟨dir, hdir, -⟩ := hwrite.mp hwritten
      exact ⟨hbasin, dir, hdir⟩
    · rintro ⟨-, dir, hdir⟩
      exact ⟨hkept.accepted, hwrite.mpr ⟨dir, hdir, hkept.writable strict⟩⟩

end Runs

/-! ## The track over the South Pole -/

/-- A mask of one cell, and every point in it. -/
def cellMask (cell : Nat) (h : cell < 256) : Mask where
  area := .grid
    { minxm := 0
      minym := 0
      binsize := 1
      numX := 1
      numY := 1
      cells := [[cell]]
      length_cells := rfl
      length_row := by simp
      cell_lt := by simpa using h }
  basinNumbers := []
  latlonToXy _ _ := (.finite 0, .finite 0)

/-- The product of the record over the South Pole. -/
def poleProduct : L1bProduct where
  file := poleTrack.file
  lat := poleTrack.lat
  lon := poleTrack.lon
  alt := poleTrack.alt
  dopCor := poleTrack.dopCor
  transmitPwr := [.num 1]
  offNadirPitchAngle := [.num 0]
  offNadirRollAngle := [.num 0]
  indMeas1hz := [0]
  modDryTropoCor := [.num 0]
  modWetTropoCor := [.num 0]
  ionoCorGim := [.num 0]
  solidEarthTide := [.num 0]
  poleTide := [.num 0]
  hfFluctTotalCor := [.num 0]
  sirOpMode := some "LRM"
  firstRecordLat := some (-90000000)
  lastRecordLat := some (-90000000)
  length_lat := rfl
  length_lon := rfl
  length_alt := rfl
  length_dopCor := rfl
  length_transmitPwr := rfl
  length_indMeas1hz := by decide
  numRecords_lt := by decide
  mode_named := by
    intro text h
    cases h
    decide

/-- Grounded ice about the pole, no tides and a flat DEM. -/
def poleChain : CryotempoChain where
  products _ := poleProduct
  switches := ⟨false, false, false⟩
  settings := poleSettings
  numerics := poleLib.numerics
  doubles := poleLib.doubles
  log10 _ := 0
  pi := 3
  sigmaBiasLrm := 0
  sigmaBiasSin := 0
  greenlandMask := cellMask 0 (by decide)
  antarcticSurfaceMask := some (cellMask 2 (by decide))
  greenlandSurfaceMask := cellMask 0 (by decide)
  antarcticDilatedMask := some (cellMask 1 (by decide))
  greenlandDilatedMask := cellMask 0 (by decide)
  fes2014bBaseDir := "/tides/fes2014b"
  openFes _ := some ⟨.float64, [.num 0], [.num 0], [.num 0], rfl, rfl, rfl⟩
  cats2008aBaseDir := "/tides/cats2008a"
  glob _ := []
  openCats _ := none
  roemer _ _ := poleLib.roemer
  roemerDem _ := poleLib.dem
  roemerDemFine _ := poleLib.demFine
  lrm _ := ⟨fun _ _ _ _ => .ok none, fun _ => .num 0⟩
  sin _ := poleLib.sin
  zwallyBasinMaskAnt := some (cellMask 1 (by decide))
  rignotBasinMaskAnt := some (cellMask 1 (by decide))
  mouginotBasinMaskGrn := cellMask 0 (by decide)
  rignotBasinMaskGrn := cellMask 0 (by decide)
  demAnt := none
  demGrn lats _ := .ok lats
  uncertaintyAnt := none
  uncertaintyGrn lats _ := .ok lats
  writeProduct _ _ := .ok (.ok "product.nc")

/-- No `init()` loads anything. -/
def plainSetUp : AlgSetUp where
  construct _ _ := none
  init _ _ := ⟨[], .ok (true, "")⟩
  finalize _ _ := none

/-- The chain, sequential. -/
def sequentialConfig : ChainConfig := ⟨"cryotempo", false, false, 1, false, none⟩

def poleEnv : Env Dict := chainEnv poleChain plainSetUp (fun _ => none) (fun name => name) true

def poleFile : String := "/l1b/CS_OFFL_SIR_LRM_1B_20200101T073130_20200101T073254_E001.nc"

/-- The dictionary before retracking. -/
def poleSelected : Dict := update
  [("num_20hz_records", .leaf (.pyInt 1)), ("instr_mode", .text "LRM"),
    ("hemisphere", .text "south"), ("lats_nadir", .floats [.num (-90)]),
    ("lons_nadir", .floats [.num 0]), ("cryotempo_surface_type", .nats .uint8 [1]),
    ("ocean_locations", .nats .int64 []), ("grounded_ice_locations", .nats .int64 [0]),
    ("floating_ice_locations", .nats .int64 []), ("icefree_land_locations", .nats .int64 []),
    ("non_grn_land_locations", .nats .int64 []), ("dilated_surface_mask", .bools [true]),
    ("fes2014b_corrections", .dict <|
      .leaf "ocean_tide_20" (.array ⟨.float64, [1], [.num 0]⟩) <|
      .leaf "ocean_tide_eq_20" (.array ⟨.float64, [1], [.num 0]⟩) <|
      .leaf "load_tide_20" (.array ⟨.float64, [1], [.num 0]⟩) .nil),
    ("cats_tide_required", .leaf (.pyBool false)), ("invalid_corrections_locs", .nats .int64 []),
    ("sum_cor_20_ku", .floats [.num 0]), ("waveforms_to_include", .bools [true])]
  (poleEnv.newDict poleFile)

theorem poleSelected_run : dictAfter sequentialConfig 0
    ((beforeLrmGeolocation.take 9).map (algClass poleChain plainSetUp))
    (poleEnv.newDict poleFile) = some poleSelected := by
  decide +kernel

/-- What `alg_retrack` stores. -/
def poleRetracked : List (String × Value) :=
  [("ind_wfm_retrack_20_ku", .floats poleEntries.indWfmRetrack),
    ("pwr_at_rtrk_point", .floats poleEntries.pwrAtRtrkPoint),
    ("leading_edge_start", .pairs poleEntries.leadingEdgeStart),
    ("leading_edge_stop", .pairs poleEntries.leadingEdgeStop),
    ("geo_corrected_tracker_range", .floats poleEntries.geoCorrectedTrackerRange),
    ("retracker_correction", .floats poleEntries.retrackerCorrection),
    ("range_cor_20_ku", .floats poleEntries.rangeCor),
    ("num_retracker_failures", .leaf (.pyInt poleEntries.numRetrackerFailures)),
    ("percent_retracker_failure", .leaf (.pyFloat (.num poleEntries.percentRetrackerFailure)))]

theorem algRetrack_pole : algRetrackProcess poleChain poleProduct poleSelected =
    .ok (.success "" poleRetracked) := by
  have hincluded : item poleSelected "waveforms_to_include" = .ok (.bools [true]) := rfl
  have hmode : item poleSelected "instr_mode" = .ok (.text "LRM") := rfl
  have hsum : item poleSelected "sum_cor_20_ku" = .ok (.floats [.num 0]) := rfl
  have hflags : (Value.bools [true]).flags = .ok [true] := by decide +kernel
  have hsamples : (Value.floats [.num 0]).samples = .ok [.num 0] := rfl
  have hretrack : retrack poleChain.numerics poleChain.settings.retrack poleProduct.file [true]
      [.num 0] = .ok poleEntries := retrack_pole
  unfold algRetrackProcess
  simp only [hincluded, hmode, hsum, hflags, hsamples, hretrack, bind, Except.bind]
  rfl

/-- The dictionary after `alg_basin_ids`. -/
def poleLocated : Dict := update
  [("sig0_20_ku", .floats [.num 0]), ("lat_poca_20_ku", .floats [.num (-90)]),
    ("lon_poca_20_ku", .floats [.num 0]), ("latitudes", .floats [.num (-90)]),
    ("longitudes", .floats [.num 0]), ("height_20_ku", .floats [.num poleHeight]),
    ("roemer_slope_ok", .bools [true]), ("relocation_distance", .floats [.num 0]),
    ("basin_mask_values_rignot", .nats .uint64 [2]), ("basin_mask_values_zwally", .nats .uint64 [1]),
    ("basin_mask_values_mouginot", .none)]
  (update poleRetracked poleSelected)

theorem poleLocated_run : dictAfter sequentialConfig 0
    ([.backscatter, .geolocateRoemer, .geolocateSin, .basinIds].map
      (algClass poleChain plainSetUp)) (update poleRetracked poleSelected) = some poleLocated := by
  decide +kernel

theorem poleRetracked_run : dictAfter sequentialConfig 0 [algClass poleChain plainSetUp .retrack]
    poleSelected = some (update poleRetracked poleSelected) := by
  have hbody : (algClass poleChain plainSetUp .retrack).body 0 poleSelected =
      (update poleRetracked poleSelected, .ok (true, "")) := by
    simp only [algClass, processOf]
    rw [show poleChain.products 0 = poleProduct from rfl, algRetrack_pole]
  unfold dictAfter
  rw [show processResult sequentialConfig (algClass poleChain plainSetUp .retrack) 0 poleSelected =
    (update poleRetracked poleSelected, .ok (true, "")) from hbody]
  rfl

/-- The algorithms before `alg_basin_ids`. -/
def beforeBasinIds : List Alg := beforeLrmGeolocation ++ [.geolocateRoemer, .geolocateSin]

theorem poleLocated_dictAfter : dictAfter sequentialConfig 0
    (algClasses sequentialConfig poleEnv ((beforeBasinIds ++ [Alg.basinIds]).map Alg.name))
    (poleEnv.newDict poleFile) = some poleLocated := by
  have hsplit : beforeBasinIds ++ [.basinIds] = beforeLrmGeolocation.take 9 ++ ([.retrack] ++
      [.backscatter, .geolocateRoemer, .geolocateSin, .basinIds]) := rfl
  rw [poleEnv, algClasses_chain, hsplit, List.map_append, List.map_append, dictAfter_append]
  have hselected := poleSelected_run
  rw [poleEnv] at hselected
  rw [hselected, Option.bind_some, dictAfter_append, List.map_singleton, poleRetracked_run,
    Option.bind_some]
  exact poleLocated_run

/-- After the quality checks a breakpoint can be set there. -/
theorem breakpointAfter_iff_waveformQuality :
    dictAfter sequentialConfig 0
      (algClasses sequentialConfig poleEnv ((beforeLrmGeolocation.take 9).map Alg.name))
      (poleEnv.newDict poleFile) = some poleSelected ∧
    CanBreakAfter sequentialConfig poleEnv poleSelected "alg_waveform_quality" := by
  have hrun : dictAfter sequentialConfig 0
      (algClasses sequentialConfig poleEnv ((beforeLrmGeolocation.take 8 ++
        [Alg.waveformQuality]).map Alg.name)) (poleEnv.newDict poleFile) = some poleSelected := by
    rw [poleEnv, algClasses_chain]
    exact poleSelected_run
  have hlist : cryotempoD001 ∈ [cryotempoB001, cryotempoC001, cryotempoD001] := by simp
  have hsplit : cryotempoD001 = beforeLrmGeolocation.take 8 ++
      .waveformQuality :: (cryotempoD001.drop 9) := rfl
  refine ⟨hrun, ?_⟩
  exact (breakpointAfter_iff poleChain plainSetUp sequentialConfig (fun _ => none)
    (fun name => name) true hlist hsplit 0 poleFile hrun).mpr ⟨by decide, "/tmp", rfl⟩

/-- Every algorithm of the list up to `alg_basin_ids` succeeds on the track over the
South Pole, and the breakpoint file after it cannot be written. -/
theorem breakpointAfter_basinIds_raises :
    cryotempoD001 = beforeBasinIds ++
      .basinIds :: [.refDem, .filterHeight, .uncertainty, .productOutput] ∧
    dictAfter sequentialConfig 0
      (algClasses sequentialConfig poleEnv ((beforeBasinIds ++ [Alg.basinIds]).map Alg.name))
      (poleEnv.newDict poleFile) = some poleLocated ∧
    writeBreakpointFile sequentialConfig poleEnv poleLocated "alg_basin_ids" =
      .error ⟨.valueError, "Unsupported data type for variable 'basin_mask_values_mouginot': " ++
        "<class 'NoneType'>"⟩ ∧
    ¬ CanBreakAfter sequentialConfig poleEnv poleLocated "alg_basin_ids" := by
  have hraises : writeBreakpointFile sequentialConfig poleEnv poleLocated "alg_basin_ids" =
      .error ⟨.valueError, "Unsupported data type for variable 'basin_mask_values_mouginot': " ++
        "<class 'NoneType'>"⟩ := by
    decide +kernel
  refine ⟨rfl, poleLocated_dictAfter, hraises, ?_⟩
  rintro ⟨-, path, hwritten⟩
  rw [hraises] at hwritten
  cases hwritten

end Clev2er.Cryotempo
