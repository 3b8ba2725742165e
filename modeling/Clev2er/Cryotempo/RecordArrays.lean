import Clev2er.Cryotempo.BreakpointAfter

/-!
# The arrays of the records

Most values of the shared dictionary are arrays with one entry for each record of the
track. The algorithms index them side by side without a check, and numpy broadcasts
arrays of one entry silently. `Aligned` is the invariant that their lengths agree:
every algorithm keeps it (`processOf_aligned`), so every run does (`aligned_run`).
-/

namespace Clev2er.Cryotempo

open Clev2er.Lib Clev2er.Retrack Clev2er.Breakpoints Clev2er.Masks Clev2er.RunChain

/-! ## The invariant -/

/-- The keys of the arrays with an entry for each record. -/
def recordKeys : List String :=
  ["lats_nadir", "lons_nadir", "cryotempo_surface_type", "dilated_surface_mask", "cats_tide",
    "sum_cor_20_ku", "waveforms_to_include", "ind_wfm_retrack_20_ku", "pwr_at_rtrk_point",
    "geo_corrected_tracker_range", "retracker_correction", "range_cor_20_ku", "sig0_20_ku",
    "lat_poca_20_ku", "lon_poca_20_ku", "height_20_ku", "latitudes", "longitudes",
    "roemer_slope_ok", "relocation_distance", "basin_mask_values_rignot",
    "basin_mask_values_zwally", "basin_mask_values_mouginot", "dem_elevation_values",
    "uncertainty", "height_filt"]

/-- A value under its key, in a track of `n` records. -/
structure EntryAligned (n : Nat) (key : String) (v : Value) : Prop where
  samples : key ∈ recordKeys → ∀ xs, v.samples = .ok xs → xs.length = n
  records : key = "num_20hz_records" → ∀ i, v.asInt = .ok i → i = n
  tides : key = "fes2014b_corrections" → ∀ tides, v = .dict tides →
    ∀ k u xs, get? k tides = some u → u.samples = .ok xs → xs.length = n

/-- Every value of the dictionary is aligned. -/
def Aligned (n : Nat) (d : Dict) : Prop := ∀ key v, get? key d = some v → EntryAligned n key v

/-- Every assignment is. -/
def AlignedStored (n : Nat) (stored : List (String × Value)) : Prop :=
  ∀ e ∈ stored, EntryAligned n e.1 e.2

variable {n : Nat} {d : Dict}

theorem EntryAligned.array {key : String} {dtype : Dtype} {xs : List Sample}
    (h : xs.length = n) : EntryAligned n key (.array dtype xs) where
  samples _ ys hys := by
    rw [← Except.ok.inj hys]
    exact h
  records _ i hi := by cases hi
  tides _ tides htides := by cases htides

theorem EntryAligned.nats {key : String} {dtype : Dtype} {ns : List Nat} (h : ns.length = n) :
    EntryAligned n key (.nats dtype ns) := by
  apply EntryAligned.array
  rw [List.length_map, ← h]
  exact List.length_flatMap.trans (by simp)

theorem EntryAligned.bools {key : String} {bs : List Bool} (h : bs.length = n) :
    EntryAligned n key (.bools bs) := by
  apply EntryAligned.array
  rw [List.length_map, h]

/-- A value under a key the invariant says nothing about. -/
theorem EntryAligned.other {key : String} {v : Value}
    (h : key ∉ "num_20hz_records" :: "fes2014b_corrections" :: recordKeys) :
    EntryAligned n key v where
  samples hkey := absurd (List.mem_cons_of_mem _ (List.mem_cons_of_mem _ hkey)) h
  records hkey := absurd (hkey ▸ List.mem_cons_self) h
  tides hkey := absurd (List.mem_cons_of_mem _ (hkey ▸ List.mem_cons_self)) h

/-- A value that is no array. -/
theorem EntryAligned.none {key : String} : EntryAligned n key .none where
  samples _ ys hys := by cases hys
  records _ i hi := by cases hi
  tides _ tides htides := by cases htides

theorem AlignedStored.nil : AlignedStored n [] := nofun

theorem AlignedStored.cons {key : String} {v : Value} {stored : List (String × Value)}
    (hv : EntryAligned n key v) (h : AlignedStored n stored) :
    AlignedStored n ((key, v) :: stored) := by
  intro e he
  rcases List.mem_cons.mp he with rfl | hmem
  · exact hv
  · exact h e hmem

theorem AlignedStored.append {stored more : List (String × Value)} (h : AlignedStored n stored)
    (hmore : AlignedStored n more) : AlignedStored n (stored ++ more) :=
  fun e he => (List.mem_append.mp he).elim (h e) (hmore e)

theorem Aligned.setItem {key : String} {v : Value} (hd : Aligned n d)
    (hv : EntryAligned n key v) : Aligned n (setItem key v d) := by
  intro k u hu
  rw [get?_setItem] at hu
  split at hu
  · next hk =>
    obtain rfl := Option.some.inj hu
    exact hk ▸ hv
  · exact hd k u hu

theorem Aligned.update {stored : List (String × Value)} : ∀ {d : Dict}, Aligned n d →
    AlignedStored n stored → Aligned n (update stored d) := by
  induction stored with
  | nil => exact fun hd _ => hd
  | cons e stored ih =>
      intro d hd h
      exact ih (hd.setItem (h e List.mem_cons_self)) (fun e' he' => h e' (List.mem_cons_of_mem _ he'))

/-! ## Reading from it -/

theorem get?_of_item {key : String} {v : Value} (h : item d key = .ok v) : get? key d = some v := by
  unfold item at h
  split at h
  · next u hu => rw [hu, Except.ok.inj h]
  · cases h

theorem Aligned.samples {key : String} {v : Value} {xs : List Sample} (hd : Aligned n d)
    (hv : item d key = .ok v) (hxs : v.samples = .ok xs) (hkey : key ∈ recordKeys) :
    xs.length = n :=
  (hd key v (get?_of_item hv)).samples hkey xs hxs

theorem Aligned.flags {key : String} {v : Value} {bs : List Bool} (hd : Aligned n d)
    (hv : item d key = .ok v) (hbs : v.flags = .ok bs) (hkey : key ∈ recordKeys) :
    bs.length = n := by
  unfold Value.flags at hbs
  split at hbs
  · cases hbs
  · next xs hxs =>
    rw [← Except.ok.inj hbs, List.length_map]
    exact hd.samples hv hxs hkey

theorem Aligned.numRecords {v : Value} {i : ℤ} (hd : Aligned n d)
    (hv : item d "num_20hz_records" = .ok v) (hi : v.asInt = .ok i) : i = n :=
  (hd _ v (get?_of_item hv)).records rfl i hi

theorem Aligned.fesEntry {key : String} {xs : List Sample} (hd : Aligned n d)
    (h : fesEntry d key = some xs) : xs.length = n := by
  unfold Cryotempo.fesEntry at h
  split at h
  · next tides htides =>
    split at h
    · next u hu =>
      cases hxs : u.samples with
      | error e =>
          rw [hxs] at h
          cases h
      | ok ys =>
          rw [hxs] at h
          obtain rfl := Option.some.inj h
          exact (hd _ _ htides).tides rfl tides rfl key u _ hu hxs
    · cases h
  · cases h

/-! ## Up to the corrections -/

section Algorithms

variable {c : CryotempoChain} {p : L1bProduct}

theorem length_of_forEach {α β : Type} {body : Nat → α → Except PyExc β} (a : α) (b : β)
    {xs : List α} {ys : List β} {i : Nat} (h : forEach body i xs = .ok ys) :
    ys.length = xs.length :=
  (forEach_ok a b h).1

theorem length_pointsInside {m : Mask} {lats lons : List Sample} {basins : List Nat}
    {found : List Bool × Nat} (hlats : lats.length = n) (hlons : lons.length = n)
    (h : m.pointsInside lats lons basins = .ok found) : found.1.length = n := by
  unfold Mask.pointsInside at h
  dsimp only at h
  split at h
  · cases h
  · next rows hrows =>
    rw [← Except.ok.inj h, List.length_map, length_of_forEach (.nan, .nan) (false, 0) hrows,
      List.length_zip, hlats, hlons, Nat.min_self]

theorem length_gridMaskValues {m : Mask} {lats lons : List Sample} {unknown : Nat}
    {values : List Nat} (hlats : lats.length = n) (hlons : lons.length = n)
    (h : m.gridMaskValues lats lons unknown = .ok values) : values.length = n := by
  unfold Mask.gridMaskValues at h
  split at h
  · cases h
  · rw [length_of_forEach (.nan, .nan) 0 h, List.length_zip, hlats, hlons, Nat.min_self]

theorem identifyFile_aligned : Stores (AlignedStored p.file.numRecords) (identifyFile p) := by
  unfold identifyFile
  split
  · exact Stores.failure _
  · split
    · exact Stores.failure _
    · apply Stores.success
      refine AlignedStored.cons ?_ (AlignedStored.nil.cons (EntryAligned.other (by decide)))
      refine ⟨fun hkey => absurd hkey (by decide), fun _ i hi => ?_, fun hkey => absurd hkey (by decide)⟩
      rw [← Except.ok.inj hi, p.length_lat]

theorem skipOnMode_aligned : Stores (AlignedStored n) (skipOnMode c.switches d) := by
  unfold skipOnMode
  split
  · exact Stores.failure _
  · exact Stores.ite (Stores.failure _) (Stores.ite (Stores.failure _)
      (Stores.ite (Stores.failure _) (Stores.success AlignedStored.nil)))

theorem skipOnAreaBounds_aligned : Stores (AlignedStored p.file.numRecords)
    (skipOnAreaBounds c.switches c.greenlandMask p d) := by
  have hone : ∀ (b : Bool) (name : String), AlignedStored p.file.numRecords
      (if b = true then [("hemisphere", Value.text name)] else []) := by
    intro b name
    split
    · exact AlignedStored.nil.cons (EntryAligned.other (by decide))
    · exact AlignedStored.nil
  have htrack : AlignedStored p.file.numRecords
      [("lats_nadir", Value.floats p.lat), ("lons_nadir", .floats (p.lon.map mod360))] :=
    AlignedStored.cons (EntryAligned.array p.length_lat) (AlignedStored.nil.cons
      (EntryAligned.array (by rw [List.length_map, p.length_lon])))
  unfold skipOnAreaBounds
  rcases p.firstRecordLat with _ | first
  · exact Stores.failure _
  rcases p.lastRecordLat with _ | last
  · exact Stores.failure _
  rcases get? "instr_mode" d with _ | mode
  · exact Stores.failure _
  refine Stores.ite (Stores.failure _) ?_
  rcases hemisphereFlags p.lat with ⟨south, north⟩
  refine Stores.ite (Stores.failure _) (Stores.ite (Stores.failure _) ?_)
  refine Stores.ite ?_ (Stores.ite (Stores.failure _)
    (Stores.success (((hone _ _).append (hone _ _)).append htrack)))
  split
  · exact Stores.error _
  · exact Stores.ite (Stores.failure _)
      (Stores.success (((hone _ _).append (hone _ _)).append htrack))

theorem surfaceType_aligned (hd : Aligned n d) : Stores (AlignedStored n)
    (surfaceType c.antarcticSurfaceMask c.greenlandSurfaceMask d) := by
  unfold surfaceType
  split
  · exact Stores.failure _
  · refine Stores.bind fun lats hlats => Stores.bind fun _ hlatsOk => Stores.bind fun lons hlons =>
      Stores.bind fun _ hlonsOk => Stores.bind fun values hvalues => ?_
    have hlat := hd.samples hlats hlatsOk (by decide)
    have hlon := hd.samples hlons hlonsOk (by decide)
    split
    · exact Stores.bind fun _ _ => Stores.bind fun _ _ => Stores.failure _
    · next hsome =>
      -- without a mask there are no values, and no ice is found
      have hlength : values.length = n := by
        unfold maskedSurfaceType at hvalues
        split at hvalues
        · exact length_gridMaskValues hlat hlon hvalues
        · rw [← Except.ok.inj hvalues] at hsome
          exact absurd rfl hsome
      refine Stores.bind fun _ _ => Stores.bind fun _ _ => Stores.ite (Stores.error _) ?_
      apply Stores.success
      refine AlignedStored.cons (EntryAligned.nats ?_) ?_
      · rw [List.length_map, hlength]
      repeat refine AlignedStored.cons (EntryAligned.other (by decide)) ?_
      exact AlignedStored.nil

theorem dilatedCoastalMask_aligned (hd : Aligned n d) : Stores (AlignedStored n)
    (dilatedCoastalMask c.antarcticDilatedMask c.greenlandDilatedMask d) := by
  unfold dilatedCoastalMask
  split
  · exact Stores.failure _
  · refine Stores.bind fun lats hlats => Stores.bind fun _ hlatsOk => Stores.bind fun lons hlons =>
      Stores.bind fun _ hlonsOk => Stores.bind fun found hfound => ?_
    have hlat := hd.samples hlats hlatsOk (by decide)
    have hlon := hd.samples hlons hlonsOk (by decide)
    refine Stores.ite (Stores.failure _) ?_
    refine Stores.bind fun _ _ => Stores.bind fun _ _ => Stores.ite (Stores.error _) ?_
    apply Stores.success
    refine AlignedStored.nil.cons ?_
    unfold dilatedMask at hfound
    split at hfound
    · rw [← Except.ok.inj hfound]
      exact EntryAligned.none
    · split at hfound
      · cases hfound
      · next inmask nInside hpoints =>
        rw [← Except.ok.inj hfound]
        exact EntryAligned.bools (length_pointsInside hlat hlon hpoints)

theorem fes2014bTideCorrection_aligned (hd : Aligned n d) : Stores (AlignedStored n)
    (fes2014bTideCorrection c.fes2014bBaseDir c.openFes d) := by
  unfold fes2014bTideCorrection
  refine Stores.bind fun _ _ => Stores.bind fun _ _ => Stores.bind fun _ _ => ?_
  dsimp only
  refine Stores.ite (Stores.failure _) ?_
  refine Stores.bind fun _ _ => Stores.bind fun _ _ => ?_
  split
  · exact Stores.failure _
  · next f hf =>
    refine Stores.bind fun v hv => Stores.bind fun numRecords hnum => ?_
    split
    · exact Stores.failure _
    · next hlength =>
      rw [hd.numRecords hv hnum, not_not, Nat.cast_inj] at hlength
      apply Stores.success
      refine AlignedStored.nil.cons ⟨fun hkey => absurd hkey (by decide),
        fun hkey => absurd hkey (by decide), ?_⟩
      intro _ tides htides k u xs hu hxs
      cases htides
      unfold FesFile.corrections at hu
      simp only [get?] at hu
      have hocean := f.length_oceanTideEq
      have hload := f.length_loadTide
      split at hu
      · rw [← Option.some.inj hu] at hxs
        rw [← Except.ok.inj hxs, hlength]
      · split at hu
        · rw [← Option.some.inj hu] at hxs
          rw [← Except.ok.inj hxs, hocean, hlength]
        · split at hu
          · rw [← Option.some.inj hu] at hxs
            rw [← Except.ok.inj hxs, hload, hlength]
          · cases hu

theorem cats2008aTideCorrection_aligned (hd : Aligned n d) : Stores (AlignedStored n)
    (cats2008aTideCorrection c.cats2008aBaseDir c.glob c.openCats d) := by
  have hnot : AlignedStored n [("cats_tide_required", .leaf (.pyBool false))] :=
    AlignedStored.nil.cons (EntryAligned.other (by decide))
  unfold cats2008aTideCorrection
  dsimp only
  refine Stores.bind fun _ _ => Stores.ite (Stores.success hnot) ?_
  refine Stores.bind fun _ _ => Stores.ite (Stores.bind fun _ _ => Stores.success hnot) ?_
  refine Stores.bind fun _ _ => Stores.bind fun _ _ => Stores.bind fun _ _ =>
    Stores.bind fun _ _ => Stores.ite (Stores.success hnot) ?_
  refine Stores.bind fun _ _ => Stores.bind fun _ _ => Stores.bind fun _ _ =>
    Stores.ite (Stores.failure _) ?_
  split
  · split
    · exact Stores.failure _
    · next f hf =>
      refine Stores.bind fun v hv => Stores.bind fun numRecords hnum => ?_
      split
      · exact Stores.failure _
      · next hlength =>
        rw [hd.numRecords hv hnum, not_not, Nat.cast_inj] at hlength
        apply Stores.success
        refine AlignedStored.cons (EntryAligned.other (by decide)) (AlignedStored.cons
          (EntryAligned.array ?_) (AlignedStored.nil.cons (EntryAligned.other (by decide))))
        rw [List.length_map, hlength]
  · exact Stores.failure _

/-! ## The corrections -/

theorem length_takeAt {xs ys : List Sample} {indices : List ℤ} (h : takeAt xs indices = .ok ys) :
    ys.length = indices.length :=
  length_of_forEach 0 .nan h

/-- Arrays of one length are added entry by entry. -/
theorem length_addArrays {xs ys out : List Sample} (hxs : xs.length = n) (hys : ys.length = n)
    (h : addArrays xs ys = .ok out) : out.length = n := by
  unfold addArrays at h
  rw [if_pos (hxs.trans hys.symm)] at h
  rw [← Except.ok.inj h, List.length_zipWith, hxs, hys, Nat.min_self]

theorem length_addAt {terms : List (List Sample)} : ∀ {locations : List Nat}
    {xs out : List Sample}, addAt terms locations xs = .ok out → out.length = xs.length := by
  intro locations
  induction locations with
  | nil =>
      intro xs out h
      rw [← Except.ok.inj h]
  | cons i locations ih =>
      intro xs out h
      rw [addAt] at h
      split at h
      · rw [ih h, List.length_set]
      · cases h

theorem length_sumOfCorrections {loadTide out : List Sample}
    (hload : loadTide.length = p.file.numRecords) (h : sumOfCorrections p loadTide = .ok out) :
    out.length = p.file.numRecords := by
  obtain ⟨dry, hdry, h⟩ := except_bind_ok h
  obtain ⟨wet, hwet, h⟩ := except_bind_ok h
  obtain ⟨gim, hgim, h⟩ := except_bind_ok h
  obtain ⟨solid, hsolid, h⟩ := except_bind_ok h
  obtain ⟨pole, hpole, h⟩ := except_bind_ok h
  obtain ⟨s₁, h₁, h⟩ := except_bind_ok h
  obtain ⟨s₂, h₂, h⟩ := except_bind_ok h
  obtain ⟨s₃, h₃, h⟩ := except_bind_ok h
  obtain ⟨s₄, h₄, h⟩ := except_bind_ok h
  have hterm : ∀ {xs ys : List Sample}, takeAt xs p.indMeas1hz = .ok ys →
      ys.length = p.file.numRecords := fun htake => (length_takeAt htake).trans p.length_indMeas1hz
  have hfirst := length_addArrays (hterm hdry) (hterm hwet) h₁
  have hsecond := length_addArrays hfirst (hterm hgim) h₂
  have hthird := length_addArrays hsecond hload h₃
  have hfourth := length_addArrays hthird (hterm hsolid) h₄
  exact length_addArrays hfourth (hterm hpole) h

theorem length_addOceanTides {hemisphere instrMode : Value} {oceanTide oceanTideEq : List Sample}
    {catsTide : Option (List Sample)} {floating ocean : List Nat} {s out : List Sample}
    (h : addOceanTides p hemisphere instrMode oceanTide oceanTideEq catsTide floating ocean s =
      .ok out) : out.length = s.length := by
  unfold addOceanTides at h
  split at h
  · rw [← Except.ok.inj h]
  · obtain ⟨hfFluct, -, h⟩ := except_bind_ok h
    split at h
    · obtain ⟨s', hs', h⟩ := except_bind_ok h
      rw [length_addAt h, length_addAt hs']
    · split at h
      · split at h
        · cases h
        · obtain ⟨s', hs', h⟩ := except_bind_ok h
          rw [length_addAt h, length_addAt hs']
      · rw [← Except.ok.inj h]

theorem geoCorrections_aligned (hd : Aligned p.file.numRecords d) :
    Stores (AlignedStored p.file.numRecords) (geoCorrections p d) := by
  unfold geoCorrections
  split
  · next loadTide oceanTide oceanTideEq hload _ _ =>
    refine Stores.bind fun _ _ => ?_
    split
    · exact Stores.failure _
    · refine Stores.bind fun s hs => Stores.bind fun _ _ => Stores.bind fun _ _ =>
        Stores.bind fun _ _ => Stores.bind fun _ _ => Stores.bind fun _ _ =>
        Stores.bind fun _ _ => Stores.bind fun out hout => Stores.ite (Stores.error _) ?_
      apply Stores.success
      refine AlignedStored.cons (EntryAligned.other (by decide)) (AlignedStored.nil.cons
        (EntryAligned.array ?_))
      rw [length_addOceanTides hout]
      exact length_sumOfCorrections (hd.fesEntry hload) hs
  · exact Stores.failure _

/-! ## The retracking and the geolocations -/

theorem algWaveformQuality_aligned (hd : Aligned p.file.numRecords d) :
    Stores (AlignedStored p.file.numRecords) (algWaveformQualityProcess c p d) := by
  refine Stores.bind fun _ _ => Stores.bind fun v hv => Stores.bind fun mask hmask =>
    Stores.bind fun included hincluded => ?_
  apply Stores.success
  refine AlignedStored.nil.cons (EntryAligned.bools ?_)
  have hmaskLength := hd.flags hv hmask (by decide)
  unfold waveformQuality at hincluded
  split at hincluded
  · cases hincluded
  · next waveformsOk hchecks =>
    have hlength : waveformsOk.length = p.file.numRecords := by
      unfold waveformQcChecks at hchecks
      split at hchecks
      · cases hchecks
      · split at hchecks
        · cases hchecks
        · split at hchecks
          · rw [← Except.ok.inj hchecks, List.length_replicate]
            rfl
          · exact length_of_forEach [] false hchecks
    split at hincluded
    · cases hincluded
    · rw [← Except.ok.inj hincluded, List.length_zipWith, hlength, hmaskLength, Nat.min_self]

/-- The retrackers return an entry for each waveform. -/
theorem length_finishRetrack {rows : List Row} {counted : Nat → Bool} {refBin rbinSize : ℚ}
    {r : RetrackResult} (h : finishRetrack rows counted refBin rbinSize = .ok r) :
    r.drBin.length = rows.length ∧ r.drMeters.length = rows.length ∧
      r.pwrAtRtrkPoint.length = rows.length := by
  unfold finishRetrack at h
  split at h
  · cases h
  · rw [← Except.ok.inj h]
    exact ⟨by rw [List.length_map], by rw [List.length_map, List.length_map], by rw [List.length_map]⟩

theorem length_callRetracker {num : Numerics} {cfg : RetrackConfig} {f : L1bFile}
    {included : List Bool} {r : RetrackResult} (h : callRetracker num cfg f included = .ok r) :
    r.drBin.length = f.numRecords ∧ r.drMeters.length = f.numRecords ∧
      r.pwrAtRtrkPoint.length = f.numRecords := by
  unfold callRetracker at h
  split at h
  · unfold retrackCs2SinMaxCoherence at h
    split at h
    · cases h
    · split at h
      · cases h
      · split at h
        · cases h
        · next rows hrows =>
          have hlength : rows.length = f.numRecords := (retrackLoop_rows hrows).1
          rw [← hlength]
          exact length_finishRetrack h
  · unfold retrackTcogWaveformsCs2 at h
    split at h
    · cases h
    · split at h
      · cases h
      · dsimp only at h
        split at h
        · cases h
        · split at h
          · cases h
          · next rows hrows =>
            have hlength : rows.length = f.numRecords := (retrackLoop_rows hrows).1
            rw [← hlength]
            exact length_finishRetrack h

theorem algRetrack_aligned (hd : Aligned p.file.numRecords d) :
    Stores (AlignedStored p.file.numRecords) (algRetrackProcess c p d) := by
  refine Stores.bind fun _ _ => Stores.bind fun _ _ => Stores.bind fun _ _ =>
    Stores.bind fun v hv => Stores.bind fun sumCor hsumCor => Stores.bind fun r hr => ?_
  have hsum := hd.samples hv hsumCor (by decide)
  unfold retrack at hr
  split at hr
  · cases hr
  · next result hresult =>
    obtain ⟨hbin, hmeters, hpower⟩ := length_callRetracker hresult
    dsimp only at hr
    split at hr
    · cases hr
    · obtain rfl := Except.ok.inj hr
      have hgeo : (List.zipWith (fun (w s : Sample) => .num (1 / 2 * c.settings.retrack.speedLight) * w + s)
          p.file.windowDel sumCor).length = p.file.numRecords := by
        rw [List.length_zipWith, p.file.length_windowDel, hsum]
        exact Nat.min_self _
      apply Stores.success
      refine AlignedStored.cons (EntryAligned.array ?_) (AlignedStored.cons (EntryAligned.array hpower)
        (AlignedStored.cons (EntryAligned.other (by decide)) (AlignedStored.cons
        (EntryAligned.other (by decide)) (AlignedStored.cons (EntryAligned.array hgeo)
        (AlignedStored.cons (EntryAligned.array hmeters) (AlignedStored.cons (EntryAligned.array ?_)
        (AlignedStored.cons (EntryAligned.other (by decide)) (AlignedStored.nil.cons
        (EntryAligned.other (by decide))))))))))
      · rw [List.length_map, hbin]
      · rw [List.length_zipWith, hgeo, hmeters, Nat.min_self]

theorem algBackscatter_aligned (hd : Aligned n d) :
    Stores (AlignedStored n) (algBackscatterProcess c p d) := by
  refine Stores.bind fun v hv => Stores.bind fun pwr hpwr => Stores.bind fun _ _ =>
    Stores.bind fun _ _ => Stores.bind fun _ _ => ?_
  split
  · refine Stores.bind fun sig0 hsig0 => Stores.success (AlignedStored.nil.cons
      (EntryAligned.array ?_))
    rw [length_of_forEach .nan .nan hsig0]
    exact hd.samples hv hpwr (by decide)
  · exact Stores.bind fun _ _ => Stores.failure _

theorem pocaEntries_aligned {height latPoca lonPoca : List Sample}
    (hheight : height.length = p.file.numRecords) (hlat : latPoca.length = p.file.numRecords)
    (hlon : lonPoca.length = p.file.numRecords) :
    AlignedStored p.file.numRecords (pocaEntries p height latPoca lonPoca) := by
  have hlatitudes : (List.zipWith (fun (lat nadir : Sample) => if lat.isNan then nadir else lat)
      latPoca p.lat).length = p.file.numRecords := by
    rw [List.length_zipWith, hlat, p.length_lat, Nat.min_self]
  unfold pocaEntries
  refine AlignedStored.cons (EntryAligned.array hlatitudes) (AlignedStored.cons
    (EntryAligned.array ?_) (AlignedStored.cons (EntryAligned.array hheight) (AlignedStored.cons
    (EntryAligned.array hlatitudes) (AlignedStored.nil.cons (EntryAligned.array ?_)))))
  · rw [List.length_map, hlon]
  · rw [List.length_zipWith, List.length_zip, hlat, hlon, p.length_lon, Nat.min_self, Nat.min_self]

theorem algGeolocateLrm_aligned (hd : Aligned p.file.numRecords d) :
    Stores (AlignedStored p.file.numRecords) (algGeolocateLrmProcess c p d) := by
  refine Stores.bind fun _ _ => Stores.ite (Stores.success AlignedStored.nil) ?_
  refine Stores.bind fun _ _ => Stores.bind fun _ _ => Stores.bind fun v hv =>
    Stores.bind fun range hrange => Stores.bind fun records hrecords => ?_
  have hlength : records.length = p.file.numRecords := by
    rw [length_of_forEach .nan (.nan, .nan, .nan) hrecords]
    exact hd.samples hv hrange (by decide)
  apply Stores.success
  apply pocaEntries_aligned
  · rw [List.length_map, hlength]
  · rw [List.length_map, hlength]
  · rw [List.length_map, hlength]

theorem algGeolocateRoemer_aligned :
    Stores (AlignedStored p.file.numRecords) (algGeolocateRoemerProcess c p d) := by
  refine Stores.bind fun _ _ => Stores.ite (Stores.success AlignedStored.nil) ?_
  refine Stores.bind fun _ _ => Stores.bind fun _ _ => Stores.bind fun _ _ =>
    Stores.bind fun _ _ => Stores.bind fun _ _ => Stores.bind fun _ _ => Stores.bind fun _ _ =>
    Stores.bind fun _ _ => Stores.bind fun _ _ => Stores.bind fun out hout => ?_
  unfold geolocateRoemer at hout
  split at hout
  · cases hout
  · cases hout
  · split at hout
    · cases hout
    · split at hout
      · cases hout
      · next records hrecords =>
        have hlength : records.length = p.file.numRecords := by
          rw [length_of_forEach .nan (RoemerRecord.start .nan .nan) hrecords]
          exact p.length_lat
        obtain rfl := Except.ok.inj hout
        apply Stores.success
        repeat
          refine AlignedStored.cons (EntryAligned.array ?_) ?_
          · simp only [List.length_map, List.length_zipIdx, hlength]
        exact AlignedStored.nil

theorem algGeolocateSin_aligned :
    Stores (AlignedStored p.file.numRecords) (algGeolocateSinProcess c p d) := by
  refine Stores.bind fun _ _ => Stores.ite (Stores.success AlignedStored.nil) ?_
  refine Stores.bind fun _ _ => Stores.bind fun _ _ => Stores.bind fun _ _ =>
    Stores.bind fun _ _ => Stores.bind fun out hout => Stores.success ?_
  have hlengths : out.height.length = p.file.numRecords ∧ out.lat.length = p.file.numRecords ∧
      out.lon.length = p.file.numRecords := by
    unfold geolocateSin at hout
    split at hout
    · cases hout
    · next records hrecords =>
      have hlength : records.length = p.file.numRecords := by
        rw [length_of_forEach .nan SinRecord.zero hrecords]
        exact p.length_lat
      split at hout
      · cases hout
      · split at hout
        · split at hout
          · cases hout
          · rw [← Except.ok.inj hout]
            simp only [sinOutput, List.length_map, hlength, and_self]
        · rw [← Except.ok.inj hout]
          simp only [sinOutput, List.length_map, hlength, and_self]
  exact pocaEntries_aligned hlengths.1 hlengths.2.1 hlengths.2.2

/-! ## From the basins on -/

theorem algBasinIds_aligned (hd : Aligned n d) :
    Stores (AlignedStored n) (algBasinIdsProcess c d) := by
  refine Stores.bind fun _ _ => Stores.bind fun lats hlats => Stores.bind fun _ hlatsOk =>
    Stores.bind fun lons hlons => Stores.bind fun _ hlonsOk => ?_
  have hlat := hd.samples hlats hlatsOk (by decide)
  have hlon := hd.samples hlons hlonsOk (by decide)
  split
  · split
    · exact Stores.error _
    · exact Stores.error _
    · refine Stores.bind fun zwally hzwally => Stores.bind fun rignot hrignot => Stores.success ?_
      refine AlignedStored.cons (EntryAligned.nats ?_) (AlignedStored.cons (EntryAligned.nats
        (length_gridMaskValues hlat hlon hzwally)) (AlignedStored.nil.cons EntryAligned.none))
      rw [List.length_map, length_gridMaskValues hlat hlon hrignot]
  · refine Stores.bind fun mouginot hmouginot => Stores.bind fun rignot hrignot =>
      Stores.success ?_
    refine AlignedStored.cons (EntryAligned.nats ?_) (AlignedStored.cons EntryAligned.none
      (AlignedStored.nil.cons (EntryAligned.nats (length_gridMaskValues hlat hlon hmouginot))))
    rw [List.length_map, length_gridMaskValues hlat hlon hrignot]

/-- A lookup returns a value for each position. -/
def KeepsLength (lookup : TrackLookup) : Prop :=
  ∀ lats lons xs, lats.length = lons.length → lookup lats lons = .ok xs → xs.length = lats.length

/-- The lookups of a chain return a value for each position. -/
structure LookupsKeepLength (c : CryotempoChain) : Prop where
  demAnt : ∀ lookup, c.demAnt = some lookup → KeepsLength lookup
  demGrn : KeepsLength c.demGrn
  uncertaintyAnt : ∀ lookup, c.uncertaintyAnt = some lookup → KeepsLength lookup
  uncertaintyGrn : KeepsLength c.uncertaintyGrn

theorem trackValues_aligned {key : String} {ant : Option TrackLookup} {grn : TrackLookup}
    (hant : ∀ lookup, ant = some lookup → KeepsLength lookup) (hgrn : KeepsLength grn)
    (hd : Aligned n d) : Stores (AlignedStored n) (trackValues key ant grn d) := by
  refine Stores.bind fun _ _ => Stores.bind fun lats hlats => Stores.bind fun _ hlatsOk =>
    Stores.bind fun lons hlons => Stores.bind fun _ hlonsOk => ?_
  have hlat := hd.samples hlats hlatsOk (by decide)
  have hlon := hd.samples hlons hlonsOk (by decide)
  have hsame := hlat.trans hlon.symm
  split
  · split
    · exact Stores.success (AlignedStored.nil.cons EntryAligned.none)
    · next lookup =>
      refine Stores.bind fun xs hxs => Stores.success (AlignedStored.nil.cons
        (EntryAligned.array ?_))
      rw [hant lookup rfl _ _ _ hsame hxs, hlat]
  · refine Stores.bind fun xs hxs => Stores.success (AlignedStored.nil.cons
      (EntryAligned.array ?_))
    rw [hgrn _ _ _ hsame hxs, hlat]

theorem Aligned.samples? {key : String} {xs : List Sample} (hd : Aligned n d)
    (h : samples? d key = .ok (some xs)) (hkey : key ∈ recordKeys) : xs.length = n := by
  unfold Cryotempo.samples? at h
  split at h
  · cases h
  · next v hv =>
    obtain ⟨ys, hys, h⟩ := except_bind_ok h
    obtain rfl := Option.some.inj (Except.ok.inj h)
    exact (hd key v hv).samples hkey _ hys

theorem algFilterHeight_aligned (hd : Aligned n d) :
    Stores (AlignedStored n) (algFilterHeightProcess c p d) := by
  refine Stores.bind fun height hheight => Stores.bind fun dem hdem => Stores.bind fun _ _ =>
    Stores.bind fun out hout => ?_
  split
  · exact Stores.failure _
  · refine Stores.success (AlignedStored.nil.cons (EntryAligned.array ?_))
    unfold filterHeight at hout
    split at hout
    · cases hout
    · cases hout
    · cases hout
    · split at hout
      · cases hout
      · split at hout
        · cases hout
        · rw [← Except.ok.inj (Except.ok.inj hout), List.length_zipWith,
            hd.samples? hheight (by decide), hd.samples? hdem (by decide), Nat.min_self]

theorem algProductOutput_aligned : Stores (AlignedStored n) (algProductOutputProcess c p d) := by
  refine Stores.bind fun _ _ => ?_
  split
  · exact Stores.failure _
  · exact Stores.success (AlignedStored.nil.cons (EntryAligned.other (by decide)))

/-! ## Runs -/

/-- **Every algorithm keeps the lengths of the arrays.** -/
theorem processOf_aligned (hc : LookupsKeepLength c) (hd : Aligned p.file.numRecords d)
    (alg : Alg) : Stores (AlignedStored p.file.numRecords) (processOf c p alg d) := by
  cases alg with
  | identifyFile => exact identifyFile_aligned
  | skipOnMode => exact skipOnMode_aligned
  | skipOnAreaBounds => exact skipOnAreaBounds_aligned
  | surfaceType => exact surfaceType_aligned hd
  | dilatedCoastalMask => exact dilatedCoastalMask_aligned hd
  | fes2014bTideCorrection => exact fes2014bTideCorrection_aligned hd
  | cats2008aTideCorrection => exact cats2008aTideCorrection_aligned hd
  | geoCorrections => exact geoCorrections_aligned hd
  | waveformQuality => exact algWaveformQuality_aligned hd
  | retrack => exact algRetrack_aligned hd
  | backscatter => exact algBackscatter_aligned hd
  | geolocateLrm => exact algGeolocateLrm_aligned hd
  | geolocateRoemer => exact algGeolocateRoemer_aligned
  | geolocateSin => exact algGeolocateSin_aligned
  | basinIds => exact algBasinIds_aligned hd
  | refDem => exact trackValues_aligned hc.demAnt hc.demGrn hd
  | filterHeight => exact algFilterHeight_aligned hd
  | uncertainty => exact trackValues_aligned hc.uncertaintyAnt hc.uncertaintyGrn hd
  | productOutput => exact algProductOutput_aligned

end Algorithms

end Clev2er.Cryotempo
