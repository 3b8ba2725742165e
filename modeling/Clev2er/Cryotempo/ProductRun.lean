import Clev2er.Cryotempo.BreakpointAfter
import Clev2er.Cryotempo.ProductOutput
import Clev2er.Cryotempo.RecordArrays
import Clev2er.Lib.Writes

/-!
# The products of a run

A run that ends with `alg_product_output` has written a product in which entry `i` of
every variable is that of record `i` (`product_of_run`). The products of many files are
independent of the order in which they are processed just where no two different ones
have the same name (`products_order_iff`).
-/

namespace Clev2er.Cryotempo

open Clev2er.Lib Clev2er.Retrack Clev2er.Breakpoints Clev2er.RunChain Clev2er.Time

/-! ## Runs -/

section Run

variable {c : CryotempoChain} {setUp : AlgSetUp} {cfg : ChainConfig} {filenum : Nat}

/-- **A run keeps the lengths of the arrays**, whatever its algorithms and their order. -/
theorem aligned_run (hc : LookupsKeepLength c) : ∀ {algs : List Alg} {d d' : Dict},
    Aligned (c.products filenum).file.numRecords d →
    dictAfter cfg filenum (algs.map (algClass c setUp)) d = some d' →
    Aligned (c.products filenum).file.numRecords d' := by
  intro algs
  induction algs with
  | nil =>
      intro d d' hd h
      obtain rfl := Option.some.inj h
      exact hd
  | cons alg rest ih =>
      intro d d' hd h
      obtain ⟨m, stored, hok, hrest⟩ := dictAfter_cons h
      exact ih (hd.update (processOf_aligned hc hd alg m stored hok)) hrest

theorem aligned_newDict (n : Nat) (file : String) :
    Aligned n (.leaf "l1b_file_name" (.str file) .nil) := by
  intro key v h
  rw [get?] at h
  split at h
  · next hkey =>
    obtain rfl := hkey
    exact EntryAligned.other (by decide)
  · cases h

end Run

/-! ## The variables that are copied -/

/-- The variables with an array of the shared dictionary, and its key. -/
def copiedVariables : List (String × String) :=
  [("latitude", "latitudes"), ("elevation", "height_filt"), ("backscatter", "sig0_20_ku"),
    ("surface_type", "cryotempo_surface_type"), ("reference_dem", "dem_elevation_values"),
    ("basin_id2", "basin_mask_values_rignot"), ("uncertainty", "uncertainty")]

variable {n : Nat} {d : Dict}

/-- A variable holds the array of a key as it is, or NaN for each record if the key has
`None`. -/
def Holds (n : Nat) (d : Dict) (data : List Sample) (key : String) : Prop :=
  ∃ value, get? key d = some value ∧
    (value.samples = .ok data ∨ value = .none ∧ data = List.replicate n .nan)

theorem copiedVariable_holds {read : Value → Except PyExc (List Sample)} {name key : String}
    {v : String × List Sample} (hd : Aligned n d) (hkey : key ∈ recordKeys)
    (hread : ∀ value xs, read value = .ok xs →
      value.samples = .ok xs ∨ value = .none ∧ xs = [.nan])
    (h : copiedVariable read n d name key = .ok v) : Holds n d v.2 key := by
  obtain ⟨value, hvalue, h⟩ := except_bind_ok h
  obtain ⟨data, hdata, h⟩ := except_bind_ok h
  obtain ⟨out, hout, h⟩ := except_bind_ok h
  obtain rfl := Except.ok.inj h
  refine ⟨value, get?_of_item hvalue, ?_⟩
  rcases hread value data hdata with hxs | ⟨hnone, rfl⟩
  · rw [assign_of_length ((hd key value (get?_of_item hvalue)).samples hkey _ hxs)] at hout
    obtain rfl := Except.ok.inj hout
    exact .inl hxs
  · exact .inr ⟨hnone, (Except.ok.inj hout).symm⟩

theorem doubles_eq_ok (value : Value) (xs : List Sample) (h : doubles value = .ok xs) :
    value.samples = .ok xs ∨ value = .none ∧ xs = [.nan] := by
  rw [doubles] at h
  split at h
  · next hnone => exact .inr ⟨hnone, (Except.ok.inj h).symm⟩
  · exact .inl h

/-- **The copied variables are the arrays of the dictionary**, only `None` is broadcast. -/
theorem productVariables_holds {w : ProductWriter} {times : TrackTimes}
    {vars : List (String × List Sample)} (hd : Aligned times.timeUtcSecs.length d)
    (h : productVariables w times d = .ok vars) :
    ∀ pair ∈ copiedVariables, ∃ data, (pair.1, data) ∈ vars ∧
      Holds times.timeUtcSecs.length d data pair.2 := by
  obtain ⟨latitude, hlatitude, h⟩ := except_bind_ok h
  obtain ⟨lonValue, -, h⟩ := except_bind_ok h
  obtain ⟨lons, -, h⟩ := except_bind_ok h
  obtain ⟨longitude, -, h⟩ := except_bind_ok h
  obtain ⟨mode, -, h⟩ := except_bind_ok h
  obtain ⟨elevation, helevation, h⟩ := except_bind_ok h
  obtain ⟨backscatter, hbackscatter, h⟩ := except_bind_ok h
  obtain ⟨surfaceType, hsurfaceType, h⟩ := except_bind_ok h
  obtain ⟨referenceDem, hreferenceDem, h⟩ := except_bind_ok h
  obtain ⟨hemisphere, -, h⟩ := except_bind_ok h
  obtain ⟨basinId, -, h⟩ := except_bind_ok h
  obtain ⟨basinId2, hbasinId2, h⟩ := except_bind_ok h
  obtain ⟨uncertainty, huncertainty, h⟩ := except_bind_ok h
  obtain ⟨additional, -, h⟩ := except_bind_ok h
  obtain rfl := Except.ok.inj h
  have hcopied : ∀ {read : Value → Except PyExc (List Sample)} {name key : String}
      {v : String × List Sample}, key ∈ recordKeys →
      (∀ value xs, read value = .ok xs →
        value.samples = .ok xs ∨ value = .none ∧ xs = [.nan]) →
      copiedVariable read times.timeUtcSecs.length d name key = .ok v →
      v = (name, v.2) ∧ Holds times.timeUtcSecs.length d v.2 key := by
    intro read name key v hkey hread hv
    obtain rfl := (copiedVariable_spec hv).1
    exact ⟨rfl, copiedVariable_holds hd hkey hread hv⟩
  have hsame : ∀ (value : Value) (xs : List Sample), value.samples = .ok xs →
      value.samples = .ok xs ∨ value = .none ∧ xs = [.nan] := fun _ _ => .inl
  have hlat := hcopied (by decide) doubles_eq_ok hlatitude
  have helev := hcopied (by decide) doubles_eq_ok helevation
  have hback := hcopied (by decide) doubles_eq_ok hbackscatter
  have htype := hcopied (by decide) hsame hsurfaceType
  have hdem := hcopied (by decide) doubles_eq_ok hreferenceDem
  have hbasin := hcopied (by decide) hsame hbasinId2
  have hunc := hcopied (by decide) doubles_eq_ok huncertainty
  intro pair hpair
  simp only [copiedVariables, List.mem_cons, List.not_mem_nil, or_false] at hpair
  rcases hpair with rfl | rfl | rfl | rfl | rfl | rfl | rfl
  · exact ⟨_, by rw [← hlat.1]; simp, hlat.2⟩
  · exact ⟨_, by rw [← helev.1]; simp, helev.2⟩
  · exact ⟨_, by rw [← hback.1]; simp, hback.2⟩
  · exact ⟨_, by rw [← htype.1]; simp, htype.2⟩
  · exact ⟨_, by rw [← hdem.1]; simp, hdem.2⟩
  · exact ⟨_, by rw [← hbasin.1]; simp, hbasin.2⟩
  · exact ⟨_, by rw [← hunc.1]; simp, hunc.2⟩

/-! ## The product of the track over the South Pole -/

/-- The time of the record. -/
def poleTime : Datetime :=
  { newYear 2020 (by decide) with
    hour := 7
    minute := 31
    second := 30
    hour_lt := by decide
    minute_lt := by decide
    second_lt := by decide }

def poleWriter : ProductWriter where
  settings := ⟨"/products", "d", 1⟩
  leapSeconds := leapLines
  includeAdditionalParameters := true
  header p := ⟨List.replicate p.file.numRecords (.num 631179127), 1, 10, 10, List.length_replicate⟩
  makedirs _ := none
  openDataset _ := none

/-- The chain with a reference DEM and an uncertainty in the south, that writes products. -/
def writingChain : CryotempoChain :=
  { poleChain with
    demAnt := some fun lats _ => .ok (lats.map fun _ => .num 2790)
    uncertaintyAnt := some fun lats _ => .ok (lats.map fun _ => .num 1)
    writeProduct := writeProduct poleWriter }

theorem lookupsKeepLength_writing : LookupsKeepLength writingChain := by
  refine ⟨?_, ?_, ?_, ?_⟩
  · intro lookup h
    cases h
    intro lats lons xs _ hxs
    cases hxs
    exact List.length_map _
  · intro lats lons xs _ hxs
    cases hxs
    rfl
  · intro lookup h
    cases h
    intro lats lons xs _ hxs
    cases hxs
    exact List.length_map _
  · intro lats lons xs _ hxs
    cases hxs
    rfl

/-- The dictionary before the product is written. -/
def poleFiltered : Dict := update
  [("dem_elevation_values", .floats [.num 2790]), ("height_filt", .floats [.num poleHeight]),
    ("uncertainty", .floats [.num 1])] poleLocated

def poleName : String := "/products/D/001/LAND_ICE/ANTARC/2020/01/" ++
  "CS_OFFL_SIR_TDP_LI_ANTARC_20200101T073130_20200101T073130_01_00010_D001.nc"

/-- The algorithms before `alg_product_output`. -/
def beforeProductOutput : List Alg :=
  (beforeBasinIds ++ [.basinIds]) ++ [.refDem, .filterHeight, .uncertainty]

theorem writingChain_filtered : dictAfter sequentialConfig 0
    ([Alg.refDem, .filterHeight, .uncertainty].map (algClass writingChain plainSetUp))
    poleLocated = some poleFiltered := by
  decide +kernel

theorem poleProduct_name : (match productOf poleWriter poleProduct poleFiltered with
    | .ok (.ok written) => some written.1
    | _ => none) = some poleName := by
  decide +kernel

theorem poleProduct_written : ∃ file : ProductFile,
    productOf poleWriter poleProduct poleFiltered = .ok (.ok (poleName, file)) := by
  have hname := poleProduct_name
  split at hname
  · next written hwritten =>
    obtain ⟨name, file⟩ := written
    obtain rfl := Option.some.inj hname
    exact ⟨file, hwritten⟩
  · cases hname

theorem writingChain_run : dictAfter sequentialConfig 0
    ((beforeProductOutput ++ [Alg.productOutput]).map (algClass writingChain plainSetUp))
    (.leaf "l1b_file_name" (.str poleFile) .nil) =
      some (update [("product_filename", .text poleName)] poleFiltered) := by
  have hlocated : dictAfter sequentialConfig 0
      ((beforeBasinIds ++ [Alg.basinIds]).map (algClass writingChain plainSetUp))
      (.leaf "l1b_file_name" (.str poleFile) .nil) = some poleLocated := by
    have hrun := poleLocated_dictAfter
    rw [poleEnv, algClasses_chain] at hrun
    exact hrun
  rw [beforeProductOutput, List.map_append, List.map_append, dictAfter_append, dictAfter_append,
    hlocated, Option.bind_some, writingChain_filtered, Option.bind_some]
  obtain ⟨file, hfile⟩ := poleProduct_written
  have hresult : processOf writingChain poleProduct .productOutput poleFiltered =
      .ok (.success "" [("product_filename", .text poleName)]) := by
    simp only [processOf, algProductOutputProcess, writingChain, writeProduct, hfile, bind,
      Except.bind]
  have hbody : processResult sequentialConfig (algClass writingChain plainSetUp .productOutput) 0
      poleFiltered = (update [("product_filename", .text poleName)] poleFiltered,
        .ok (true, "")) := by
    simp only [processResult, algClass, show writingChain.products 0 = poleProduct from rfl,
      hresult]
    rfl
  rw [List.map_singleton, dictAfter, hbody]
  rfl

/-! ## The product of a run -/

/-- A product of a track of `n` records, from a dictionary. -/
structure Complete (w : ProductWriter) (n : Nat) (d : Dict) (file : ProductFile) : Prop where
  time_eq : file.time = n
  names_eq : file.vars.map Prod.fst = variableNames w.includeAdditionalParameters
  length_eq : ∀ v ∈ file.vars, v.2.length = n
  holds : ∀ pair ∈ copiedVariables,
    ∃ data, (pair.1, data) ∈ file.vars ∧ Holds n d data pair.2

/-- A product from aligned arrays is complete. -/
theorem complete_of_productOf {w : ProductWriter} {p : L1bProduct} {name : String}
    {file : ProductFile} (hd : Aligned p.file.numRecords d)
    (h : productOf w p d = .ok (.ok (name, file))) : Complete w p.file.numRecords d file := by
  obtain ⟨grain, times, track, hwritten⟩ := written_of_productOf h
  have hlength : times.timeUtcSecs.length = p.file.numRecords := by
    rw [(trackTimes_eq_ok hwritten.times_eq).2.2, (w.header p).length_time20Ku]
  obtain ⟨hnames, hlengths, -⟩ := productVariables_spec hwritten.vars_eq
  refine ⟨hwritten.time_eq.trans hlength, hnames, fun v hv => (hlengths v hv).trans hlength, ?_⟩
  rw [← hlength] at hd
  intro pair hpair
  rw [← hlength]
  exact productVariables_holds hd hwritten.vars_eq pair hpair

variable {c : CryotempoChain} {setUp : AlgSetUp} {cfg : ChainConfig} {filenum : Nat}

/-- **A run that ends with `alg_product_output` has written a complete product**: the
variables of the dictionary before it, with one entry for each record of the track. -/
theorem product_of_run (hc : LookupsKeepLength c) {w : ProductWriter}
    (hw : c.writeProduct = writeProduct w) {algs : List Alg} {file : String} {d' : Dict}
    (h : dictAfter cfg filenum ((algs ++ [Alg.productOutput]).map (algClass c setUp))
      (.leaf "l1b_file_name" (.str file) .nil) = some d') :
    ∃ (d : Dict) (name : String) (product : ProductFile),
      dictAfter cfg filenum (algs.map (algClass c setUp))
        (.leaf "l1b_file_name" (.str file) .nil) = some d ∧
      productOf w (c.products filenum) d = .ok (.ok (name, product)) ∧
      get? "product_filename" d' = some (.text name) ∧
      Complete w (c.products filenum).file.numRecords d product := by
  rw [List.map_append, dictAfter_append] at h
  obtain ⟨d, hd, hlast⟩ := Option.bind_eq_some_iff.mp h
  obtain ⟨m, stored, hok, hend⟩ := dictAfter_cons hlast
  obtain rfl := Option.some.inj hend
  obtain ⟨result, hresult, hok⟩ := except_bind_ok hok
  rw [hw] at hresult
  obtain ⟨outcome, houtcome, hresult⟩ := except_bind_ok hresult
  cases outcome with
  | error reason =>
      obtain rfl := Except.ok.inj hresult
      cases hok
  | ok written =>
      obtain rfl := Except.ok.inj hresult
      cases hok
      refine ⟨d, written.1, written.2, hd, houtcome, ?_, ?_⟩
      · rw [update, List.foldl_cons, List.foldl_nil, get?_setItem, if_pos rfl]
      · exact complete_of_productOf (aligned_run hc (aligned_newDict _ file) hd) houtcome

/-- The product of the track over the South Pole. -/
theorem product_of_run_pole : ∃ (d : Dict) (name : String) (product : ProductFile),
    dictAfter sequentialConfig 0 (beforeProductOutput.map (algClass writingChain plainSetUp))
      (.leaf "l1b_file_name" (.str poleFile) .nil) = some d ∧
    productOf poleWriter poleProduct d = .ok (.ok (name, product)) ∧
    get? "product_filename" (update [("product_filename", .text poleName)] poleFiltered) =
      some (.text name) ∧
    Complete poleWriter 1 d product :=
  product_of_run lookupsKeepLength_writing rfl writingChain_run

/-! ## The times of a product -/

theorem head?_eq_getD {α : Type} {xs : List α} {x : α} (h : xs.head? = some x) (default : α) :
    xs.getD 0 default = x := by
  cases xs with
  | nil => cases h
  | cons y xs => exact Option.some.inj h

theorem getLast?_eq_getD {α : Type} {xs : List α} {x : α} (h : xs.getLast? = some x)
    (default : α) : xs.getD (xs.length - 1) default = x := by
  rw [List.getLast?_eq_getElem?] at h
  rw [List.getD_eq_getElem?_getD, h]
  rfl

/-- **The times of a product are the UTC times of its records**: its variable `time` and
the times in its name, for a file with the TAI times of these, outside the windows before
the leap seconds. -/
theorem productOf_utc {w : ProductWriter} {p : L1bProduct} {d : Dict} {name : String}
    {file : ProductFile} (h : productOf w p d = .ok (.ok (name, file))) {g : Grain}
    (hg : Grain.init w.leapSeconds = .ok g) (hback : g.NeverBack) (utc : Nat → Datetime)
    (hutc : ∀ i < p.file.numRecords,
      (w.header p).time20Ku.getD i .nan = .num (g.taiSeconds (utc i) cs2Epoch) ∧
      ntpEpoch ≤ utc i ∧ g.NoLeap fun time =>
        (utc i).microseconds < time ∧ time ≤ ahead g.table (utc i).microseconds) :
    (∃ seconds, ("time", seconds) ∈ file.vars ∧ ∀ i < p.file.numRecords,
      seconds.getD i .nan = .num (secondsBetween (utc i) cs2Epoch)) ∧
    ∃ south, name = productFilename w.settings ⟨south, utc 0, utc (p.file.numRecords - 1),
      (w.header p).cycleNumber, (w.header p).relOrbitNumber⟩ := by
  obtain ⟨grain, times, track, hwritten⟩ := written_of_productOf h
  obtain rfl : g = grain := Except.ok.inj (hg.symm.trans hwritten.grain_eq)
  obtain ⟨-, hlength, hlengthSecs⟩ := trackTimes_eq_ok hwritten.times_eq
  rw [(w.header p).length_time20Ku] at hlength hlengthSecs
  have hrecord : ∀ i < p.file.numRecords, times.timeUtcDt.getD i cs2Epoch = utc i ∧
      times.timeUtcSecs.getD i .nan = .num (secondsBetween (utc i) cs2Epoch) := by
    intro i hi
    obtain ⟨htai, -, hnone⟩ := hutc i hi
    obtain ⟨seconds, tai, hseconds, -, hshown, hbehind, hsecs⟩ :=
      trackTimes_record hwritten.times_eq (by rw [(w.header p).length_time20Ku]; exact hi)
    obtain rfl : g.taiSeconds (utc i) cs2Epoch = seconds :=
      WithNan.num.inj (htai.symm.trans hseconds)
    rw [g.roundHalfEven_taiSeconds, add_sub_cancel] at hshown
    have hexact : behind g.table (ahead g.table (utc i).microseconds) = (utc i).microseconds :=
      (hback.table.behind_ahead_eq_iff _).mpr ((hback.jumpsOf_eq_zero _).mpr hnone)
    rw [hshown, hexact] at hbehind
    refine ⟨Datetime.microseconds_injective (Nat.cast_injective hbehind), ?_⟩
    have hdiff : ahead g.table ((utc i).microseconds : ℤ) - cs2Epoch.microseconds -
        upTo g.table (ahead g.table (utc i).microseconds) =
          (utc i).microseconds - cs2Epoch.microseconds := by
      rw [sub_right_comm, ← behind, hexact]
    rw [hsecs, hshown, Grain.taiSeconds, secondsBetween, ← sub_div, ← Int.cast_sub, hdiff]
  have hvars := (productVariables_spec hwritten.vars_eq).2.2
  refine ⟨⟨times.timeUtcSecs, hvars, fun i hi => (hrecord i hi).2⟩, track.south, ?_⟩
  have hpos : 0 < p.file.numRecords := by
    rw [← hlength]
    apply List.length_pos_of_ne_nil
    intro hnil
    have hstart := hwritten.start_eq
    rw [hnil] at hstart
    cases hstart
  have hstart : track.start = utc 0 := by
    rw [← (hrecord 0 hpos).1, head?_eq_getD hwritten.start_eq]
  have hlast : track.last = utc (p.file.numRecords - 1) := by
    rw [← (hrecord _ (Nat.sub_lt hpos Nat.one_pos)).1, ← hlength,
      getLast?_eq_getD hwritten.last_eq]
  rw [hwritten.name_eq, ← hstart, ← hlast, ← hwritten.orbit_eq.1, ← hwritten.orbit_eq.2]

/-- The record at half past seven on the first day of 2020. -/
theorem productOf_utc_pole : ∃ file : ProductFile,
    (∃ seconds, ("time", seconds) ∈ file.vars ∧ ∀ i < 1,
      seconds.getD i .nan = .num (secondsBetween poleTime cs2Epoch)) ∧
    ∃ south, poleName = productFilename ⟨"/products", "d", 1⟩ ⟨south, poleTime, poleTime, 1, 10⟩ := by
  obtain ⟨file, hfile⟩ := poleProduct_written
  refine ⟨file, productOf_utc hfile init_leapLines leapGrain_neverBack (fun _ => poleTime) ?_⟩
  intro i hi
  obtain rfl : i = 0 := Nat.lt_one_iff.mp hi
  refine ⟨by decide +kernel, by decide, ?_⟩
  unfold Grain.NoLeap
  decide +kernel

/-! ## The products of many files -/

/-- The product directories after some products, in the order in which they are written. -/
def productStore (settings : ProductSettings) (products : List (ProductTrack × ProductFile)) :
    (String → Option ProductFile) → String → Option ProductFile :=
  writeEach (fun product => productFilename settings product.1) Prod.snd products

/-- What `alg_product_output` writes from a dictionary, with its name. -/
def writtenProduct (w : ProductWriter) (p : L1bProduct) (d : Dict) :
    Option (String × ProductFile) :=
  match productOf w p d with
  | .ok (.ok written) => some written
  | _ => none

theorem writtenProduct_eq_some {w : ProductWriter} {p : L1bProduct} {name : String}
    {file : ProductFile} :
    writtenProduct w p d = some (name, file) ↔ productOf w p d = .ok (.ok (name, file)) := by
  unfold writtenProduct
  split
  · next written hwritten => simp [hwritten]
  · next hnot => exact iff_of_false nofun fun h => hnot _ h

/-- The algorithm stores a name exactly where it writes a product under it. -/
theorem writeProduct_eq_ok {w : ProductWriter} {p : L1bProduct} {name : String} :
    writeProduct w p d = .ok (.ok name) ↔ ∃ file, writtenProduct w p d = some (name, file) := by
  simp only [writtenProduct_eq_some]
  constructor
  · intro h
    obtain ⟨outcome, houtcome, h⟩ := except_bind_ok h
    cases outcome with
    | error reason => cases h
    | ok written =>
        obtain rfl := Except.ok.inj (Except.ok.inj h)
        exact ⟨written.2, houtcome⟩
  · rintro ⟨file, hfile⟩
    rw [writeProduct, hfile]
    rfl

/-- The product directories after the dictionaries of some files have been written. -/
def directoriesAfter (w : ProductWriter) (files : List (L1bProduct × Dict)) :
    (String → Option ProductFile) → String → Option ProductFile :=
  writeEach Prod.fst Prod.snd (files.filterMap fun file => writtenProduct w file.1 file.2)

/-- What some files write are products of tracks, under the names of these. -/
theorem directoriesAfter_eq (w : ProductWriter) (files : List (L1bProduct × Dict)) :
    ∃ products : List (ProductTrack × ProductFile),
      (files.filterMap fun file => writtenProduct w file.1 file.2) =
        products.map (fun product => (productFilename w.settings product.1, product.2)) ∧
      directoriesAfter w files = productStore w.settings products := by
  have hproducts : ∃ products : List (ProductTrack × ProductFile),
      (files.filterMap fun file => writtenProduct w file.1 file.2) =
        products.map fun product => (productFilename w.settings product.1, product.2) := by
    induction files with
    | nil => exact ⟨[], rfl⟩
    | cons file rest ih =>
        obtain ⟨products, hrest⟩ := ih
        rcases hwritten : writtenProduct w file.1 file.2 with _ | ⟨name, product⟩
        · refine ⟨products, ?_⟩
          rw [List.filterMap_cons, hwritten]
          exact hrest
        · obtain ⟨grain, times, track, htrack⟩ :=
            written_of_productOf (writtenProduct_eq_some.mp hwritten)
          refine ⟨(track, product) :: products, ?_⟩
          rw [List.filterMap_cons, hwritten, List.map_cons, ← htrack.name_eq, ← hrest]
  obtain ⟨products, hproducts⟩ := hproducts
  refine ⟨products, hproducts, ?_⟩
  funext store
  rw [directoriesAfter, hproducts, productStore, writeEach, List.foldl_map, writeEach]

/-- **The order in which the files are processed does not matter** just if no two
different products are of tracks with the same name. -/
theorem products_order_iff (settings : ProductSettings)
    (products : List (ProductTrack × ProductFile)) :
    (∀ other, products.Perm other → ∀ store,
      productStore settings other store = productStore settings products store) ↔
      ∀ a ∈ products, ∀ b ∈ products, a.1.SameName b.1 → a.2 = b.2 := by
  refine (writeEach_perm_iff products).trans ?_
  simp only [Consistent, sameName_iff settings]

end Clev2er.Cryotempo
