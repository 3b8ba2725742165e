import Clev2er.Cryotempo.Algorithms
import Clev2er.Cryotempo.OrbitDirections
import Clev2er.Cryotempo.ProductName
import Clev2er.Time.Grain

/-!
# `alg_product_output`

The times of the records are converted from TAI to UTC, a file is created under the
name of the track, and the arrays of the shared dictionary become its variables, all
along the dimension `time`. `writeProduct` is the module as the chain calls it.
-/

namespace Clev2er.Cryotempo

open Clev2er.Lib Clev2er.Retrack Clev2er.Breakpoints Clev2er.Time

/-! ## The times -/

/-- The times of a file: in TAI and in UTC, and the UTC seconds since 2000. -/
structure TrackTimes where
  timeTaiDt : List Datetime
  timeUtcDt : List Datetime
  timeUtcSecs : List Sample

/-- `(utc - tai).total_seconds()`. -/
def secondsBetween (utc tai : Datetime) : ℚ :=
  ((utc.microseconds : ℤ) - tai.microseconds : ℤ) / 1000000

/-- `time_tai_dt`, `time_utc_dt` and `time_utc_secs`. -/
def trackTimes (g : Grain) (time20Ku : List Sample) : Except PyExc TrackTimes := do
  let timeTaiDt ← forEach (fun _ i => do cs2Epoch.add (← timedelta i)) 0 time20Ku
  let timeUtcDt ← forEach (fun _ i => g.tai2utc i cs2Epoch) 0 time20Ku
  let diffInSeconds := List.zipWith secondsBetween timeUtcDt timeTaiDt
  .ok ⟨timeTaiDt, timeUtcDt,
    List.zipWith (fun (time : Sample) diff => time + .num diff) time20Ku diffInSeconds⟩

/-! ## The file -/

/-- The value of a global attribute. A number stands for its four decimal places. -/
inductive Attribute where
  | text (s : String)
  | int (i : ℤ)
  | number (x : Sample)

/-- A product: the length of its dimension, its attributes and its variables. -/
structure ProductFile where
  time : Nat
  attrs : List (String × Attribute)
  vars : List (String × List Sample)

/-- What the module reads of an L1b product besides the shared dictionary. -/
structure L1bHeader (numRecords : Nat) where
  time20Ku : List Sample
  cycleNumber : ℤ
  relOrbitNumber : ℤ
  absOrbitNumber : ℤ
  length_time20Ku : time20Ku.length = numRecords

/-- What the module works with. The two functions give the text of an `OSError`. -/
structure ProductWriter where
  settings : ProductSettings
  leapSeconds : List (List Char)
  includeAdditionalParameters : Bool
  header : (p : L1bProduct) → L1bHeader p.file.numRecords
  /-- `os.makedirs`, where the directory is missing after it. -/
  makedirs : String → Option String
  /-- `Dataset(product_filename, "w")`. -/
  openDataset : String → Option String

/-- `cnes_cycle_to_subcycle`. -/
def cnesCycleToSubcycle (cycleNumber relOrbitNumber : ℤ) : ℤ × ℤ :=
  let absoluteTr := (cycleNumber - 1) * 10688 + relOrbitNumber
  ((absoluteTr - 1) / 840 + 1, (absoluteTr - 1) % 840 + 1)

/-- `(longitudes + 180) % 360 - 180`. -/
def prodLongitude (lon : Sample) : Sample := mod360 (lon + .num 180) - .num 180

/-- A reduction of numpy: NaN stays, and no value at all is an error. -/
def reduce (op : ℚ → ℚ → ℚ) : List Sample → Except PyExc Sample
  | [] => .error ⟨.valueError, "zero-size array to reduction operation which has no identity"⟩
  | x :: xs => .ok (xs.foldl (WithNan.lift₂ op) x)

/-- The reduction without the NaN values; of none but these it is NaN. -/
def nanreduce (op : ℚ → ℚ → ℚ) (xs : List Sample) : Except PyExc Sample :=
  match xs.filter fun x => !x.isNan with
  | [] => if xs = [] then reduce op [] else .ok .nan
  | x :: rest => .ok (rest.foldl (WithNan.lift₂ op) x)

/-- `f"{t}"` of a datetime. -/
def datetimeStr (t : Datetime) : String :=
  String.ofList (formatInt '0' 4 t.year ++ ('-' :: (formatInt '0' 2 t.month ++
    ('-' :: (formatInt '0' 2 t.day ++ (' ' :: (formatInt '0' 2 t.hour ++
      (':' :: (formatInt '0' 2 t.minute ++ (':' :: (formatInt '0' 2 t.second ++
        if t.microsecond = 0 then [] else '.' :: formatInt '0' 6 t.microsecond)))))))))))

/-- `nc_var[:] = data`: one value is broadcast. -/
def assign (n : Nat) (data : List Sample) : Except PyExc (List Sample) :=
  match data with
  | [x] => .ok (List.replicate n x)
  | _ =>
      if data.length = n then .ok data
      else .error ⟨.other "IndexError", "size of data array does not conform to slice"⟩

/-- The data of a variable of doubles; `None` becomes NaN. -/
def doubles (v : Value) : Except PyExc (List Sample) :=
  if v = .none then .ok [.nan] else v.samples

/-- The time of the first or the last record. -/
def recordTime (t : Option Datetime) : Except PyExc Datetime :=
  match t with
  | some t => .ok t
  | none => .error ⟨.other "IndexError", "list index out of range"⟩

/-- The attribute of a part of the track. -/
def startRecord (start : Option ℕ) : Attribute :=
  match start with
  | none => .text "None"
  | some i => .int i

/-- The name of a mode, and its number in the product. -/
def modeAttribute (mode : Value) : List (String × Attribute) :=
  if mode = .text "LRM" then [("instrument_mode", .text "LRM")]
  else if mode = .text "SAR" then [("instrument_mode", .text "SAR")]
  else if mode = .text "SIN" then [("instrument_mode", .text "SARIN")]
  else []

def modeNumber (mode : Value) : ℚ :=
  if mode = .text "LRM" then 1 else if mode = .text "SIN" then 3 else 2

/-- The time of a value of `time_utc_secs`. -/
def coverageTime (seconds : List Sample) (i : Nat) : Except PyExc Datetime := do
  cs2Epoch.add (← timedelta (seconds.getD i .nan))

/-- The global attributes. -/
def productAttributes (w : ProductWriter) (p : L1bProduct) (times : TrackTimes) (d : Dict) :
    Except PyExc (List (String × Attribute)) := do
  let header := w.header p
  let prodLongitudes := (← (← item d "longitudes").samples).map prodLongitude
  let mode ← item d "instr_mode"
  let l1bFileName ← (← item d "l1b_file_name").asText
  let (ascStart, descStart) := findOrbitDirections (← (← item d "lats_nadir").samples)
  let latitudes ← (← item d "latitudes").samples
  let latMin ← reduce min latitudes
  let latMax ← reduce max latitudes
  let lonMin ← reduce min prodLongitudes
  let lonMax ← reduce max prodLongitudes
  let height ← (← item d "height_20_ku").samples
  let verticalMin ← nanreduce min height
  let verticalMax ← nanreduce max height
  let measurementStart ← coverageTime times.timeUtcSecs 0
  let measurementEnd ← coverageTime times.timeUtcSecs (times.timeUtcSecs.length - 1)
  let (cnesSubcycle, cnesTrack) := cnesCycleToSubcycle header.cycleNumber header.relOrbitNumber
  let hemisphere ← item d "hemisphere"
  .ok (modeAttribute mode ++
    [("src_esa_l1b_file", .text (afterLast '/' l1bFileName)),
      ("ascending_start_record", startRecord ascStart),
      ("descending_start_record", startRecord descStart),
      ("geospatial_lat_min", .number latMin), ("geospatial_lat_max", .number latMax),
      ("geospatial_lon_min", .number lonMin), ("geospatial_lon_max", .number lonMax),
      ("geospatial_vertical_min", .number verticalMin),
      ("geospatial_vertical_max", .number verticalMax),
      ("time_coverage_start", .text (datetimeStr measurementStart)),
      ("time_coverage_end", .text (datetimeStr measurementEnd)),
      ("cycle_number", .int header.cycleNumber), ("rel_orbit_number", .int header.relOrbitNumber),
      ("abs_orbit_number", .int header.absOrbitNumber),
      ("product_baseline", .text w.settings.baseline), ("product_version", .int w.settings.version),
      ("cnes_subcycle", .int cnesSubcycle), ("cnes_track", .int cnesTrack),
      ("zone", .text (if hemisphere = .text "south" then "Antarctica" else "Greenland"))])

/-- A variable with the value of a key, as `read` makes it an array. -/
def copiedVariable (read : Value → Except PyExc (List Sample)) (n : Nat) (d : Dict)
    (name key : String) : Except PyExc (String × List Sample) := do
  .ok (name, ← assign n (← read (← item d key)))

/-- A variable of doubles. -/
def doubleVariable : Nat → Dict → String → String → Except PyExc (String × List Sample) :=
  copiedVariable doubles

/-- A variable of bytes. -/
def byteVariable : Nat → Dict → String → String → Except PyExc (String × List Sample) :=
  copiedVariable Value.samples

/-- `relocation_distance`, which only some geolocations store. -/
def relocationVariable (n : Nat) (d : Dict) : Except PyExc (String × List Sample) := do
  if hasKey d "relocation_distance" then
    doubleVariable n d "relocation_distance" "relocation_distance"
  else .ok ("relocation_distance", List.replicate n .nan)

/-- The variables that only some configurations ask for. -/
def additionalVariables (w : ProductWriter) (n : Nat) (d : Dict) :
    Except PyExc (List (String × List Sample)) :=
  if w.includeAdditionalParameters then do .ok [← relocationVariable n d] else .ok []

/-- The variables, in the order in which they are created. -/
def productVariables (w : ProductWriter) (times : TrackTimes) (d : Dict) :
    Except PyExc (List (String × List Sample)) := do
  let n := times.timeUtcSecs.length
  let latitude ← doubleVariable n d "latitude" "latitudes"
  let longitude ← assign n ((← (← item d "longitudes").samples).map prodLongitude)
  let instrumentMode := List.replicate n (.num (modeNumber (← item d "instr_mode")))
  let elevation ← doubleVariable n d "elevation" "height_filt"
  let backscatter ← doubleVariable n d "backscatter" "sig0_20_ku"
  let surfaceType ← byteVariable n d "surface_type" "cryotempo_surface_type"
  let referenceDem ← doubleVariable n d "reference_dem" "dem_elevation_values"
  let basinId ← byteVariable n d "basin_id"
    (if (← item d "hemisphere") = .text "south" then "basin_mask_values_zwally"
      else "basin_mask_values_mouginot")
  let basinId2 ← byteVariable n d "basin_id2" "basin_mask_values_rignot"
  let uncertainty ← doubleVariable n d "uncertainty" "uncertainty"
  let additional ← additionalVariables w n d
  .ok ([("time", times.timeUtcSecs), latitude, ("longitude", longitude),
    ("instrument_mode", instrumentMode), elevation, backscatter, surfaceType, referenceDem,
    basinId, basinId2, uncertainty] ++ additional)

/-! ## `process()` -/

/-- The name and the content of the product, or the reason of a failure. -/
def productOf (w : ProductWriter) (p : L1bProduct) (d : Dict) :
    Except PyExc (Except String (String × ProductFile)) := do
  let header := w.header p
  let grain ← Grain.init w.leapSeconds
  let times ← trackTimes grain header.time20Ku
  let start ← recordTime times.timeUtcDt.head?
  let hemisphere ← item d "hemisphere"
  let last ← recordTime times.timeUtcDt.getLast?
  let track : ProductTrack :=
    ⟨decide (hemisphere = .text "south"), start, last, header.cycleNumber, header.relOrbitNumber⟩
  let dir := String.ofList (productDir w.settings track)
  match w.makedirs dir with
  | some exc => .ok (.error ("could not create " ++ dir ++ " " ++ exc))
  | none =>
      let name := productFilename w.settings track
      match w.openDataset name with
      | some exc => .ok (.error ("Can not open netcdf file " ++ name ++ " for write: " ++ exc))
      | none => do
          let attrs ← productAttributes w p times d
          let vars ← productVariables w times d
          .ok (.ok (name, ⟨times.timeUtcSecs.length, attrs, vars⟩))

/-- `alg_product_output`, as the chain calls it. -/
def writeProduct (w : ProductWriter) (p : L1bProduct) (d : Dict) :
    Except PyExc (Except String String) := do
  match ← productOf w p d with
  | .error reason => .ok (.error reason)
  | .ok (name, _) => .ok (.ok name)

/-! ## The times of the records -/

theorem trackTimes_eq_ok {g : Grain} {time20Ku : List Sample} {times : TrackTimes}
    (h : trackTimes g time20Ku = .ok times) :
    times.timeTaiDt.length = time20Ku.length ∧ times.timeUtcDt.length = time20Ku.length ∧
      times.timeUtcSecs.length = time20Ku.length := by
  obtain ⟨taiDt, htai, hrest⟩ := except_bind_ok h
  obtain ⟨utcDt, hutc, hret⟩ := except_bind_ok hrest
  obtain rfl := Except.ok.inj hret
  have hlengthTai := (forEach_ok .nan cs2Epoch htai).1
  have hlengthUtc := (forEach_ok .nan cs2Epoch hutc).1
  refine ⟨hlengthTai, hlengthUtc, ?_⟩
  rw [List.length_zipWith, List.length_zipWith, hlengthTai, hlengthUtc, Nat.min_self, Nat.min_self]

/-- **The UTC seconds of a record** are its TAI seconds without the leap seconds up to the
TAI time. -/
theorem trackTimes_record {g : Grain} {time20Ku : List Sample} {times : TrackTimes}
    (h : trackTimes g time20Ku = .ok times) {i : Nat} (hi : i < time20Ku.length) :
    ∃ (seconds : ℚ) (tai : Datetime), time20Ku.getD i .nan = .num seconds ∧ ntpEpoch ≤ tai ∧
      (tai.microseconds : ℤ) = cs2Epoch.microseconds + roundHalfEven (seconds * 1000000) ∧
      ((times.timeUtcDt.getD i cs2Epoch).microseconds : ℤ) = behind g.table tai.microseconds ∧
      times.timeUtcSecs.getD i .nan =
        .num (seconds - ((upTo g.table tai.microseconds : ℤ) : ℚ) / 1000000) := by
  obtain ⟨taiDt, htai, hrest⟩ := except_bind_ok h
  obtain ⟨utcDt, hutc, hret⟩ := except_bind_ok hrest
  obtain rfl := Except.ok.inj hret
  obtain ⟨hlengthTai, htaiAt⟩ := forEach_ok .nan cs2Epoch htai
  obtain ⟨hlengthUtc, hutcAt⟩ := forEach_ok .nan cs2Epoch hutc
  have hthisTai := htaiAt i hi
  have hthisUtc := hutcAt i hi
  have hiTai : i < taiDt.length := hlengthTai ▸ hi
  have hiUtc : i < utcDt.length := hlengthUtc ▸ hi
  have hiDiff : i < (List.zipWith secondsBetween utcDt taiDt).length := by
    rw [List.length_zipWith]
    exact Nat.lt_min.mpr ⟨hiUtc, hiTai⟩
  dsimp only
  rw [getD_zipWith _ hi hiDiff .nan 0, getD_zipWith _ hiUtc hiTai cs2Epoch cs2Epoch]
  cases hseconds : time20Ku.getD i .nan with
  | nan =>
      rw [hseconds] at hthisTai
      obtain ⟨delta, hdelta, -⟩ := except_bind_ok hthisTai
      cases hdelta
  | num seconds =>
      rw [hseconds] at hthisTai hthisUtc
      obtain ⟨tai, hntp, htai, hbehind⟩ := Grain.tai2utc_eq_ok.mp hthisUtc
      obtain ⟨delta, hdelta, hadd⟩ := except_bind_ok hthisTai
      have hsame : taiDt.getD i cs2Epoch = tai := by
        apply Datetime.microseconds_injective
        have hnumber := Datetime.add_eq_ok.mp hadd
        rw [(timedeltaOf_eq_ok.mp hdelta).2, ← htai] at hnumber
        exact Nat.cast_injective hnumber
      refine ⟨seconds, tai, rfl, hntp, htai, hbehind, ?_⟩
      rw [secondsBetween, hsame, hbehind, behind, WithNan.num_add_num]
      congr 1
      push_cast
      ring

/-! ## What a product holds -/

theorem length_assign {n : Nat} {data out : List Sample} (h : assign n data = .ok out) :
    out.length = n := by
  unfold assign at h
  split at h
  · rw [← Except.ok.inj h, List.length_replicate]
  · split at h
    · next hlength =>
      rw [← Except.ok.inj h, hlength]
    · cases h

/-- Data of the length of the dimension are stored as they are. -/
theorem assign_of_length {n : Nat} {data : List Sample} (h : data.length = n) :
    assign n data = .ok data := by
  unfold assign
  split
  · rw [← h]
    rfl
  · rw [if_pos h]

/-- The names of the variables. -/
def variableNames (includeAdditionalParameters : Bool) : List String :=
  ["time", "latitude", "longitude", "instrument_mode", "elevation", "backscatter",
    "surface_type", "reference_dem", "basin_id", "basin_id2", "uncertainty"] ++
    if includeAdditionalParameters then ["relocation_distance"] else []

theorem copiedVariable_spec {read : Value → Except PyExc (List Sample)} {n : Nat} {d : Dict}
    {name key : String} {v : String × List Sample} (h : copiedVariable read n d name key = .ok v) :
    v.1 = name ∧ v.2.length = n := by
  obtain ⟨value, -, h⟩ := except_bind_ok h
  obtain ⟨data, -, h⟩ := except_bind_ok h
  obtain ⟨out, hout, h⟩ := except_bind_ok h
  obtain rfl := Except.ok.inj h
  exact ⟨rfl, length_assign hout⟩

theorem relocationVariable_spec {n : Nat} {d : Dict} {v : String × List Sample}
    (h : relocationVariable n d = .ok v) : v.1 = "relocation_distance" ∧ v.2.length = n := by
  unfold relocationVariable at h
  split at h
  · exact copiedVariable_spec h
  · obtain rfl := Except.ok.inj h
    exact ⟨rfl, List.length_replicate⟩

theorem additionalVariables_spec {w : ProductWriter} {n : Nat} {d : Dict}
    {vars : List (String × List Sample)} (h : additionalVariables w n d = .ok vars) :
    vars.map Prod.fst =
        (if w.includeAdditionalParameters then ["relocation_distance"] else []) ∧
      ∀ v ∈ vars, v.2.length = n := by
  unfold additionalVariables at h
  split at h
  · next hadditional =>
    obtain ⟨relocation, hrelocation, h⟩ := except_bind_ok h
    obtain rfl := Except.ok.inj h
    obtain ⟨hname, hlength⟩ := relocationVariable_spec hrelocation
    rw [if_pos hadditional]
    exact ⟨congrArg (· :: []) hname, List.forall_mem_singleton.mpr hlength⟩
  · next hadditional =>
    obtain rfl := Except.ok.inj h
    rw [if_neg hadditional]
    exact ⟨rfl, fun v hv => absurd hv List.not_mem_nil⟩

/-- **The variables of a product are the same for all tracks**, and all as long as the
dimension. -/
theorem productVariables_spec {w : ProductWriter} {times : TrackTimes} {d : Dict}
    {vars : List (String × List Sample)} (h : productVariables w times d = .ok vars) :
    vars.map Prod.fst = variableNames w.includeAdditionalParameters ∧
      (∀ v ∈ vars, v.2.length = times.timeUtcSecs.length) ∧
      ("time", times.timeUtcSecs) ∈ vars := by
  obtain ⟨latitude, hlatitude, h⟩ := except_bind_ok h
  obtain ⟨lonValue, -, h⟩ := except_bind_ok h
  obtain ⟨lons, -, h⟩ := except_bind_ok h
  obtain ⟨longitude, hlongitude, h⟩ := except_bind_ok h
  obtain ⟨mode, -, h⟩ := except_bind_ok h
  obtain ⟨elevation, helevation, h⟩ := except_bind_ok h
  obtain ⟨backscatter, hbackscatter, h⟩ := except_bind_ok h
  obtain ⟨surfaceType, hsurfaceType, h⟩ := except_bind_ok h
  obtain ⟨referenceDem, hreferenceDem, h⟩ := except_bind_ok h
  obtain ⟨hemisphere, -, h⟩ := except_bind_ok h
  obtain ⟨basinId, hbasinId, h⟩ := except_bind_ok h
  obtain ⟨basinId2, hbasinId2, h⟩ := except_bind_ok h
  obtain ⟨uncertainty, huncertainty, h⟩ := except_bind_ok h
  obtain ⟨additional, hadditional, h⟩ := except_bind_ok h
  have hmore := additionalVariables_spec hadditional
  obtain rfl := Except.ok.inj h
  have hdouble := @copiedVariable_spec doubles times.timeUtcSecs.length d
  have hbyte := @copiedVariable_spec Value.samples times.timeUtcSecs.length d
  refine ⟨?_, ?_, List.mem_append_left _ List.mem_cons_self⟩
  · simp only [List.map_append, List.map_cons, List.map_nil, (hdouble hlatitude).1,
      (hdouble helevation).1, (hdouble hbackscatter).1, (hbyte hsurfaceType).1,
      (hdouble hreferenceDem).1, (hbyte hbasinId).1, (hbyte hbasinId2).1,
      (hdouble huncertainty).1, hmore.1]
    rfl
  · intro v hv
    rcases List.mem_append.mp hv with hv | hv
    · simp only [List.mem_cons, List.not_mem_nil, or_false] at hv
      rcases hv with rfl | rfl | rfl | rfl | rfl | rfl | rfl | rfl | rfl | rfl | rfl
      · rfl
      · exact (hdouble hlatitude).2
      · exact length_assign hlongitude
      · exact List.length_replicate
      · exact (hdouble helevation).2
      · exact (hdouble hbackscatter).2
      · exact (hbyte hsurfaceType).2
      · exact (hdouble hreferenceDem).2
      · exact (hbyte hbasinId).2
      · exact (hbyte hbasinId2).2
      · exact (hdouble huncertainty).2
    · exact hmore.2 v hv

/-- What a product has come from. -/
structure Written (w : ProductWriter) (p : L1bProduct) (d : Dict) (name : String)
    (file : ProductFile) (grain : Grain) (times : TrackTimes) (track : ProductTrack) : Prop where
  grain_eq : Grain.init w.leapSeconds = .ok grain
  times_eq : trackTimes grain (w.header p).time20Ku = .ok times
  start_eq : times.timeUtcDt.head? = some track.start
  last_eq : times.timeUtcDt.getLast? = some track.last
  hemisphere_eq : ∃ hemisphere, item d "hemisphere" = .ok hemisphere ∧
    track.south = decide (hemisphere = .text "south")
  orbit_eq : track.cycleNumber = (w.header p).cycleNumber ∧
    track.relOrbitNumber = (w.header p).relOrbitNumber
  name_eq : name = productFilename w.settings track
  time_eq : file.time = times.timeUtcSecs.length
  attrs_eq : productAttributes w p times d = .ok file.attrs
  vars_eq : productVariables w times d = .ok file.vars

theorem recordTime_eq_ok {t : Option Datetime} {time : Datetime} (h : recordTime t = .ok time) :
    t = some time := by
  cases t with
  | none => cases h
  | some t => exact congrArg some (Except.ok.inj h)

theorem written_of_productOf {w : ProductWriter} {p : L1bProduct} {d : Dict} {name : String}
    {file : ProductFile} (h : productOf w p d = .ok (.ok (name, file))) :
    ∃ grain times track, Written w p d name file grain times track := by
  obtain ⟨grain, hgrain, h⟩ := except_bind_ok h
  obtain ⟨times, htimes, h⟩ := except_bind_ok h
  obtain ⟨start, hstart, h⟩ := except_bind_ok h
  obtain ⟨hemisphere, hhemisphere, h⟩ := except_bind_ok h
  obtain ⟨last, hlast, h⟩ := except_bind_ok h
  dsimp only at h
  split at h
  · cases h
  · split at h
    · cases h
    · obtain ⟨attrs, hattrs, h⟩ := except_bind_ok h
      obtain ⟨vars, hvars, h⟩ := except_bind_ok h
      cases h
      exact ⟨grain, times, _, hgrain, htimes, recordTime_eq_ok hstart, recordTime_eq_ok hlast,
        ⟨hemisphere, hhemisphere, rfl⟩, ⟨rfl, rfl⟩, rfl, rfl, hattrs, hvars⟩

end Clev2er.Cryotempo
