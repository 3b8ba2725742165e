import Clev2er.Python
import Mathlib.Data.List.Basic

/-!
# Constructing a `Dem` or a `Slopes`

The two classes are built alike. The constructor refuses a name that is not in
the class's list and then calls `load()`, which looks the name up, forms the path
of the data file, and reads it. `load()` answers a path that does not exist with
a log entry and `False`; the constructor does not look at what `load()` returns.
`GridObject.new_eq_unloaded_iff` says when an object without data comes out of it.
-/

namespace Clev2er.Grids

/-! ## What the classes know -/

/-- The reader `load()` chooses. -/
inductive Format where
  | geotiff
  | npz
  | zarr
  | nc
deriving DecidableEq

/-- What the branch of `load()` for a name sets: the file names, the directory
below `CPDATA_DIR`, and the type flag. -/
structure GridFile where
  filename : String
  filledFilename : String
  defaultDir : String
  format : Format

/-- The class of a grid. -/
inductive GridClass where
  | dem
  | slopes
deriving DecidableEq

/-- `dem_list`, in the order of the branches of `load()`, with what each sets. -/
def demFiles : List (String × GridFile) :=
  [("awi_ant_1km",
      ⟨"DEM_ANT_CS_20130901.tif", "DEM_ANT_CS_20130901.tif", "ant_awi_2013_dem", .geotiff⟩),
    ("awi_ant_1km_grounded",
      ⟨"ant_awi_2013_dem_grounded.npz", "ant_awi_2013_dem_grounded.npz", "ant_awi_2013_dem",
        .npz⟩),
    ("awi_ant_1km_floating",
      ⟨"ant_awi_2013_dem_floating.npz", "ant_awi_2013_dem_floating.npz", "ant_awi_2013_dem",
        .npz⟩),
    ("awi_grn_1km",
      ⟨"DEM_GRE_CS_20130826.tif", "DEM_GRE_CS_20130826.tif", "grn_awi_2013_dem", .geotiff⟩),
    ("arcticdem_1km", ⟨"arcticdem_mosaic_1km_v3.0.tif", "", "arctic_dem_1km", .geotiff⟩),
    ("arcticdem_1km_zarr", ⟨"arcticdem_mosaic_1km_v3.0.zarr", "", "arctic_dem_1km", .zarr⟩),
    ("arcticdem_1km_v4.1",
      ⟨"arcticdem_mosaic_1km_v4.1_dem.tif", "arcticdem_mosaic_1km_v4.1_dem.tif",
        "arctic_dem_1km_v4.1", .geotiff⟩),
    ("rema_ant_1km", ⟨"REMA_1km_dem.tif", "REMA_1km_dem_filled.tif", "rema_1km_dem", .geotiff⟩),
    ("rema_ant_1km_zarr",
      ⟨"REMA_1km_dem.zarr", "REMA_1km_dem_filled.zarr", "rema_1km_dem", .zarr⟩),
    ("rema_ant_1km_v2",
      ⟨"rema_mosaic_1km_v2.0_dem.tif", "rema_mosaic_1km_v2.0_filled_cop30_dem.tif",
        "rema_1km_dem_v2", .geotiff⟩),
    ("rema_ant_1km_v2_zarr",
      ⟨"rema_mosaic_1km_v2.0_dem.zarr", "rema_mosaic_1km_v2.0_filled_cop30_dem.zarr",
        "rema_1km_dem_v2", .zarr⟩),
    ("rema_ant_200m",
      ⟨"REMA_200m_dem.tif", "REMA_200m_dem_filled.tif", "ant_rema_200m_dem", .geotiff⟩),
    ("rema_ant_200m_zarr",
      ⟨"REMA_200m_dem.zarr", "REMA_200m_dem_filled.zarr", "ant_rema_200m_dem", .zarr⟩),
    ("rema_gapless_100m",
      ⟨"GaplessREMA100.tif", "GaplessREMA100.tif", "rema_gapless_100m", .geotiff⟩),
    ("rema_gapless_100m_zarr",
      ⟨"GaplessREMA100.zarr", "GaplessREMA100.zarr", "rema_gapless_100m", .zarr⟩),
    ("rema_gapless_1km",
      ⟨"GaplessREMA1km.tif", "GaplessREMA1km.tif", "rema_gapless_1km", .geotiff⟩),
    ("rema_gapless_1km_zarr",
      ⟨"GaplessREMA1km.zarr", "GaplessREMA1km.zarr", "rema_gapless_1km", .zarr⟩),
    ("arcticdem_100m_greenland",
      ⟨"arcticdem_mosaic_100m_v3.0_subarea_greenland.tif", "", "arctic_dem_100m", .geotiff⟩),
    ("arcticdem_1km_greenland_v4.1",
      ⟨"arcticdem_mosaic_1km_v4.1_subarea_greenland.tif", "", "arctic_dem_1km_v4.1", .geotiff⟩),
    ("arcticdem_1km_greenland_v4.1_zarr",
      ⟨"arcticdem_mosaic_1km_v4.1_subarea_greenland.zarr",
        "arcticdem_mosaic_1km_v4.1_subarea_greenland.zarr", "arctic_dem_1km_v4.1", .zarr⟩),
    ("arcticdem_100m_greenland_v4.1",
      ⟨"arcticdem_mosaic_100m_v4.1_subarea_greenland.tif", "", "arctic_dem_100m_v4.1",
        .geotiff⟩),
    ("arcticdem_100m_greenland_v4.1_zarr",
      ⟨"arcticdem_mosaic_100m_v4.1_subarea_greenland.zarr",
        "arcticdem_mosaic_100m_v4.1_subarea_greenland.zarr", "arctic_dem_100m_v4.1", .zarr⟩)]

/-- `slope_list`, likewise. -/
def slopesFiles : List (String × GridFile) :=
  [("rema_100m_900ws_slopes_zarr",
      ⟨"REMA_Slope_100m_900ws.zarr", "REMA_Slope_100m_900ws.zarr", "slope_and_roughness",
        .zarr⟩),
    ("arcticdem_100m_900ws_slopes_zarr",
      ⟨"ArcticDEM_Slope_100m_900ws.zarr", "ArcticDEM_Slope_100m_900ws.zarr",
        "slope_and_roughness", .zarr⟩),
    ("cpom_ant_2018_1km_slopes",
      ⟨"Antarctica_Cryosat2_1km_DEMv1.0_slope.unpacked.tif",
        "Antarctica_Cryosat2_1km_DEMv1.0_slope.unpacked.tif", "ant_cpom_cs2_1km", .geotiff⟩),
    ("awi_grn_2013_1km_slopes",
      ⟨"grn_awi_2013_dem_slope.nc", "grn_awi_2013_dem_slope.nc", "grn_awi_2013_dem", .nc⟩)]

/-- The branches of `load()`. Both lists of names hold exactly the names that
have a branch, so its `does not have load support` cannot be reached from the
constructor. -/
def GridClass.files : GridClass → List (String × GridFile)
  | .dem => demFiles
  | .slopes => slopesFiles

/-- How the class calls itself in its messages. -/
def GridClass.title : GridClass → String
  | .dem => "DEM"
  | .slopes => "slopes"

/-! ## The constructor -/

/-- What the constructors see of the machine. -/
structure Host where
  /-- `os.environ["CPDATA_DIR"]`. -/
  cpdataDir : Option String
  isdir : String → Bool
  isfile : String → Bool
  /-- What reading a file that is there raises. -/
  read : Format → String → Option PyExc

/-- The arguments of a constructor. `dirs` is `config["dem_dirs"]` or
`config["slopes_dirs"]` where there is one, `dir` the argument `dem_dir` or
`slopes_dir`. -/
structure GridRequest where
  cls : GridClass
  name : String
  filled : Bool
  dirs : List (String × String)
  dir : Option String

section

variable (host : Host) (req : GridRequest)

/-- The directory of `get_filename()`: the configuration over the argument over
the default. -/
def chosenDir (defaultDir : String) : String :=
  match req.dirs.lookup req.name with
  | some dir => dir
  | none =>
      match req.dir with
      | some dir => if dir = "" then defaultDir else dir
      | none => defaultDir

/-- The path of `get_filename()`. -/
def chosenPath (dir : String) (file : GridFile) : String :=
  if req.filled && decide (file.filledFilename ≠ "") then dir ++ "/" ++ file.filledFilename
  else dir ++ "/" ++ file.filename

/-- `get_filename(default_dir, filename, filled_filename)`. -/
def getFilename (defaultDir : String) (file : GridFile) : Except PyExc String :=
  let dir := chosenDir req defaultDir
  if !host.isdir dir then
    .error ⟨.osError, dir ++ " not found"⟩
  else
    let path := chosenPath req dir file
    if file.format = .zarr then
      if !host.isdir path then .error ⟨.osError, path ++ " not found"⟩ else .ok path
    else if !host.isfile path then
      .error ⟨.osError, path ++ " not found"⟩
    else
      .ok path

/-- `load()`: whether the data were loaded, or what it raises. -/
def load : Except PyExc Bool :=
  match req.cls.files.lookup req.name with
  | none => .error ⟨.valueError, req.name ++ " does not have load support"⟩
  | some file =>
      match host.cpdataDir with
      | none => .error ⟨.keyError, "CPDATA_DIR"⟩
      | some data =>
          match getFilename host req (data ++ "/SATS/RA/DEMS/" ++ file.defaultDir) file with
          | .error e => if e.cls = .osError then .ok false else .error e
          | .ok path =>
              match host.read file.format path with
              | some e => .error e
              | none => .ok true

/-- A `Dem` or `Slopes` object: whether its arrays hold data. -/
structure GridObject where
  cls : GridClass
  name : String
  loaded : Bool
deriving DecidableEq

/-- `Dem(name, ..)` and `Slopes(name, ..)`. -/
def GridObject.new : Except PyExc GridObject :=
  if req.name ∉ req.cls.files.map Prod.fst then
    .error ⟨.valueError, req.cls.title ++ " name " ++ req.name ++ " not in allowed list"⟩
  else
    match load host req with
    | .error e => .error e
    | .ok loaded => .ok ⟨req.cls, req.name, loaded⟩

/-! ## When the data file does not exist -/

/-- The data file of a request is there: its directory, and in it the file, which
in the Zarr format is a directory. -/
def dataFileExists (data : String) (file : GridFile) : Bool :=
  let dir := chosenDir req (data ++ "/SATS/RA/DEMS/" ++ file.defaultDir)
  let path := chosenPath req dir file
  host.isdir dir && if file.format = .zarr then host.isdir path else host.isfile path

/-- The name is one of the class, and its data file does not exist. -/
def GridRequest.DataMissing : Prop :=
  ∃ file data, req.cls.files.lookup req.name = some file ∧ host.cpdataDir = some data ∧
    dataFileExists host req data file = false

variable {host req}

theorem getFilename_exists {data : String} {file : GridFile}
    (h : dataFileExists host req data file = true) :
    ∃ path, getFilename host req (data ++ "/SATS/RA/DEMS/" ++ file.defaultDir) file = .ok path := by
  unfold dataFileExists at h
  obtain ⟨hdir, hpath⟩ := Bool.and_eq_true_iff.mp h
  unfold getFilename
  simp only [hdir, Bool.not_true, Bool.false_eq_true, if_false]
  split at hpath
  · next hzarr => simp [hzarr, hpath]
  · next hzarr => simp [hzarr, hpath]

theorem getFilename_missing {data : String} {file : GridFile}
    (h : dataFileExists host req data file = false) :
    ∃ text, getFilename host req (data ++ "/SATS/RA/DEMS/" ++ file.defaultDir) file =
      .error ⟨.osError, text⟩ := by
  unfold dataFileExists at h
  unfold getFilename
  by_cases hdir : host.isdir (chosenDir req (data ++ "/SATS/RA/DEMS/" ++ file.defaultDir)) = true
  · simp only [hdir, Bool.true_and] at h
    simp only [hdir, Bool.not_true, Bool.false_eq_true, if_false]
    split at h
    · next hzarr => simp [hzarr, h]
    · next hzarr => simp [hzarr, h]
  · rw [Bool.not_eq_true] at hdir
    simp [hdir]

theorem mem_of_lookup {files : List (String × GridFile)} {name : String} {file : GridFile}
    (h : files.lookup name = some file) : name ∈ files.map Prod.fst := by
  induction files with
  | nil => cases h
  | cons entry files ih =>
      obtain ⟨key, file'⟩ := entry
      rw [List.lookup_cons] at h
      by_cases heq : name = key
      · simp [heq]
      · simp only [beq_false_of_ne heq] at h
        exact List.mem_cons_of_mem _ (ih h)

theorem load_eq_false_iff : load host req = .ok false ↔ req.DataMissing host := by
  unfold GridRequest.DataMissing load
  cases hfile : req.cls.files.lookup req.name with
  | none => simp
  | some file =>
      cases hdata : host.cpdataDir with
      | none => simp
      | some data =>
          have hmissing : (∃ file' data', some file = some file' ∧ some data = some data' ∧
              dataFileExists host req data' file' = false) ↔
              dataFileExists host req data file = false := by
            constructor
            · rintro ⟨file', data', ⟨⟩, ⟨⟩, h⟩
              exact h
            · intro h
              exact ⟨file, data, rfl, rfl, h⟩
          simp only [hmissing]
          by_cases hexists : dataFileExists host req data file = true
          · obtain ⟨path, hpath⟩ := getFilename_exists hexists
            rw [hpath, hexists]
            cases hread : host.read file.format path <;> simp [hread]
          · rw [Bool.not_eq_true] at hexists
            obtain ⟨text, htext⟩ := getFilename_missing hexists
            rw [htext, hexists]
            simp

/-- **A missing data file is not an error.** The constructor returns an object
without data exactly if the data file of a known name does not exist. -/
theorem GridObject.new_eq_unloaded_iff :
    GridObject.new host req = .ok ⟨req.cls, req.name, false⟩ ↔ req.DataMissing host := by
  rw [← load_eq_false_iff]
  unfold GridObject.new
  by_cases hname : req.name ∈ req.cls.files.map Prod.fst
  · rw [if_neg (not_not.mpr hname)]
    rcases load host req with e | loaded <;> simp
  · rw [if_pos hname]
    constructor
    · intro h
      cases h
    · intro h
      obtain ⟨file, -, hfile, -⟩ := load_eq_false_iff.mp h
      exact absurd (mem_of_lookup hfile) hname

end

end Clev2er.Grids
