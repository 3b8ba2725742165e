import Clev2er.Cryotempo.FileFinders
import Clev2er.RunChain.CommandLine
import Mathlib.Tactic.Linarith

/-!
# The files of a run

The files of a run are the first of those that the arguments select, in the order in which
they were found, and one of them exists (`files_of_main`). `--month` alone passes the check
of the inputs, but the finders need a year: no run comes of it (`month_alone`).
-/

namespace Clev2er.RunChain

open Clev2er.Lib Clev2er.Cryotempo
open Clev2er.Config hiding ListedFile

variable {host : Surroundings} {args : Args} {call : Call}

/-! ## Limiting the files -/

theorem takeInt_prefix {α : Type} (xs : List α) (n : ℤ) : takeInt xs n <+: xs := by
  rw [takeInt]
  split
  · exact List.take_prefix _ _
  · exact List.take_prefix _ _

theorem limitFiles_prefix (fileList : List String) : limitFiles args fileList <+: fileList := by
  rw [limitFiles]
  split
  · exact takeInt_prefix _ _
  · exact List.prefix_rfl

/-- A positive limit. -/
theorem length_limitFiles {n : ℕ} (hlimit : args.maxFiles = some ((n : ℤ) + 1))
    (fileList : List String) :
    (limitFiles args fileList).length = min (n + 1) fileList.length := by
  rw [limitFiles, hlimit, Option.getD_some]
  split
  · next h =>
    rw [takeInt, if_pos (by omega), List.length_take]
    omega
  · next h =>
    have hshort : fileList.length ≤ n + 1 := by
      by_contra hlong
      apply h
      have hpositive : isNonzero (some ((n : ℤ) + 1)) = true := by
        rw [isNonzero]
        exact decide_eq_true (by omega)
      exact ⟨hpositive, by omega⟩
    rw [Nat.min_eq_right hshort]

/-! ## What the finders are asked -/

/-- One finder of the list: its module is there, and it finds these files. -/
def FoundBy (host : Surroundings) (config : List (String × PyVal)) (request : List ℤ × List ℤ)
    (finder : String) (files : List String) : Prop :=
  ∃ chainName findFiles, getPath (.dict config) ["chain", "chain_name"] = some chainName ∧
    host.finderModule chainName finder = .ok findFiles ∧
    findFiles config request.1 request.2 = .ok files

theorem getPath_of_getItem {config : List (String × PyVal)} {chain chainName : PyVal}
    (hchain : (PyVal.dict config).getItem "chain" = .ok chain)
    (hname : chain.getItem "chain_name" = .ok chainName) :
    getPath (.dict config) ["chain", "chain_name"] = some chainName := by
  have hlookup : ∀ {items : List (String × PyVal)} {key : String} {v : PyVal},
      (PyVal.dict items).getItem key = .ok v → items.lookup key = some v := by
    intro items key v h
    rw [PyVal.getItem] at h
    split at h
    · next w hw => rw [hw, Except.ok.inj h]
    · cases h
  rw [getPath_dict_cons, hlookup hchain, Option.bind_some]
  cases chain with
  | dict items =>
      rw [getPath_dict_cons, hlookup hname, Option.bind_some]
      cases chainName <;> rfl
  | none => cases hname
  | bool b => cases hname
  | int n => cases hname
  | float bits => cases hname
  | str s => cases hname
  | list xs => cases hname

theorem findWith_ok {config : List (String × PyVal)} {fileList result : List String}
    {finder : String} (h : findWith host args config fileList finder = .ok result) :
    ∃ request files, finderRequest args = .ok request ∧
      FoundBy host config request finder files ∧ result = fileList ++ files := by
  obtain ⟨chain, hchain, h⟩ := except_bind_ok h
  obtain ⟨chainName, hname, h⟩ := except_bind_ok h
  split at h
  · split at h <;> cases h
  · next findFiles hmodule =>
    split at h
    · next files hfiles =>
      obtain ⟨request, hrequest, hfound⟩ := except_bind_ok hfiles
      exact ⟨request, files, hrequest, ⟨chainName, findFiles,
        getPath_of_getItem (uncaught_ok hchain) (uncaught_ok hname), hmodule, hfound⟩,
        (Except.ok.inj h).symm⟩
    · split at h <;> cases h

/-- The loop over the finders puts together what they find. -/
theorem finders_ok {config : List (String × PyVal)} :
    ∀ {finders fileList result : List String},
      finders.foldlM (findWith host args config) fileList = .ok result → finders ≠ [] →
      ∃ request found, finderRequest args = .ok request ∧
        List.Forall₂ (FoundBy host config request) finders found ∧
        result = fileList ++ found.flatten := by
  intro finders
  induction finders with
  | nil => exact fun _ hne => absurd rfl hne
  | cons finder rest ih =>
      intro fileList result h _
      rw [List.foldlM_cons] at h
      obtain ⟨next, hfirst, hrest⟩ := except_bind_ok h
      obtain ⟨request, files, hrequest, hfound, rfl⟩ := findWith_ok hfirst
      by_cases hnil : rest = []
      · subst hnil
        obtain rfl := Except.ok.inj hrest
        exact ⟨request, [files], hrequest, .cons hfound .nil, by simp⟩
      · obtain ⟨request', found, hrequest', hall, rfl⟩ := ih hrest hnil
        obtain rfl := Except.ok.inj (hrequest.symm.trans hrequest')
        refine ⟨request, files :: found, hrequest, .cons hfound hall, ?_⟩
        rw [List.flatten_cons, List.append_assoc]

/-! ## The files of a call of `run_chain` -/

/-- The checks that were passed, with the limit. -/
theorem Reached.files {loaded : LoadedConfig} {lists : AlgorithmLists} {fileList : List String}
    (h : Reached host args call loaded lists fileList) :
    call.l1bFileList <+: fileList ∧ ∃ file ∈ call.l1bFileList, host.isfile file = true := by
  refine ⟨h.limited ▸ limitFiles_prefix fileList, ?_⟩
  have hchecked := h.checked
  rw [checkFiles] at hchecked
  split at hchecked
  · cases hchecked
  · next hany => exact List.any_eq_true.mp (by simpa using hany)

/-- What the arguments select: the files of the test directory, one file, the files of a
directory, or, without any of these, what the finders find for the months and years of
the arguments, one finder after the other. -/
structure Selected (host : Surroundings) (args : Args) (config : List (String × PyVal))
    (finderList fileList : List String) : Prop where
  computed : selectFiles host args config finderList = .ok fileList
  testdir : args.cs2testdir = true → ∃ baseDir,
    host.environ "CLEV2ER_BASE_DIR" = .ok baseDir ∧
      fileList = host.glob (baseDir ++ "/testdata/cs2/l1bfiles/*")
  file : args.cs2testdir = false → isGiven args.file = true → fileList = [args.file.getD ""]
  dir : args.cs2testdir = false → isGiven args.file = false → isGiven args.dir = true →
    fileList = host.glob (args.dir.getD "" ++ "/*.nc")
  finders : args.cs2testdir = false → isGiven args.file = false → isGiven args.dir = false →
    ∃ request found, finderRequest args = .ok request ∧
      List.Forall₂ (FoundBy host config request) finderList found ∧ fileList = found.flatten

theorem selected_of_ne_nil {config : List (String × PyVal)} {finderList fileList : List String}
    (h : selectFiles host args config finderList = .ok fileList) (hne : fileList ≠ []) :
    Selected host args config finderList fileList := by
  refine ⟨h, fun hdir => ?_, fun hdir hfile => ?_, fun hdir hfile hfiles => ?_,
    fun hdir hfile hfiles => ?_⟩
  · rw [selectFiles, hdir, if_pos rfl] at h
    obtain ⟨baseDir, hbase, h⟩ := except_bind_ok h
    exact ⟨baseDir, uncaught_ok hbase, (Except.ok.inj h).symm⟩
  · rw [selectFiles, hdir, hfile, if_neg Bool.false_ne_true, if_pos rfl] at h
    exact (Except.ok.inj h).symm
  · rw [selectFiles, hdir, hfile, hfiles, if_neg Bool.false_ne_true, if_neg Bool.false_ne_true,
      if_pos rfl] at h
    exact (Except.ok.inj h).symm
  · rw [selectFiles, hdir, hfile, hfiles, if_neg Bool.false_ne_true, if_neg Bool.false_ne_true,
      if_neg Bool.false_ne_true] at h
    refine finders_ok h fun hnil => hne ?_
    rw [hnil] at h
    exact (Except.ok.inj h).symm

theorem Reached.selects {loaded : LoadedConfig} {lists : AlgorithmLists} {fileList : List String}
    (h : Reached host args call loaded lists fileList) :
    Selected host args call.config lists.finderModuleList fileList := by
  refine selected_of_ne_nil h.selected ?_
  rintro rfl
  obtain ⟨hstarts, file, hmem, -⟩ := h.files
  exact List.not_mem_nil (hstarts.subset hmem)

/-- **The files of a run** are the first of the selected files, as many as `--max_files`
says, and one of them exists. -/
theorem files_of_main (h : main host args = .ok call) :
    ∃ loaded lists fileList, loadConfig host args = .ok loaded ∧
      loadLists host args loaded = .ok lists ∧
      Selected host args call.config lists.finderModuleList fileList ∧
      call.l1bFileList <+: fileList ∧
      (isNonzero args.maxFiles = false → call.l1bFileList = fileList) ∧
      (∀ n : ℕ, args.maxFiles = some ((n : ℤ) + 1) →
        call.l1bFileList.length = min (n + 1) fileList.length) ∧
      ∃ file ∈ call.l1bFileList, host.isfile file = true := by
  obtain ⟨loaded, lists, fileList, hreached⟩ := main_ok h
  obtain ⟨hstarts, hexists⟩ := hreached.files
  refine ⟨loaded, lists, fileList, hreached.loaded_eq, hreached.lists_eq, hreached.selects,
    hstarts, ?_, ?_, hexists⟩
  · intro hunlimited
    rw [hreached.limited, limitFiles, hunlimited]
    simp
  · intro n hlimit
    rw [hreached.limited, length_limitFiles hlimit]

/-! ## The finders of the chain -/

/-- A `FileFinder` whose `find_files` is `find` on an archive: `read` is what it takes out of
a configuration, and `text` the path of a file. -/
structure ArchiveFinder (mode : L1bMode) (otherOnly : FinderConfig → Option Bool) (a : Archive)
    (read : List (String × PyVal) → FinderConfig) (text : ListedFile → String)
    (findFiles : FinderClass) : Prop where
  finds : ∀ config (q : FileRequest), q.flatSearch = false →
    findFiles config (q.months.map Int.ofNat) (q.years.map Int.ofNat) =
      (findFilesOf mode (otherOnly (read config)) (read config) a q).map (List.map text)

/-- Without a year it finds nothing. -/
theorem findFilesOf_no_years {mode : L1bMode} {otherOnly : Option Bool} {c : FinderConfig}
    {a : Archive} {q : FileRequest} {files : List ListedFile} (hyears : q.years = [])
    (h : findFilesOf mode otherOnly c a q = .ok files) : files = [] := by
  apply List.eq_nil_iff_forall_not_mem.mpr
  intro f hf
  obtain ⟨-, -, -, hrequested, -⟩ := (mem_findFilesOf h).mp hf
  have hyear := hrequested.year_mem
  rw [hyears] at hyear
  exact List.not_mem_nil hyear

theorem exists_of_forall₂_right {α β : Type} {R : α → β → Prop} {xs : List α} {ys : List β}
    (h : List.Forall₂ R xs ys) {y : β} (hy : y ∈ ys) : ∃ x ∈ xs, R x y := by
  induction h with
  | nil => cases hy
  | cons hfirst _ ih =>
      rcases List.mem_cons.mp hy with rfl | hrest
      · exact ⟨_, List.mem_cons_self, hfirst⟩
      · obtain ⟨x, hx, hR⟩ := ih hrest
        exact ⟨x, List.mem_cons_of_mem _ hx, hR⟩

/-- The request without months and years. -/
def emptyRequest : FileRequest := ⟨[], [], false, by simp, by simp⟩

theorem finderRequest_no_year (hyear : isNonzero args.year = false) :
    finderRequest args = .ok ([], []) := by
  rw [finderRequest, hyear]
  simp

/-- **`--month` alone starts no run**, though it passes the check of the inputs; nor do no
inputs at all. The finders are those of `find_lrm.py` and `find_sin.py`. -/
theorem month_alone (hdir : args.cs2testdir = false) (hfile : isGiven args.file = false)
    (hfiles : isGiven args.dir = false) (hyear : isNonzero args.year = false)
    (hfinders : ∀ chainName finder findFiles, host.finderModule chainName finder = .ok findFiles →
      ∃ mode otherOnly a read text, ArchiveFinder mode otherOnly a read text findFiles) :
    (isNonzero args.month = true → checkInputs args = .ok ()) ∧ main host args ≠ .ok call := by
  refine ⟨fun hmonth => ?_, fun h => ?_⟩
  · rw [checkInputs, if_neg]
    rintro ⟨-, -, -, -, hnone⟩
    rw [hmonth] at hnone
    cases hnone
  obtain ⟨loaded, lists, fileList, hreached⟩ := main_ok h
  obtain ⟨hstarts, file, hmem, -⟩ := hreached.files
  obtain ⟨request, found, hrequest, hall, rfl⟩ := hreached.selects.finders hdir hfile hfiles
  obtain rfl := Except.ok.inj ((finderRequest_no_year hyear).symm.trans hrequest)
  obtain ⟨files, hin, hfileIn⟩ := List.mem_flatten.mp (hstarts.subset hmem)
  -- the finder of this file was not given a year
  obtain ⟨finder, -, chainName, findFiles, -, hmodule, hfound⟩ :=
    exists_of_forall₂_right hall hin
  obtain ⟨mode, otherOnly, a, read, text, hfinder⟩ := hfinders _ _ _ hmodule
  have hnone := hfinder.finds call.config emptyRequest rfl
  rw [emptyRequest, List.map_nil] at hnone
  rw [hnone] at hfound
  cases hrun : findFilesOf mode (otherOnly (read call.config)) (read call.config) a emptyRequest with
  | error e =>
      rw [emptyRequest] at hrun
      rw [hrun] at hfound
      cases hfound
  | ok listed =>
      rw [findFilesOf_no_years rfl hrun] at hrun
      rw [emptyRequest] at hrun
      rw [hrun] at hfound
      obtain rfl := Except.ok.inj hfound
      exact List.not_mem_nil hfileIn

/-! ### Two files of a month -/

/-- What the finders read of a configuration whose baselines are `E`. -/
def readBaselineE (config : List (String × PyVal)) : FinderConfig where
  lrmOnly := (config.lookup "lrm_only").map truth
  sinOnly := (config.lookup "sin_only").map truth
  grnOnly := (config.lookup "grn_only").map truth
  l1bBaselines := some ⟨['E'], baselineE_upper⟩
  l1bBaseDir := some "/l1b"

/-- The `FileFinder` of a mode on an archive. -/
def finderOf (mode : L1bMode) (otherOnly : FinderConfig → Option Bool) (a : Archive)
    (read : List (String × PyVal) → FinderConfig) (text : ListedFile → String) : FinderClass :=
  fun config months years =>
    if h : (∀ y ∈ years.map Int.toNat, 1960 ≤ y ∧ y < 10 ^ 4) ∧
        ∀ m ∈ months.map Int.toNat, m < 10 ^ 2 then
      (findFilesOf mode (otherOnly (read config)) (read config) a
        ⟨years.map Int.toNat, months.map Int.toNat, false, h.1, h.2⟩).map (List.map text)
    else .ok []

theorem finderOf_archiveFinder (mode : L1bMode) (otherOnly : FinderConfig → Option Bool)
    (a : Archive) (read : List (String × PyVal) → FinderConfig) (text : ListedFile → String) :
    ArchiveFinder mode otherOnly a read text (finderOf mode otherOnly a read text) := by
  refine ⟨fun config q hflat => ?_⟩
  have hback : ∀ ns : List ℕ, (ns.map Int.ofNat).map Int.toNat = ns := by
    intro ns
    rw [List.map_map]
    exact List.map_id ns
  obtain ⟨years, months, flatSearch, hyears, hmonths⟩ := q
  obtain rfl : flatSearch = false := hflat
  rw [finderOf]
  simp only [hback]
  rw [dif_pos ⟨hyears, hmonths⟩]

/-- The path of a file below the base directory. -/
def pathText (f : ListedFile) : String :=
  "/l1b/" ++ String.ofList ((f.path.intersperse ['/']).flatten)

/-- `CS_LTA__SIR_LRM_1B_20200929T235609_20200929T235758_E001.nc`, the file of the day
before `lrmFile`. -/
def earlierFile : ListedFile :=
  { lrmFile with
    name :=
      { lrmName with
        span := "29T235609_20200929T235758_".toList
        span_chars := by simp } }

theorem nodup_septemberFiles : ([earlierFile, lrmFile].map ListedFile.path).Nodup := by
  decide +kernel

def septemberArchive : Archive := ⟨true, [earlierFile, lrmFile], nodup_septemberFiles⟩

/-- The two finders on this archive. -/
def septemberSurroundings : Surroundings :=
  { testchainSurroundings with
    isfile := fun path => [earlierFile, lrmFile].any fun f => decide (path = pathText f)
    loadAlgorithmList := fun _ _ _ _ => .ok ⟨["alg_identify_file"], ["find_lrm", "find_sin"], ""⟩
    finderModule := fun _ finder =>
      if finder = "find_lrm" then
        .ok (finderOf .lrm FinderConfig.sinOnly septemberArchive readBaselineE pathText)
      else if finder = "find_sin" then
        .ok (finderOf .sin FinderConfig.lrmOnly septemberArchive readBaselineE pathText)
      else .error ⟨.importError, "No module named " ++ finder⟩ }

/-- `--month 9`. -/
def monthArgs : Args :=
  { testchainArgs with file := none, month := some 9 }

theorem septemberSurroundings_finders (chainName : PyVal) (finder : String)
    (findFiles : FinderClass)
    (h : septemberSurroundings.finderModule chainName finder = .ok findFiles) :
    (finder = "find_lrm" ∧
      findFiles = finderOf .lrm FinderConfig.sinOnly septemberArchive readBaselineE pathText) ∨
    (finder = "find_sin" ∧
      findFiles = finderOf .sin FinderConfig.lrmOnly septemberArchive readBaselineE pathText) := by
  simp only [septemberSurroundings] at h
  split at h
  · next hname => exact .inl ⟨hname, (Except.ok.inj h).symm⟩
  · split at h
    · next hname => exact .inr ⟨hname, (Except.ok.inj h).symm⟩
    · cases h

/-- `--month 9` starts no run. -/
theorem month_alone_september :
    checkInputs monthArgs = .ok () ∧
      main septemberSurroundings monthArgs ≠ .ok testchainCall := by
  refine (month_alone rfl rfl rfl rfl ?_).imp_left fun hchecked => hchecked rfl
  intro chainName finder findFiles h
  rcases septemberSurroundings_finders chainName finder findFiles h with ⟨-, rfl⟩ | ⟨-, rfl⟩
  · exact ⟨_, _, _, _, _, finderOf_archiveFinder _ _ _ _ _⟩
  · exact ⟨_, _, _, _, _, finderOf_archiveFinder _ _ _ _ _⟩

/-! ## The files of the chain -/

/-- No month and no year is asked for twice. -/
theorem nodup_finderRequest {months years : List ℤ}
    (h : finderRequest args = .ok (months, years)) : months.Nodup ∧ years.Nodup := by
  have hadd : ∀ {year : ℤ}, addYear [] year = .ok years → years.Nodup := by
    intro year hyears
    rw [addYear] at hyears
    split at hyears
    · cases hyears
    · obtain rfl := Except.ok.inj hyears
      exact List.nodup_singleton year
  rw [finderRequest] at h
  split at h
  · obtain ⟨years', hyears, h⟩ := except_bind_ok h
    obtain ⟨rfl, rfl⟩ := Prod.ext_iff.mp (Except.ok.inj h)
    exact ⟨List.nodup_singleton _, hadd hyears⟩
  · split at h
    · obtain ⟨years', hyears, h⟩ := except_bind_ok h
      obtain ⟨rfl, rfl⟩ := Prod.ext_iff.mp (Except.ok.inj h)
      exact ⟨List.Nodup.map Int.ofNat_injective List.nodup_range', hadd hyears⟩
    · obtain ⟨rfl, rfl⟩ := Prod.ext_iff.mp (Except.ok.inj h)
      exact ⟨List.nodup_nil, List.nodup_nil⟩

/-- What one finder of the chain has found. -/
theorem FoundBy.listed {config : List (String × PyVal)} {finder : String} {files : List String}
    {mode : L1bMode} {otherOnly : FinderConfig → Option Bool} {a : Archive}
    {read : List (String × PyVal) → FinderConfig} {text : ListedFile → String} {q : FileRequest}
    (hflat : q.flatSearch = false)
    (h : FoundBy host config (q.months.map Int.ofNat, q.years.map Int.ofNat) finder files)
    (hfinder : ∀ chainName findFiles, host.finderModule chainName finder = .ok findFiles →
      ArchiveFinder mode otherOnly a read text findFiles) :
    ∃ listed, findFilesOf mode (otherOnly (read config)) (read config) a q = .ok listed ∧
      files = listed.map text := by
  obtain ⟨chainName, findFiles, -, hmodule, hfound⟩ := h
  rw [(hfinder _ _ hmodule).finds config q hflat] at hfound
  cases hrun : findFilesOf mode (otherOnly (read config)) (read config) a q with
  | error e =>
      rw [hrun] at hfound
      cases hfound
  | ok listed =>
      rw [hrun] at hfound
      exact ⟨listed, rfl, (Except.ok.inj hfound).symm⟩

/-- **The files of a year or a month.** With the finders of the lists of the chain, the files
of a run are those of the archive that have the asked years, months and baselines, each
once, of the modes that no switch of the configuration turns off. -/
theorem year_files (h : main host args = .ok call) (hdir : args.cs2testdir = false)
    (hfile : isGiven args.file = false) (hfiles : isGiven args.dir = false)
    (hmax : isNonzero args.maxFiles = false) {q : FileRequest} (hflat : q.flatSearch = false)
    (hrequest : finderRequest args = .ok (q.months.map Int.ofNat, q.years.map Int.ofNat))
    (hlists : ∀ loaded lists, loadLists host args loaded = .ok lists →
      lists.finderModuleList = ["find_lrm", "find_sin"])
    {a : Archive} {read : List (String × PyVal) → FinderConfig} {text : ListedFile → String}
    (hlrm : ∀ chainName findFiles, host.finderModule chainName "find_lrm" = .ok findFiles →
      ArchiveFinder .lrm FinderConfig.sinOnly a read text findFiles)
    (hsin : ∀ chainName findFiles, host.finderModule chainName "find_sin" = .ok findFiles →
      ArchiveFinder .sin FinderConfig.lrmOnly a read text findFiles) :
    ∃ found : List ListedFile, call.l1bFileList = found.map text ∧
      (found.map ListedFile.path).Nodup ∧
      ∀ f, f ∈ found ↔ f ∈ a.files ∧ Requested (read call.config) q f ∧
        ((read call.config).grnOnly = some true → f.OverGreenland) ∧
        ((read call.config).sinOnly = none ∧ f.name.mode = .lrm ∨
          (read call.config).lrmOnly = none ∧ f.name.mode = .sin) := by
  obtain ⟨loaded, lists, fileList, hreached⟩ := main_ok h
  obtain ⟨request, found, hrequest', hall, rfl⟩ := hreached.selects.finders hdir hfile hfiles
  obtain rfl := Except.ok.inj (hrequest.symm.trans hrequest')
  rw [hlists _ _ hreached.lists_eq] at hall
  obtain _ | ⟨hfirst, hrest⟩ := hall
  obtain _ | ⟨hsecond, hnil⟩ := hrest
  obtain rfl := List.forall₂_nil_left_iff.mp hnil
  obtain ⟨lrmFiles, hlrmRun, rfl⟩ := hfirst.listed hflat hlrm
  obtain ⟨sinFiles, hsinRun, rfl⟩ := hsecond.listed hflat hsin
  obtain ⟨hmonths, hyears⟩ := nodup_finderRequest hrequest
  refine ⟨lrmFiles ++ sinFiles, ?_,
    nodup_both hlrmRun hsinRun (List.Nodup.of_map _ hyears) (List.Nodup.of_map _ hmonths),
    fun f => mem_both hlrmRun hsinRun⟩
  rw [hreached.limited, limitFiles, hmax]
  simp

/-- `--year 2020 --month 9 --max_files n`. -/
def septemberArgs (maxFiles : Option ℤ) : Args :=
  { testchainArgs with file := none, year := some 2020, month := some 9, maxFiles := maxFiles }

def septemberCall : Call :=
  { testchainCall with
    l1bFileList := [pathText earlierFile, pathText lrmFile]
    config :=
      [("chain", .dict [("use_multi_processing", .bool true), ("use_shared_memory", .bool true),
          ("stop_on_error", .bool false), ("chain_name", .str "testchain")]),
        ("baseline", .str "A"), ("version", .int 1),
        ("log_files", .dict [("append_year_month_to_logname", .bool true),
          ("errors", .str "errors_second_092020.log"), ("info", .str "info_second_092020.log"),
          ("debug", .str "debug_second_092020.log"), ("debug_mode", .bool false)])]
    algorithmList := ["alg_identify_file"] }

theorem septemberCall_eq :
    main septemberSurroundings (septemberArgs none) = .ok septemberCall := by
  rfl

/-- With `--max_files 1`. -/
def limitedCall : Call :=
  { septemberCall with
    l1bFileList := [pathText earlierFile]
    modifiedArgs := [(["max_files"], .int 1), (["logstring"], .str "second"),
      (["use_multi_processing"], .bool true), (["use_shared_memory"], .bool true)] }

theorem limitedCall_eq :
    main septemberSurroundings (septemberArgs (some 1)) = .ok limitedCall := by
  rfl

/-- `--max_files 1` leaves the first of the files that the finders find. -/
theorem files_of_main_september :
    ∃ finderList found,
      List.Forall₂ (FoundBy septemberSurroundings limitedCall.config ([9], [2020])) finderList
          found ∧
        limitedCall.l1bFileList <+: found.flatten ∧ limitedCall.l1bFileList.length = 1 := by
  obtain ⟨loaded, lists, fileList, -, -, hselected, hstarts, -, -, -⟩ :=
    files_of_main limitedCall_eq
  obtain ⟨request, found, hrequest, hall, rfl⟩ := hselected.finders rfl rfl rfl
  obtain rfl := Except.ok.inj hrequest
  exact ⟨_, found, hall, hstarts, rfl⟩

/-- The LRM file of the month is among the files. -/
theorem year_files_september :
    ∃ found : List ListedFile, septemberCall.l1bFileList = found.map pathText ∧
      lrmFile ∈ found := by
  have hlists : ∀ loaded lists,
      loadLists septemberSurroundings (septemberArgs none) loaded = .ok lists →
      lists.finderModuleList = ["find_lrm", "find_sin"] := by
    rintro loaded lists h
    obtain rfl := Except.ok.inj h
    rfl
  have hlrm : ∀ chainName findFiles,
      septemberSurroundings.finderModule chainName "find_lrm" = .ok findFiles →
      ArchiveFinder .lrm FinderConfig.sinOnly septemberArchive readBaselineE pathText findFiles := by
    intro chainName findFiles h
    rcases septemberSurroundings_finders chainName _ findFiles h with ⟨-, rfl⟩ | ⟨hname, -⟩
    · exact finderOf_archiveFinder _ _ _ _ _
    · exact absurd hname (by decide)
  have hsin : ∀ chainName findFiles,
      septemberSurroundings.finderModule chainName "find_sin" = .ok findFiles →
      ArchiveFinder .sin FinderConfig.lrmOnly septemberArchive readBaselineE pathText findFiles := by
    intro chainName findFiles h
    rcases septemberSurroundings_finders chainName _ findFiles h with ⟨hname, -⟩ | ⟨-, rfl⟩
    · exact absurd hname (by decide)
    · exact finderOf_archiveFinder _ _ _ _ _
  obtain ⟨found, hfiles, -, hmem⟩ := year_files septemberCall_eq rfl rfl rfl rfl
    (q := september2020) rfl rfl hlists hlrm hsin
  have hrequested : Requested (readBaselineE septemberCall.config) september2020 lrmFile :=
    ⟨rfl, List.mem_singleton.mpr rfl, List.mem_singleton.mpr rfl, _, rfl,
      List.mem_singleton.mpr rfl⟩
  have hfile : lrmFile ∈ septemberArchive.files :=
    List.mem_cons_of_mem _ (List.mem_singleton.mpr rfl)
  refine ⟨found, hfiles, (hmem lrmFile).mpr ⟨hfile, hrequested, ?_, ?_⟩⟩
  · intro hgrn
    exact absurd hgrn (by decide)
  · exact .inl ⟨rfl, rfl⟩

end Clev2er.RunChain
