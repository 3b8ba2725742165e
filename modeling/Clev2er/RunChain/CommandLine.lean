import Clev2er.Config.ConfOpts
import Clev2er.Lib.FixedWidth
import Clev2er.Lib.TextReplace
import Clev2er.RunChain.RunChain

/-!
# The command line

`main` from the parsed arguments to the call of `run_chain`: it loads the configuration,
overrides settings of it, names the logs, loads the algorithm list and selects the files.
Every message that ends it is either that of `sys.exit` or an error in the log.
-/

namespace Clev2er.RunChain

open Clev2er.Lib Clev2er.Config

/-! ## Arguments -/

/-- The arguments that `main` reads; `none` is one that is not given and has no default. -/
structure Args where
  name : String
  alglist : String
  mconf : String
  conf : String
  confOpts : Option String
  baseline : String
  version : ℤ
  file : Option String
  dir : Option String
  cs2testdir : Bool
  month : Option ℤ
  year : Option ℤ
  maxFiles : Option ℤ
  quiet : Bool
  debug : Bool
  multiprocessing : Bool
  nprocs : Option ℤ
  sequentialprocessing : Bool
  sharedmem : Bool
  stopOnError : Bool
  logstring : Option String
  breakpointAfter : Option String

/-- `if args.<number>`: given, and not zero. -/
def isNonzero : Option ℤ → Bool
  | some n => decide (n ≠ 0)
  | none => false

/-- `if value`. -/
def truth : PyVal → Bool
  | .none => false
  | .bool b => b
  | .int n => decide (n ≠ 0)
  | .float bits => decide (bits.toNat % 2 ^ 63 ≠ 0)
  | .str s => decide (s ≠ "")
  | .list xs => !xs.isEmpty
  | .dict items => !items.isEmpty

/-! ## The surroundings -/

/-- What `load_config_files` returns; the path of the main file is only logged. -/
structure LoadedConfig where
  config : List (String × PyVal)
  baseline : String
  version : ℤ
  chainConfigFile : String

/-- A `FileFinder`: the files it finds with a configuration, months and years. -/
abbrev FinderClass := List (String × PyVal) → List ℤ → List ℤ → Except PyExc (List String)

/-- What `main` takes from Python, from the other modules and from the disk. -/
structure Surroundings where
  py : Literals
  isalpha : String → Bool
  /-- `str(value)`. -/
  str : PyVal → String
  /-- `x == n` for a float and an integer. -/
  floatIsInt : BitVec 64 → ℤ → Bool
  loadConfigFiles : String → String → ℤ → String → String → Except PyExc LoadedConfig
  /-- `get_logger` with the three log files opens them. -/
  getLogger : PyVal → PyVal → PyVal → Except PyExc Unit
  loadAlgorithmList : String → String → ℤ → String → Except PyExc AlgorithmLists
  /-- `os.environ`. -/
  environ : String → Except PyExc String
  glob : String → List String
  isfile : String → Bool
  /-- The `FileFinder` of a module, of the chain with this name. -/
  finderModule : PyVal → String → Except PyExc FinderClass
  /-- The exceptions of `OSError` that are a `FileNotFoundError`. -/
  isFileNotFound : PyExc → Bool

/-- How `main` ends before it calls `run_chain`. -/
inductive Stop where
  /-- `sys.exit(message)`. -/
  | exit (message : String)
  /-- `sys.exit(1)`, after an error in the log. -/
  | exitLogged (error : String)
  | raised (e : PyExc)

/-- An exception that nothing catches. -/
def uncaught {α : Type} (x : Except PyExc α) : Except Stop α :=
  match x with
  | .ok a => .ok a
  | .error e => .error (.raised e)

section Main

variable (host : Surroundings) (args : Args)

/-! ## Checks of the arguments, lines 868 to 908 -/

def checkArgs : Except Stop Unit :=
  if args.name = "" then .error (.exit "ERROR: missing command line argument --name <chain_name>")
  else if args.baseline ≠ "" ∧ (args.baseline.length ≠ 1 ∨ host.isalpha args.baseline = false) then
    .error (.exit "ERROR: --baseline <BASELINE>, must be a single char A..Z")
  else if args.version ≠ 0 ∧ 100 < args.version then
    .error (.exit "ERROR: --version <version>, must be an integer 1..100")
  else .ok ()

/-- `value == n` for an integer. -/
def eqInt (value : PyVal) (n : ℤ) : Bool :=
  match value with
  | .int m => decide (m = n)
  | .bool b => decide ((if b then 1 else 0) = n)
  | .float bits => host.floatIsInt bits n
  | _ => false

/-- The call of `load_config_files`, and the checks against `--baseline` and `--version`. -/
def loadConfig : Except Stop LoadedConfig :=
  match host.loadConfigFiles args.name args.baseline args.version args.mconf args.conf with
  | .error e =>
      if e.caught then .error (.exit ("Loading config file error: " ++ e.text))
      else .error (.raised e)
  | .ok loaded => do
      if args.baseline ≠ "" then
        let baseline ← uncaught ((PyVal.dict loaded.config).getItem "baseline")
        if baseline.eqStr args.baseline = false then
          .error (.exit ("Error: baseline key:value parameter in chain config file " ++
            loaded.chainConfigFile ++ " is " ++ host.str baseline ++
            " which does not match --baseline " ++ args.baseline))
      if args.version ≠ 0 then
        let version ← uncaught ((PyVal.dict loaded.config).getItem "version")
        if eqInt host version args.version = false then
          .error (.exit ("Error: version key:value parameter in chain config file " ++
            loaded.chainConfigFile ++ " is " ++ host.str version ++
            " which does not match --version " ++ toString args.version))
      .ok loaded

/-! ## Overriding settings, lines 915 to 995 -/

/-- `config[section][key] = val`. -/
def storeIn (config : List (String × PyVal)) (section_ key : String) (val : PyVal) :
    Except PyExc (List (String × PyVal)) := do
  let items ← setItem (← (PyVal.dict config).getItem section_) key val
  .ok (dictSet section_ items config)

/-- `modified_args.append(f"{name}={val}")`, if the argument is given. -/
def report (given : Bool) (name : String) (val : PyVal) (state : ConfState) : ConfState :=
  if given then (state.1, state.2 ++ [([name], val)]) else state

/-- An argument that overrides a setting of a section, with its report. -/
def override (given : Bool) (section_ key : String) (val : PyVal) (name : String)
    (state : ConfState) : Except PyExc ConfState :=
  if given then do
    let config ← storeIn state.1 section_ key val
    .ok (config, state.2 ++ [([name], val)])
  else .ok state

/-- `--debug`: the setting is stored in both cases, and reported in one. -/
def overrideDebug (state : ConfState) : Except PyExc ConfState := do
  let config ← storeIn state.1 "log_files" "debug_mode" (.bool args.debug)
  .ok (report args.debug "debug" (.bool true) (config, state.2))

/-- `--sharedmem`. -/
def overrideSharedmem (state : ConfState) : Except Stop ConfState :=
  if args.sharedmem then do
    let chain ← uncaught ((PyVal.dict state.1).getItem "chain")
    let useMultiProcessing ← uncaught (chain.getItem "use_multi_processing")
    if truth useMultiProcessing then
      uncaught (override true "chain" "use_shared_memory" (.bool true) "use_shared_memory" state)
    else
      .error (.exit ("ERROR: --sharedmem option must be used  with multi-processing enabled" ++
        "\nEither through the --multiprocessing command line option, or" ++
        "\nthrough the chain:use_multi_processing setting in the main config file"))
  else .ok state

/-- The arguments up to `--stop_on_error`. -/
def overrideArgs (config : List (String × PyVal)) : Except Stop ConfState := do
  let state := report (args.quiet) "quiet" (.bool true)
    (report (isGiven args.breakpointAfter) "breakpoint_after"
        (.str (args.breakpointAfter.getD ""))
      (report (decide (0 < args.version)) "version" (.int args.version)
        (report (decide (args.baseline ≠ "")) "baseline" (.str args.baseline) (config, []))))
  let state ← uncaught (overrideDebug args state)
  let state := report (isGiven args.logstring) "logstring" (.str (args.logstring.getD ""))
    (report (decide (args.conf ≠ "")) "conf" (.str args.conf)
      (report (decide (args.alglist ≠ "")) "alglist" (.str args.alglist)
        (report (isNonzero args.maxFiles) "max_files" (.int (args.maxFiles.getD 0)) state)))
  let state ← uncaught (override args.multiprocessing "chain" "use_multi_processing" (.bool true)
    "use_multi_processing" state)
  let state ← uncaught (override args.sequentialprocessing "chain" "use_multi_processing"
    (.bool false) "use_multi_processing" state)
  let state ← overrideSharedmem args state
  let state ← uncaught (override (isNonzero args.nprocs) "chain"
    "max_processes_for_multiprocessing" (.int (args.nprocs.getD 0))
    "max_processes_for_multiprocessing" state)
  let config ← uncaught (storeIn state.1 "chain" "chain_name" (.str args.name))
  uncaught (override args.stopOnError "chain" "stop_on_error" (.bool true) "stop_on_error"
    (config, state.2))

/-- The options of `--conf_opts`. -/
def overrideConfOpts (state : ConfState) : Except PyExc ConfState :=
  (optionsOf (args.confOpts.getD "")).foldlM (applyOption host.py) state

/-! ## The logs, lines 1001 to 1077 -/

def checkInputs : Except Stop Unit :=
  if args.cs2testdir = false ∧ isGiven args.file = false ∧ isGiven args.dir = false ∧
      isNonzero args.year = false ∧ isNonzero args.month = false then
    .error (.exit ("usage error: No inputs specified for the " ++ args.name ++
      " chain. Must have either " ++
      "\n--cs2testdir (-ct)," ++
      "\n--file (-f) <single L1b file as input>," ++
      "\n--dir (-d) <input all L1b files in this directory>, or " ++
      "\n--year (-y) <YYYY> and --month (-m) <M> : search for files for " ++
      "specified year and month." ++
      "\nThe options --year, --month are used as inputs to l1b_file_selectors modules " ++
      "\nspecified in the " ++ args.name ++ " chain algorithms list and l1b_base_dir " ++
      "\nfrom the " ++ args.name ++ " config file."))
  else .ok ()

/-- One of the four settings of `log_files` that `main` asks for. -/
def checkLogFiles (chainConfigFile : String) (logFiles : PyVal) (key : String) :
    Except Stop Unit := do
  if (← uncaught (contains logFiles (.str key))) then .ok ()
  else
    .error (.exit ("log_files:" ++ key ++ " section missing from chain config file " ++
      chainConfigFile))

/-- `f"{n:02d}"`, with the sign of `n`. -/
def formatMonth (n : ℤ) : List Char :=
  if 0 ≤ n then formatInt '0' 2 n.toNat else '-' :: formatInt '0' 1 (-n).toNat

/-- What is put for `.log` in the names, each in the names with those before it. -/
def logSuffixes (appendYearMonth : Bool) : List (List Char) :=
  (if isGiven args.logstring then ["_".toList ++ (args.logstring.getD "").toList ++ ".log".toList]
    else []) ++
  if appendYearMonth then
    (if isNonzero args.year && !isNonzero args.month then
      ["_".toList ++ (toString (args.year.getD 0)).toList ++ ".log".toList] else []) ++
    (if isNonzero args.year && isNonzero args.month then
      ["_".toList ++ formatMonth (args.month.getD 0) ++
        (toString (args.year.getD 0)).toList ++ ".log".toList] else [])
  else []

/-- `name.replace(".log", suffix)`. -/
def replaceLog (name : PyVal) (suffix : List Char) : Except PyExc PyVal :=
  match name with
  | .str s => .ok (.str (String.ofList (replace ".log".toList suffix s.toList)))
  | _ => .error ⟨.attributeError, "object has no attribute 'replace'"⟩

/-- The name of a log. -/
def logName (logFiles : PyVal) (suffixes : List (List Char)) (key : String) :
    Except PyExc PyVal := do
  suffixes.foldlM replaceLog (← logFiles.getItem key)

/-- The checks of `log_files`, and the names stored in it. -/
def nameLogs (chainConfigFile : String) (config : List (String × PyVal)) :
    Except Stop (List (String × PyVal)) :=
  match config.lookup "log_files" with
  | none =>
      .error (.exit ("log_files section missing from chain configuration file " ++
        chainConfigFile))
  | some logFiles => do
      checkLogFiles chainConfigFile logFiles "errors"
      checkLogFiles chainConfigFile logFiles "info"
      checkLogFiles chainConfigFile logFiles "debug"
      checkLogFiles chainConfigFile logFiles "append_year_month_to_logname"
      let appendYearMonth ← uncaught (logFiles.getItem "append_year_month_to_logname")
      let suffixes := logSuffixes args (truth appendYearMonth)
      let errors ← uncaught (logName logFiles suffixes "errors")
      let info ← uncaught (logName logFiles suffixes "info")
      let debug ← uncaught (logName logFiles suffixes "debug")
      let config ← uncaught (storeIn config "log_files" "errors" errors)
      let config ← uncaught (storeIn config "log_files" "info" info)
      let config ← uncaught (storeIn config "log_files" "debug" debug)
      uncaught (host.getLogger errors info debug)
      .ok config

/-! ## The algorithm list, lines 1095 to 1116 -/

def loadLists (loaded : LoadedConfig) : Except Stop AlgorithmLists :=
  let version := if 0 < args.version then args.version else loaded.version
  match host.loadAlgorithmList args.name loaded.baseline version args.alglist with
  | .ok lists => .ok lists
  | .error e =>
      if e.caught then .error (.exitLogged ("Loading algorithm list file failed : " ++ e.text))
      else .error (.raised e)

/-! ## The input files, lines 1131 to 1197 -/

/-- `finder.add_year`. -/
def addYear (years : List ℤ) (year : ℤ) : Except PyExc (List ℤ) :=
  if year < 1960 then .error ⟨.valueError, "year must be > 1960"⟩ else .ok (years ++ [year])

/-- The months and the years that a finder is given. -/
def finderRequest : Except PyExc (List ℤ × List ℤ) := do
  if isNonzero args.month ∧ isNonzero args.year then
    .ok ([args.month.getD 0], ← addYear [] (args.year.getD 0))
  else if isNonzero args.year ∧ args.month = none then
    let years ← addYear [] (args.year.getD 0)
    .ok ((List.range' 1 12).map Int.ofNat, years)
  else .ok ([], [])

/-- `except (KeyError, ValueError, FileNotFoundError)`. -/
def caughtFinder (e : PyExc) : Bool :=
  match e.cls with
  | .keyError | .valueError => true
  | .osError => host.isFileNotFound e
  | _ => false

/-- One round of the loop over the finders. -/
def findWith (config : List (String × PyVal)) (fileList : List String) (finder : String) :
    Except Stop (List String) := do
  let chainName ← uncaught ((← uncaught ((PyVal.dict config).getItem "chain")).getItem "chain_name")
  match host.finderModule chainName finder with
  | .error e =>
      if e.cls = .importError then
        .error (.exitLogged ("Could not import module " ++ finder ++ ", " ++ e.text))
      else .error (.raised e)
  | .ok findFiles =>
      match finderRequest args >>= fun request => findFiles config request.1 request.2 with
      | .ok files => .ok (fileList ++ files)
      | .error e =>
          if caughtFinder host e then .error (.exitLogged ("file finder error: " ++ e.text))
          else .error (.raised e)

/-- `l1b_file_list`, before it is limited. -/
def selectFiles (config : List (String × PyVal)) (finderList : List String) :
    Except Stop (List String) :=
  if args.cs2testdir then do
    let baseDir ← uncaught (host.environ "CLEV2ER_BASE_DIR")
    .ok (host.glob (baseDir ++ "/testdata/cs2/l1bfiles/*"))
  else if isGiven args.file then .ok [args.file.getD ""]
  else if isGiven args.dir then .ok (host.glob (args.dir.getD "" ++ "/*.nc"))
  else finderList.foldlM (findWith host args config) []

/-- `xs[:n]`. -/
def takeInt {α : Type} (xs : List α) (n : ℤ) : List α :=
  if 0 ≤ n then xs.take n.toNat else xs.take (xs.length - (-n).toNat)

/-- `--max_files`. -/
def limitFiles (fileList : List String) : List String :=
  if isNonzero args.maxFiles ∧ args.maxFiles.getD 0 < (fileList.length : ℤ) then
    takeInt fileList (args.maxFiles.getD 0)
  else fileList

/-- The two checks of the file list. -/
def checkFiles (fileList : List String) : Except Stop Unit :=
  if fileList.any host.isfile = false then
    .error (.exitLogged
      "No input files in list exist, please check L1b input directories and files")
  else if fileList.length < 1 then .error (.exitLogged "No L1b files selected..")
  else .ok ()

/-! ## The whole function -/

/-- The call of `run_chain`, and `modified_args`, which `main` logs at its end. -/
structure Call where
  l1bFileList : List String
  config : List (String × PyVal)
  algorithmList : List String
  breakpointAfter : Option String
  modifiedArgs : List (List String × PyVal)

/-- `main` up to the call of `run_chain`. -/
def main : Except Stop Call := do
  checkArgs host args
  let loaded ← loadConfig host args
  let state ← overrideArgs args loaded.config
  let (config, modifiedArgs) ← uncaught (overrideConfOpts host args state)
  checkInputs args
  let config ← nameLogs host args loaded.chainConfigFile config
  let lists ← loadLists host args loaded
  let chain ← uncaught ((PyVal.dict config).getItem "chain")
  let _ ← uncaught (chain.getItem "use_multi_processing")
  let fileList ← selectFiles host args config lists.finderModuleList
  let l1bFileList := limitFiles args fileList
  checkFiles host l1bFileList
  let _ ← uncaught (chain.getItem "stop_on_error")
  if isGiven args.breakpointAfter ∧ args.breakpointAfter.getD "" ∉ lists.algorithmList then
    .error (.exitLogged ("breakpoint algorithm " ++ args.breakpointAfter.getD "" ++
      " not in algorithm list (check the name is correct)"))
  else
    .ok ⟨l1bFileList, config, lists.algorithmList, args.breakpointAfter, modifiedArgs⟩

/-! ## What a call of `run_chain` has gone through -/

variable {host args}

theorem uncaught_ok {α : Type} {x : Except PyExc α} {a : α} (h : uncaught x = .ok a) :
    x = .ok a := by
  cases x with
  | ok b => exact congrArg Except.ok (Except.ok.inj h)
  | error e => cases h

/-- The steps before a call of `run_chain`. -/
structure Reached (host : Surroundings) (args : Args) (call : Call) (loaded : LoadedConfig)
    (lists : AlgorithmLists) (fileList : List String) : Prop where
  loaded_eq : loadConfig host args = .ok loaded
  overridden : ∃ state config, overrideArgs args loaded.config = .ok state ∧
    overrideConfOpts host args state = .ok (config, call.modifiedArgs) ∧
    nameLogs host args loaded.chainConfigFile config = .ok call.config
  inputs : checkInputs args = .ok ()
  lists_eq : loadLists host args loaded = .ok lists
  selected : selectFiles host args call.config lists.finderModuleList = .ok fileList
  limited : call.l1bFileList = limitFiles args fileList
  checked : checkFiles host call.l1bFileList = .ok ()
  algorithms : call.algorithmList = lists.algorithmList
  breakpoint : call.breakpointAfter = args.breakpointAfter

theorem main_ok {call : Call} (h : main host args = .ok call) :
    ∃ loaded lists fileList, Reached host args call loaded lists fileList := by
  obtain ⟨-, -, h⟩ := except_bind_ok h
  obtain ⟨loaded, hloaded, h⟩ := except_bind_ok h
  obtain ⟨state, hargs, h⟩ := except_bind_ok h
  obtain ⟨⟨config, modifiedArgs⟩, hoptions, h⟩ := except_bind_ok h
  obtain ⟨_, hinputs, h⟩ := except_bind_ok h
  obtain ⟨named, hnamed, h⟩ := except_bind_ok h
  obtain ⟨lists, hlists, h⟩ := except_bind_ok h
  obtain ⟨chain, -, h⟩ := except_bind_ok h
  obtain ⟨-, -, h⟩ := except_bind_ok h
  obtain ⟨fileList, hselected, h⟩ := except_bind_ok h
  obtain ⟨_, hchecked, h⟩ := except_bind_ok h
  obtain ⟨-, -, h⟩ := except_bind_ok h
  split at h
  · cases h
  · obtain rfl := Except.ok.inj h
    exact ⟨loaded, lists, fileList, hloaded, ⟨state, config, hargs, uncaught_ok hoptions, hnamed⟩,
      hinputs, hlists, hselected, rfl, hchecked, rfl, rfl⟩

end Main

/-! ## A run of the test chain -/

/-- The merged configuration of the test chain. -/
def testchainSettings : List (String × PyVal) :=
  [("chain", .dict [("use_multi_processing", .bool false), ("use_shared_memory", .bool false),
      ("stop_on_error", .bool false)]),
    ("baseline", .str "A"), ("version", .int 1),
    ("log_files", .dict [("append_year_month_to_logname", .bool true),
      ("errors", .str "errors.log"), ("info", .str "info.log"), ("debug", .str "debug.log")])]

def testchainSurroundings : Surroundings where
  py := asciiLiterals
  isalpha s := s.toList.all Char.isAlpha
  str _ := ""
  floatIsInt _ _ := false
  loadConfigFiles _ _ _ _ _ := .ok ⟨testchainSettings, "A", 1, "testchain_A001.xml"⟩
  getLogger _ _ _ := .ok ()
  loadAlgorithmList _ _ _ _ := .ok ⟨["alg_template1"], [], ""⟩
  environ key := .error ⟨.keyError, key⟩
  glob _ := []
  isfile path := decide (path = "l1b.nc")
  finderModule _ finder := .error ⟨.importError, "No module named " ++ finder⟩
  isFileNotFound _ := false

/-- `--name testchain --file l1b.nc --multiprocessing --sharedmem --logstring second`. -/
def testchainArgs : Args where
  name := "testchain"
  alglist := ""
  mconf := ""
  conf := ""
  confOpts := none
  baseline := ""
  version := 0
  file := some "l1b.nc"
  dir := none
  cs2testdir := false
  month := none
  year := none
  maxFiles := none
  quiet := false
  debug := false
  multiprocessing := true
  nprocs := none
  sequentialprocessing := false
  sharedmem := true
  stopOnError := false
  logstring := some "second"
  breakpointAfter := none

def testchainCall : Call where
  l1bFileList := ["l1b.nc"]
  config :=
    [("chain", .dict [("use_multi_processing", .bool true), ("use_shared_memory", .bool true),
        ("stop_on_error", .bool false), ("chain_name", .str "testchain")]),
      ("baseline", .str "A"), ("version", .int 1),
      ("log_files", .dict [("append_year_month_to_logname", .bool true),
        ("errors", .str "errors_second.log"), ("info", .str "info_second.log"),
        ("debug", .str "debug_second.log"), ("debug_mode", .bool false)])]
  algorithmList := ["alg_template1"]
  breakpointAfter := none
  modifiedArgs := [(["logstring"], .str "second"), (["use_multi_processing"], .bool true),
    (["use_shared_memory"], .bool true)]

theorem testchainCall_eq : main testchainSurroundings testchainArgs = .ok testchainCall := by
  rfl

end Clev2er.RunChain
