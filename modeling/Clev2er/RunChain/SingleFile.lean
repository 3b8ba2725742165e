import Clev2er.Algorithm

/-!
# Running the chain on one file

`run_chain_on_single_file` opens the file, runs the algorithm objects over it in
order, and reports: by its return value when sequential, and through the result
queue of the child process when multi-processing. There are three places that
put a result on the queue (after a failed algorithm, in the exception handler,
and at the normal end), and the paths between them decide how many results a
file really leaves there.

`runAlgorithms` is the loop over the objects, `runChainOnSingleFile` the function
around it.
-/

namespace Clev2er.RunChain

/-- What the framework runs on: the algorithm modules, the input files and the
NetCDF library. -/
structure Env (D : Type) where
  /-- `importlib.import_module` of an algorithm of the chain. -/
  modules : String → Except PyExc (AlgClass D)
  /-- What `Dataset(l1b_file)` raises. -/
  openDataset : String → Option PyExc
  hashName : String → String
  /-- `{"l1b_file_name": l1b_file}`. -/
  newDict : String → D
  /-- `shared_dict["l1b_file_name"]`, where it is there. -/
  l1bFileName : D → Option String
  /-- What `create_netcdf_file` raises for a path and a dictionary. -/
  createNetcdfFile : String → D → Option PyExc

section Model

variable {D : Type} (cfg : ChainConfig) (env : Env D)

/-! ## Breakpoint files -/

/-- `breakpoint_dir` of `write_breakpoint_file`. -/
def breakpointDir : Except PyExc String :=
  match cfg.breakpointFiles with
  | none => .ok "/tmp"
  | some items =>
      match items.lookup "default_dir" with
      | some dir => .ok dir
      | none => .error ⟨.keyError, "default_dir"⟩

/-- The path of the breakpoint file of a dictionary. -/
def breakpointPath (dir : String) (dict : D) (breakpointAlgName : String) : String :=
  match env.l1bFileName dict with
  | some file =>
      dir ++ "/" ++ splitextRoot (afterLast '/' file) ++ "_bkp_" ++ breakpointAlgName ++ ".nc"
  | none => dir ++ "/breakpoint_" ++ breakpointAlgName ++ ".nc"

/-- `write_breakpoint_file`: the path of the file written, or what it raises. -/
def writeBreakpointFile (dict : D) (breakpointAlgName : String) : Except PyExc String :=
  match breakpointDir cfg with
  | .error e => .error e
  | .ok dir =>
      let path := breakpointPath env dir dict breakpointAlgName
      match env.createNetcdfFile path dict with
      | some e => .error e
      | none => .ok path

/-! ## The loop over the algorithm objects -/

/-- How the loop ends: with the message of an algorithm that failed, at its end
or at a breakpoint (with the path of the breakpoint file or the empty path), or
by an exception. -/
inductive LoopEnd where
  | failed (errorStr : String)
  | completed (bpFilename : String)
  | raised (e : PyExc)
deriving DecidableEq

/-- What the loop leaves behind: the objects and the segments, the algorithms
whose `process()` was called, the DEMs and masks it constructed, and the
breakpoint files written with the dictionary each was written from. -/
structure LoopRun (D : Type) where
  objs : List (AlgObj D)
  store : Store
  ran : List String
  loaded : List Handle
  written : List (String × D)
  ending : LoopEnd

/-- `alg_name.rsplit(".", maxsplit=1)[-1] == breakpoint_alg_name`. Without the
command line option the name is `None`, which equals no string. -/
def isBreakpoint (breakpointAlgName : Option String) (algName : String) : Bool :=
  decide (some (afterLast '.' algName) = breakpointAlgName)

/-- `for alg_obj in alg_object_list`, lines 244 to 282. -/
def runAlgorithms (breakpointAlgName : Option String) (filenum : Nat) :
    List (AlgObj D) → D → Store → LoopRun D
  | [], _, store => ⟨[], store, [], [], [], .completed ""⟩
  | obj :: rest, dict, store =>
      let p := obj.process cfg env.hashName filenum dict store
      match p.result with
      | .error e => ⟨p.obj :: rest, p.store, [obj.alg], p.loaded, [], .raised e⟩
      | .ok (false, errorStr) =>
          ⟨p.obj :: rest, p.store, [obj.alg], p.loaded, [], .failed errorStr⟩
      | .ok (true, _) =>
          if isBreakpoint breakpointAlgName p.obj.algName then
            match writeBreakpointFile cfg env p.dict (breakpointAlgName.getD "") with
            | .error e => ⟨p.obj :: rest, p.store, [obj.alg], p.loaded, [], .raised e⟩
            | .ok path =>
                ⟨p.obj :: rest, p.store, [obj.alg], p.loaded, [(path, p.dict)],
                  .completed path⟩
          else
            let r := runAlgorithms breakpointAlgName filenum rest p.dict p.store
            { r with
              objs := p.obj :: r.objs
              ran := obj.alg :: r.ran
              loaded := p.loaded ++ r.loaded }

/-! ## The function around the loop -/

/-- What a file leaves behind: the loop, if the file could be opened, the objects
and the segments, the results put on `rval_queue`, and the return value or the
exception that leaves the function. -/
structure FileRun (D : Type) where
  loop : Option (LoopRun D)
  objs : List (AlgObj D)
  store : Store
  queued : List (Bool × String)
  outcome : Except PyExc (Bool × String × String)

/-- The algorithms whose `process()` was called on the file. -/
def FileRun.ran (r : FileRun D) : List String :=
  match r.loop with
  | some l => l.ran
  | none => []

/-- The DEMs and masks constructed for the file. -/
def FileRun.loaded (r : FileRun D) : List Handle :=
  match r.loop with
  | some l => l.loaded
  | none => []

/-- The breakpoint files written for the file. -/
def FileRun.written (r : FileRun D) : List (String × D) :=
  match r.loop with
  | some l => l.written
  | none => []

/-- `error_str` of the exception handler. -/
def errorString (l1bFile : String) (e : PyExc) : String :=
  "Error processing " ++ l1bFile ++ ": " ++ e.text

/-- The results put when multi-processing. -/
def putResult (r : Bool × String) : List (Bool × String) :=
  if cfg.useMultiProcessing then [r] else []

/-- `except (IOError, ValueError, KeyError)`, on what the `try` body left. -/
def handleException (l1bFile : String) (loop : Option (LoopRun D)) (objs : List (AlgObj D))
    (store : Store) (queued : List (Bool × String)) (bpFilename : String) (e : PyExc) :
    FileRun D :=
  if e.caught then
    ⟨loop, objs, store, queued ++ putResult cfg (false, errorString l1bFile e),
      .ok (false, errorString l1bFile e, bpFilename)⟩
  else
    ⟨loop, objs, store, queued, .error e⟩

/-- `for alg_obj in alg_object_list: ... finalize(stage)`, when multi-processing. -/
def finalizeChild (stage : Stage) (objs : List (AlgObj D)) (store : Store) :
    Option PyExc × Store :=
  if cfg.useMultiProcessing then finalizeAll stage objs store else (none, store)

/-- `run_chain_on_single_file`. -/
def runChainOnSingleFile (breakpointAlgName : Option String) (objs : List (AlgObj D))
    (store : Store) (l1bFile : String) (filenum : Nat) : FileRun D :=
  match env.openDataset l1bFile with
  | some e => handleException cfg l1bFile none objs store [] "" e
  | none =>
      let l := runAlgorithms cfg env breakpointAlgName filenum objs (env.newDict l1bFile) store
      match l.ending with
      | .raised e => handleException cfg l1bFile (some l) l.objs l.store [] "" e
      | .failed errorStr =>
          -- the result is on the queue before anything is finalized
          let queued := putResult cfg (false, errorStr)
          match finalizeChild cfg (.childFailed filenum) l.objs l.store with
          | (some e, store') => handleException cfg l1bFile (some l) l.objs store' queued "" e
          | (none, store') => ⟨some l, l.objs, store', queued, .ok (false, errorStr, "")⟩
      | .completed bpFilename =>
          match finalizeChild cfg (.childDone filenum) l.objs l.store with
          | (some e, store') => handleException cfg l1bFile (some l) l.objs store' [] bpFilename e
          | (none, store') =>
              ⟨some l, l.objs, store', putResult cfg (true, ""), .ok (true, "", bpFilename)⟩

end Model

end Clev2er.RunChain
