import Clev2er.Config.AlgorithmList
import Clev2er.Lib.ArraySplit
import Clev2er.RunChain.SingleFile

/-!
# The run control

`run_chain` constructs the algorithm objects (and a second, shared memory set of
them where that is asked for), runs the chain on every file, in child processes
or one file after the other, counts the outcomes, and finalizes the objects.
`mainRunChain` is the part of `main` that decides on the breakpoint and calls
it.

The children of a chunk run concurrently; in the model they take the segments
one after the other. No child changes them (`runChainOnSingleFile_store`), so the
order does not matter.
-/

namespace Clev2er.RunChain

open Clev2er.Lib

section Model

variable {D : Type} (cfg : ChainConfig) (env : Env D)

/-! ## Constructing the algorithm objects, lines 386 to 450 -/

/-- The two object lists and the segments, and whether set-up was completed
(`ok true`), made `run_chain` return early (`ok false`), or raised. -/
structure SetUp (D : Type) where
  objs : List (AlgObj D)
  shmObjs : List (AlgObj D)
  store : Store
  outcome : Except PyExc Bool

/-- `importlib.import_module`: no module has an empty last name. -/
def importModule (alg : String) : Except PyExc (AlgClass D) :=
  if afterLast '.' alg = "" then
    .error ⟨.importError, "No module named " ++ moduleName cfg alg⟩
  else
    env.modules alg

/-- `for alg in algorithm_list`, with the two lists built so far. -/
def constructAlgorithms (breakpointAlgName : Option String) :
    List String → List (AlgObj D) → List (AlgObj D) → Store → SetUp D
  | [], objs, shmObjs, store => ⟨objs, shmObjs, store, .ok true⟩
  | alg :: rest, objs, shmObjs, store =>
      match importModule cfg env alg with
      | .error e =>
          ⟨objs, shmObjs, store, if e.cls = .importError then .ok false else .error e⟩
      | .ok cls =>
          match cls.new cfg env.hashName alg false store with
          | (.error e, store₁) =>
              ⟨objs, shmObjs, store₁, if e.caught then .ok false else .error e⟩
          | (.ok obj, store₁) =>
              if cfg.useMultiProcessing && cfg.useSharedMemory then
                match cls.new cfg env.hashName alg true store₁ with
                | (.error e, store₂) =>
                    if e.caught then
                      -- "we must clean up any shared memory already allocated"
                      match finalizeAll .setupFailed shmObjs store₂ with
                      | (some e', store₃) => ⟨objs ++ [obj], shmObjs, store₃, .error e'⟩
                      | (none, store₃) => ⟨objs ++ [obj], shmObjs, store₃, .ok false⟩
                    else
                      ⟨objs ++ [obj], shmObjs, store₂, .error e⟩
                | (.ok shmObj, store₂) =>
                    if some alg = breakpointAlgName then
                      ⟨objs ++ [obj], shmObjs ++ [shmObj], store₂, .ok true⟩
                    else
                      constructAlgorithms breakpointAlgName rest (objs ++ [obj])
                        (shmObjs ++ [shmObj]) store₂
              else if some alg = breakpointAlgName then
                ⟨objs ++ [obj], shmObjs, store₁, .ok true⟩
              else
                constructAlgorithms breakpointAlgName rest (objs ++ [obj]) shmObjs store₁

/-! ## Counting -/

structure Counts where
  errors : Nat
  processed : Nat
  skipped : Nat
deriving DecidableEq

/-- One result taken off a result queue. -/
def countResult (c : Counts) (rval : Bool × String) : Counts where
  errors := if !rval.1 && !isIn "SKIP_OK" rval.2 then c.errors + 1 else c.errors
  processed := c.processed + 1
  skipped := if isIn "SKIP_OK" rval.2 then c.skipped + 1 else c.skipped

/-! ## Multi-processing, lines 488 to 547 -/

/-- The children of some files, each with its own copy of the objects. -/
def runChildren (breakpointAlgName : Option String) (objs : List (AlgObj D)) :
    List (String × Nat) → Store → List (FileRun D) × Store
  | [], store => ([], store)
  | (file, filenum) :: jobs, store =>
      let child := runChainOnSingleFile cfg env breakpointAlgName objs store file filenum
      let others := runChildren breakpointAlgName objs jobs child.store
      (child :: others.1, others.2)

/-- The chunks of jobs, a job being a file with its index in the file list. -/
def fileChunks (files : List String) : List (List (String × Nat)) :=
  let numChunks := ceilDiv files.length cfg.maxProcesses
  (arraySplit numChunks (List.range files.length)).map
    (fun indices => indices.map (fun i => (files.getD i "", i)))

/-- What a run over the files leaves behind. -/
structure FilesRun (D : Type) where
  files : List (FileRun D)
  objs : List (AlgObj D)
  store : Store
  counts : Counts
  bpFilename : String
  raised : Option PyExc

/-- `for file_indices in file_indices_chunks`: start the children, join them, and
drain their queues in order. -/
def runChunks (breakpointAlgName : Option String) (objs : List (AlgObj D)) :
    List (List (String × Nat)) → Store → Counts → FilesRun D
  | [], store, counts => ⟨[], objs, store, counts, "", none⟩
  | chunk :: chunks, store, counts =>
      let children := runChildren cfg env breakpointAlgName objs chunk store
      let counts' := (children.1.flatMap FileRun.queued).foldl countResult counts
      let r := runChunks breakpointAlgName objs chunks children.2 counts'
      { r with files := children.1 ++ r.files }

/-- The multi-processing branch. Dividing by a maximum of zero raises, and so
does `np.array_split` for no sections. -/
def runMultiProcessing (breakpointAlgName : Option String) (objs : List (AlgObj D))
    (files : List String) (store : Store) : FilesRun D :=
  if cfg.maxProcesses = 0 then
    ⟨[], objs, store, ⟨0, 0, 0⟩, "", some ⟨.other "ZeroDivisionError", "division by zero"⟩⟩
  else if files = [] then
    ⟨[], objs, store, ⟨0, 0, 0⟩, "",
      some ⟨.valueError, "number sections must be larger than 0."⟩⟩
  else
    runChunks cfg env breakpointAlgName objs (fileChunks cfg files) store ⟨0, 0, 0⟩

/-! ## Sequential processing, lines 556 to 593 -/

/-- `for fnum, l1b_file in enumerate(l1b_file_list)`. -/
def runSequential (breakpointAlgName : Option String) :
    List (String × Nat) → List (AlgObj D) → Store → Counts → String → FilesRun D
  | [], objs, store, counts, bpFilename => ⟨[], objs, store, counts, bpFilename, none⟩
  | (file, fnum) :: jobs, objs, store, counts, bpFilename =>
      let run := runChainOnSingleFile cfg env breakpointAlgName objs store file fnum
      match run.outcome with
      | .error e =>
          ⟨[run], run.objs, run.store, counts, bpFilename,
            if e.cls = .keyboardInterrupt then none else some e⟩
      | .ok (success, errorStr, bpFilename') =>
          let counts' : Counts := { counts with processed := counts.processed + 1 }
          if !success && isIn "SKIP_OK" errorStr then
            let r := runSequential breakpointAlgName jobs run.objs run.store
              { counts' with skipped := counts'.skipped + 1 } bpFilename'
            { r with files := run :: r.files }
          else if !success then
            let counts'' : Counts := { counts' with errors := counts'.errors + 1 }
            if cfg.stopOnError then
              ⟨[run], run.objs, run.store, counts'', bpFilename', none⟩
            else
              let r := runSequential breakpointAlgName jobs run.objs run.store counts'' bpFilename'
              { r with files := run :: r.files }
          else
            let r := runSequential breakpointAlgName jobs run.objs run.store counts' bpFilename'
            { r with files := run :: r.files }

/-! ## The whole function -/

/-- What a run of the chain leaves behind. -/
structure ChainRun (D : Type) where
  setUp : SetUp D
  files : List (FileRun D)
  store : Store
  outcome : Except PyExc (Bool × Nat × Nat × Nat × String)

/-- The algorithms an object was constructed of. -/
def ChainRun.constructed (r : ChainRun D) : List String := r.setUp.objs.map AlgObj.alg

/-- Both branches of the run over the files. -/
def runFiles (breakpointAlgName : Option String) (objs : List (AlgObj D))
    (files : List String) (store : Store) : FilesRun D :=
  if cfg.useMultiProcessing then
    runMultiProcessing cfg env breakpointAlgName objs files store
  else
    runSequential cfg env breakpointAlgName files.zipIdx objs store ⟨0, 0, 0⟩ ""

/-- The end of `run_chain`: finalizing, and the return value. -/
def finishRun (setUp : SetUp D) (r : FilesRun D) : ChainRun D :=
  match r.raised with
  | some e => ⟨setUp, r.files, r.store, .error e⟩
  | none =>
      match finalizeAll .sharedMem setUp.shmObjs r.store with
      | (some e, store) => ⟨setUp, r.files, store, .error e⟩
      | (none, store) =>
          match finalizeAll .main r.objs store with
          | (some e, store') => ⟨setUp, r.files, store', .error e⟩
          | (none, store') =>
              ⟨setUp, r.files, store',
                .ok (decide (r.counts.errors = 0), r.counts.errors, r.counts.processed,
                  r.counts.skipped, r.bpFilename)⟩

/-- `run_chain`, started with the segments `live`. -/
def runChain (live : List String) (files : List String) (algorithmList : List String)
    (breakpointAlgName : Option String) : ChainRun D :=
  let setUp := constructAlgorithms cfg env breakpointAlgName algorithmList [] [] ⟨live, []⟩
  match setUp.outcome with
  | .error e => ⟨setUp, [], setUp.store, .error e⟩
  | .ok false => ⟨setUp, [], setUp.store, .ok (false, 1, 0, 0, "")⟩
  | .ok true =>
      finishRun setUp
        (runFiles cfg env breakpointAlgName setUp.objs files setUp.store)

/-! ## The breakpoint in `main`, lines 1114 to 1218 -/

/-- `if args.breakpoint_after`. -/
def isGiven : Option String → Bool
  | some s => decide (s ≠ "")
  | none => false

/-- `breakpoint_alg_name` of `main` after line 1115: the command line over the
list. -/
def mainBreakpoint (breakpointAfter : Option String) (lists : Config.AlgorithmLists) : String :=
  if isGiven breakpointAfter then breakpointAfter.getD "" else lists.breakpointAlgname

/-- `main` from the loaded algorithm lists to the call of `run_chain`; `none` is
`sys.exit(1)`. `mainBreakpoint` is logged there and not used again. -/
def mainRunChain (live : List String) (files : List String) (lists : Config.AlgorithmLists)
    (breakpointAfter : Option String) : Option (ChainRun D) :=
  if isGiven breakpointAfter && !decide (breakpointAfter.getD "" ∈ lists.algorithmList) then
    none
  else
    some (runChain cfg env live files lists.algorithmList breakpointAfter)

end Model

end Clev2er.RunChain
