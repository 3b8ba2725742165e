import Clev2er.Grids.Load
import Clev2er.RunChain.Accounting
import Clev2er.RunChain.Breakpoint

/-!
# Initialisation that fails

An `init()` fails by returning `(False, msg)`, by raising one of the exceptions
`run_chain` catches, or by building a `Dem` or `Slopes` whose data file does not
exist. `BaseAlgorithm.__init__` drops the value `init()` returns and
`process_setup()` looks at it; the constructors of the grids drop the value
`load()` returns. So what becomes of a failure depends on its kind and on the
mode: `runChain_init_failure_iff` says exactly when it is noticed.
-/

namespace Clev2er.RunChain

open Clev2er.Grids

/-! ## What `init()` does -/

/-- One run of `init()`: the grids it sets out to build, in order, what is loaded
as far as its segment, and what it returns or raises when all the grids are
built. -/
structure InitScript where
  grids : List GridRequest
  loads : List Resource
  result : Except PyExc (Bool × String)

/-- The exception of the first grid that cannot be built. -/
def buildGrids (host : Host) : List GridRequest → Option PyExc
  | [] => none
  | req :: rest =>
      match GridObject.new host req with
      | .error e => some e
      | .ok _ => buildGrids host rest

/-- The grids that are built: those before the first that cannot be. -/
def builtGrids (host : Host) : List GridRequest → List GridRequest
  | [] => []
  | req :: rest =>
      match GridObject.new host req with
      | .error _ => []
      | .ok _ => req :: builtGrids host rest

/-- Grids without data are built all the same. -/
theorem builtGrids_of_missing {host : Host} {reqs : List GridRequest}
    (h : ∀ req ∈ reqs, req.DataMissing host) : builtGrids host reqs = reqs := by
  induction reqs with
  | nil => rfl
  | cons req rest ih =>
      have hnew := GridObject.new_eq_unloaded_iff.mpr (h req List.mem_cons_self)
      have hrest := ih fun other hother => h other (List.mem_cons_of_mem _ hother)
      simp only [builtGrids, hnew, hrest]

/-- The run of `init()`. No grid that is built is looked at. -/
def InitScript.run (host : Host) (script : InitScript) : InitRun where
  loads := script.loads
  result :=
    match buildGrids host script.grids with
    | some e => .error e
    | none => script.result

/-- The three ways in which an `init()` fails. -/
inductive InitScript.Fails (host : Host) (script : InitScript) : Prop where
  | returnsFalse (msg : String) : (script.run host).result = .ok (false, msg) → Fails host script
  | raises (e : PyExc) : (script.run host).result = .error e → e.caught = true →
      Fails host script
  | dataMissing (req : GridRequest) : req ∈ builtGrids host script.grids →
      req.DataMissing host → Fails host script

section

variable {D : Type} (cfg : ChainConfig) (env : Env D)

/-- The algorithm modules, the `init()` of each algorithm being given by what it
does in each context. -/
def withInits (host : Host) (inits : String → InitContext → InitScript) : Env D :=
  { env with
    modules := fun alg => (env.modules alg).map
      (fun cls => { cls with init := fun ctx => (inits alg ctx).run host }) }

theorem importModule_withInits {host : Host} {inits : String → InitContext → InitScript}
    {alg : String} {cls : AlgClass D}
    (h : importModule cfg (withInits env host inits) alg = .ok cls) (ctx : InitContext) :
    cls.init ctx = (inits alg ctx).run host := by
  unfold importModule at h
  split at h
  · cases h
  · simp only [withInits] at h
    rcases hmod : env.modules alg with e | cls'
    · rw [hmod] at h
      cases h
    · rw [hmod] at h
      obtain rfl := Except.ok.inj h
      rfl

/-! ## Sequential processing: failures at construction -/

/-- What the round of an algorithm does to set-up: nothing, or stop it, by an
early return of `run_chain` (`true`) or by an exception that leaves it
(`false`). -/
def stopsSetUp (alg : String) : Option Bool :=
  match importModule cfg env alg with
  | .error e => some (decide (e.cls = .importError))
  | .ok cls => (newRaises cfg cls false).map PyExc.caught

/-- What the rounds up to the breakpoint do to set-up. -/
def setUpStop (bp : Option String) (algs : List String) : Option Bool :=
  (throughBreakpoint bp algs).findSome? (stopsSetUp cfg env)

variable {cfg env}

/-- **Sequential set-up** makes `run_chain` return early exactly if the first
round that stops it does so by an exception that is caught. -/
theorem constructAlgorithms_returns_iff (hseq : cfg.useMultiProcessing = false)
    (bp : Option String) : ∀ (algs : List String) (objs shmObjs : List (AlgObj D))
    (store : Store),
    (constructAlgorithms cfg env bp algs objs shmObjs store).outcome = .ok false ↔
      setUpStop cfg env bp algs = some true
  | [], objs, shmObjs, store => by simp [constructAlgorithms, setUpStop, throughBreakpoint]
  | alg :: algs, objs, shmObjs, store => by
      have ih := constructAlgorithms_returns_iff hseq bp algs
      rw [constructAlgorithms]
      rcases himp : importModule cfg env alg with e | cls
      · -- an import that fails stops set-up whether or not this is the breakpoint
        have hstop : setUpStop cfg env bp (alg :: algs) = some (decide (e.cls = .importError)) := by
          unfold setUpStop throughBreakpoint
          split <;> simp [stopsSetUp, himp]
        rw [hstop]
        by_cases he : e.cls = .importError <;> simp [he]
      · simp only [new_ordinary]
        rcases hnew : newRaises cfg cls false with _ | e
        · simp only [hseq, Bool.false_and, Bool.false_eq_true, if_false]
          have hnone : stopsSetUp cfg env alg = none := by simp [stopsSetUp, himp, hnew]
          by_cases hbp : some alg = bp
          · simp [hbp, setUpStop, throughBreakpoint, hnone]
          · rw [if_neg hbp, ih]
            simp [setUpStop, throughBreakpoint, hbp, hnone]
        · have hstop : setUpStop cfg env bp (alg :: algs) = some e.caught := by
            unfold setUpStop throughBreakpoint
            split <;> simp [stopsSetUp, himp, hnew]
          rw [hstop]
          cases hcaught : e.caught <;> simp [hcaught]

/-- Sequential processing runs at least its first file. -/
theorem runSequential_files_ne_nil (bp : Option String) (job : String × Nat)
    (jobs : List (String × Nat)) (objs : List (AlgObj D)) (store : Store) (counts : Counts)
    (bpFilename : String) :
    (runSequential cfg env bp (job :: jobs) objs store counts bpFilename).files ≠ [] := by
  obtain ⟨file, fnum⟩ := job
  rw [runSequential]
  split
  · simp
  · simp only
    split
    · simp
    · split
      · split <;> simp
      · simp

/-- A sequential run returns `(False, 1, 0, 0, "")` without running a file exactly
if set-up made it return. -/
theorem runChain_returns_early_iff (hseq : cfg.useMultiProcessing = false)
    (live files algs : List String) (bp : Option String) :
    ((runChain cfg env live files algs bp).files = [] ∧
      (runChain cfg env live files algs bp).outcome = .ok (false, 1, 0, 0, "")) ↔
    setUpStop cfg env bp algs = some true := by
  rw [← constructAlgorithms_returns_iff hseq bp algs [] [] ⟨live, []⟩]
  unfold runChain
  generalize constructAlgorithms cfg env bp algs [] [] ⟨live, []⟩ = s
  rcases hout : s.outcome with e | ready
  · simp only [hout]
    simp
  · cases ready with
    | false =>
        simp only [hout]
        simp
    | true =>
        simp only [hout, runFiles, hseq, Bool.false_eq_true, if_false, finishRun_files]
        constructor
        · rintro ⟨hnil, hret⟩
          cases files with
          | cons file files =>
              rw [List.zipIdx_cons] at hnil
              exact absurd hnil (runSequential_files_ne_nil bp _ _ _ _ _ _)
          | nil =>
              -- without files nothing can be counted as an error
              simp only [List.zipIdx_nil, runSequential, finishRun] at hret
              split at hret
              · cases hret
              · split at hret <;> simp at hret
        · intro h
          cases h

/-! ## Multi-processing: failures in the child -/

variable (cfg env) in
/-- The algorithms whose `process()` has gone past `process_setup()` on a file. -/
def FileRun.bodies (f : FileRun D) (filenum : Nat) : List String :=
  f.ran.filter (fun alg =>
    match importModule cfg env alg with
    | .ok cls => initialisedBy cfg cls filenum
    | .error _ => false)

/-- The first result on the queue of a file's child is counted as an error. -/
def FileRun.ReportedError (f : FileRun D) : Prop :=
  ∃ rval, f.queued.head? = some rval ∧ isErrorResult rval = true

/-- The results of `init()` that make the run control count a file as an error. -/
def countsAsError (file : String) : Except PyExc (Bool × String) → Bool
  | .ok (true, _) => false
  | .ok (false, msg) => isErrorResult (false, msg)
  | .error e => e.caught && isErrorResult (false, errorString file e)

section Loop

variable (hmp : cfg.useMultiProcessing = true) (bp : Option String) (filenum : Nat)

include hmp in
/-- An object whose `init()` does not succeed ends the loop. -/
theorem runAlgorithms_init_fails {obj : AlgObj D} (hobj : Prepared cfg obj)
    (rest : List (AlgObj D)) (dict : D) (store : Store)
    (hinit : initialisedBy cfg obj.cls filenum = false) :
    let l := runAlgorithms cfg env bp filenum (obj :: rest) dict store
    l.ran = [obj.alg] ∧ l.ending = endOf (obj.cls.init (.child filenum)).result := by
  obtain ⟨hresult, -⟩ := process_spec env.hashName hobj filenum dict store
  simp only [processResult, initialisedBy, hmp, if_true] at hresult hinit
  rw [runAlgorithms]
  rcases hrun : (obj.cls.init (.child filenum)).result with e | ⟨ok, msg⟩
  · rw [hrun] at hresult
    simp only [hresult]
    exact ⟨trivial, rfl⟩
  · cases ok with
    | false =>
        rw [hrun] at hresult
        simp only [hresult]
        exact ⟨trivial, rfl⟩
    | true => simp [hrun] at hinit

/-- One object of the loop: it ends there, or goes on and ends as the rest does. -/
theorem runAlgorithms_ends_or_continues (obj : AlgObj D) (rest : List (AlgObj D)) (dict : D)
    (store : Store) :
    let l := runAlgorithms cfg env bp filenum (obj :: rest) dict store
    l.ran = [obj.alg] ∨ ∃ dict' store',
      let r := runAlgorithms cfg env bp filenum rest dict' store'
      l.ran = obj.alg :: r.ran ∧ l.ending = r.ending := by
  rw [runAlgorithms]
  split
  · exact Or.inl rfl
  · exact Or.inl rfl
  · split
    · split
      · exact Or.inl rfl
      · exact Or.inl rfl
    · exact Or.inr ⟨_, _, rfl, rfl⟩

include hmp in
/-- An algorithm that the loop has come to ends it if its `init()` does not
succeed. -/
theorem runAlgorithms_ending_of_ran {objs : List (AlgObj D)}
    (hobjs : ∀ obj ∈ objs, Prepared cfg obj) {dict : D} {store : Store} {alg : String}
    (hran : alg ∈ (runAlgorithms cfg env bp filenum objs dict store).ran) :
    ∃ obj ∈ objs, obj.alg = alg ∧ (initialisedBy cfg obj.cls filenum = false →
      (runAlgorithms cfg env bp filenum objs dict store).ending =
        endOf (obj.cls.init (.child filenum)).result) := by
  induction objs generalizing dict store with
  | nil => cases hran
  | cons obj rest ih =>
      have hobj := hobjs obj List.mem_cons_self
      have hhere : alg = obj.alg → _ := fun h =>
        (⟨obj, List.mem_cons_self, h.symm, fun hinit =>
          (runAlgorithms_init_fails hmp bp filenum hobj rest dict store hinit).2⟩ :
          ∃ o ∈ obj :: rest, o.alg = alg ∧ (initialisedBy cfg o.cls filenum = false →
            (runAlgorithms cfg env bp filenum (obj :: rest) dict store).ending =
              endOf (o.cls.init (.child filenum)).result))
      rcases @runAlgorithms_ends_or_continues D cfg env bp filenum obj rest dict store with
        hone | ⟨dict', store', hmore, hend⟩
      · rw [hone] at hran
        exact hhere (List.mem_singleton.mp hran)
      · rw [hmore] at hran
        rcases List.mem_cons.mp hran with h | h
        · exact hhere h
        · obtain ⟨o, ho, halg, hlast⟩ := ih (fun o ho => hobjs o (List.mem_cons_of_mem _ ho)) h
          exact ⟨o, List.mem_cons_of_mem _ ho, halg, fun hinit => hend.trans (hlast hinit)⟩

end Loop

/-- The first result that an `init()` without success leaves on the queue. -/
def firstReport (file : String) : Except PyExc (Bool × String) → Option (Bool × String)
  | .ok (_, msg) => some (false, msg)
  | .error e => if e.caught then some (false, errorString file e) else none

theorem countsAsError_iff {file : String} {result : Except PyExc (Bool × String)}
    (h : ∀ msg, result ≠ .ok (true, msg)) :
    (∃ rval, firstReport file result = some rval ∧ isErrorResult rval = true) ↔
      countsAsError file result = true := by
  rcases result with e | ⟨ok, msg⟩
  · cases hcaught : e.caught <;> simp [firstReport, countsAsError, hcaught]
  · cases ok with
    | true => exact absurd rfl (h msg)
    | false => simp [firstReport, countsAsError]

/-- The queue of a child after a loop that an `init()` without success has ended. -/
theorem queued_of_init_ending (hmp : cfg.useMultiProcessing = true) {bp : Option String}
    {objs : List (AlgObj D)} {store : Store} {file : String} {filenum : Nat}
    {result : Except PyExc (Bool × String)} (hnot : ∀ msg, result ≠ .ok (true, msg))
    (hopen : env.openDataset file = none)
    (hend : (runAlgorithms cfg env bp filenum objs (env.newDict file) store).ending =
      endOf result) :
    (runChainOnSingleFile cfg env bp objs store file filenum).queued.head? =
      firstReport file result := by
  unfold runChainOnSingleFile
  simp only [hopen, hend]
  rcases result with e | ⟨ok, msg⟩
  · simp only [endOf]
    rw [handleException_queued hmp]
    cases hcaught : e.caught <;> simp [putCaught, firstReport, hcaught]
  · cases ok with
    | true => exact absurd rfl (hnot msg)
    | false =>
        simp only [endOf]
        split
        · rw [handleException_queued hmp]
          simp [putResult, hmp, firstReport]
        · simp [putResult, hmp, firstReport]

/-- As many classes as objects: every algorithm could be imported. -/
theorem importModule_of_algClasses : ∀ {objs : List (AlgObj D)},
    objs.map AlgObj.cls = algClasses cfg env (objs.map AlgObj.alg) →
    ∀ obj ∈ objs, importModule cfg env obj.alg = .ok obj.cls
  | [], _, _, h => by cases h
  | obj :: objs, hcls, o, ho => by
      have hlen : ∀ algs : List String, (algClasses cfg env algs).length ≤ algs.length :=
        fun algs => List.length_filterMap_le _ algs
      rcases himp : importModule cfg env obj.alg with e | cls
      · -- an import that failed would leave a class too few
        have hdrop : algClasses cfg env ((obj :: objs).map AlgObj.alg) =
            algClasses cfg env (objs.map AlgObj.alg) := by
          simp [algClasses, himp, Except.toOption]
        have hshort := congrArg List.length (hcls.trans hdrop)
        have hle := hlen (objs.map AlgObj.alg)
        simp only [List.length_cons, List.length_map] at hshort hle
        omega
      · have hkeep : algClasses cfg env ((obj :: objs).map AlgObj.alg) =
            cls :: algClasses cfg env (objs.map AlgObj.alg) := by
          simp [algClasses, himp, Except.toOption]
        obtain ⟨hhead, htail⟩ := List.cons.inj (hcls.trans hkeep)
        rcases List.mem_cons.mp ho with rfl | ho
        · rw [himp, hhead]
        · exact importModule_of_algClasses htail o ho

theorem initialisedBy_eq_false_iff (hmp : cfg.useMultiProcessing = true) {cls : AlgClass D}
    {filenum : Nat} : initialisedBy cfg cls filenum = false ↔
      ∀ msg, (cls.init (.child filenum)).result ≠ .ok (true, msg) := by
  unfold initialisedBy
  rcases (cls.init (.child filenum)).result with e | ⟨ok, msg⟩
  · simp [hmp]
  · cases ok <;> simp [hmp]

theorem openDataset_of_ran {bp : Option String} {objs : List (AlgObj D)} {store : Store}
    {file : String} {filenum : Nat} {alg : String}
    (hobjs : ∀ obj ∈ objs, Prepared cfg obj)
    (hran : alg ∈ (runChainOnSingleFile cfg env bp objs store file filenum).ran) :
    env.openDataset file = none ∧
      alg ∈ (runAlgorithms cfg env bp filenum objs (env.newDict file) store).ran := by
  obtain ⟨-, hloop, -⟩ := runChainOnSingleFile_parts env bp hobjs store file filenum
  unfold FileRun.ran at hran
  rw [hloop] at hran
  cases hopen : env.openDataset file with
  | some e => simp [hopen] at hran
  | none =>
      simp only [hopen, Option.isSome_none, Bool.false_eq_true, if_false] at hran
      exact ⟨rfl, hran⟩

/-- **A file in its child.** A file that comes to an algorithm leaves its body
out and is reported as an error exactly if its `init()` in the child ends in a
way that counts as an error. -/
theorem runJob_init_failure_iff (hmp : cfg.useMultiProcessing = true) {bp : Option String}
    {live algs : List String} {objs shmObjs : List (AlgObj D)} {store : Store}
    (hcons : Constructed cfg env live algs objs shmObjs store) {file : String} {filenum : Nat}
    {alg : String} (hran : alg ∈ (runJob env cfg bp objs store (file, filenum)).ran) :
    ∃ cls, importModule cfg env alg = .ok cls ∧
      ((alg ∉ (runJob env cfg bp objs store (file, filenum)).bodies cfg env filenum ∧
        (runJob env cfg bp objs store (file, filenum)).ReportedError) ↔
      countsAsError file (cls.init (.child filenum)).result = true) := by
  obtain ⟨hopen, hloop⟩ := openDataset_of_ran hcons.prepared hran
  obtain ⟨obj, hobj, rfl, hend⟩ := runAlgorithms_ending_of_ran hmp bp filenum hcons.prepared hloop
  have himp : importModule cfg env obj.alg = .ok obj.cls :=
    importModule_of_algClasses (by rw [hcons.classes, hcons.algs_eq]) obj hobj
  refine ⟨obj.cls, himp, ?_⟩
  have hbody : obj.alg ∉ (runJob env cfg bp objs store (file, filenum)).bodies cfg env filenum ↔
      initialisedBy cfg obj.cls filenum = false := by
    unfold FileRun.bodies
    rw [List.mem_filter, himp]
    simp [hran]
  rw [hbody]
  cases hinit : initialisedBy cfg obj.cls filenum with
  | true =>
      -- `init()` has returned `True`: the body runs, and there is nothing to report
      have hnot : ¬ initialisedBy cfg obj.cls filenum = false := by simp [hinit]
      rw [initialisedBy_eq_false_iff hmp] at hnot
      simp only [ne_eq, not_forall, not_not] at hnot
      obtain ⟨msg, hmsg⟩ := hnot
      simp [hmsg, countsAsError]
  | false =>
      -- the loop ends here, so what `init()` came to is first on the queue
      have hnot := (initialisedBy_eq_false_iff hmp).mp hinit
      have hhead := queued_of_init_ending hmp hnot hopen (hend hinit)
      rw [← countsAsError_iff hnot]
      unfold FileRun.ReportedError runJob
      rw [hhead]
      simp

/-! ## Both modes -/

/-- What is asked of a sequential run with an algorithm whose `init()` fails: it
returns before any file is processed. -/
def ChainRun.ReturnedEarly (r : ChainRun D) : Prop :=
  r.files = [] ∧ r.outcome = .ok (false, 1, 0, 0, "")

variable (cfg env) in
/-- **Initialisation that fails.** When sequential, a run one of whose algorithms
fails to initialise returns before any file is processed exactly if the first
import, constructor or `init()` that raises raises an exception that is caught;
that the failing `init()` returned `False`, or built a grid without data, does
not count. When multi-processing, a file that comes to an algorithm whose
`init()` fails does not enter its `process()` body and is reported as an error
exactly if that `init()` returned `False` or raised an exception that is caught,
with a text that does not pass for a skip; that it built a grid without data does
not count. -/
theorem runChain_init_failure_iff (host : Host) (inits : String → InitContext → InitScript)
    (live files algs : List String) (bp : Option String) :
    (cfg.useMultiProcessing = false → ∀ alg ∈ throughBreakpoint bp algs,
      (inits alg .main).Fails host →
      ((runChain cfg (withInits env host inits) live files algs bp).ReturnedEarly ↔
        setUpStop cfg (withInits env host inits) bp algs = some true)) ∧
    (cfg.useMultiProcessing = true → ∀ i f file,
      (runChain cfg (withInits env host inits) live files algs bp).files[i]? = some f →
      files[i]? = some file → ∀ alg ∈ f.ran, (inits alg (.child i)).Fails host →
      ((alg ∉ f.bodies cfg (withInits env host inits) i ∧ f.ReportedError) ↔
        countsAsError file ((inits alg (.child i)).run host).result = true)) := by
  refine ⟨?_, ?_⟩
  · intro hseq alg _ _
    exact runChain_returns_early_iff hseq live files algs bp
  · intro hmp i f file hf hfile alg hran _
    obtain ⟨hcons, -, rfl⟩ := runChain_file hf hfile
    obtain ⟨cls, himp, hiff⟩ := runJob_init_failure_iff hmp hcons hran
    rw [importModule_withInits cfg env himp] at hiff
    exact hiff

end

/-! ## A machine without data files -/

/-- A machine whose data directory is empty. -/
def emptyHost : Host where
  cpdataDir := some "/cpdata"
  isdir _ := false
  isfile _ := false
  read _ _ := none

/-- `alg_geolocate_lrm` does not find its slope model, `alg_geolocate_sin` its two
DEMs, and `alg_ref_dem` asks for a DEM that is not in the list. -/
def cryotempoInits (alg : String) (_ : InitContext) : InitScript :=
  if alg = "alg_geolocate_lrm" then
    ⟨[], [], .ok (false, "slope model file: /cpdata/slopes.bin not found")⟩
  else if alg = "alg_geolocate_sin" then
    ⟨[⟨.dem, "rema_ant_1km", true, [], none⟩, ⟨.dem, "arcticdem_1km", true, [], none⟩], [],
      .ok (true, "")⟩
  else
    ⟨[⟨.dem, "rema_ant", true, [], none⟩], [], .ok (true, "")⟩

theorem fails_alg_geolocate_lrm (ctx : InitContext) :
    (cryotempoInits "alg_geolocate_lrm" ctx).Fails emptyHost :=
  .returnsFalse "slope model file: /cpdata/slopes.bin not found" rfl

theorem fails_alg_geolocate_sin (ctx : InitContext) :
    (cryotempoInits "alg_geolocate_sin" ctx).Fails emptyHost := by
  have hmissing : ∀ req ∈ (cryotempoInits "alg_geolocate_sin" ctx).grids,
      req.DataMissing emptyHost := by
    show ∀ req ∈ [(⟨.dem, "rema_ant_1km", true, [], none⟩ : GridRequest),
      ⟨.dem, "arcticdem_1km", true, [], none⟩], req.DataMissing emptyHost
    simp only [List.forall_mem_cons]
    exact ⟨⟨_, "/cpdata", rfl, rfl, rfl⟩, ⟨_, "/cpdata", rfl, rfl, rfl⟩,
      fun req hreq => absurd hreq List.not_mem_nil⟩
  have hbuilt := builtGrids_of_missing hmissing
  refine .dataMissing ⟨.dem, "rema_ant_1km", true, [], none⟩ ?_ (hmissing _ List.mem_cons_self)
  rw [hbuilt]
  exact List.mem_cons_self

theorem fails_alg_ref_dem (ctx : InitContext) :
    (cryotempoInits "alg_ref_dem" ctx).Fails emptyHost :=
  .raises ⟨.valueError, "DEM name rema_ant not in allowed list"⟩ rfl rfl

theorem runChain_init_failure_iff_emptyHost :
    (runChain testchainConfig (withInits stampEnv emptyHost cryotempoInits) [] ["/l1b/a.nc"]
      ["alg_geolocate_lrm", "alg_ref_dem"] none).ReturnedEarly ∧
    ∃ f, (runChain twoProcesses (withInits stampEnv emptyHost cryotempoInits) [] ["/l1b/a.nc"]
        ["alg_geolocate_lrm"] none).files[0]? = some f ∧
      "alg_geolocate_lrm" ∉ f.bodies twoProcesses (withInits stampEnv emptyHost cryotempoInits) 0 ∧
      f.ReportedError := by
  refine ⟨?_, _, rfl, ?_⟩
  · exact ((runChain_init_failure_iff testchainConfig stampEnv emptyHost cryotempoInits []
      ["/l1b/a.nc"] ["alg_geolocate_lrm", "alg_ref_dem"] none).1 rfl "alg_ref_dem" (by decide)
      (fails_alg_ref_dem .main)).mpr rfl
  · exact ((runChain_init_failure_iff twoProcesses stampEnv emptyHost cryotempoInits []
      ["/l1b/a.nc"] ["alg_geolocate_lrm"] none).2 rfl 0 _ "/l1b/a.nc" rfl rfl
      "alg_geolocate_lrm" List.mem_cons_self (fails_alg_geolocate_lrm (.child 0))).mpr (by decide)

/-- A slope model that is not found is noticed by the child of a file only: when
sequential the algorithm is run over the file all the same, and the run is
reported as a success. DEMs that are not found are noticed in neither mode. -/
theorem runChain_ignores_init_failure :
    (let r := runChain testchainConfig (withInits stampEnv emptyHost cryotempoInits) []
        ["/l1b/a.nc"] ["alg_geolocate_lrm"] none;
      (cryotempoInits "alg_geolocate_lrm" .main).Fails emptyHost ∧
      r.outcome = .ok (true, 0, 1, 0, "") ∧ ¬ r.ReturnedEarly ∧
      r.files.map (fun f => f.bodies testchainConfig
        (withInits stampEnv emptyHost cryotempoInits) 0) = [["alg_geolocate_lrm"]]) ∧
    (let r := runChain twoProcesses (withInits stampEnv emptyHost cryotempoInits) []
        ["/l1b/a.nc"] ["alg_geolocate_sin"] none;
      (cryotempoInits "alg_geolocate_sin" (.child 0)).Fails emptyHost ∧
      r.outcome = .ok (true, 0, 1, 0, "") ∧
      r.files.map (fun f => f.bodies twoProcesses
        (withInits stampEnv emptyHost cryotempoInits) 0) = [["alg_geolocate_sin"]]) := by
  refine ⟨⟨fails_alg_geolocate_lrm .main, rfl, ?_, by decide⟩,
    fails_alg_geolocate_sin (.child 0), rfl, by decide⟩
  rintro ⟨hnil, -⟩
  cases hnil

end Clev2er.RunChain
