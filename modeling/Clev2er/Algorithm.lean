import Clev2er.SharedMemory

/-!
# Algorithm objects

`BaseAlgorithm` and what the classes derived from it supply. A class is given by
how its own code behaves: what its constructor, its `init()`, its `process()`
after `process_setup()`, and its `finalize()` do and raise. Where the behaviour
may differ from call to call it depends on the place of the call (`InitContext`,
`Stage`), on the number of the file, and on the shared dictionary of type `D`.
-/

namespace Clev2er

/-! ## The run control settings -/

/-- The settings of `config["chain"]` that the run control reads, and the
`breakpoint_files` section where there is one. -/
structure ChainConfig where
  chainName : String
  useMultiProcessing : Bool
  useSharedMemory : Bool
  maxProcesses : Nat
  stopOnError : Bool
  breakpointFiles : Option (List (String × String))

/-! ## Algorithm classes -/

/-- Where `init()` is run: in the main process for an ordinary or for a shared
memory object, or in the child process of a file. -/
inductive InitContext where
  | main
  | sharedMem
  | child (filenum : Nat)
deriving DecidableEq

/-- Where `finalize(stage)` is run. -/
inductive Stage where
  /-- Stage 2, the shared memory objects at the end of the run. -/
  | sharedMem
  /-- Stage 3, the ordinary objects at the end of the run. -/
  | main
  /-- Stage 4, the shared memory objects after a failed construction. -/
  | setupFailed
  /-- Stage 5, a child whose file failed. -/
  | childFailed (filenum : Nat)
  /-- Stage 6, a child whose file is done. -/
  | childDone (filenum : Nat)
deriving DecidableEq

/-- One run of `init()`: the DEMs and masks whose loading got as far as their
segment, and what it returned or raised after that. -/
structure InitRun where
  loads : List Resource
  result : Except PyExc (Bool × String)

/-- A class derived from `BaseAlgorithm`. Every `init()` sets `alg_name` first,
and every `finalize()` that returns has run `clean_up()` on all that `init()`
has loaded; one that raises has done so for as many as it says. -/
structure AlgClass (D : Type) where
  /-- What a constructor of the class raises before the one of the base class;
  the argument says whether `_init_shared_mem` is in its configuration. -/
  construct : Bool → Option PyExc
  init : InitContext → InitRun
  /-- `process()` after a successful `process_setup()`, on a file number and the
  shared dictionary. -/
  body : Nat → D → D × Except PyExc (Bool × String)
  finalize : Stage → Option (Nat × PyExc)

/-! ## Objects -/

/-- An `Algorithm` object. -/
structure AlgObj (D : Type) where
  cls : AlgClass D
  /-- The name in the algorithm list. -/
  alg : String
  /-- `"_init_shared_mem" in self.config`. -/
  initSharedMem : Bool
  algName : String
  initialized : Bool
  handles : List Handle

section

variable {D : Type} (cfg : ChainConfig) (hashName : String → String)

/-- `__name__` of the module of an algorithm. -/
def moduleName (alg : String) : String :=
  "clev2er.algorithms." ++ cfg.chainName ++ "." ++ alg

/-- A call of `init()`: the object, the segments, and the result. -/
structure InitOutcome (D : Type) where
  obj : AlgObj D
  store : Store
  result : Except PyExc (Bool × String)

/-- `self.init()`. A load goes to shared memory exactly if the object's own
configuration has `_init_shared_mem`. -/
def AlgObj.init (obj : AlgObj D) (ctx : InitContext) (store : Store) : InitOutcome D :=
  let run := obj.cls.init ctx
  let loaded := loadAll hashName obj.initSharedMem run.loads store
  ⟨{ obj with algName := moduleName cfg obj.alg, handles := loaded.1 }, loaded.2, run.result⟩

/-- `BaseAlgorithm.__init__`. The result of `init()` is not looked at. -/
def AlgClass.new (cls : AlgClass D) (alg : String) (initSharedMem : Bool) (store : Store) :
    Except PyExc (AlgObj D) × Store :=
  match cls.construct initSharedMem with
  | some e => (.error e, store)
  | none =>
      let obj : AlgObj D :=
        ⟨cls, alg, initSharedMem, "clev2er.algorithms.base.base_alg", false, []⟩
      if cfg.useMultiProcessing && !(cfg.useSharedMemory && initSharedMem) then
        (.ok obj, store)
      else
        let ran := obj.init cfg hashName (if initSharedMem then .sharedMem else .main) store
        match ran.result with
        | .error e => (.error e, ran.store)
        | .ok _ => (.ok { ran.obj with initialized := true }, ran.store)

/-- A call of `process()`. -/
structure ProcessRun (D : Type) where
  obj : AlgObj D
  dict : D
  store : Store
  /-- The DEMs and masks constructed by the call. -/
  loaded : List Handle
  result : Except PyExc (Bool × String)

/-- `process(l1b, shared_dict)`: `process_setup()`, which runs `init()` when
multi-processing, and the body of the class. The data set is always a `Dataset`,
as the caller has opened it. -/
def AlgObj.process (obj : AlgObj D) (filenum : Nat) (dict : D) (store : Store) : ProcessRun D :=
  if cfg.useMultiProcessing then
    let ran := obj.init cfg hashName (.child filenum) store
    match ran.result with
    | .error e => ⟨ran.obj, dict, ran.store, ran.obj.handles, .error e⟩
    | .ok (false, errorStr) => ⟨ran.obj, dict, ran.store, ran.obj.handles, .ok (false, errorStr)⟩
    | .ok (true, _) =>
        let body := obj.cls.body filenum dict
        ⟨{ ran.obj with initialized := true }, body.1, ran.store, ran.obj.handles, body.2⟩
  else
    let body := obj.cls.body filenum dict
    ⟨obj, body.1, store, [], body.2⟩

/-- `finalize(stage)`: the exception it raises, if any, and the segments. -/
def AlgObj.finalize (obj : AlgObj D) (stage : Stage) (store : Store) : Option PyExc × Store :=
  match obj.cls.finalize stage with
  | some (n, e) => (some e, cleanUpAll (obj.handles.take n) store)
  | none => (none, cleanUpAll obj.handles store)

/-- `for alg_obj in objs: if alg_obj.initialized: alg_obj.finalize(stage)`. -/
def finalizeAll (stage : Stage) : List (AlgObj D) → Store → Option PyExc × Store
  | [], store => (none, store)
  | obj :: objs, store =>
      if obj.initialized then
        match obj.finalize stage store with
        | (some e, store') => (some e, store')
        | (none, store') => finalizeAll stage objs store'
      else
        finalizeAll stage objs store

end

/-! ## Finalizing a list of objects -/

section Finalize

variable {D : Type} (stage : Stage)

/-- What finalizing raises: the exception of the first initialized object whose
`finalize()` raises. -/
def finalizeRaises (objs : List (AlgObj D)) : Option PyExc :=
  objs.findSome? (fun obj =>
    if obj.initialized then (obj.cls.finalize stage).map Prod.snd else none)

theorem finalizeAll_fst : ∀ (objs : List (AlgObj D)) (store : Store),
    (finalizeAll stage objs store).1 = finalizeRaises stage objs
  | [], store => rfl
  | obj :: objs, store => by
      unfold finalizeAll finalizeRaises
      rw [List.findSome?_cons]
      by_cases hinit : obj.initialized = true
      · simp only [hinit, if_true, AlgObj.finalize]
        cases hfin : obj.cls.finalize stage with
        | none => exact finalizeAll_fst objs _
        | some raised => rfl
      · rw [Bool.not_eq_true] at hinit
        simp only [hinit]
        exact finalizeAll_fst objs store

/-- Finalizing that raises nothing has cleaned up every handle of the
initialized objects. -/
theorem finalizeAll_snd : ∀ (objs : List (AlgObj D)) (store : Store),
    finalizeRaises stage objs = none →
    (finalizeAll stage objs store).2 =
      cleanUpAll ((objs.filter AlgObj.initialized).flatMap AlgObj.handles) store
  | [], store, _ => rfl
  | obj :: objs, store, h => by
      unfold finalizeRaises at h
      rw [List.findSome?_cons] at h
      unfold finalizeAll
      by_cases hinit : obj.initialized = true
      · simp only [hinit, if_true] at h ⊢
        cases hfin : obj.cls.finalize stage with
        | some raised => simp [hfin] at h
        | none =>
            simp only [hfin, Option.map_none] at h
            have hrest := finalizeAll_snd objs (cleanUpAll obj.handles store) h
            simp only [AlgObj.finalize, hfin, hrest, List.filter_cons, hinit, if_true,
              List.flatMap_cons]
            unfold cleanUpAll
            rw [List.foldl_append]
      · rw [Bool.not_eq_true] at hinit
        simp only [hinit, Bool.false_eq_true, if_false] at h ⊢
        rw [finalizeAll_snd objs store h, List.filter_cons_of_neg (by simp [hinit])]

/-- Finalizing objects that own no segment leaves the segments alone, whether it
raises or not. -/
theorem finalizeAll_of_owns_none : ∀ {objs : List (AlgObj D)} (store : Store),
    (∀ obj ∈ objs, ∀ h ∈ obj.handles, h.owns = none) →
    (finalizeAll stage objs store).2 = store
  | [], store, _ => rfl
  | obj :: objs, store, hall => by
      have hhead := hall obj List.mem_cons_self
      have hrest := finalizeAll_of_owns_none store
        (fun o ho => hall o (List.mem_cons_of_mem _ ho))
      unfold finalizeAll AlgObj.finalize
      split
      · cases obj.cls.finalize stage with
        | none =>
            simp only [cleanUpAll_of_owns_none store hhead]
            exact hrest
        | some raised =>
            exact cleanUpAll_of_owns_none store (fun h hh => hhead h (List.mem_of_mem_take hh))
      · exact hrest

end Finalize

end Clev2er
