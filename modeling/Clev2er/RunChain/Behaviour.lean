import Clev2er.RunChain.RunChain

/-!
# What the algorithms do to a file

The behaviour of the algorithm classes on one file, free of objects, segments,
queues and modes: which exception, failure message or completion they come to
(`chainResult`), which of them were initialised in the child by then, and what
finalizing those raises. `Behaviour` sums this up for a child process.

The run of a file is then a function of its behaviour:
`runChainOnSingleFile_queued` for what a child puts on its queue, and
`runChainOnSingleFile_sequential` for what the function returns when sequential.
-/

namespace Clev2er.RunChain

section

variable {D : Type} (cfg : ChainConfig) (env : Env D)

/-! ## One call -/

/-- What `process()` makes of the dictionary, and what it returns or raises. -/
def processResult (cls : AlgClass D) (filenum : Nat) (dict : D) :
    D × Except PyExc (Bool × String) :=
  if cfg.useMultiProcessing then
    match (cls.init (.child filenum)).result with
    | .error e => (dict, .error e)
    | .ok (false, errorStr) => (dict, .ok (false, errorStr))
    | .ok (true, _) => cls.body filenum dict
  else
    cls.body filenum dict

/-- `self.initialized` after `process()`, of an object constructed in this
mode. -/
def initialisedBy (cls : AlgClass D) (filenum : Nat) : Bool :=
  if cfg.useMultiProcessing then
    match (cls.init (.child filenum)).result with
    | .ok (true, _) => true
    | _ => false
  else
    true

/-- An object as the run control has constructed it for the mode. -/
structure Prepared (obj : AlgObj D) : Prop where
  ordinary : obj.initSharedMem = false
  named : afterLast '.' obj.alg ≠ ""
  initialized : obj.initialized = !cfg.useMultiProcessing
  algName : cfg.useMultiProcessing = false → obj.algName = moduleName cfg obj.alg
  owns_none : ∀ h ∈ obj.handles, h.owns = none

variable {cfg}

/-- **One call of `process()`** on an object of the run control. -/
theorem process_spec (hashName : String → String) {obj : AlgObj D} (h : Prepared cfg obj)
    (filenum : Nat) (dict : D) (store : Store) :
    let p := obj.process cfg hashName filenum dict store
    p.result = (processResult cfg obj.cls filenum dict).2 ∧
    p.dict = (processResult cfg obj.cls filenum dict).1 ∧
    p.store = store ∧ p.obj.cls = obj.cls ∧
    p.obj.initialized = initialisedBy cfg obj.cls filenum ∧
    p.obj.algName = moduleName cfg obj.alg := by
  intro p
  cases hmp : cfg.useMultiProcessing with
  | false =>
      have hp : p = ⟨obj, (obj.cls.body filenum dict).1, store, [],
          (obj.cls.body filenum dict).2⟩ := by
        simp only [p, AlgObj.process, hmp, Bool.false_eq_true, if_false]
      rw [hp]
      simp only [processResult, initialisedBy, hmp, Bool.false_eq_true, if_false, true_and]
      exact ⟨by rw [h.initialized, hmp]; rfl, h.algName hmp⟩
  | true =>
      have hinit := h.initialized
      rw [hmp] at hinit
      have hstore := loadAll_private hashName (obj.cls.init (.child filenum)).loads store
      simp only [p, AlgObj.process, hmp, if_true, AlgObj.init, processResult, initialisedBy,
        h.ordinary, hstore]
      cases (obj.cls.init (.child filenum)).result with
      | error e => simp [hinit]
      | ok r =>
          obtain ⟨ok, msg⟩ := r
          cases ok <;> simp [hinit]

/-! ## The loop -/

variable (cfg)

/-- What the algorithms come to on a file, from a shared dictionary on. -/
def chainResult (filenum : Nat) : List (AlgClass D) → D → Except PyExc (Bool × String)
  | [], _ => .ok (true, "")
  | cls :: rest, dict =>
      match processResult cfg cls filenum dict with
      | (_, .error e) => .error e
      | (_, .ok (false, errorStr)) => .ok (false, errorStr)
      | (dict', .ok (true, _)) => chainResult filenum rest dict'

/-- The algorithms that are initialised by then. -/
def initialisedIn (filenum : Nat) : List (AlgClass D) → D → List (AlgClass D)
  | [], _ => []
  | cls :: rest, dict =>
      (if initialisedBy cfg cls filenum then [cls] else []) ++
      match processResult cfg cls filenum dict with
      | (dict', .ok (true, _)) => initialisedIn filenum rest dict'
      | _ => []

/-- What finalizing some algorithms raises. -/
def firstRaise (stage : Stage) (classes : List (AlgClass D)) : Option PyExc :=
  classes.findSome? (fun cls => (cls.finalize stage).map Prod.snd)

/-- The end of the loop that a result stands for. -/
def endOf : Except PyExc (Bool × String) → LoopEnd
  | .error e => .raised e
  | .ok (false, errorStr) => .failed errorStr
  | .ok (true, _) => .completed ""

variable {cfg}

theorem afterLast_moduleName (alg : String) :
    afterLast '.' (moduleName cfg alg) = afterLast '.' alg := by
  unfold afterLast moduleName
  congr 2
  rw [String.toList_append, List.reverse_append, List.takeWhile_append]
  split
  · next hall =>
    have hdot : (("clev2er.algorithms." ++ cfg.chainName) ++ ".").toList.reverse =
        '.' :: ("clev2er.algorithms." ++ cfg.chainName).toList.reverse := by
      rw [String.toList_append, List.reverse_append]
      rfl
    rw [hdot, List.takeWhile_cons_of_neg (by simp), List.append_nil]
    exact (List.IsPrefix.eq_of_length (List.takeWhile_prefix _) hall).symm
  · rfl

theorem isBreakpoint_false {bp : Option String} (hbp : isGiven bp = false) {alg : String}
    (hnamed : afterLast '.' alg ≠ "") : isBreakpoint bp (moduleName cfg alg) = false := by
  unfold isBreakpoint
  rw [afterLast_moduleName, decide_eq_false_iff_not]
  rintro rfl
  simp only [isGiven, ne_eq, decide_not, Bool.not_eq_false', decide_eq_true_eq] at hbp
  exact hnamed hbp

theorem finalizeRaises_cons (stage : Stage) (obj : AlgObj D) (objs : List (AlgObj D)) :
    finalizeRaises stage (obj :: objs) =
      (if obj.initialized then (obj.cls.finalize stage).map Prod.snd else none).or
        (finalizeRaises stage objs) := by
  unfold finalizeRaises
  rw [List.findSome?_cons]
  cases (if obj.initialized then (obj.cls.finalize stage).map Prod.snd else none) <;> rfl

theorem finalizeRaises_uninitialized (stage : Stage) {objs : List (AlgObj D)}
    (h : ∀ obj ∈ objs, obj.initialized = false) : finalizeRaises stage objs = none := by
  apply List.findSome?_eq_none_iff.mpr
  intro obj hobj
  rw [h obj hobj]
  rfl

theorem firstRaise_append (stage : Stage) (cs ds : List (AlgClass D)) :
    firstRaise stage (cs ++ ds) = (firstRaise stage cs).or (firstRaise stage ds) := by
  unfold firstRaise
  rw [List.findSome?_append]

/-- The loop, one object at a time. -/
theorem runAlgorithms_cons {bp : Option String} (hbp : isGiven bp = false) (filenum : Nat)
    {obj : AlgObj D} (hobj : Prepared cfg obj) (rest : List (AlgObj D)) (dict : D)
    (store : Store) :
    let p := obj.process cfg env.hashName filenum dict store
    runAlgorithms cfg env bp filenum (obj :: rest) dict store =
      match processResult cfg obj.cls filenum dict with
      | (_, .error e) => ⟨p.obj :: rest, store, [obj.alg], p.loaded, [], .raised e⟩
      | (_, .ok (false, errorStr)) =>
          ⟨p.obj :: rest, store, [obj.alg], p.loaded, [], .failed errorStr⟩
      | (dict', .ok (true, _)) =>
          let r := runAlgorithms cfg env bp filenum rest dict' store
          { r with
            objs := p.obj :: r.objs
            ran := obj.alg :: r.ran
            loaded := p.loaded ++ r.loaded } := by
  intro p
  obtain ⟨hresult, hdict, hstore, -, -, hname⟩ :=
    process_spec env.hashName hobj filenum dict store
  rw [runAlgorithms]
  simp only [hresult, hdict, hstore, hname, isBreakpoint_false hbp hobj.named]
  obtain ⟨dict', result⟩ := processResult cfg obj.cls filenum dict
  cases result with
  | error e => rfl
  | ok r =>
      obtain ⟨ok, errorStr⟩ := r
      cases ok <;> rfl

/-- **The loop without a breakpoint** ends as the algorithms make it end, does
not touch the segments, calls them all if it is completed, and leaves those
initialised to be finalized. -/
theorem runAlgorithms_spec {bp : Option String} (hbp : isGiven bp = false) (filenum : Nat)
    {objs : List (AlgObj D)} (hobjs : ∀ obj ∈ objs, Prepared cfg obj) (dict : D) (store : Store) :
    let l := runAlgorithms cfg env bp filenum objs dict store
    l.ending = endOf (chainResult cfg filenum (objs.map AlgObj.cls) dict) ∧
    l.store = store ∧
    (∀ path, l.ending = .completed path → l.ran = objs.map AlgObj.alg) ∧
    (cfg.useMultiProcessing = true → ∀ stage, finalizeRaises stage l.objs =
      firstRaise stage (initialisedIn cfg filenum (objs.map AlgObj.cls) dict)) := by
  induction objs generalizing dict store with
  | nil => exact ⟨rfl, rfl, fun _ _ => rfl, fun _ _ => rfl⟩
  | cons obj rest ih =>
      intro l
      have hobj := hobjs obj List.mem_cons_self
      have hrest : ∀ o ∈ rest, Prepared cfg o := fun o ho => hobjs o (List.mem_cons_of_mem _ ho)
      have hl : l = _ := runAlgorithms_cons env hbp filenum hobj rest dict store
      obtain ⟨-, -, -, hcls, hinit, -⟩ :=
        process_spec env.hashName hobj filenum dict store
      -- an object that is not reached stays as it was constructed
      have huninit : cfg.useMultiProcessing = true → ∀ stage, finalizeRaises stage rest = none := by
        intro hmp stage
        apply finalizeRaises_uninitialized
        intro o ho
        rw [(hrest o ho).initialized, hmp]
        rfl
      have hhead : ∀ stage (tail : List (AlgObj D)) (ds : List (AlgClass D)),
          finalizeRaises stage tail = firstRaise stage ds →
          finalizeRaises stage ((obj.process cfg env.hashName filenum dict store).obj :: tail) =
            firstRaise stage ((if initialisedBy cfg obj.cls filenum then [obj.cls] else []) ++ ds) := by
        intro stage tail ds htail
        rw [finalizeRaises_cons, hcls, hinit, firstRaise_append, htail]
        cases initialisedBy cfg obj.cls filenum <;> simp [firstRaise]
      rw [List.map_cons, chainResult, initialisedIn]
      rcases hp : processResult cfg obj.cls filenum dict with ⟨dict', result⟩
      rw [hp] at hl
      rcases result with e | ⟨ok, errorStr⟩
      · -- an exception ends the loop as a failure does
        rw [hl]
        refine ⟨rfl, rfl, ?_, fun hmp stage => hhead stage rest [] (huninit hmp stage)⟩
        rintro path ⟨⟩
      · cases ok with
        | false =>
            rw [hl]
            refine ⟨rfl, rfl, ?_, fun hmp stage => hhead stage rest [] (huninit hmp stage)⟩
            rintro path ⟨⟩
        | true =>
            obtain ⟨hend, hstore, hran, hfin⟩ := ih hrest dict' store
            rw [hl]
            refine ⟨hend, hstore, ?_, ?_⟩
            · intro path hpath
              exact congrArg _ (hran path hpath)
            · intro hmp stage
              exact hhead stage _ _ (hfin hmp stage)

/-! ## A child process -/

/-- What the algorithms do to a file in a child process: opening the file or an
algorithm raises; an algorithm returns a failure; or all of them succeed. After
a failure and after success the child finalizes, which may raise as well. -/
inductive Behaviour where
  | raises (e : PyExc)
  | stops (errorStr : String) (finalizing : Option PyExc)
  | completes (finalizing : Option PyExc)
deriving DecidableEq

variable (cfg)

/-- What opening a file and running some algorithms on it comes to. -/
def fileResult (classes : List (AlgClass D)) (file : String) (filenum : Nat) :
    Except PyExc (Bool × String) :=
  match env.openDataset file with
  | some e => .error e
  | none => chainResult cfg filenum classes (env.newDict file)

/-- The behaviour of some algorithms on a file. -/
def behaviour (classes : List (AlgClass D)) (file : String) (filenum : Nat) : Behaviour :=
  let initialised := initialisedIn cfg filenum classes (env.newDict file)
  match fileResult cfg env classes file filenum with
  | .error e => .raises e
  | .ok (false, errorStr) => .stops errorStr (firstRaise (.childFailed filenum) initialised)
  | .ok (true, _) => .completes (firstRaise (.childDone filenum) initialised)

/-- What the exception handler puts. -/
def putCaught (file : String) (e : PyExc) : List (Bool × String) :=
  if e.caught then [(false, errorString file e)] else []

/-- The results a behaviour leaves on the queue of its child. -/
def Behaviour.queued (file : String) : Behaviour → List (Bool × String)
  | .raises e => putCaught file e
  | .stops errorStr none => [(false, errorStr)]
  | .stops errorStr (some e) => (false, errorStr) :: putCaught file e
  | .completes none => [(true, "")]
  | .completes (some e) => putCaught file e

variable {cfg}

section Child

variable (hmp : cfg.useMultiProcessing = true) {bp : Option String} (hbp : isGiven bp = false)
  {objs : List (AlgObj D)} (hobjs : ∀ obj ∈ objs, Prepared cfg obj)
  (store : Store) (file : String) (filenum : Nat)

include hmp in
theorem handleException_queued (loop : Option (LoopRun D)) (objs : List (AlgObj D))
    (queued : List (Bool × String)) (bpFilename : String) (e : PyExc) :
    (handleException cfg file loop objs store queued bpFilename e).queued =
      queued ++ putCaught file e := by
  unfold handleException putCaught putResult
  cases e.caught <;> simp [hmp]

include hmp hbp hobjs in
/-- **A child's queue** holds what the behaviour of the algorithms says. -/
theorem runChainOnSingleFile_queued :
    (runChainOnSingleFile cfg env bp objs store file filenum).queued =
      (behaviour cfg env (objs.map AlgObj.cls) file filenum).queued file := by
  unfold runChainOnSingleFile behaviour fileResult
  cases env.openDataset file with
  | some e => exact handleException_queued hmp store file none objs [] "" e
  | none =>
      obtain ⟨hend, -, -, hfin⟩ :=
        runAlgorithms_spec env hbp filenum hobjs (env.newDict file) store
      generalize hl : runAlgorithms cfg env bp filenum objs (env.newDict file) store = l at hend hfin
      have hraise := fun stage => (finalizeAll_fst stage l.objs l.store).trans (hfin hmp stage)
      simp only [hend, finalizeChild, hmp, if_true, putResult]
      rcases chainResult cfg filenum (objs.map AlgObj.cls) (env.newDict file) with e | ⟨ok, msg⟩
      · exact handleException_queued hmp l.store file (some l) l.objs [] "" e
      · cases ok with
        | false =>
            have hraise := hraise (.childFailed filenum)
            rcases hf : finalizeAll (.childFailed filenum) l.objs l.store with ⟨raised, store'⟩
            rw [hf] at hraise
            simp only [endOf, ← hraise]
            cases raised with
            | none => rfl
            | some e => exact handleException_queued hmp _ _ _ _ _ _ e
        | true =>
            have hraise := hraise (.childDone filenum)
            rcases hf : finalizeAll (.childDone filenum) l.objs l.store with ⟨raised, store'⟩
            rw [hf] at hraise
            simp only [endOf, ← hraise]
            cases raised with
            | none => rfl
            | some e => exact handleException_queued hmp _ _ _ _ _ _ e

end Child

/-! ## Sequential processing -/

/-- What `run_chain_on_single_file` returns when sequential and without a
breakpoint. -/
def fileReturn (file : String) :
    Except PyExc (Bool × String) → Except PyExc (Bool × String × String)
  | .error e => if e.caught then .ok (false, errorString file e, "") else .error e
  | .ok (ok, errorStr) => .ok (ok, errorStr, "")

theorem chainResult_true (filenum : Nat) {errorStr : String} :
    ∀ {classes : List (AlgClass D)} {dict : D},
      chainResult cfg filenum classes dict = .ok (true, errorStr) → errorStr = ""
  | [], dict, h => by
      simp only [chainResult, Except.ok.injEq, Prod.mk.injEq, true_and] at h
      exact h.symm
  | cls :: rest, dict, h => by
      rw [chainResult] at h
      split at h
      · cases h
      · cases h
      · exact chainResult_true filenum h

section Sequential

variable (hseq : cfg.useMultiProcessing = false) (bp : Option String) (filenum : Nat)

include hseq in
theorem runAlgorithms_objs_sequential : ∀ (objs : List (AlgObj D)) (dict : D) (store : Store),
    (runAlgorithms cfg env bp filenum objs dict store).objs = objs
  | [], dict, store => rfl
  | obj :: rest, dict, store => by
      have hobj : (obj.process cfg env.hashName filenum dict store).obj = obj := by
        simp only [AlgObj.process, hseq, Bool.false_eq_true, if_false]
      rw [runAlgorithms]
      simp only [hobj]
      split
      · rfl
      · rfl
      · split
        · split <;> rfl
        · exact congrArg _ (runAlgorithms_objs_sequential rest _ _)

theorem handleException_outcome (file : String) (loop : Option (LoopRun D))
    (objs : List (AlgObj D)) (store : Store) (queued : List (Bool × String)) (e : PyExc) :
    (handleException cfg file loop objs store queued "" e).outcome =
      fileReturn file (.error e) := by
  simp only [handleException, fileReturn]
  split <;> rfl

include hseq in
/-- **The return value when sequential** is what the algorithms come to. -/
theorem runChainOnSingleFile_sequential (hbp : isGiven bp = false) {objs : List (AlgObj D)}
    (hobjs : ∀ obj ∈ objs, Prepared cfg obj) (store : Store) (file : String) :
    (runChainOnSingleFile cfg env bp objs store file filenum).outcome =
      fileReturn file (fileResult cfg env (objs.map AlgObj.cls) file filenum) := by
  unfold runChainOnSingleFile fileResult
  cases env.openDataset file with
  | some e => exact handleException_outcome file none objs store [] e
  | none =>
      obtain ⟨hend, -⟩ := runAlgorithms_spec env hbp filenum hobjs (env.newDict file) store
      generalize hl : runAlgorithms cfg env bp filenum objs (env.newDict file) store = l at hend
      simp only [hend, finalizeChild, hseq, Bool.false_eq_true, if_false]
      rcases hres : chainResult cfg filenum (objs.map AlgObj.cls) (env.newDict file)
        with e | ⟨ok, errorStr⟩
      · exact handleException_outcome file (some l) l.objs l.store [] e
      · cases ok with
        | false => rfl
        | true =>
            obtain rfl := chainResult_true filenum hres
            rfl

end Sequential

/-! ## Segments -/

/-- A private copy. -/
def Handle.IsPrivate (h : Handle) : Prop := h.sharedMem = none ∧ h.sharedMemChild = false

section Segments

variable {objs : List (AlgObj D)}

theorem init_private (cfg : ChainConfig) (hashName : String → String) {obj : AlgObj D}
    (hordinary : obj.initSharedMem = false) (ctx : InitContext) (store : Store) :
    (obj.init cfg hashName ctx store).store = store ∧
    ∀ h ∈ (obj.init cfg hashName ctx store).obj.handles,
      Handle.IsPrivate h ∧ h.owns = none := by
  have hload := loadAll_private hashName (obj.cls.init ctx).loads store
  simp only [AlgObj.init, hordinary, hload, true_and]
  intro h hh
  obtain ⟨r, -, rfl⟩ := List.mem_map.mp hh
  exact ⟨⟨rfl, rfl⟩, rfl⟩

theorem process_private (hashName : String → String) {obj : AlgObj D} (hobj : Prepared cfg obj)
    (filenum : Nat) (dict : D) (store : Store) :
    let p := obj.process cfg hashName filenum dict store
    p.store = store ∧ (∀ h ∈ p.loaded, Handle.IsPrivate h) ∧
      (∀ h ∈ p.obj.handles, h.owns = none) := by
  intro p
  have hinit := init_private cfg hashName hobj.ordinary (.child filenum) store
  simp only [p, AlgObj.process]
  cases cfg.useMultiProcessing with
  | false => exact ⟨rfl, by simp, hobj.owns_none⟩
  | true =>
      simp only [if_true]
      rcases (obj.init cfg hashName (.child filenum) store).result with e | ⟨ok, msg⟩
      · exact ⟨hinit.1, fun h hh => (hinit.2 h hh).1, fun h hh => (hinit.2 h hh).2⟩
      · cases ok <;>
          exact ⟨hinit.1, fun h hh => (hinit.2 h hh).1, fun h hh => (hinit.2 h hh).2⟩

/-- **The loop leaves the segments alone**, whatever the breakpoint, and all it
constructs is private. -/
theorem runAlgorithms_private (bp : Option String) (filenum : Nat)
    (hobjs : ∀ obj ∈ objs, Prepared cfg obj) (dict : D) (store : Store) :
    let l := runAlgorithms cfg env bp filenum objs dict store
    l.store = store ∧ (∀ h ∈ l.loaded, Handle.IsPrivate h) ∧
      (∀ obj ∈ l.objs, ∀ h ∈ obj.handles, h.owns = none) := by
  induction objs generalizing dict store with
  | nil => exact ⟨rfl, by simp [runAlgorithms], by simp [runAlgorithms]⟩
  | cons obj rest ih =>
      intro l
      have hrest : ∀ o ∈ rest, Prepared cfg o := fun o ho => hobjs o (List.mem_cons_of_mem _ ho)
      obtain ⟨hstore, hloaded, howns⟩ := process_private env.hashName
        (hobjs obj List.mem_cons_self) filenum dict store
      have hobjs' : ∀ o ∈ (obj.process cfg env.hashName filenum dict store).obj :: rest,
          ∀ h ∈ o.handles, h.owns = none := by
        intro o ho
        rcases List.mem_cons.mp ho with rfl | ho
        · exact howns
        · exact (hrest o ho).owns_none
      simp only [l, runAlgorithms]
      split
      · exact ⟨hstore, hloaded, hobjs'⟩
      · exact ⟨hstore, hloaded, hobjs'⟩
      · split
        · split
          · exact ⟨hstore, hloaded, hobjs'⟩
          · exact ⟨hstore, hloaded, hobjs'⟩
        · obtain ⟨hs, hl, ho⟩ := ih hrest
            (obj.process cfg env.hashName filenum dict store).dict
            (obj.process cfg env.hashName filenum dict store).store
          refine ⟨hs.trans hstore, ?_, ?_⟩
          · intro h hh
            rcases List.mem_append.mp hh with hh | hh
            · exact hloaded h hh
            · exact hl h hh
          · intro o ho'
            rcases List.mem_cons.mp ho' with rfl | ho'
            · exact howns
            · exact ho o ho'

theorem handleException_parts (cfg : ChainConfig) (file : String) (loop : Option (LoopRun D))
    (objs : List (AlgObj D)) (store : Store) (queued : List (Bool × String))
    (bpFilename : String) (e : PyExc) :
    let r := handleException cfg file loop objs store queued bpFilename e
    r.store = store ∧ r.loop = loop ∧ r.objs = objs := by
  intro r
  simp only [r, handleException]
  split
  · exact ⟨rfl, rfl, rfl⟩
  · exact ⟨rfl, rfl, rfl⟩

/-- The parts of a file's run that the exception handling does not touch. -/
theorem runChainOnSingleFile_parts (bp : Option String)
    (hobjs : ∀ obj ∈ objs, Prepared cfg obj) (store : Store) (file : String) (filenum : Nat) :
    let r := runChainOnSingleFile cfg env bp objs store file filenum
    let l := runAlgorithms cfg env bp filenum objs (env.newDict file) store
    r.store = store ∧
    r.loop = (if (env.openDataset file).isSome then none else some l) ∧
    r.objs = (if (env.openDataset file).isSome then objs else l.objs) := by
  intro r l
  obtain ⟨hstore, -, howns⟩ := runAlgorithms_private env bp filenum hobjs (env.newDict file) store
  have hfin : ∀ stage, (finalizeChild cfg stage l.objs l.store).2 = store := by
    intro stage
    unfold finalizeChild
    split
    · rw [finalizeAll_of_owns_none stage l.store howns]
      exact hstore
    · exact hstore
  simp only [r, runChainOnSingleFile]
  cases hopen : env.openDataset file with
  | some e => exact handleException_parts cfg file none objs store [] "" e
  | none =>
      have hhandle : ∀ store' queued bpFilename e, store' = store →
          let r := handleException cfg file (some l) l.objs store' queued bpFilename e
          r.store = store ∧ r.loop = some l ∧ r.objs = l.objs := by
        rintro store' queued bpFilename e rfl
        exact handleException_parts cfg file (some l) l.objs store' queued bpFilename e
      simp only [Option.isSome_none, Bool.false_eq_true, if_false]
      split
      -- the loop raised, failed or was completed; finalizing may raise after the last two
      · next e _ => exact hhandle _ [] "" e hstore
      · next errorStr _ =>
        have hstage := hfin (.childFailed filenum)
        split
        · next e store' hf =>
          rw [hf] at hstage
          exact hhandle store' _ "" e hstage
        · next store' hf =>
          rw [hf] at hstage
          exact ⟨hstage, rfl, rfl⟩
      · next bpFilename _ =>
        have hstage := hfin (.childDone filenum)
        split
        · next e store' hf =>
          rw [hf] at hstage
          exact hhandle store' _ bpFilename e hstage
        · next store' hf =>
          rw [hf] at hstage
          exact ⟨hstage, rfl, rfl⟩

end Segments

end

end Clev2er.RunChain
