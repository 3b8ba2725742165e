import Clev2er.RunChain.Files

/-!
# Outcome accounting

Which files `run_chain` counts, and as what. A child leaves one result on its
queue unless an exception that is not caught ends it before the first one, or an
exception that is caught follows the first one; and a caught exception whose
text contains `SKIP_OK` passes for a skipped file. `runChain_accounts_iff` says
that these are the only ways in which the accounting of a multi-processing run
goes wrong, and `runChain_modes_agree` that it otherwise agrees with the
accounting of a sequential run.
-/

namespace Clev2er.RunChain

open Clev2er.Lib

/-! ## Counting results -/

/-- A result counted as an error. -/
def isErrorResult (rval : Bool × String) : Bool := !rval.1 && !isIn "SKIP_OK" rval.2

/-- A result counted as skipped. -/
def isSkipResult (rval : Bool × String) : Bool := isIn "SKIP_OK" rval.2

theorem foldl_countResult : ∀ (rvals : List (Bool × String)) (c : Counts),
    rvals.foldl countResult c = ⟨c.errors + rvals.countP isErrorResult,
      c.processed + rvals.length, c.skipped + rvals.countP isSkipResult⟩
  | [], c => rfl
  | rval :: rvals, c => by
      rw [List.foldl_cons, foldl_countResult rvals (countResult c rval)]
      simp only [List.countP_cons, List.length_cons, Counts.mk.injEq]
      have herr : (countResult c rval).errors =
          c.errors + if isErrorResult rval then 1 else 0 := by
        show (if isErrorResult rval then c.errors + 1 else c.errors) = _
        cases isErrorResult rval <;> rfl
      have hskip : (countResult c rval).skipped =
          c.skipped + if isSkipResult rval then 1 else 0 := by
        show (if isSkipResult rval then c.skipped + 1 else c.skipped) = _
        cases isSkipResult rval <;> rfl
      have hproc : (countResult c rval).processed = c.processed + 1 := rfl
      rw [herr, hskip, hproc]
      refine ⟨?_, ?_, ?_⟩ <;> omega

/-- Errors and skipped results are different results. -/
theorem countP_error_add_skip_le : ∀ rvals : List (Bool × String),
    rvals.countP isErrorResult + rvals.countP isSkipResult ≤ rvals.length
  | [] => Nat.le_refl 0
  | rval :: rvals => by
      have ih := countP_error_add_skip_le rvals
      have hone : ¬ (isErrorResult rval = true ∧ isSkipResult rval = true) := by
        simp only [isErrorResult, isSkipResult]
        cases rval.1 <;> cases isIn "SKIP_OK" rval.2 <;> simp
      simp only [List.countP_cons, List.length_cons]
      by_cases herr : isErrorResult rval = true
      · have hskip : ¬ isSkipResult rval = true := fun h => hone ⟨herr, h⟩
        rw [if_pos herr, if_neg hskip]
        omega
      · rw [if_neg herr]
        split <;> omega

/-! ## Results of one file -/

/-- The child leaves exactly one result: a caught exception is the only thing it
meets, an exception after a failure is not caught, and one after success is. -/
def Behaviour.SettlesOnce : Behaviour → Prop
  | .raises e => e.caught = true
  | .stops _ none => True
  | .stops _ (some e) => e.caught = false
  | .completes none => True
  | .completes (some e) => e.caught = true

/-- The algorithms got through the file, or returned a `SKIP_OK` message. -/
def Behaviour.DoneOrSkipped : Behaviour → Prop
  | .raises _ => False
  | .stops errorStr _ => isIn "SKIP_OK" errorStr = true
  | .completes _ => True

/-- The file fails with a text without `SKIP_OK`. -/
def Behaviour.Fails (file : String) : Behaviour → Prop
  | .raises e => isIn "SKIP_OK" (errorString file e) = false
  | .stops errorStr _ => isIn "SKIP_OK" errorStr = false
  | .completes none => False
  | .completes (some e) => isIn "SKIP_OK" (errorString file e) = false

/-- The file fails by an exception whose error string, which starts with the path
of the file, contains `SKIP_OK`. -/
def Behaviour.Masked (file : String) : Behaviour → Prop
  | .raises e => isIn "SKIP_OK" (errorString file e) = true
  | .stops _ _ | .completes _ => False

instance : DecidablePred Behaviour.SettlesOnce
  | .raises e => inferInstanceAs (Decidable (e.caught = true))
  | .stops _ none => inferInstanceAs (Decidable True)
  | .stops _ (some e) => inferInstanceAs (Decidable (e.caught = false))
  | .completes none => inferInstanceAs (Decidable True)
  | .completes (some e) => inferInstanceAs (Decidable (e.caught = true))

instance (file : String) : DecidablePred (Behaviour.Masked file)
  | .raises e => inferInstanceAs (Decidable (isIn "SKIP_OK" (errorString file e) = true))
  | .stops _ _ => inferInstanceAs (Decidable False)
  | .completes _ => inferInstanceAs (Decidable False)

section Results

variable (file : String) (b : Behaviour)

theorem length_putCaught (e : PyExc) :
    (putCaught file e).length = if e.caught then 1 else 0 := by
  unfold putCaught
  split <;> rfl

theorem settlesOnce_iff : (b.queued file).length = 1 ↔ b.SettlesOnce := by
  cases b with
  | raises e =>
      simp only [Behaviour.queued, Behaviour.SettlesOnce, length_putCaught]
      cases e.caught <;> simp
  | stops errorStr finalizing =>
      cases finalizing with
      | none => simp [Behaviour.queued, Behaviour.SettlesOnce]
      | some e =>
          simp only [Behaviour.queued, Behaviour.SettlesOnce, List.length_cons, length_putCaught]
          cases e.caught <;> simp
  | completes finalizing =>
      cases finalizing with
      | none => simp [Behaviour.queued, Behaviour.SettlesOnce]
      | some e =>
          simp only [Behaviour.queued, Behaviour.SettlesOnce, length_putCaught]
          cases e.caught <;> simp

/-- The one result of a file is an error exactly if the file fails. -/
theorem exists_error_iff_fails (hb : b.SettlesOnce) :
    (∃ rval ∈ b.queued file, isErrorResult rval = true) ↔ b.Fails file := by
  cases b with
  | raises e =>
      have he : e.caught = true := hb
      simp [Behaviour.queued, Behaviour.Fails, putCaught, he, isErrorResult]
  | stops errorStr finalizing =>
      cases finalizing with
      | none => simp [Behaviour.queued, Behaviour.Fails, isErrorResult]
      | some e =>
          have he : e.caught = false := hb
          simp [Behaviour.queued, Behaviour.Fails, putCaught, he, isErrorResult]
  | completes finalizing =>
      cases finalizing with
      | none => simp [Behaviour.queued, Behaviour.Fails, isErrorResult]
      | some e =>
          have he : e.caught = true := hb
          simp [Behaviour.queued, Behaviour.Fails, putCaught, he, isErrorResult]

/-- A file that neither fails visibly nor is done or skipped is masked. -/
theorem masked_iff (h : ¬ b.Fails file) : b.Masked file ↔ ¬ b.DoneOrSkipped := by
  cases b with
  | raises e =>
      simp only [Behaviour.Fails, Bool.not_eq_false] at h
      simp [Behaviour.Masked, Behaviour.DoneOrSkipped, h]
  | stops errorStr finalizing =>
      simp only [Behaviour.Fails, Bool.not_eq_false] at h
      simp [Behaviour.Masked, Behaviour.DoneOrSkipped, h]
  | completes finalizing => simp [Behaviour.Masked, Behaviour.DoneOrSkipped]

end Results

/-! ## What a file did -/

section

variable {D : Type} (cfg : ChainConfig) (env : Env D)

/-- The file ran its whole algorithm list. -/
def FileRun.RanWhole (algs : List String) (r : FileRun D) : Prop :=
  ∃ l path, r.loop = some l ∧ l.ending = .completed path ∧ l.ran = algs

/-- An algorithm returned a `SKIP_OK` message for the file. -/
def FileRun.ReturnedSkip (r : FileRun D) : Prop :=
  ∃ l errorStr, r.loop = some l ∧ l.ending = .failed errorStr ∧
    isIn "SKIP_OK" errorStr = true

variable {cfg}

theorem ranWhole_or_skip_iff {bp : Option String} (hbp : isGiven bp = false)
    {objs : List (AlgObj D)} (hobjs : ∀ obj ∈ objs, Prepared cfg obj) (store : Store)
    (file : String) (filenum : Nat) :
    let r := runChainOnSingleFile cfg env bp objs store file filenum
    (r.RanWhole (objs.map AlgObj.alg) ∨ r.ReturnedSkip) ↔
      (behaviour cfg env (objs.map AlgObj.cls) file filenum).DoneOrSkipped := by
  intro r
  obtain ⟨-, hloop, -⟩ := runChainOnSingleFile_parts env bp hobjs store file filenum
  obtain ⟨hend, -, hran, -⟩ := runAlgorithms_spec env hbp filenum hobjs (env.newDict file) store
  generalize runAlgorithms cfg env bp filenum objs (env.newDict file) store = l at hloop hend hran
  unfold behaviour fileResult
  cases hopen : env.openDataset file with
  | some e =>
      have hnone : r.loop = none := by simpa [hopen] using hloop
      simp [FileRun.RanWhole, FileRun.ReturnedSkip, hnone, Behaviour.DoneOrSkipped]
  | none =>
      have hsome : r.loop = some l := by simpa [hopen] using hloop
      simp only [FileRun.RanWhole, FileRun.ReturnedSkip, hsome, Option.some.injEq]
      rcases hres : chainResult cfg filenum (objs.map AlgObj.cls) (env.newDict file)
        with e | ⟨ok, errorStr⟩
      · rw [hres] at hend
        simp [Behaviour.DoneOrSkipped, hend, endOf]
      · rw [hres] at hend
        cases ok with
        | false => simp [Behaviour.DoneOrSkipped, hend, endOf]
        | true =>
            simp only [Behaviour.DoneOrSkipped, iff_true]
            exact Or.inl ⟨l, "", rfl, hend, hran "" hend⟩

/-! ## The end of the run -/

theorem finalizeRaises_initialized (stage : Stage) : ∀ {objs : List (AlgObj D)},
    (∀ obj ∈ objs, obj.initialized = true) →
    finalizeRaises stage objs = firstRaise stage (objs.map AlgObj.cls)
  | [], _ => rfl
  | obj :: objs, h => by
      rw [finalizeRaises_cons, h obj List.mem_cons_self,
        finalizeRaises_initialized stage (fun o ho => h o (List.mem_cons_of_mem _ ho))]
      unfold firstRaise
      rw [List.map_cons, List.findSome?_cons]
      cases (obj.cls.finalize stage).map Prod.snd <;> rfl

/-- What `run_chain` returns after the files. -/
theorem finishRun_outcome (setUp : SetUp D) (r : FilesRun D) (hraised : r.raised = none) :
    (finishRun setUp r).outcome =
      match (finalizeRaises .sharedMem setUp.shmObjs).or (finalizeRaises .main r.objs) with
      | some e => .error e
      | none => .ok (decide (r.counts.errors = 0), r.counts.errors, r.counts.processed,
          r.counts.skipped, r.bpFilename) := by
  have hshm := finalizeAll_fst .sharedMem setUp.shmObjs r.store
  unfold finishRun
  rw [hraised]
  rcases hfin : finalizeAll .sharedMem setUp.shmObjs r.store with ⟨raised, store⟩
  rw [hfin] at hshm
  rw [← hshm]
  cases raised with
  | some e => rfl
  | none =>
      have hmain := finalizeAll_fst .main r.objs store
      rcases hfin' : finalizeAll .main r.objs store with ⟨raised, store'⟩
      rw [hfin'] at hmain
      simp only [hfin', ← hmain, Option.none_or]
      cases raised <;> rfl

/-! ## Multi-processing accounts -/

/-- Every file is accounted for exactly once: one result was found on the queue
of each, the number processed is the number of files, errors and skipped files
do not exceed it, and the run is a success only if every file ran its whole
algorithm list or returned a `SKIP_OK` message. -/
def Accounts (files algs : List String) (r : ChainRun D) : Prop :=
  ∃ success errors processed skipped bpFilename,
    r.outcome = .ok (success, errors, processed, skipped, bpFilename) ∧
    (∀ f ∈ r.files, f.queued.length = 1) ∧
    processed = files.length ∧ errors + skipped ≤ processed ∧
    (success = true → ∀ f ∈ r.files, f.RanWhole algs ∨ f.ReturnedSkip)

theorem length_flatMap_queued : ∀ {runs : List (FileRun D)},
    (∀ f ∈ runs, f.queued.length = 1) → (runs.flatMap FileRun.queued).length = runs.length
  | [], _ => rfl
  | f :: runs, h => by
      rw [List.flatMap_cons, List.length_append, h f List.mem_cons_self,
        length_flatMap_queued (fun g hg => h g (List.mem_cons_of_mem _ hg)), List.length_cons]
      omega

/-- No result is an error exactly if no file fails, where every file settles
once. -/
theorem countP_error_eq_zero_iff {jobs : List (String × Nat)} {run : String × Nat → FileRun D}
    {b : String × Nat → Behaviour} (hqueued : ∀ job, (run job).queued = (b job).queued job.1)
    (hsettle : ∀ job ∈ jobs, (b job).SettlesOnce) :
    ((jobs.map run).flatMap FileRun.queued).countP isErrorResult = 0 ↔
      ∀ job ∈ jobs, ¬ (b job).Fails job.1 := by
  rw [List.countP_eq_zero]
  constructor
  · intro h job hjob hfails
    obtain ⟨rval, hrval, herr⟩ := (exists_error_iff_fails job.1 (b job) (hsettle job hjob)).mpr hfails
    rw [← hqueued job] at hrval
    exact h rval (List.mem_flatMap.mpr ⟨run job, List.mem_map_of_mem hjob, hrval⟩) herr
  · intro h rval hrval herr
    obtain ⟨f, hf, hrval⟩ := List.mem_flatMap.mp hrval
    obtain ⟨job, hjob, rfl⟩ := List.mem_map.mp hf
    rw [hqueued job] at hrval
    exact h job hjob
      ((exists_error_iff_fails job.1 (b job) (hsettle job hjob)).mp ⟨rval, hrval, herr⟩)

/-- Success says that every file is done or skipped exactly if nothing is masked,
or something fails visibly. -/
theorem success_sound_iff {jobs : List (String × Nat)} {b : String × Nat → Behaviour} :
    ((∀ job ∈ jobs, ¬ (b job).Fails job.1) → ∀ job ∈ jobs, (b job).DoneOrSkipped) ↔
      (∃ job ∈ jobs, (b job).Fails job.1) ∨ ∀ job ∈ jobs, ¬ (b job).Masked job.1 := by
  by_cases hfails : ∃ job ∈ jobs, (b job).Fails job.1
  · obtain ⟨job, hjob, hf⟩ := hfails
    exact ⟨fun _ => Or.inl ⟨job, hjob, hf⟩, fun _ h => absurd hf (h job hjob)⟩
  · have hnone : ∀ job ∈ jobs, ¬ (b job).Fails job.1 :=
      fun job hjob hf => hfails ⟨job, hjob, hf⟩
    constructor
    · intro h
      refine Or.inr (fun job hjob hmasked => ?_)
      exact (masked_iff job.1 (b job) (hnone job hjob)).mp hmasked (h hnone job hjob)
    · rintro (h | h) _ job hjob
      · exact absurd h hfails
      · by_contra hdone
        exact h job hjob ((masked_iff job.1 (b job) (hnone job hjob)).mpr hdone)

section MultiProcessing

variable {env} (hmp : cfg.useMultiProcessing = true) (hmax : 0 < cfg.maxProcesses)
  (live : List String) {files algs : List String} (hfiles : files ≠ []) {bp : Option String}
  (hbp : isGiven bp = false)

include hmp hmax hfiles hbp

/-- A multi-processing run over constructed algorithms: each file's queue and
what it did are those of its behaviour, and the return value counts the
results. -/
theorem runChain_multiProcessing (hall : ∀ alg ∈ algs, Constructible cfg env alg) :
    let r := runChain cfg env live files algs bp
    let classes := algClasses cfg env algs
    ∃ run : String × Nat → FileRun D, r.files = files.zipIdx.map run ∧
      (∀ job, (run job).queued = (behaviour cfg env classes job.1 job.2).queued job.1) ∧
      (∀ job, ((run job).RanWhole algs ∨ (run job).ReturnedSkip) ↔
        (behaviour cfg env classes job.1 job.2).DoneOrSkipped) ∧
      r.outcome = match (if cfg.useSharedMemory then firstRaise .sharedMem classes else none) with
        | some e => .error e
        | none =>
          let rvals := (files.zipIdx.map run).flatMap FileRun.queued
          .ok (decide (rvals.countP isErrorResult = 0), rvals.countP isErrorResult, rvals.length,
            rvals.countP isSkipResult, "") := by
  intro r classes
  have hthrough := (constructible_throughBreakpoint_iff hbp algs).mpr hall
  obtain ⟨hcons, hr⟩ := runChain_multiProcessing_eq env bp hmp hfiles hmax live hthrough
  rw [throughBreakpoint_of_not_given hbp algs hthrough] at hcons
  generalize constructAlgorithms cfg env bp algs [] [] ⟨live, []⟩ = s at hcons hr
  refine ⟨runJob env cfg bp s.objs s.store, ?_, ?_, ?_, ?_⟩
  · show (runChain cfg env live files algs bp).files = _
    rw [hr, finishRun_files]
  · intro job
    have hq := runChainOnSingleFile_queued env hmp hbp hcons.prepared s.store job.1 job.2
    rw [hcons.classes] at hq
    exact hq
  · intro job
    have hw := ranWhole_or_skip_iff env hbp hcons.prepared s.store job.1 job.2
    rw [hcons.classes, hcons.algs_eq] at hw
    exact hw
  · show (runChain cfg env live files algs bp).outcome = _
    have hmain : finalizeRaises .main s.objs = none := by
      apply finalizeRaises_uninitialized
      intro obj hobj
      rw [(hcons.prepared obj hobj).initialized, hmp]
      rfl
    have hshm : finalizeRaises .sharedMem s.shmObjs =
        if cfg.useSharedMemory then firstRaise .sharedMem classes else none := by
      rw [finalizeRaises_initialized .sharedMem hcons.shm_initialized, hcons.shm_classes]
      unfold usesSharedMemory
      rw [hmp, Bool.true_and]
      split <;> rfl
    rw [hr, finishRun_outcome _ _ rfl, hshm, foldl_countResult]
    simp only [hmain, Option.or_none, Nat.zero_add]

/-- **When the accounts of a multi-processing run are right.** Every algorithm
can be constructed and the shared memory objects are finalized without an
exception; every file settles once (`Behaviour.SettlesOnce`); and no failure is
masked by a `SKIP_OK` in an exception's error string, unless another file fails
visibly and the run is no success anyway. -/
theorem runChain_accounts_iff :
    Accounts files algs (runChain cfg env live files algs bp) ↔
      (∀ alg ∈ algs, Constructible cfg env alg) ∧
      (cfg.useSharedMemory = true →
        firstRaise .sharedMem (algClasses cfg env algs) = none) ∧
      (∀ job ∈ files.zipIdx,
        (behaviour cfg env (algClasses cfg env algs) job.1 job.2).SettlesOnce) ∧
      ((∃ job ∈ files.zipIdx,
          (behaviour cfg env (algClasses cfg env algs) job.1 job.2).Fails job.1) ∨
        ∀ job ∈ files.zipIdx,
          ¬ (behaviour cfg env (algClasses cfg env algs) job.1 job.2).Masked job.1) := by
  by_cases hall : ∀ alg ∈ algs, Constructible cfg env alg
  · obtain ⟨run, hruns, hqueued, hwhole, hout⟩ :=
      runChain_multiProcessing hmp hmax live hfiles hbp hall
    have hlen : ∀ job, (run job).queued.length = 1 ↔
        (behaviour cfg env (algClasses cfg env algs) job.1 job.2).SettlesOnce := by
      intro job
      rw [hqueued job]
      exact settlesOnce_iff job.1 _
    constructor
    · rintro ⟨success, errors, processed, skipped, bpFilename, hr, hone, -, -, hsound⟩
      rw [hruns] at hone hsound
      have hsettle : ∀ job ∈ files.zipIdx,
          (behaviour cfg env (algClasses cfg env algs) job.1 job.2).SettlesOnce :=
        fun job hjob => (hlen job).mp (hone _ (List.mem_map_of_mem hjob))
      rw [hr] at hout
      split at hout
      · -- an exception of the final clean-up leaves `run_chain` without a result
        cases hout
      · next hshm =>
        obtain ⟨rfl, -⟩ := Prod.mk.inj (Except.ok.inj hout)
        refine ⟨hall, ?_, hsettle, success_sound_iff.mp ?_⟩
        · intro huses
          rwa [if_pos huses] at hshm
        · intro hnone job hjob
          have hzero := (countP_error_eq_zero_iff hqueued hsettle).mpr hnone
          exact (hwhole job).mp
            (hsound (decide_eq_true hzero) _ (List.mem_map_of_mem hjob))
    · rintro ⟨-, hshm, hsettle, hsound⟩
      have hone : ∀ f ∈ files.zipIdx.map run, f.queued.length = 1 := by
        intro f hf
        obtain ⟨job, hjob, rfl⟩ := List.mem_map.mp hf
        exact (hlen job).mpr (hsettle job hjob)
      have hnone : (if cfg.useSharedMemory then
          firstRaise .sharedMem (algClasses cfg env algs) else none) = none := by
        split
        · next huses => exact hshm huses
        · rfl
      rw [hnone] at hout
      refine ⟨_, _, _, _, _, hout, hruns ▸ hone, ?_, ?_, ?_⟩
      · rw [length_flatMap_queued hone, List.length_map, List.length_zipIdx]
      · exact countP_error_add_skip_le _
      · intro hsuccess
        rw [hruns]
        intro f hf
        obtain ⟨job, hjob, rfl⟩ := List.mem_map.mp hf
        have hzero := (countP_error_eq_zero_iff hqueued hsettle).mp (of_decide_eq_true hsuccess)
        exact (hwhole job).mpr (success_sound_iff.mpr hsound hzero job hjob)
  · -- nothing is processed
    refine iff_of_false ?_ (fun h => hall h.1)
    rintro ⟨success, errors, processed, skipped, bpFilename, hout, -, hproc, -⟩
    have hnot := mt (constructible_throughBreakpoint_iff hbp algs).mp hall
    have hlen := List.length_pos_of_ne_nil hfiles
    rcases runChain_not_ready live files hnot with ⟨e, hr⟩ | ⟨-, hr⟩
    · rw [hr] at hout
      cases hout
    · rw [hr] at hout
      cases hout
      omega

end MultiProcessing

/-! ## Both modes -/

/-- What a file can come to, where only exceptions that are caught are raised. -/
inductive FileOutcome where
  | succeeds
  | returns (errorStr : String)
  | raises (e : PyExc) (caught : e.caught = true)

/-- The outcome as the algorithms produce it. -/
def FileOutcome.result : FileOutcome → Except PyExc (Bool × String)
  | .succeeds => .ok (true, "")
  | .returns errorStr => .ok (false, errorStr)
  | .raises e _ => .error e

/-- The outcome as it is reported. -/
def FileOutcome.reported (file : String) : FileOutcome → Bool × String
  | .succeeds => (true, "")
  | .returns errorStr => (false, errorStr)
  | .raises e _ => (false, errorString file e)

section Agreement

variable {env}

theorem firstRaise_eq_none {stage : Stage} {classes : List (AlgClass D)}
    (h : ∀ cls ∈ classes, cls.finalize stage = none) : firstRaise stage classes = none := by
  apply List.findSome?_eq_none_iff.mpr
  intro cls hcls
  rw [h cls hcls]
  rfl

theorem mem_initialisedIn {filenum : Nat} {cls : AlgClass D} :
    ∀ {classes : List (AlgClass D)} {dict : D},
      cls ∈ initialisedIn cfg filenum classes dict → cls ∈ classes
  | [], _, h => by cases h
  | c :: rest, dict, h => by
      rw [initialisedIn] at h
      rcases List.mem_append.mp h with h | h
      · split at h
        · rw [List.mem_singleton.mp h]
          exact List.mem_cons_self
        · cases h
      · split at h
        · exact List.mem_cons_of_mem _ (mem_initialisedIn h)
        · cases h

/-- A child reports the outcome of its file, where finalizing raises nothing. -/
theorem behaviour_queued_of_outcome {classes : List (AlgClass D)}
    (hfin : ∀ cls ∈ classes, ∀ stage, cls.finalize stage = none) {outcome : FileOutcome}
    {file : String} {filenum : Nat}
    (h : fileResult cfg env classes file filenum = outcome.result) :
    (behaviour cfg env classes file filenum).queued file = [outcome.reported file] := by
  have hquiet : ∀ stage,
      firstRaise stage (initialisedIn cfg filenum classes (env.newDict file)) = none :=
    fun stage => firstRaise_eq_none (fun cls hcls => hfin cls (mem_initialisedIn hcls) stage)
  unfold behaviour
  rw [h]
  cases outcome with
  | succeeds => simp [FileOutcome.result, FileOutcome.reported, Behaviour.queued, hquiet]
  | returns errorStr => simp [FileOutcome.result, FileOutcome.reported, Behaviour.queued, hquiet]
  | raises e caught =>
      simp [FileOutcome.result, FileOutcome.reported, Behaviour.queued, putCaught, caught]

/-- A sequential call returns the outcome of its file. -/
theorem fileReturn_outcome (outcome : FileOutcome) (file : String) :
    fileReturn file outcome.result =
      .ok ((outcome.reported file).1, (outcome.reported file).2, "") := by
  cases outcome with
  | succeeds => rfl
  | returns errorStr => rfl
  | raises e caught => simp [FileOutcome.result, fileReturn, FileOutcome.reported, caught]

/-- The return value over reported outcomes. -/
def returnValue (rvals : List (Bool × String)) : Bool × Nat × Nat × Nat × String :=
  (decide (rvals.countP isErrorResult = 0), rvals.countP isErrorResult, rvals.length,
    rvals.countP isSkipResult, "")

section Runs

variable {live files algs : List String} {bp : Option String} (hbp : isGiven bp = false)
  (hall : ∀ alg ∈ algs, Constructible cfg env alg)
  (hfin : ∀ cls ∈ algClasses cfg env algs, ∀ stage, cls.finalize stage = none)
  {outcome : String × Nat → FileOutcome}
  (houtcome : ∀ job ∈ files.zipIdx,
    fileResult cfg env (algClasses cfg env algs) job.1 job.2 = (outcome job).result)

include hbp hall hfin houtcome

theorem runChain_multiProcessing_outcome (hmp : cfg.useMultiProcessing = true)
    (hmax : 0 < cfg.maxProcesses) (hfiles : files ≠ []) :
    (runChain cfg env live files algs bp).outcome =
      .ok (returnValue (files.zipIdx.map (fun job => (outcome job).reported job.1))) := by
  obtain ⟨run, -, hqueued, -, hout⟩ :=
    runChain_multiProcessing hmp hmax live hfiles hbp hall
  have hquiet : (if cfg.useSharedMemory then
      firstRaise .sharedMem (algClasses cfg env algs) else none) = none := by
    split
    · exact firstRaise_eq_none (fun cls hcls => hfin cls hcls .sharedMem)
    · rfl
  have hrvals : (files.zipIdx.map run).flatMap FileRun.queued =
      files.zipIdx.map (fun job => (outcome job).reported job.1) := by
    rw [List.flatMap_map, ← List.flatMap_singleton' (files.zipIdx.map _), List.flatMap_map]
    apply List.flatMap_congr
    intro job hjob
    rw [hqueued job]
    exact behaviour_queued_of_outcome hfin (houtcome job hjob)
  rw [hquiet] at hout
  simp only [hrvals] at hout
  exact hout

theorem runChain_sequential_outcome (hseq : cfg.useMultiProcessing = false)
    (hstop : cfg.stopOnError = false) :
    (runChain cfg env live files algs bp).outcome =
      .ok (returnValue (files.zipIdx.map (fun job => (outcome job).reported job.1))) := by
  have hthrough := (constructible_throughBreakpoint_iff hbp algs).mpr hall
  obtain ⟨hcons, hr⟩ := runChain_ready live files hthrough
  rw [throughBreakpoint_of_not_given hbp algs hthrough] at hcons
  generalize constructAlgorithms cfg env bp algs [] [] ⟨live, []⟩ = s at hcons hr
  have hrun : runFiles cfg env bp s.objs files s.store =
      runSequential cfg env bp files.zipIdx s.objs s.store ⟨0, 0, 0⟩ "" := by
    unfold runFiles
    rw [if_neg (by simp [hseq])]
  obtain ⟨hobjs, -⟩ := runSequential_parts env bp hseq hcons.prepared s.store files.zipIdx
    ⟨0, 0, 0⟩ ""
  obtain ⟨hraised, hbpName, hcounts⟩ := runSequential_ok env bp hseq hcons.prepared hstop s.store
    (fun job => (outcome job).reported job.1) files.zipIdx ⟨0, 0, 0⟩ (by
      intro job hjob
      refine ⟨?_, ?_⟩
      · have hjobOut := runChainOnSingleFile_sequential env hseq bp job.2 hbp hcons.prepared
          s.store job.1
        rw [hcons.classes, houtcome job hjob, fileReturn_outcome] at hjobOut
        exact hjobOut
      · cases outcome job with
        | succeeds => intro _; rfl
        | returns errorStr => intro h; cases h
        | raises e caught => intro h; cases h)
  have hmain : finalizeRaises .main s.objs = none := by
    rw [finalizeRaises_initialized .main, hcons.classes]
    · exact firstRaise_eq_none (fun cls hcls => hfin cls hcls .main)
    · intro obj hobj
      rw [(hcons.prepared obj hobj).initialized, hseq]
      rfl
  -- sequential set-up builds no objects for shared memory
  have hshm : s.shmObjs = [] := by
    have hclasses := hcons.shm_classes
    simp only [usesSharedMemory, hseq, Bool.false_and, Bool.false_eq_true, if_false,
      List.map_eq_nil_iff] at hclasses
    exact hclasses
  rw [hr, hrun, finishRun_outcome _ _ hraised, hobjs, hmain, hshm, hbpName, hcounts,
    foldl_countResult]
  simp [returnValue, finalizeRaises]

end Runs

end Agreement

/-- The same configuration in the multi-processing or the sequential mode. -/
def inMode (cfg : ChainConfig) (useMultiProcessing : Bool) : ChainConfig :=
  { cfg with useMultiProcessing := useMultiProcessing }

/-- The children of a multi-processing run, chunk by chunk. -/
theorem runChain_children {D : Type} {cfg : ChainConfig} {env : Env D}
    {live files algs : List String} {bp : Option String} (hfiles : files ≠ []) (hmax : 0 < cfg.maxProcesses)
    (hbp : isGiven bp = false)
    (hall : ∀ alg ∈ algs, Constructible (inMode cfg true) env alg) :
    ∃ objs store, (runChain (inMode cfg true) env live files algs bp).files =
      (fileChunks cfg files).flatMap fun chunk =>
        chunk.map (runJob env (inMode cfg true) bp objs store) := by
  have hthrough := (constructible_throughBreakpoint_iff hbp algs).mpr hall
  have hmp : (inMode cfg true).useMultiProcessing = true := rfl
  obtain ⟨-, hr⟩ := runChain_multiProcessing_eq env bp hmp hfiles hmax live hthrough
  generalize constructAlgorithms (inMode cfg true) env bp algs [] [] ⟨live, []⟩ = s at hr
  refine ⟨s.objs, s.store, ?_⟩
  rw [hr, finishRun_files, ← List.map_flatMap, List.flatMap_id', fileChunks_flatten hfiles hmax]

/-- **Both modes agree.** Over files each of which has an outcome that does not
depend on the mode, algorithms that can be constructed and finalized in both, no
breakpoint and no stop on error, `run_chain` returns the same counts in both
modes: all files are processed, the outcomes reported with `SKIP_OK` are skipped,
and the other failures are errors. The children are started in as many chunks as
needed, none empty or larger than the maximum, and together they are one child per
file, with the file's index in the list. -/
theorem runChain_modes_agree {D : Type} (cfg : ChainConfig) (env : Env D)
    (live files algs : List String) (bp : Option String) (outcome : String × Nat → FileOutcome)
    (hfiles : files ≠ []) (hmax : 1 ≤ cfg.maxProcesses) (hstop : cfg.stopOnError = false)
    (hbp : isGiven bp = false)
    (hconstruct : ∀ mode, ∀ alg ∈ algs, Constructible (inMode cfg mode) env alg)
    (hfin : ∀ cls ∈ algClasses cfg env algs, ∀ stage, cls.finalize stage = none)
    (houtcome : ∀ mode, ∀ job ∈ files.zipIdx,
      fileResult (inMode cfg mode) env (algClasses cfg env algs) job.1 job.2 =
        (outcome job).result) :
    let rvals := files.zipIdx.map fun job => (outcome job).reported job.1
    (∀ mode, (runChain (inMode cfg mode) env live files algs bp).outcome =
      .ok (decide (rvals.countP isErrorResult = 0), rvals.countP isErrorResult, files.length,
        rvals.countP isSkipResult, "")) ∧
    (∃ objs store, (runChain (inMode cfg true) env live files algs bp).files =
      (fileChunks cfg files).flatMap fun chunk =>
        chunk.map (runJob env (inMode cfg true) bp objs store)) ∧
    (fileChunks cfg files).length = ceilDiv files.length cfg.maxProcesses ∧
    (∀ chunk ∈ fileChunks cfg files, chunk ≠ [] ∧ chunk.length ≤ cfg.maxProcesses) ∧
    (fileChunks cfg files).flatten = files.zipIdx := by
  intro rvals
  refine ⟨fun mode => ?_, runChain_children hfiles hmax hbp (hconstruct true), ?_,
    fun chunk hchunk => fileChunks_length hfiles hmax hchunk, fileChunks_flatten hfiles hmax⟩
  · have hlen : rvals.length = files.length := by simp [rvals]
    rw [← hlen]
    cases mode with
    | true =>
        exact runChain_multiProcessing_outcome hbp (hconstruct true) hfin (houtcome true) rfl
          hmax hfiles
    | false =>
        exact runChain_sequential_outcome hbp (hconstruct false) hfin (houtcome false) rfl hstop
  · unfold fileChunks
    rw [List.length_map, arraySplit_length (ceilDiv_pos hfiles hmax)]

end

/-! ## Two small chains -/

/-- A multi-processing configuration with two processes at a time. -/
def twoProcesses : ChainConfig := ⟨"testchain", true, false, 2, false, none⟩

/-- A class that does nothing but give each file the result it is told to. -/
def scriptedClass (result : Nat → Except PyExc (Bool × String)) : AlgClass Unit where
  construct _ := none
  init _ := ⟨[], .ok (true, "")⟩
  body filenum dict := (dict, result filenum)
  finalize _ := none

/-- An environment whose files all open and whose modules are all the same. -/
def scriptedEnv (result : Nat → Except PyExc (Bool × String)) : Env Unit where
  modules _ := .ok (scriptedClass result)
  openDataset _ := none
  hashName name := name
  newDict _ := ()
  l1bFileName _ := none
  createNetcdfFile _ _ := none

/-- The second file is skipped, the third fails, all others succeed. -/
def secondSkipped (filenum : Nat) : Except PyExc (Bool × String) :=
  match filenum with
  | 1 => .ok (false, "SKIP_OK: not over land")
  | 2 => .error ⟨.valueError, "ValueError: bad waveform"⟩
  | _ => .ok (true, "")

theorem runChain_accounts_iff_secondSkipped :
    Accounts ["a.nc", "b.nc", "c.nc"] ["alg_template1", "alg_template2"]
      (runChain twoProcesses (scriptedEnv secondSkipped) [] ["a.nc", "b.nc", "c.nc"]
        ["alg_template1", "alg_template2"] (some "")) := by
  refine (runChain_accounts_iff rfl (by decide) [] (by decide) rfl).mpr ⟨?_, ?_, ?_, ?_⟩
  · intro alg halg
    refine ⟨scriptedClass secondSkipped, ?_, rfl, fun h => by cases h⟩
    rcases List.mem_cons.mp halg with rfl | halg
    · rfl
    · obtain rfl := List.mem_singleton.mp halg
      rfl
  · intro h
    cases h
  · decide
  · exact Or.inr (by decide)

theorem runChain_modes_agree_secondSkipped :
    (runChain (inMode twoProcesses true) (scriptedEnv secondSkipped) []
        ["a.nc", "b.nc", "c.nc"] ["alg_template1"] none).outcome = .ok (false, 1, 3, 1, "") ∧
    (runChain (inMode twoProcesses false) (scriptedEnv secondSkipped) []
        ["a.nc", "b.nc", "c.nc"] ["alg_template1"] none).outcome = .ok (false, 1, 3, 1, "") := by
  have hagree := (runChain_modes_agree twoProcesses (scriptedEnv secondSkipped) []
    ["a.nc", "b.nc", "c.nc"] ["alg_template1"] none
    (fun job => match job.2 with
      | 1 => .returns "SKIP_OK: not over land"
      | 2 => .raises ⟨.valueError, "ValueError: bad waveform"⟩ rfl
      | _ => .succeeds)
    (by decide) (by decide) rfl rfl ?_ ?_ ?_).1
  · exact ⟨hagree true, hagree false⟩
  · intro mode alg halg
    obtain rfl := List.mem_singleton.mp halg
    cases mode <;> exact ⟨scriptedClass secondSkipped, rfl, rfl, fun h => by cases h⟩
  · intro cls hcls stage
    obtain rfl := List.mem_singleton.mp hcls
    rfl
  · intro mode job hjob
    have hjobs : job = ("a.nc", 0) ∨ job = ("b.nc", 1) ∨ job = ("c.nc", 2) := by
      simpa using hjob
    rcases hjobs with rfl | rfl | rfl <;> cases mode <;> rfl

/-- An exception the child does not catch leaves no result, and the run is
reported as a success over no files. -/
theorem runChain_loses_uncaught :
    let r := runChain twoProcesses
      (scriptedEnv (fun _ => .error ⟨.typeError, "TypeError: unsupported operand"⟩)) []
      ["a.nc"] ["alg_template1"] (some "")
    r.outcome = .ok (true, 0, 0, 0, "") ∧ ¬ Accounts ["a.nc"] ["alg_template1"] r := by
  intro r
  have hout : r.outcome = .ok (true, 0, 0, 0, "") := rfl
  refine ⟨hout, ?_⟩
  rintro ⟨success, errors, processed, skipped, bpFilename, hr, -, hproc, -⟩
  rw [hout] at hr
  cases hr
  cases hproc

end Clev2er.RunChain
