import Clev2er.RunChain.Accounting

/-!
# Failure isolation of the sequential run

Sequential processing without stop on error goes on after a file that failed, as
long as the failure is one the run control can take: a result `(False, msg)` or
an exception that `run_chain_on_single_file` catches.
`runChain_sequential_isolates_iff` is the law for any chain that can be set up
and finalized.
-/

namespace Clev2er.RunChain

/-- A file's result that does not leave `run_chain_on_single_file` as an
exception. -/
def Settled (result : Except PyExc (Bool × String)) : Prop :=
  ∀ e, result = .error e → e.caught = true

/-- The run returned its counts, and they cover all `n` files. -/
def ChainRun.Counted {D : Type} (r : ChainRun D) (n : Nat) : Prop :=
  ∃ success errors skipped, r.outcome = .ok (success, errors, n, skipped, "")

section

variable {D : Type} {cfg : ChainConfig} {env : Env D}

/-- A sequential loop that has counted every file had a return value for each. -/
theorem runSequential_all_return (hseq : cfg.useMultiProcessing = false)
    (hstop : cfg.stopOnError = false) {bp : Option String} {objs : List (AlgObj D)}
    (hobjs : ∀ obj ∈ objs, Prepared cfg obj) (store : Store) :
    ∀ (jobs : List (String × Nat)) (counts : Counts) (bpFilename : String),
    (runSequential cfg env bp jobs objs store counts bpFilename).raised = none →
    (runSequential cfg env bp jobs objs store counts bpFilename).counts.processed =
      counts.processed + jobs.length →
    ∀ job ∈ jobs, ∃ t, (runJob env cfg bp objs store job).outcome = .ok t
  | [], _, _, _, _, job, hjob => by cases hjob
  | (file, fnum) :: jobs, counts, bpFilename, hraised, hcount, job, hjob => by
      obtain ⟨ho, hs⟩ := runJob_sequential env bp hseq hobjs store (file, fnum)
      simp only [runJob] at ho hs
      simp only [runSequential, ho, hs] at hraised hcount
      rcases hout : (runChainOnSingleFile cfg env bp objs store file fnum).outcome with e | t
      · -- the loop has ended at the first file, and counted nothing
        rw [hout] at hcount
        simp only [List.length_cons] at hcount
        omega
      · obtain ⟨success, errorStr, bpFilename'⟩ := t
        rcases List.mem_cons.mp hjob with rfl | hjob
        · exact ⟨_, hout⟩
        · have hrest : ∀ counts' : Counts, counts'.processed = counts.processed + 1 →
              (runSequential cfg env bp jobs objs store counts' bpFilename').raised = none →
              (runSequential cfg env bp jobs objs store counts' bpFilename').counts.processed =
                counts.processed + (jobs.length + 1) →
              ∃ t, (runJob env cfg bp objs store job).outcome = .ok t := by
            intro counts' hone hnone hall
            exact runSequential_all_return hseq hstop hobjs store jobs counts' bpFilename' hnone
              (by omega) job hjob
          -- a skip, a failure and a success each count the file and go on
          rw [hout] at hraised hcount
          simp only [hstop, Bool.false_eq_true, if_false] at hraised hcount
          split at hraised
          · next hskip =>
            rw [if_pos hskip] at hcount
            exact hrest _ rfl hraised hcount
          · next hskip =>
            rw [if_neg hskip] at hcount
            split at hraised
            · next hfail =>
              rw [if_pos hfail] at hcount
              exact hrest _ rfl hraised hcount
            · next hfail =>
              rw [if_neg hfail] at hcount
              exact hrest _ rfl hraised hcount

/-- A run that returned has the counts of its loop. -/
theorem finishRun_counted {setUp : SetUp D} {r : FilesRun D} {success : Bool}
    {errors processed skipped : Nat} {bpFilename : String}
    (h : (finishRun setUp r).outcome = .ok (success, errors, processed, skipped, bpFilename)) :
    r.raised = none ∧ r.counts.processed = processed := by
  unfold finishRun at h
  split at h
  · cases h
  · next hraised =>
    refine ⟨hraised, ?_⟩
    split at h
    · cases h
    · split at h
      · cases h
      · simp only [Except.ok.injEq, Prod.mk.injEq] at h
        exact h.2.2.1

/-- A settled result is one of the outcomes the accounting knows. -/
theorem Settled.outcome {classes : List (AlgClass D)} {file : String} {filenum : Nat}
    (h : Settled (fileResult cfg env classes file filenum)) :
    ∃ o : FileOutcome, fileResult cfg env classes file filenum = o.result := by
  rcases hres : fileResult cfg env classes file filenum with e | ⟨ok, msg⟩
  · exact ⟨.raises e (h e hres), rfl⟩
  · cases ok with
    | false => exact ⟨.returns msg, rfl⟩
    | true =>
        unfold fileResult at hres
        split at hres
        · cases hres
        · obtain rfl := chainResult_true filenum hres
          exact ⟨.succeeds, rfl⟩

theorem settled_of_fileReturn {file : String} {result : Except PyExc (Bool × String)}
    {t : Bool × String × String} (h : fileReturn file result = .ok t) : Settled result := by
  rintro e rfl
  simp only [fileReturn] at h
  split at h
  · next hcaught => exact hcaught
  · cases h

/-- **Failure isolation.** A sequential run without stop on error, over
algorithms that can be set up and finalized, returns counts that cover every file
exactly if no file's result leaves its run as an exception. -/
theorem runChain_sequential_isolates_iff (hseq : cfg.useMultiProcessing = false)
    (hstop : cfg.stopOnError = false) {algs : List String} {bp : Option String}
    (hbp : isGiven bp = false) (hall : ∀ alg ∈ algs, Constructible cfg env alg)
    (hfin : ∀ cls ∈ algClasses cfg env algs, ∀ stage, cls.finalize stage = none)
    (live files : List String) :
    (runChain cfg env live files algs bp).Counted files.length ↔
      ∀ job ∈ files.zipIdx, Settled (fileResult cfg env (algClasses cfg env algs) job.1 job.2) := by
  constructor
  · rintro ⟨success, errors, skipped, hout⟩ job hjob
    have hthrough := (constructible_throughBreakpoint_iff hbp algs).mpr hall
    obtain ⟨hcons, hr⟩ := runChain_ready live files hthrough
    rw [throughBreakpoint_of_not_given hbp algs hthrough] at hcons
    generalize constructAlgorithms cfg env bp algs [] [] ⟨live, []⟩ = s at hcons hr
    simp only [runFiles, hseq, Bool.false_eq_true, if_false] at hr
    rw [hr] at hout
    obtain ⟨hraised, hcount⟩ := finishRun_counted hout
    obtain ⟨t, ht⟩ := runSequential_all_return hseq hstop hcons.prepared s.store files.zipIdx
      ⟨0, 0, 0⟩ "" hraised (by rw [hcount]; simp) job hjob
    unfold runJob at ht
    rw [runChainOnSingleFile_sequential env hseq bp job.2 hbp hcons.prepared, hcons.classes] at ht
    exact settled_of_fileReturn ht
  · intro hsettled
    have hex : ∀ job : String × Nat, ∃ o : FileOutcome, job ∈ files.zipIdx →
        fileResult cfg env (algClasses cfg env algs) job.1 job.2 = o.result := by
      intro job
      by_cases hjob : job ∈ files.zipIdx
      · obtain ⟨o, ho⟩ := (hsettled job hjob).outcome
        exact ⟨o, fun _ => ho⟩
      · exact ⟨.succeeds, fun h => absurd h hjob⟩
    -- the accounting wants an outcome for any file, in the list or not
    choose outcome houtcome using hex
    have hrun : (runChain cfg env live files algs bp).outcome = _ :=
      runChain_sequential_outcome hbp hall hfin (fun job hjob => houtcome job hjob) hseq hstop
    have hlen : (files.zipIdx.map (fun job => (outcome job).reported job.1)).length =
        files.length := by simp
    unfold ChainRun.Counted
    rw [hrun, ← hlen]
    exact ⟨_, _, _, rfl⟩

end

end Clev2er.RunChain
