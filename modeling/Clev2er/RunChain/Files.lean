import Clev2er.RunChain.SetUp

/-!
# The run over the files

With objects as set-up constructs them, no child and no sequential call changes
the segments, so a run over the files is the run of each file on its own: the
chunks put together are the file list with its indices (`fileChunks_flatten`),
and the counters are a fold over the results in that order
(`runMultiProcessing_eq`). The sequential loop is unrolled by
`runSequential_ok`.
-/

namespace Clev2er.RunChain

open Clev2er.Lib

section

variable {D : Type} {cfg : ChainConfig} (env : Env D) (bp : Option String)
  {objs : List (AlgObj D)}

/-! ## Chunks -/

/-- **One child per file, with the index of the file in the file list.** -/
theorem fileChunks_flatten {files : List String} (hfiles : files ≠ [])
    (hmax : 0 < cfg.maxProcesses) : (fileChunks cfg files).flatten = files.zipIdx := by
  have hpos : 0 < ceilDiv files.length cfg.maxProcesses := ceilDiv_pos hfiles hmax
  unfold fileChunks
  rw [← List.map_flatten, arraySplit_flatten hpos]
  apply List.ext_getElem
  · simp
  · intro i hi hj
    simp only [List.length_map, List.length_range] at hi
    simp [hi]

/-- A chunk of files comes from a section of the indices. -/
theorem mem_fileChunks {files : List String} {chunk : List (String × Nat)}
    (hchunk : chunk ∈ fileChunks cfg files) :
    ∃ indices ∈ arraySplit (ceilDiv (List.range files.length).length cfg.maxProcesses)
      (List.range files.length), chunk.length = indices.length := by
  obtain ⟨indices, hmem, rfl⟩ := List.mem_map.mp hchunk
  refine ⟨indices, ?_, List.length_map _⟩
  rwa [List.length_range]

theorem range_ne_nil {files : List String} (hfiles : files ≠ []) :
    List.range files.length ≠ [] := by
  intro h
  exact hfiles (List.eq_nil_of_length_eq_zero (List.range_eq_nil.mp h))

/-- **No chunk is empty, and none has more files than processes are allowed.** -/
theorem fileChunks_length {files : List String} (hfiles : files ≠ [])
    (hmax : 0 < cfg.maxProcesses) {chunk : List (String × Nat)}
    (hchunk : chunk ∈ fileChunks cfg files) :
    chunk ≠ [] ∧ chunk.length ≤ cfg.maxProcesses := by
  obtain ⟨indices, hmem, hlen⟩ := mem_fileChunks hchunk
  have hne := arraySplit_ceilDiv_ne_nil (range_ne_nil hfiles) hmax hmem
  have hle := arraySplit_ceilDiv_length_le (range_ne_nil hfiles) hmax hmem
  refine ⟨?_, hlen ▸ hle⟩
  rintro rfl
  exact hne (List.eq_nil_of_length_eq_zero hlen.symm)

/-! ## Multi-processing -/

/-- The run of one file. -/
def runJob (cfg : ChainConfig) (bp : Option String) (objs : List (AlgObj D)) (store : Store)
    (job : String × Nat) : FileRun D :=
  runChainOnSingleFile cfg env bp objs store job.1 job.2

section MultiProcessing

variable (hobjs : ∀ obj ∈ objs, Prepared cfg obj)

include hobjs

theorem runChildren_eq (store : Store) : ∀ jobs : List (String × Nat),
    runChildren cfg env bp objs jobs store = (jobs.map (runJob env cfg bp objs store), store)
  | [] => rfl
  | (file, filenum) :: jobs => by
      obtain ⟨hstore, -⟩ := runChainOnSingleFile_parts env bp hobjs store file filenum
      rw [runChildren]
      simp only [hstore, runChildren_eq store jobs]
      rfl

theorem runChunks_eq (store : Store) : ∀ (chunks : List (List (String × Nat))) (counts : Counts),
    let runs := chunks.flatten.map (runJob env cfg bp objs store)
    runChunks cfg env bp objs chunks store counts =
      ⟨runs, objs, store, (runs.flatMap FileRun.queued).foldl countResult counts, "", none⟩
  | [], counts => rfl
  | chunk :: chunks, counts => by
      intro runs
      rw [runChunks]
      simp only [runChildren_eq env bp hobjs, runChunks_eq store chunks, runs]
      simp [List.flatMap_append, List.foldl_append]

/-- **The multi-processing branch**: the files' own runs, and their results
counted in order. -/
theorem runMultiProcessing_eq {files : List String} (hfiles : files ≠ [])
    (hmax : 0 < cfg.maxProcesses) (store : Store) :
    let runs := files.zipIdx.map (runJob env cfg bp objs store)
    runMultiProcessing cfg env bp objs files store =
      ⟨runs, objs, store, (runs.flatMap FileRun.queued).foldl countResult ⟨0, 0, 0⟩, "", none⟩ := by
  intro runs
  unfold runMultiProcessing
  rw [if_neg (Nat.ne_of_gt hmax), if_neg hfiles]
  rw [runChunks_eq env bp hobjs, fileChunks_flatten hfiles hmax]

end MultiProcessing

/-- **A multi-processing run after set-up**, whatever the breakpoint. -/
theorem runChain_multiProcessing_eq (hmp : cfg.useMultiProcessing = true)
    {files algs : List String} (hfiles : files ≠ []) (hmax : 0 < cfg.maxProcesses)
    (live : List String) (h : ∀ alg ∈ throughBreakpoint bp algs, Constructible cfg env alg) :
    let s := constructAlgorithms cfg env bp algs [] [] ⟨live, []⟩
    let runs := files.zipIdx.map (runJob env cfg bp s.objs s.store)
    Constructed cfg env live (throughBreakpoint bp algs) s.objs s.shmObjs s.store ∧
    runChain cfg env live files algs bp = finishRun s ⟨runs, s.objs, s.store,
      (runs.flatMap FileRun.queued).foldl countResult ⟨0, 0, 0⟩, "", none⟩ := by
  intro s runs
  obtain ⟨hcons, hr⟩ := runChain_ready live files h
  refine ⟨hcons, ?_⟩
  rw [hr, ← runMultiProcessing_eq env bp hcons.prepared hfiles hmax s.store]
  unfold runFiles
  rw [if_pos hmp]

/-! ## Sequential processing -/

section Sequential

variable (hseq : cfg.useMultiProcessing = false) (hobjs : ∀ obj ∈ objs, Prepared cfg obj)

include hseq hobjs

theorem runJob_sequential (store : Store) (job : String × Nat) :
    (runJob env cfg bp objs store job).objs = objs ∧
    (runJob env cfg bp objs store job).store = store := by
  obtain ⟨hstore, -, hobjs'⟩ := runChainOnSingleFile_parts env bp hobjs store job.1 job.2
  refine ⟨?_, hstore⟩
  unfold runJob
  rw [hobjs']
  split
  · rfl
  · exact runAlgorithms_objs_sequential env hseq bp job.2 objs _ store

/-- The sequential loop keeps the objects and the segments, and runs files of
the list, each as on its own. -/
theorem runSequential_parts (store : Store) : ∀ (jobs : List (String × Nat)) (counts : Counts)
    (bpFilename : String),
    let r := runSequential cfg env bp jobs objs store counts bpFilename
    r.objs = objs ∧ r.store = store ∧
    ∃ done, done <+: jobs ∧ r.files = done.map (runJob env cfg bp objs store)
  | [], counts, bpFilename => ⟨rfl, rfl, [], List.nil_prefix, rfl⟩
  | (file, fnum) :: jobs, counts, bpFilename => by
      intro r
      obtain ⟨ho, hs⟩ := runJob_sequential env bp hseq hobjs store (file, fnum)
      simp only [runJob] at ho hs
      -- whatever the counts are, the rest of the loop goes on with the same objects
      have hnext : ∀ counts' bpFilename',
          let r := runSequential cfg env bp jobs objs store counts' bpFilename'
          r.objs = objs ∧ r.store = store ∧
          ∃ done, done <+: (file, fnum) :: jobs ∧
            runChainOnSingleFile cfg env bp objs store file fnum :: r.files =
              done.map (runJob env cfg bp objs store) := by
        intro counts' bpFilename' r
        obtain ⟨hro, hrs, done, hdone, hfiles⟩ :=
          runSequential_parts store jobs counts' bpFilename'
        refine ⟨hro, hrs, (file, fnum) :: done, ?_, ?_⟩
        · exact (List.prefix_cons_inj _).mpr hdone
        · exact congrArg _ hfiles
      have hlast : ∃ done, done <+: (file, fnum) :: jobs ∧
          [runChainOnSingleFile cfg env bp objs store file fnum] =
            done.map (runJob env cfg bp objs store) :=
        ⟨[(file, fnum)], (List.prefix_cons_inj _).mpr List.nil_prefix, rfl⟩
      simp only [r, runSequential, ho, hs]
      split
      · exact ⟨rfl, rfl, hlast⟩
      · split
        · exact hnext _ _
        · split
          · split
            · exact ⟨rfl, rfl, hlast⟩
            · exact hnext _ _
          · exact hnext _ _

/-- **The sequential loop** where no exception leaves a file and errors do not
stop it: the results are counted as they come. -/
theorem runSequential_ok (hstop : cfg.stopOnError = false) (store : Store)
    (results : String × Nat → Bool × String) :
    ∀ (jobs : List (String × Nat)) (counts : Counts),
    (∀ job ∈ jobs, (runJob env cfg bp objs store job).outcome =
      .ok ((results job).1, (results job).2, "") ∧
      ((results job).1 = true → isIn "SKIP_OK" (results job).2 = false)) →
    let r := runSequential cfg env bp jobs objs store counts ""
    r.raised = none ∧ r.bpFilename = "" ∧
      r.counts = (jobs.map results).foldl countResult counts
  | [], counts, _ => ⟨rfl, rfl, rfl⟩
  | (file, fnum) :: jobs, counts, hall => by
      intro r
      obtain ⟨ho, hs⟩ := runJob_sequential env bp hseq hobjs store (file, fnum)
      obtain ⟨hout, hskip⟩ := hall (file, fnum) List.mem_cons_self
      simp only [runJob] at ho hs hout
      have ih := fun counts' => runSequential_ok hstop store results jobs counts'
        (fun job hjob => hall job (List.mem_cons_of_mem _ hjob))
      simp only [r, runSequential, ho, hs, hout, List.map_cons, List.foldl_cons, hstop]
      generalize results (file, fnum) = result at hskip
      obtain ⟨success, errorStr⟩ := result
      cases success with
      | true =>
          simp only [Bool.not_true, Bool.false_and, Bool.false_eq_true, if_false]
          have hcount : countResult counts (true, errorStr) =
              { counts with processed := counts.processed + 1 } := by
            simp [countResult, hskip rfl]
          rw [hcount]
          exact ih _
      | false =>
          cases hin : isIn "SKIP_OK" errorStr with
          | true =>
              simp only [Bool.not_false, Bool.and_self, if_true]
              have hcount : countResult counts (false, errorStr) =
                  ⟨counts.errors, counts.processed + 1, counts.skipped + 1⟩ := by
                simp [countResult, hin]
              rw [hcount]
              exact ih _
          | false =>
              simp only [Bool.not_false, Bool.and_false, Bool.false_eq_true, if_false, if_true]
              have hcount : countResult counts (false, errorStr) =
                  ⟨counts.errors + 1, counts.processed + 1, counts.skipped⟩ := by
                simp [countResult, hin]
              rw [hcount]
              exact ih _

end Sequential

/-! ## The end of the run -/

theorem finishRun_files (setUp : SetUp D) (r : FilesRun D) :
    (finishRun setUp r).files = r.files := by
  unfold finishRun
  split
  · rfl
  · split
    · rfl
    · split <;> rfl

theorem finishRun_setUp (setUp : SetUp D) (r : FilesRun D) :
    (finishRun setUp r).setUp = setUp := by
  unfold finishRun
  split
  · rfl
  · split
    · rfl
    · split <;> rfl

end

end Clev2er.RunChain
