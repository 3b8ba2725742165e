import Clev2er.RunChain.Files

/-!
# Shared memory segments over a run

With shared memory on, only the second set of algorithm objects creates
segments, and only while set-up is going on; the children load nothing but
private copies. Two consequences:

* `runChain_unlinks_iff`: which of the ways through set-up leave a segment
  behind. Set-up that stops at an import or an ordinary construction does not
  clean up at all, and set-up that stops at a shared memory construction cleans
  up for the objects it has registered, not for the one under construction.
* `runChain_shares_iff`: the segments are there, and no child ever attaches to
  them.
-/

namespace Clev2er.RunChain

section

variable {D : Type} {cfg : ChainConfig} {env : Env D}

/-! ## The end of a run -/

/-- Every segment created during the run has been unlinked. -/
def ChainRun.Unlinked (r : ChainRun D) : Prop :=
  ∀ seg ∈ r.store.created, seg ∉ r.store.live

/-- The segments after a completed run that returns: the shared memory objects
have cleaned up, and the ordinary ones own nothing. -/
theorem finishRun_store {s : SetUp D} {r : FilesRun D} {t : Bool × Nat × Nat × Nat × String}
    (hret : (finishRun s r).outcome = .ok t) (hinit : ∀ obj ∈ s.shmObjs, obj.initialized = true)
    (howns : ∀ obj ∈ r.objs, ∀ h ∈ obj.handles, h.owns = none) :
    (finishRun s r).store = cleanUpAll (s.shmObjs.flatMap AlgObj.handles) r.store := by
  have hfst := finalizeAll_fst .sharedMem s.shmObjs r.store
  have hsnd := finalizeAll_snd .sharedMem s.shmObjs r.store
  have hfilter : s.shmObjs.filter AlgObj.initialized = s.shmObjs :=
    List.filter_eq_self.mpr hinit
  rw [hfilter] at hsnd
  unfold finishRun at hret ⊢
  split at hret
  · cases hret
  · split at hret
    · cases hret
    · next store hfin =>
      rw [hfin] at hfst hsnd
      have hmain := finalizeAll_of_owns_none .main store howns
      split at hret
      · cases hret
      · next store' hfin' =>
        rw [hfin'] at hmain
        exact hmain.trans (hsnd hfst.symm)

/-! ## Where set-up stops -/

theorem split_unique {α : Type} {p : α → Prop} {a a' : α} {post post' : List α} :
    ∀ {pre pre' : List α}, pre ++ a :: post = pre' ++ a' :: post' →
      (∀ x ∈ pre, p x) → (∀ x ∈ pre', p x) → ¬ p a → ¬ p a' → pre = pre' ∧ a = a'
  | [], [], h, _, _, _, _ => ⟨rfl, (List.cons.inj h).1⟩
  | [], x :: pre', h, _, hpre', ha, _ =>
      absurd ((List.cons.inj h).1 ▸ hpre' x List.mem_cons_self) ha
  | x :: pre, [], h, hpre, _, _, ha' =>
      absurd ((List.cons.inj h).1 ▸ hpre x List.mem_cons_self) ha'
  | x :: pre, y :: pre', h, hpre, hpre', ha, ha' => by
      obtain ⟨rfl, htail⟩ := List.cons.inj h
      obtain ⟨rfl, rfl⟩ := split_unique htail (fun z hz => hpre z (List.mem_cons_of_mem _ hz))
        (fun z hz => hpre' z (List.mem_cons_of_mem _ hz)) ha ha'
      exact ⟨rfl, rfl⟩

variable (cfg env)

/-- Nothing that set-up has created is left behind at the algorithm where it
stops, if it stops. At an import or an ordinary construction: every segment of
the algorithms before it was there already. At a shared memory construction:
every segment that construction loads was there already, or belongs to an
algorithm before it. -/
def StopsClean (live algs : List String) (bp : Option String) : Prop :=
  ∀ pre alg post, algs = pre ++ alg :: post →
    (∀ a ∈ pre, Constructible cfg env a ∧ some a ≠ bp) →
    (FailsPlain cfg env alg → ∀ seg ∈ shmSegments cfg env pre, seg ∈ live) ∧
    (∀ cls e, FailsShared cfg env alg cls e →
      ∀ seg ∈ segmentsOf env.hashName (shmLoads cls),
        seg ∈ live ∨ seg ∈ shmSegments cfg env pre)

variable {cfg env}

theorem FailsPlain.not_constructible {alg : String} (h : FailsPlain cfg env alg) :
    ¬ Constructible cfg env alg := by
  rintro ⟨cls, himp, hord, -⟩
  exact h cls himp hord

theorem FailsShared.not_constructible {alg : String} {cls : AlgClass D} {e : PyExc}
    (h : FailsShared cfg env alg cls e) : ¬ Constructible cfg env alg := by
  rintro ⟨cls', himp, -, hshm⟩
  obtain ⟨himp', -, huses, hnew⟩ := h
  rw [himp] at himp'
  obtain rfl := Except.ok.inj himp'
  rw [hshm huses] at hnew
  cases hnew

/-- A completed set-up stops nowhere. -/
theorem stopsClean_of_ready {live algs : List String} {bp : Option String}
    (h : ∀ alg ∈ throughBreakpoint bp algs, Constructible cfg env alg) :
    StopsClean cfg env live algs bp := by
  rintro pre alg post rfl hpre
  have halg := h alg (mem_throughBreakpoint (fun a ha => (hpre a ha).2))
  exact ⟨fun hplain => absurd halg hplain.not_constructible,
    fun cls e hshared => absurd halg hshared.not_constructible⟩

/-- At the place where set-up stops, the condition is about that place only. -/
theorem stopsClean_iff {live pre post : List String} {alg : String} {bp : Option String}
    (hpre : ∀ a ∈ pre, Constructible cfg env a ∧ some a ≠ bp)
    (halg : ¬ Constructible cfg env alg) :
    StopsClean cfg env live (pre ++ alg :: post) bp ↔
      (FailsPlain cfg env alg → ∀ seg ∈ shmSegments cfg env pre, seg ∈ live) ∧
      (∀ cls e, FailsShared cfg env alg cls e →
        ∀ seg ∈ segmentsOf env.hashName (shmLoads cls),
          seg ∈ live ∨ seg ∈ shmSegments cfg env pre) := by
  constructor
  · intro h
    exact h pre alg post rfl hpre
  · intro h pre' alg' post' heq hpre'
    by_cases halg' : Constructible cfg env alg'
    · exact ⟨fun hplain => absurd halg' hplain.not_constructible,
        fun cls e hshared => absurd halg' hshared.not_constructible⟩
    · obtain ⟨rfl, rfl⟩ := split_unique heq (fun a ha => (hpre a ha).1)
        (fun a ha => (hpre' a ha).1) halg halg'
      exact h

/-- Nothing has been created exactly if every segment loaded was there before. -/
theorem Constructed.unlinked_iff {live algs : List String} {objs shmObjs : List (AlgObj D)}
    {store : Store} (h : Constructed cfg env live algs objs shmObjs store) :
    (∀ seg ∈ store.created, seg ∉ store.live) ↔
      ∀ seg ∈ shmSegments cfg env algs, seg ∈ live := by
  constructor
  · intro hnone seg hseg
    have hlive : seg ∈ store.live := (h.live_iff seg).mpr (Or.inr hseg)
    rcases (h.loaded.live_iff seg).mp hlive with hold | hcreated
    · exact hold
    · exact absurd hlive (hnone seg hcreated)
  · intro hall seg hcreated hlive
    rcases (h.live_iff seg).mp hlive with hold | hseg
    · exact h.loaded.created_new seg hcreated hold
    · exact h.loaded.created_new seg hcreated (hall seg hseg)

/-! ## No segment outlives the run -/

section Unlink

variable {live files algs : List String} {bp : Option String}
  {t : Bool × Nat × Nat × Nat × String}

/-- A run that gets past set-up and returns has unlinked everything. -/
theorem unlinked_of_ready (hmp : cfg.useMultiProcessing = true)
    (h : ∀ alg ∈ throughBreakpoint bp algs, Constructible cfg env alg)
    (hret : (runChain cfg env live files algs bp).outcome = .ok t) :
    (runChain cfg env live files algs bp).Unlinked := by
  obtain ⟨hcons, hr⟩ := runChain_ready live files h
  generalize constructAlgorithms cfg env bp algs [] [] ⟨live, []⟩ = s at hcons hr
  have hfiles : (runFiles cfg env bp s.objs files s.store).objs = s.objs ∧
      (runFiles cfg env bp s.objs files s.store).store = s.store := by
    unfold runFiles runMultiProcessing
    rw [if_pos hmp]
    split
    · exact ⟨rfl, rfl⟩
    · split
      · exact ⟨rfl, rfl⟩
      · rw [runChunks_eq env bp hcons.prepared]
        exact ⟨rfl, rfl⟩
  rw [hr] at hret ⊢
  have howns : ∀ obj ∈ (runFiles cfg env bp s.objs files s.store).objs,
      ∀ h ∈ obj.handles, h.owns = none := by
    rw [hfiles.1]
    exact fun obj hobj => (hcons.prepared obj hobj).owns_none
  unfold ChainRun.Unlinked
  rw [finishRun_store hret hcons.shm_initialized howns, hfiles.2, created_cleanUpAll]
  exact hcons.loaded.cleanUpAll_unlinks

/-- A run that set-up ends has unlinked everything exactly if set-up stops
clean. -/
theorem unlinked_iff_of_not_ready
    (h : ¬ ∀ alg ∈ throughBreakpoint bp algs, Constructible cfg env alg)
    (hret : (runChain cfg env live files algs bp).outcome = .ok t) :
    (runChain cfg env live files algs bp).Unlinked ↔ StopsClean cfg env live algs bp := by
  rcases runChain_not_ready live files h with ⟨e, hr⟩ | ⟨hout, hr⟩
  · rw [hr] at hret
    cases hret
  · rcases constructAlgorithms_cases cfg env bp algs (Constructed.start cfg env live) with
      ⟨hall, -, -⟩ | ⟨pre, alg, post, rfl, hpre, hstop⟩
    · exact absurd hall h
    · have hnot := not_constructible_of_stopsAt hstop
      rw [stopsClean_iff hpre hnot, hr]
      unfold ChainRun.Unlinked
      obtain ⟨objs, shmObjs, store, hcons, -, ⟨hplain, hstore⟩ | ⟨cls, e, hshared, hfin⟩⟩ := hstop
      -- the ordinary object cannot be built: nothing built before is finalized
      · rw [List.nil_append] at hcons
        have hnoShared : ∀ cls e, ¬ FailsShared cfg env alg cls e :=
          fun cls e hs => hplain cls hs.1 hs.2.1
        simp only [hstore]
        rw [hcons.unlinked_iff]
        exact ⟨fun hseg => ⟨fun _ => hseg, fun cls e hs => absurd hs (hnoShared cls e)⟩,
          fun hboth => hboth.1 hplain⟩
      -- the shared object cannot be built: those before it are finalized, and it has loaded already
      · rw [List.nil_append] at hcons
        obtain ⟨hraise, hstore⟩ := hfin hout
        have hinit : shmObjs.filter AlgObj.initialized = shmObjs :=
          List.filter_eq_self.mpr hcons.shm_initialized
        rw [finalizeAll_snd .setupFailed shmObjs _ hraise, hinit] at hstore
        have hnoPlain : ¬ FailsPlain cfg env alg := fun hp => hp cls hshared.1 hshared.2.1
        have hload := hcons.loaded.loadAll env.hashName (shmLoads cls)
        simp only [hstore, created_cleanUpAll]
        rw [hload.cleanUpAll_unlinks_iff, hcons.loaded.loadAll_owns_none_iff env.hashName]
        constructor
        · intro hseg
          refine ⟨fun hp => absurd hp hnoPlain, ?_⟩
          intro cls' e' hs seg hmem
          obtain rfl : cls' = cls := Except.ok.inj (hs.1.symm.trans hshared.1)
          exact (hcons.live_iff seg).mp (hseg seg hmem)
        · rintro ⟨-, hseg⟩ seg hmem
          exact (hcons.live_iff seg).mpr (hseg cls e hshared seg hmem)

/-- **When no segment outlives the run.** With multi-processing and shared memory
on, a run that returns has unlinked every segment it created exactly if set-up
is completed or stops clean. -/
theorem runChain_unlinks_iff (hmp : cfg.useMultiProcessing = true)
    (hret : (runChain cfg env live files algs bp).outcome = .ok t) :
    (runChain cfg env live files algs bp).Unlinked ↔ StopsClean cfg env live algs bp := by
  by_cases h : ∀ alg ∈ throughBreakpoint bp algs, Constructible cfg env alg
  · exact iff_of_true (unlinked_of_ready hmp h hret) (stopsClean_of_ready h)
  · exact unlinked_iff_of_not_ready h hret

end Unlink

/-! ## No child attaches -/

/-- Every DEM and mask a child constructs under a name the parent has created a
segment for is attached to that segment. -/
def ChainRun.Shares (env : Env D) (r : ChainRun D) : Prop :=
  ∀ f ∈ r.files, ∀ h ∈ f.loaded, ∀ seg, h.resource.segment env.hashName = some seg →
    seg ∈ r.setUp.store.created → h.sharedMem = some seg ∧ h.sharedMemChild = true

variable (cfg) in
/-- What the algorithms load on a file in a child: the loads of every `init()`
that is reached before an algorithm fails or the breakpoint. -/
def childLoads (bp : Option String) (filenum : Nat) :
    List (String × AlgClass D) → D → List Resource
  | [], _ => []
  | (alg, cls) :: rest, dict =>
      (cls.init (.child filenum)).loads ++
      match processResult cfg cls filenum dict with
      | (dict', .ok (true, _)) =>
          if isBreakpoint bp (moduleName cfg alg) then [] else childLoads bp filenum rest dict'
      | _ => []

variable (cfg env) in
/-- What a child loads for a file, which it has to open first. -/
def fileLoads (bp : Option String) (algs : List String) (file : String) (filenum : Nat) :
    List Resource :=
  if (env.openDataset file).isSome then []
  else childLoads cfg bp filenum (algs.zip (algClasses cfg env algs)) (env.newDict file)

/-- **What a child constructs** are private copies of what the algorithms load. -/
theorem runAlgorithms_loaded (hmp : cfg.useMultiProcessing = true) (bp : Option String)
    (filenum : Nat) {objs : List (AlgObj D)} (hobjs : ∀ obj ∈ objs, Prepared cfg obj) (dict : D)
    (store : Store) :
    (runAlgorithms cfg env bp filenum objs dict store).loaded =
      (childLoads cfg bp filenum (objs.map (fun obj => (obj.alg, obj.cls))) dict).map
        (fun r => ⟨r, false, none, false⟩) := by
  induction objs generalizing dict store with
  | nil => rfl
  | cons obj rest ih =>
      have hobj := hobjs obj List.mem_cons_self
      have hrest : ∀ o ∈ rest, Prepared cfg o := fun o ho => hobjs o (List.mem_cons_of_mem _ ho)
      obtain ⟨hresult, hdict, hstore, -, -, hname⟩ := process_spec env.hashName hobj filenum dict store
      have hloaded : (obj.process cfg env.hashName filenum dict store).loaded =
          (obj.cls.init (.child filenum)).loads.map (fun r => ⟨r, false, none, false⟩) := by
        have hload := loadAll_private env.hashName (obj.cls.init (.child filenum)).loads store
        simp only [AlgObj.process, hmp, if_true, AlgObj.init, hobj.ordinary, hload]
        rcases (obj.cls.init (.child filenum)).result with e | ⟨_ | _, msg⟩ <;> rfl
      rw [runAlgorithms, List.map_cons, childLoads]
      simp only [hresult, hdict, hstore, hname, hloaded]
      rcases processResult cfg obj.cls filenum dict with ⟨dict', result⟩
      rcases result with e | ⟨ok, errorStr⟩
      · simp
      · cases ok with
        | false => simp
        | true =>
            by_cases hbp : isBreakpoint bp (moduleName cfg obj.alg) = true
            · simp only [hbp, if_true]
              split <;> simp
            · simp only [hbp, ih hrest dict' store, List.map_append]
              rfl

theorem runJob_loaded (hmp : cfg.useMultiProcessing = true) {live algs : List String}
    {objs shmObjs : List (AlgObj D)} {store : Store}
    (hcons : Constructed cfg env live algs objs shmObjs store) (bp : Option String)
    (job : String × Nat) :
    (runJob env cfg bp objs store job).loaded =
      (fileLoads cfg env bp algs job.1 job.2).map (fun r => ⟨r, false, none, false⟩) := by
  obtain ⟨-, hloop, -⟩ := runChainOnSingleFile_parts env bp hcons.prepared store job.1 job.2
  have hzip : objs.map (fun obj => (obj.alg, obj.cls)) = algs.zip (algClasses cfg env algs) := by
    rw [← hcons.classes, ← hcons.algs_eq]
    exact List.zip_map'.symm
  unfold FileRun.loaded fileLoads
  simp only [runJob, hloop]
  cases env.openDataset job.1 with
  | some e => rfl
  | none =>
      simp only [Option.isSome_none, Bool.false_eq_true, if_false]
      rw [runAlgorithms_loaded hmp bp job.2 hcons.prepared, hzip]

/-- The segments the parent has created: those of the shared memory objects that
were not there before. -/
theorem Constructed.mem_created_iff {live algs : List String} {objs shmObjs : List (AlgObj D)}
    {store : Store} (h : Constructed cfg env live algs objs shmObjs store) (seg : String) :
    seg ∈ store.created ↔ seg ∈ shmSegments cfg env algs ∧ seg ∉ live := by
  constructor
  · intro hseg
    have hnew := h.loaded.created_new seg hseg
    rcases (h.live_iff seg).mp ((h.loaded.live_iff seg).mpr (Or.inr hseg)) with hold | hshm
    · exact absurd hold hnew
    · exact ⟨hshm, hnew⟩
  · rintro ⟨hshm, hnew⟩
    rcases (h.loaded.live_iff seg).mp ((h.live_iff seg).mpr (Or.inr hshm)) with hold | hcreated
    · exact absurd hold hnew
    · exact hcreated

/-- **When the children share.** With multi-processing on, every DEM and mask a
child constructs under a name the parent has created a segment for is attached
to it exactly if, after a completed set-up, no child constructs any such DEM or
mask. -/
theorem runChain_shares_iff (hmp : cfg.useMultiProcessing = true) (hmax : 1 ≤ cfg.maxProcesses)
    (live : List String) {files : List String} (algs : List String) (hfiles : files ≠ [])
    (bp : Option String) :
    (runChain cfg env live files algs bp).Shares env ↔
      ((∀ alg ∈ throughBreakpoint bp algs, Constructible cfg env alg) →
        ∀ job ∈ files.zipIdx,
          ∀ r ∈ fileLoads cfg env bp (throughBreakpoint bp algs) job.1 job.2,
            ∀ seg, r.segment env.hashName = some seg →
              ¬ (seg ∈ shmSegments cfg env (throughBreakpoint bp algs) ∧ seg ∉ live)) := by
  by_cases h : ∀ alg ∈ throughBreakpoint bp algs, Constructible cfg env alg
  · obtain ⟨hcons, hr⟩ := runChain_multiProcessing_eq env bp hmp hfiles hmax live h
    generalize constructAlgorithms cfg env bp algs [] [] ⟨live, []⟩ = s at hcons hr
    unfold ChainRun.Shares
    rw [hr, finishRun_files, finishRun_setUp]
    constructor
    · intro hshares _ job hjob r hmem seg hseg hcreated
      have hloaded : (⟨r, false, none, false⟩ : Handle) ∈
          (runJob env cfg bp s.objs s.store job).loaded := by
        rw [runJob_loaded hmp hcons bp job]
        exact List.mem_map_of_mem hmem
      obtain ⟨hattached, -⟩ := hshares _ (List.mem_map_of_mem hjob) _ hloaded seg hseg
        ((hcons.mem_created_iff seg).mpr hcreated)
      cases hattached
    · intro hnone f hf handle hhandle seg hseg hcreated
      obtain ⟨job, hjob, rfl⟩ := List.mem_map.mp hf
      rw [runJob_loaded hmp hcons bp job] at hhandle
      obtain ⟨r, hmem, rfl⟩ := List.mem_map.mp hhandle
      exact absurd ((hcons.mem_created_iff seg).mp hcreated) (hnone h job hjob r hmem seg hseg)
  · -- no child is started
    refine iff_of_true ?_ (fun hall => absurd hall h)
    intro f hf
    rcases runChain_not_ready live files h with ⟨e, hr⟩ | ⟨-, hr⟩
    · rw [hr] at hf
      cases hf
    · rw [hr] at hf
      cases hf

end

/-! ## A chain with a DEM -/

/-- A multi-processing configuration with shared memory. -/
def sharedProcesses : ChainConfig := ⟨"testchain", true, true, 2, false, none⟩

/-- A class that loads some resources wherever it is initialized, and whose
initialization of the shared memory object comes to `result`. -/
def loadingClass (loads : List Resource) (result : Except PyExc (Bool × String)) :
    AlgClass Unit where
  construct _ := none
  init ctx := ⟨loads, match ctx with
    | .sharedMem => result
    | _ => .ok (true, "")⟩
  body _ dict := (dict, .ok (true, ""))
  finalize _ := none

/-- A DEM algorithm, a mask algorithm whose shared memory object cannot be
initialized after one of its masks is loaded, and nothing else to import. -/
def demEnv : Env Unit where
  modules alg :=
    if alg = "alg_ref_dem" then
      .ok (loadingClass [.dem "rema_ant_1km" true] (.ok (true, "")))
    else if alg = "alg_basin_ids" then
      .ok (loadingClass [.mask "zwally" true] (.error ⟨.osError, "mask file does not exist"⟩))
    else
      .error ⟨.importError, "No module named " ++ alg⟩
  openDataset _ := none
  hashName name := name
  newDict _ := ()
  l1bFileName _ := none
  createNetcdfFile _ _ := none

theorem runChain_unlinks_iff_refDem :
    (runChain sharedProcesses demEnv [] ["a.nc", "b.nc", "c.nc"] ["alg_ref_dem"] none).Unlinked := by
  refine (runChain_unlinks_iff (t := (true, 0, 3, 0, "")) rfl rfl).mpr ?_
  apply stopsClean_of_ready
  intro alg halg
  obtain rfl := List.mem_singleton.mp halg
  exact ⟨_, rfl, rfl, fun _ => rfl⟩

/-- An import that fails after a DEM is in shared memory leaves its segment
behind, and so does a shared memory construction that fails after its first
mask. -/
theorem runChain_leaves_segments :
    (let r := runChain sharedProcesses demEnv [] ["a.nc"] ["alg_ref_dem", "alg_absent"] none;
      r.outcome = .ok (false, 1, 0, 0, "") ∧ "rema_ant_1km" ∈ r.store.created ∧ ¬ r.Unlinked) ∧
    (let r := runChain sharedProcesses demEnv [] ["a.nc"] ["alg_basin_ids"] none;
      r.outcome = .ok (false, 1, 0, 0, "") ∧ "zwally" ∈ r.store.created ∧ ¬ r.Unlinked) := by
  refine ⟨⟨rfl, List.mem_cons_self, ?_⟩, rfl, List.mem_cons_self, ?_⟩
  · intro h
    exact h "rema_ant_1km" List.mem_cons_self List.mem_cons_self
  · intro h
    exact h "zwally" List.mem_cons_self List.mem_cons_self

theorem runChain_shares_iff_noneLoaded :
    (runChain sharedProcesses demEnv ["rema_ant_1km"] ["a.nc"] ["alg_ref_dem"] none).Shares
      demEnv := by
  refine (runChain_shares_iff rfl (by decide) ["rema_ant_1km"] ["alg_ref_dem"] (by decide)
    none).mpr ?_
  rintro - job - r - seg - ⟨hshm, hnew⟩
  exact hnew hshm

/-- The parent has created the segment of the DEM, and the child has loaded its
own copy. -/
theorem runChain_child_loads_copy :
    let r := runChain sharedProcesses demEnv [] ["a.nc"] ["alg_ref_dem"] none
    r.setUp.store.created = ["rema_ant_1km"] ∧
    r.files.map FileRun.loaded = [[⟨.dem "rema_ant_1km" true, false, none, false⟩]] ∧
    ¬ r.Shares demEnv := by
  intro r
  have hcreated : r.setUp.store.created = ["rema_ant_1km"] := rfl
  have hfiles : r.files.map FileRun.loaded =
      [[⟨.dem "rema_ant_1km" true, false, none, false⟩]] := rfl
  refine ⟨hcreated, hfiles, ?_⟩
  intro h
  have hmem : ∃ f ∈ r.files, f.loaded = [⟨.dem "rema_ant_1km" true, false, none, false⟩] :=
    List.mem_map.mp (hfiles ▸ List.mem_singleton.mpr rfl)
  obtain ⟨f, hf, hloaded⟩ := hmem
  have hhandle : (⟨.dem "rema_ant_1km" true, false, none, false⟩ : Handle) ∈ f.loaded :=
    hloaded ▸ List.mem_singleton.mpr rfl
  obtain ⟨hattached, -⟩ := h f hf _ hhandle "rema_ant_1km" rfl (hcreated ▸ List.mem_cons_self)
  cases hattached

end Clev2er.RunChain
