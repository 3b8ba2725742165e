import Clev2er.RunChain.Behaviour

/-!
# Set-up

What `constructAlgorithms` leaves behind. Constructing an ordinary object never
touches the segments; constructing a shared memory object loads its resources
into them. `constructAlgorithms_ready` describes the two object lists when every
algorithm up to the breakpoint can be constructed, and
`constructAlgorithms_stops` the place where set-up stops otherwise.
-/

namespace Clev2er.RunChain

section

variable {D : Type} (cfg : ChainConfig) (env : Env D)

/-! ## One construction -/

/-- What constructing an object raises. -/
def newRaises (cls : AlgClass D) (initSharedMem : Bool) : Option PyExc :=
  match cls.construct initSharedMem with
  | some e => some e
  | none =>
      if cfg.useMultiProcessing && !(cfg.useSharedMemory && initSharedMem) then none
      else match (cls.init (if initSharedMem then .sharedMem else .main)).result with
        | .error e => some e
        | .ok _ => none

/-- The ordinary object of a class. -/
def ordinaryObject (cls : AlgClass D) (alg : String) : AlgObj D :=
  if cfg.useMultiProcessing then
    ⟨cls, alg, false, "clev2er.algorithms.base.base_alg", false, []⟩
  else
    ⟨cls, alg, false, moduleName cfg alg, true,
      (cls.init .main).loads.map (fun r => ⟨r, false, none, false⟩)⟩

/-- What constructing the shared memory object of a class loads. -/
def shmLoads (cls : AlgClass D) : List Resource :=
  match cls.construct true with
  | some _ => []
  | none => (cls.init .sharedMem).loads

/-- Both object lists are built. -/
def usesSharedMemory : Bool := cfg.useMultiProcessing && cfg.useSharedMemory

variable {cfg}

theorem new_ordinary (hashName : String → String) (cls : AlgClass D) (alg : String)
    (store : Store) :
    cls.new cfg hashName alg false store =
      (match newRaises cfg cls false with
        | some e => .error e
        | none => .ok (ordinaryObject cfg cls alg), store) := by
  unfold AlgClass.new newRaises ordinaryObject
  cases cls.construct false with
  | some e => rfl
  | none =>
      cases cfg.useMultiProcessing with
      | true => simp
      | false =>
          have hload := loadAll_private hashName (cls.init .main).loads store
          simp only [AlgObj.init, Bool.false_and, Bool.false_eq_true, if_false, hload]
          rcases (cls.init .main).result with e | r <;> rfl

theorem new_shared (hshm : usesSharedMemory cfg = true) (hashName : String → String)
    (cls : AlgClass D) (alg : String) (store : Store) :
    let loaded := loadAll hashName true (shmLoads cls) store
    cls.new cfg hashName alg true store =
      (match newRaises cfg cls true with
        | some e => .error e
        | none => .ok ⟨cls, alg, true, moduleName cfg alg, true, loaded.1⟩, loaded.2) := by
  intro loaded
  obtain ⟨hmp, hsm⟩ := Bool.and_eq_true_iff.mp hshm
  simp only [loaded, AlgClass.new, newRaises, shmLoads]
  cases cls.construct true with
  | some e => rfl
  | none =>
      simp only [hmp, hsm, Bool.and_self, Bool.not_true, Bool.and_false, Bool.false_eq_true,
        if_false, if_true, AlgObj.init]
      rcases (cls.init .sharedMem).result with e | r <;> rfl

theorem prepared_ordinaryObject {cls : AlgClass D} {alg : String}
    (hnamed : afterLast '.' alg ≠ "") : Prepared cfg (ordinaryObject cfg cls alg) := by
  unfold ordinaryObject
  cases hmp : cfg.useMultiProcessing with
  | true => exact ⟨rfl, hnamed, by simp [hmp], by simp [hmp], by simp⟩
  | false =>
      refine ⟨rfl, hnamed, by simp [hmp], fun _ => rfl, ?_⟩
      intro h hh
      obtain ⟨r, -, rfl⟩ := List.mem_map.mp hh
      rfl

@[simp] theorem ordinaryObject_cls (cls : AlgClass D) (alg : String) :
    (ordinaryObject cfg cls alg).cls = cls := by
  unfold ordinaryObject
  split <;> rfl

@[simp] theorem ordinaryObject_alg (cls : AlgClass D) (alg : String) :
    (ordinaryObject cfg cls alg).alg = alg := by
  unfold ordinaryObject
  split <;> rfl

/-! ## One round of the loop -/

variable (cfg)

/-- `run_chain` gets over the construction of an algorithm. -/
def Constructible (alg : String) : Prop :=
  ∃ cls, importModule cfg env alg = .ok cls ∧ newRaises cfg cls false = none ∧
    (usesSharedMemory cfg = true → newRaises cfg cls true = none)

/-- The algorithm can be imported and its ordinary object constructed, but not
its shared memory object. -/
def FailsShared (alg : String) (cls : AlgClass D) (e : PyExc) : Prop :=
  importModule cfg env alg = .ok cls ∧ newRaises cfg cls false = none ∧
    usesSharedMemory cfg = true ∧ newRaises cfg cls true = some e

/-- The import of the algorithm or the construction of its ordinary object
fails. -/
def FailsPlain (alg : String) : Prop :=
  ∀ cls, importModule cfg env alg = .ok cls → newRaises cfg cls false ≠ none

/-- The algorithms up to and including the breakpoint. -/
def throughBreakpoint (bp : Option String) : List String → List String
  | [] => []
  | alg :: rest => if some alg = bp then [alg] else alg :: throughBreakpoint bp rest

/-- The classes of some algorithms. -/
def algClasses (algs : List String) : List (AlgClass D) :=
  algs.filterMap (fun alg => (importModule cfg env alg).toOption)

/-- The three ways a round of the loop can go. -/
theorem constructible_or_fails (alg : String) :
    Constructible cfg env alg ∨ FailsPlain cfg env alg ∨
      ∃ cls e, FailsShared cfg env alg cls e := by
  rcases himp : importModule cfg env alg with e | cls
  · refine Or.inr (Or.inl ?_)
    intro cls hcls
    rw [himp] at hcls
    cases hcls
  · rcases hord : newRaises cfg cls false with _ | e
    · rcases hshm : usesSharedMemory cfg with _ | _
      · exact Or.inl ⟨cls, himp, hord, by simp [hshm]⟩
      · rcases hnew : newRaises cfg cls true with _ | e
        · exact Or.inl ⟨cls, himp, hord, fun _ => hnew⟩
        · exact Or.inr (Or.inr ⟨cls, e, himp, hord, hshm, hnew⟩)
    · refine Or.inr (Or.inl ?_)
      intro cls' hcls hnone
      rw [himp] at hcls
      obtain rfl := Except.ok.inj hcls
      rw [hord] at hnone
      cases hnone

/-- The shared memory objects a round appends, and the segments after it. -/
def sharedObjects (cls : AlgClass D) (alg : String) (store : Store) :
    List (AlgObj D) × Store :=
  if usesSharedMemory cfg then
    let loaded := loadAll env.hashName true (shmLoads cls) store
    ([⟨cls, alg, true, moduleName cfg alg, true, loaded.1⟩], loaded.2)
  else
    ([], store)

section Round

variable {cfg} (bp : Option String) {alg : String} {cls : AlgClass D} (rest : List String)
  (objs shmObjs : List (AlgObj D)) (store : Store)

/-- A round that gets over its construction. -/
theorem constructAlgorithms_constructible (himp : importModule cfg env alg = .ok cls)
    (hord : newRaises cfg cls false = none)
    (hshm : usesSharedMemory cfg = true → newRaises cfg cls true = none) :
    let objs' := objs ++ [ordinaryObject cfg cls alg]
    let shared := sharedObjects cfg env cls alg store
    constructAlgorithms cfg env bp (alg :: rest) objs shmObjs store =
      if some alg = bp then ⟨objs', shmObjs ++ shared.1, shared.2, .ok true⟩
      else constructAlgorithms cfg env bp rest objs' (shmObjs ++ shared.1) shared.2 := by
  intro objs' shared
  rw [constructAlgorithms]
  simp only [himp, new_ordinary, hord]
  by_cases huses : usesSharedMemory cfg = true
  · have hnew := new_shared huses env.hashName cls alg store
    simp only [hshm huses] at hnew
    have hcond : (cfg.useMultiProcessing && cfg.useSharedMemory) = true := huses
    simp only [hcond, if_true, hnew, shared, sharedObjects, huses, objs']
  · have hcond : (cfg.useMultiProcessing && cfg.useSharedMemory) = false :=
      Bool.eq_false_of_not_eq_true huses
    simp only [hcond, Bool.false_eq_true, if_false, shared, sharedObjects, huses, objs',
      List.append_nil]

/-- A round that fails at the import or the ordinary construction leaves all as
it was. -/
theorem constructAlgorithms_failsPlain (h : FailsPlain cfg env alg) :
    let s := constructAlgorithms cfg env bp (alg :: rest) objs shmObjs store
    s.store = store ∧ s.outcome ≠ .ok true := by
  intro s
  simp only [s, constructAlgorithms]
  rcases himp : importModule cfg env alg with e | cls
  · refine ⟨rfl, ?_⟩
    show (if _ then _ else _) ≠ _
    split <;> simp
  · rcases hord : newRaises cfg cls false with _ | e
    · exact absurd hord (h cls himp)
    · simp only [new_ordinary, hord, true_and]
      split <;> simp

/-- A round that fails at the shared memory construction has loaded what that
construction loads, and finalizes the shared memory objects there are. -/
theorem constructAlgorithms_failsShared {e : PyExc} (h : FailsShared cfg env alg cls e) :
    let s := constructAlgorithms cfg env bp (alg :: rest) objs shmObjs store
    let store' := (loadAll env.hashName true (shmLoads cls) store).2
    s.outcome ≠ .ok true ∧
    (s.outcome = .ok false → finalizeRaises .setupFailed shmObjs = none ∧
      s.store = (finalizeAll .setupFailed shmObjs store').2) := by
  intro s store'
  obtain ⟨himp, hord, huses, hnew⟩ := h
  have hshared := new_shared huses env.hashName cls alg store
  have hcond : (cfg.useMultiProcessing && cfg.useSharedMemory) = true := huses
  simp only [hnew] at hshared
  simp only [s, constructAlgorithms, himp, new_ordinary, hord, hcond, if_true, hshared]
  by_cases hcaught : e.caught = true
  · have hfst := finalizeAll_fst .setupFailed shmObjs store'
    rcases hfin : finalizeAll .setupFailed shmObjs store' with ⟨raised, store''⟩
    rw [hfin] at hfst
    rw [if_pos hcaught]
    simp only
    cases raised with
    | some e' => simp
    | none => simp [← hfst]
  · rw [if_neg hcaught]
    simp

end Round

/-! ## The whole loop -/

/-- The segments the shared memory objects of some algorithms load. -/
def shmSegments (algs : List String) : List String :=
  if usesSharedMemory cfg then
    (algClasses cfg env algs).flatMap (fun cls => segmentsOf env.hashName (shmLoads cls))
  else []

/-- The object lists and segments after the construction of `algs`, started with
the segments `live`. -/
structure Constructed (live : List String) (algs : List String)
    (objs shmObjs : List (AlgObj D)) (store : Store) : Prop where
  algs_eq : objs.map AlgObj.alg = algs
  classes : objs.map AlgObj.cls = algClasses cfg env algs
  prepared : ∀ obj ∈ objs, Prepared cfg obj
  shm_classes : shmObjs.map AlgObj.cls =
    if usesSharedMemory cfg then algClasses cfg env algs else []
  shm_initialized : ∀ obj ∈ shmObjs, obj.initialized = true
  loaded : Loaded live (shmObjs.flatMap AlgObj.handles) store
  live_iff : ∀ seg, seg ∈ store.live ↔ seg ∈ live ∨ seg ∈ shmSegments cfg env algs

theorem Constructed.start (live : List String) : Constructed cfg env live [] [] [] ⟨live, []⟩ where
  algs_eq := rfl
  classes := rfl
  prepared := by simp
  shm_classes := by split <;> rfl
  shm_initialized := by simp
  loaded := Loaded.start live
  live_iff := by
    intro seg
    simp [shmSegments, algClasses]

theorem importModule_named {alg : String} {cls : AlgClass D}
    (h : importModule cfg env alg = .ok cls) : afterLast '.' alg ≠ "" := by
  intro hempty
  unfold importModule at h
  rw [if_pos hempty] at h
  cases h

theorem algClasses_append (algs : List String) {alg : String} {cls : AlgClass D}
    (h : importModule cfg env alg = .ok cls) :
    algClasses cfg env (algs ++ [alg]) = algClasses cfg env algs ++ [cls] := by
  unfold algClasses
  rw [List.filterMap_append]
  simp [h, Except.toOption]

variable {cfg env}

/-- One constructible algorithm more. -/
theorem Constructed.step {live algs : List String} {objs shmObjs : List (AlgObj D)}
    {store : Store} (h : Constructed cfg env live algs objs shmObjs store) {alg : String}
    {cls : AlgClass D} (himp : importModule cfg env alg = .ok cls) :
    let shared := sharedObjects cfg env cls alg store
    Constructed cfg env live (algs ++ [alg]) (objs ++ [ordinaryObject cfg cls alg])
      (shmObjs ++ shared.1) shared.2 := by
  intro shared
  have hcls := algClasses_append cfg env algs himp
  refine ⟨?_, ?_, ?_, ?_, ?_, ?_, ?_⟩
  · simp [h.algs_eq]
  · rw [hcls]
    simp [h.classes]
  · intro obj hobj
    rcases List.mem_append.mp hobj with hobj | hobj
    · exact h.prepared obj hobj
    · obtain rfl := List.mem_singleton.mp hobj
      exact prepared_ordinaryObject (importModule_named cfg env himp)
  · rw [List.map_append, h.shm_classes, hcls]
    simp only [shared, sharedObjects]
    split <;> simp
  · intro obj hobj
    rcases List.mem_append.mp hobj with hobj | hobj
    · exact h.shm_initialized obj hobj
    · simp only [shared, sharedObjects] at hobj
      split at hobj
      · obtain rfl := List.mem_singleton.mp hobj
        rfl
      · cases hobj
  -- what the new shared object loads comes after what was loaded before
  · rw [List.flatMap_append]
    simp only [shared, sharedObjects]
    split
    · have hload := h.loaded.loadAll env.hashName (shmLoads cls)
      simpa using hload
    · simpa using h.loaded
  · intro seg
    simp only [shared, sharedObjects, shmSegments, hcls]
    split
    · next huses =>
      have hlive := h.live_iff seg
      simp only [shmSegments, huses, if_true] at hlive
      rw [mem_live_loadAll, hlive, List.flatMap_append]
      simp [or_assoc]
    · next huses =>
      have hlive := h.live_iff seg
      simp only [shmSegments, huses] at hlive
      exact hlive

variable (cfg env)

/-- Set-up stopped at `alg` after the construction of `pre`. -/
def StopsAt (live pre : List String) (alg : String) (s : SetUp D) : Prop :=
  ∃ objs shmObjs store, Constructed cfg env live pre objs shmObjs store ∧ s.outcome ≠ .ok true ∧
    ((FailsPlain cfg env alg ∧ s.store = store) ∨
      ∃ cls e, FailsShared cfg env alg cls e ∧
        (s.outcome = .ok false → finalizeRaises .setupFailed shmObjs = none ∧
          s.store = (finalizeAll .setupFailed shmObjs
            (loadAll env.hashName true (shmLoads cls) store).2).2))

/-- **Set-up.** Either every algorithm up to the breakpoint is constructed, or
set-up stops at the first one that is not. -/
theorem constructAlgorithms_cases (bp : Option String) {live : List String} :
    ∀ (rest : List String) {done : List String} {objs shmObjs : List (AlgObj D)} {store : Store},
      Constructed cfg env live done objs shmObjs store →
      let s := constructAlgorithms cfg env bp rest objs shmObjs store
      ((∀ alg ∈ throughBreakpoint bp rest, Constructible cfg env alg) ∧ s.outcome = .ok true ∧
        Constructed cfg env live (done ++ throughBreakpoint bp rest) s.objs s.shmObjs s.store) ∨
      ∃ pre alg post, rest = pre ++ alg :: post ∧
        (∀ a ∈ pre, Constructible cfg env a ∧ some a ≠ bp) ∧
        StopsAt cfg env live (done ++ pre) alg s
  | [], done, objs, shmObjs, store, h => by
      refine Or.inl ⟨by simp [throughBreakpoint], rfl, ?_⟩
      rw [throughBreakpoint, List.append_nil]
      exact h
  | alg :: rest, done, objs, shmObjs, store, h => by
      intro s
      rcases constructible_or_fails cfg env alg with hok | hplain | ⟨cls, e, hshared⟩
      · obtain ⟨cls, himp, hord, hshm⟩ := hok
        have hs : s = _ := constructAlgorithms_constructible env bp rest objs shmObjs store himp hord hshm
        have hstep := h.step himp
        by_cases hbp : some alg = bp
        · -- the loop leaves after the breakpoint algorithm
          rw [if_pos hbp] at hs
          refine Or.inl ⟨?_, by rw [hs], ?_⟩
          · intro a ha
            rw [throughBreakpoint, if_pos hbp] at ha
            obtain rfl := List.mem_singleton.mp ha
            exact ⟨cls, himp, hord, hshm⟩
          · rw [hs, throughBreakpoint, if_pos hbp]
            exact hstep
        · rw [if_neg hbp] at hs
          rcases constructAlgorithms_cases bp rest hstep with ⟨hall, hout, hcons⟩ | hstop
          · refine Or.inl ⟨?_, by rw [hs]; exact hout, ?_⟩
            · intro a ha
              rw [throughBreakpoint, if_neg hbp] at ha
              rcases List.mem_cons.mp ha with rfl | ha
              · exact ⟨cls, himp, hord, hshm⟩
              · exact hall a ha
            · rw [hs, throughBreakpoint, if_neg hbp, List.append_cons]
              exact hcons
          · obtain ⟨pre, a, post, rfl, hpre, hstop⟩ := hstop
            refine Or.inr ⟨alg :: pre, a, post, rfl, ?_, ?_⟩
            · intro b hb
              rcases List.mem_cons.mp hb with rfl | hb
              · exact ⟨⟨cls, himp, hord, hshm⟩, hbp⟩
              · exact hpre b hb
            · rw [hs, List.append_cons]
              exact hstop
      · -- the objects built so far are not finalized
        obtain ⟨hstore, hout⟩ := constructAlgorithms_failsPlain env bp rest objs shmObjs
          store hplain
        refine Or.inr ⟨[], alg, rest, rfl, by simp, ?_⟩
        rw [List.append_nil]
        exact ⟨objs, shmObjs, store, h, hout, Or.inl ⟨hplain, hstore⟩⟩
      · obtain ⟨hout, hfalse⟩ := constructAlgorithms_failsShared env bp rest objs shmObjs
          store hshared
        refine Or.inr ⟨[], alg, rest, rfl, by simp, ?_⟩
        rw [List.append_nil]
        exact ⟨objs, shmObjs, store, h, hout, Or.inr ⟨cls, e, hshared, hfalse⟩⟩

/-! ## When set-up is completed -/

variable {cfg env}

theorem not_constructible_of_stopsAt {live pre : List String} {alg : String} {s : SetUp D}
    (h : StopsAt cfg env live pre alg s) : ¬ Constructible cfg env alg := by
  rintro ⟨cls, himp, hord, hshm⟩
  obtain ⟨objs, shmObjs, store, -, -, ⟨hplain, -⟩ | ⟨cls', e, ⟨himp', -, huses, hnew⟩, -⟩⟩ := h
  · exact hplain cls himp hord
  · rw [himp] at himp'
    obtain rfl := Except.ok.inj himp'
    rw [hshm huses] at hnew
    cases hnew

theorem mem_throughBreakpoint {bp : Option String} {alg : String} {post : List String} :
    ∀ {pre : List String}, (∀ a ∈ pre, some a ≠ bp) →
      alg ∈ throughBreakpoint bp (pre ++ alg :: post)
  | [], _ => by
      rw [List.nil_append, throughBreakpoint]
      split <;> exact List.mem_cons_self
  | a :: pre, h => by
      rw [List.cons_append, throughBreakpoint, if_neg (h a List.mem_cons_self)]
      exact List.mem_cons_of_mem _
        (mem_throughBreakpoint (fun b hb => h b (List.mem_cons_of_mem _ hb)))

variable (cfg env) in
/-- Set-up is completed exactly if every algorithm up to the breakpoint can be
constructed, and then leaves their objects. -/
theorem constructAlgorithms_ready (bp : Option String) (live algs : List String) :
    let s := constructAlgorithms cfg env bp algs [] [] ⟨live, []⟩
    (s.outcome = .ok true ↔ ∀ alg ∈ throughBreakpoint bp algs, Constructible cfg env alg) ∧
    (s.outcome = .ok true →
      Constructed cfg env live (throughBreakpoint bp algs) s.objs s.shmObjs s.store) := by
  intro s
  rcases constructAlgorithms_cases cfg env bp algs (Constructed.start cfg env live) with
    ⟨hall, hout, hcons⟩ | ⟨pre, alg, post, rfl, hpre, hstop⟩
  · exact ⟨⟨fun _ => hall, fun _ => hout⟩, fun _ => hcons⟩
  · have hnot : s.outcome ≠ .ok true := by
      obtain ⟨-, -, -, -, hout, -⟩ := hstop
      exact hout
    refine ⟨⟨fun h => absurd h hnot, ?_⟩, fun h => absurd h hnot⟩
    intro hall
    exact absurd (hall alg (mem_throughBreakpoint (fun a ha => (hpre a ha).2)))
      (not_constructible_of_stopsAt hstop)

/-- Without a breakpoint set-up goes through the whole list. -/
theorem throughBreakpoint_of_not_given {bp : Option String} (hbp : isGiven bp = false) :
    ∀ algs : List String, (∀ alg ∈ throughBreakpoint bp algs, Constructible cfg env alg) →
      throughBreakpoint bp algs = algs
  | [], _ => rfl
  | alg :: algs, h => by
      have hne : some alg ≠ bp := by
        rintro rfl
        have hempty : alg = "" := by simpa [isGiven] using hbp
        have hmem : alg ∈ throughBreakpoint (some alg) (alg :: algs) := by
          simp [throughBreakpoint]
        obtain ⟨cls, himp, -⟩ := h alg hmem
        exact importModule_named cfg env himp (by rw [hempty]; rfl)
      rw [throughBreakpoint, if_neg hne] at h ⊢
      rw [throughBreakpoint_of_not_given hbp algs
        (fun a ha => h a (List.mem_cons_of_mem _ ha))]

theorem constructible_throughBreakpoint_iff {bp : Option String} (hbp : isGiven bp = false)
    (algs : List String) :
    (∀ alg ∈ throughBreakpoint bp algs, Constructible cfg env alg) ↔
      ∀ alg ∈ algs, Constructible cfg env alg := by
  constructor
  · intro h
    rwa [throughBreakpoint_of_not_given hbp algs h] at h
  · intro h alg halg
    apply h
    clear h
    induction algs with
    | nil => cases halg
    | cons a algs ih =>
        rw [throughBreakpoint] at halg
        split at halg
        · exact List.mem_cons.mpr (Or.inl (List.mem_singleton.mp halg))
        · rcases List.mem_cons.mp halg with rfl | halg
          · exact List.mem_cons_self
          · exact List.mem_cons_of_mem _ (ih halg)

/-! ## The run after set-up -/

theorem runChain_ready {bp : Option String} {algs : List String} (live files : List String)
    (h : ∀ alg ∈ throughBreakpoint bp algs, Constructible cfg env alg) :
    let s := constructAlgorithms cfg env bp algs [] [] ⟨live, []⟩
    Constructed cfg env live (throughBreakpoint bp algs) s.objs s.shmObjs s.store ∧
    runChain cfg env live files algs bp =
      finishRun s (runFiles cfg env bp s.objs files s.store) := by
  intro s
  obtain ⟨hiff, hcons⟩ := constructAlgorithms_ready cfg env bp live algs
  have hout : s.outcome = .ok true := hiff.mpr h
  refine ⟨hcons hout, ?_⟩
  unfold runChain
  simp only [s] at hout
  simp only [hout]
  rfl

/-- A set-up that is not completed makes `run_chain` return or raise before any
file is run. -/
theorem runChain_not_ready {bp : Option String} {algs : List String} (live files : List String)
    (h : ¬ ∀ alg ∈ throughBreakpoint bp algs, Constructible cfg env alg) :
    let s := constructAlgorithms cfg env bp algs [] [] ⟨live, []⟩
    (∃ e, runChain cfg env live files algs bp = ⟨s, [], s.store, .error e⟩) ∨
      (s.outcome = .ok false ∧
        runChain cfg env live files algs bp = ⟨s, [], s.store, .ok (false, 1, 0, 0, "")⟩) := by
  intro s
  obtain ⟨hiff, -⟩ := constructAlgorithms_ready cfg env bp live algs
  rcases hout : s.outcome with e | ready
  · refine Or.inl ⟨e, ?_⟩
    simp only [s] at hout
    simp only [runChain, hout, s]
  · cases ready with
    | true => exact absurd (hiff.mp hout) h
    | false =>
        refine Or.inr ⟨rfl, ?_⟩
        simp only [s] at hout
        simp only [runChain, hout, s]

end

end Clev2er.RunChain
