import Clev2er.RunChain.Files

/-!
# Breakpoints

A breakpoint travels from the algorithm list or the command line to the
construction loop, which compares it with the name in the list, and to the loop
over a file, which compares it with the last part of the module name. `main`
passes on what was given on the command line, and drops what the list said.

`mainRunChain_breakpoint_iff` says for which breakpoints, on a file that the
algorithms up to it get through, the chain stops there and leaves its file.
-/

namespace Clev2er.RunChain

section

variable {D : Type} {cfg : ChainConfig} {env : Env D}

/-! ## The runs of the files -/

/-- Files are run only after a completed set-up, each as on its own, and from
the front of the list. -/
theorem runChain_files (bp : Option String) (live files algs : List String) :
    let s := constructAlgorithms cfg env bp algs [] [] ⟨live, []⟩
    let r := runChain cfg env live files algs bp
    r.setUp = s ∧ (r.files = [] ∨
      Constructed cfg env live (throughBreakpoint bp algs) s.objs s.shmObjs s.store ∧
      ∃ done, done <+: files.zipIdx ∧ r.files = done.map (runJob env cfg bp s.objs s.store)) := by
  intro s r
  by_cases h : ∀ alg ∈ throughBreakpoint bp algs, Constructible cfg env alg
  · obtain ⟨hcons, hr⟩ := runChain_ready live files h
    simp only [r, hr, finishRun_setUp, finishRun_files]
    refine ⟨rfl, Or.inr ⟨hcons, ?_⟩⟩
    unfold runFiles
    split
    · unfold runMultiProcessing
      split
      · exact ⟨[], List.nil_prefix, rfl⟩
      · next hmax =>
        split
        · exact ⟨[], List.nil_prefix, rfl⟩
        · next hfiles =>
          refine ⟨files.zipIdx, List.prefix_rfl, ?_⟩
          rw [runChunks_eq env bp hcons.prepared,
            fileChunks_flatten hfiles (Nat.pos_of_ne_zero hmax)]
    · next hseq =>
      obtain ⟨-, -, hdone⟩ := runSequential_parts env bp (Bool.eq_false_of_not_eq_true hseq)
        hcons.prepared s.store files.zipIdx ⟨0, 0, 0⟩ ""
      exact hdone
  · rcases runChain_not_ready live files h with ⟨e, hr⟩ | ⟨-, hr⟩
    · rw [show r = _ from hr]
      exact ⟨rfl, Or.inl rfl⟩
    · rw [show r = _ from hr]
      exact ⟨rfl, Or.inl rfl⟩

/-! ## The loop up to a breakpoint -/

variable (cfg) in
/-- The shared dictionary after some algorithms that all succeed on a file. -/
def dictAfter (filenum : Nat) : List (AlgClass D) → D → Option D
  | [], dict => some dict
  | cls :: rest, dict =>
      match processResult cfg cls filenum dict with
      | (dict', .ok (true, _)) => dictAfter filenum rest dict'
      | _ => none

section Step

variable (env : Env D) {bp : Option String} (filenum : Nat) {obj : AlgObj D}
  (hobj : Prepared cfg obj) (rest : List (AlgObj D)) {dict dict' : D} {msg : String}
  (hok : processResult cfg obj.cls filenum dict = (dict', .ok (true, msg))) (store : Store)

include hobj hok

/-- An object that succeeds and is the breakpoint ends the loop. -/
theorem runAlgorithms_cons_breakpoint
    (hbreak : isBreakpoint bp (moduleName cfg obj.alg) = true) :
    (runAlgorithms cfg env bp filenum (obj :: rest) dict store).ran = [obj.alg] ∧
      (runAlgorithms cfg env bp filenum (obj :: rest) dict store).written =
        match writeBreakpointFile cfg env dict' (bp.getD "") with
        | .ok path => [(path, dict')]
        | .error _ => [] := by
  obtain ⟨hresult, hdict, hstore, -, -, hname⟩ := process_spec env.hashName hobj filenum dict store
  simp only [runAlgorithms, hresult, hdict, hstore, hname, hok, hbreak, if_true]
  cases writeBreakpointFile cfg env dict' (bp.getD "") <;> exact ⟨rfl, rfl⟩

/-- An object that succeeds and is not the breakpoint hands on its dictionary. -/
theorem runAlgorithms_cons_goesOn
    (hbreak : isBreakpoint bp (moduleName cfg obj.alg) = false) :
    (runAlgorithms cfg env bp filenum (obj :: rest) dict store).ran =
        obj.alg :: (runAlgorithms cfg env bp filenum rest dict' store).ran ∧
      (runAlgorithms cfg env bp filenum (obj :: rest) dict store).written =
        (runAlgorithms cfg env bp filenum rest dict' store).written := by
  obtain ⟨hresult, hdict, hstore, -, -, hname⟩ := process_spec env.hashName hobj filenum dict store
  simp only [runAlgorithms, hresult, hdict, hstore, hname, hok, hbreak, Bool.false_eq_true,
    if_false, and_self]

end Step

/-- Without a breakpoint on the way, no file is written. -/
theorem runAlgorithms_written_nil (env : Env D) (bp : Option String) (filenum : Nat)
    {objs : List (AlgObj D)} (hobjs : ∀ obj ∈ objs, Prepared cfg obj)
    (hnone : ∀ obj ∈ objs, isBreakpoint bp (moduleName cfg obj.alg) = false) (dict : D)
    (store : Store) : (runAlgorithms cfg env bp filenum objs dict store).written = [] := by
  induction objs generalizing dict store with
  | nil => rfl
  | cons obj rest ih =>
      obtain ⟨-, -, -, -, -, hname⟩ := process_spec env.hashName (hobjs obj List.mem_cons_self)
        filenum dict store
      have ih := ih (fun o ho => hobjs o (List.mem_cons_of_mem _ ho))
        (fun o ho => hnone o (List.mem_cons_of_mem _ ho))
      rw [runAlgorithms]
      simp only [hname, hnone obj List.mem_cons_self]
      split
      · rfl
      · rfl
      · exact ih _ _

theorem writeBreakpointFile_ok_iff (dict : D) (b : String) :
    (∃ path, writeBreakpointFile cfg env dict b = .ok path) ↔
      ∃ dir, breakpointDir cfg = .ok dir ∧
        env.createNetcdfFile (breakpointPath env dir dict b) dict = none := by
  unfold writeBreakpointFile
  rcases breakpointDir cfg with e | dir
  · simp
  · simp only [Except.ok.injEq, exists_eq_left']
    cases env.createNetcdfFile (breakpointPath env dir dict b) dict <;> simp

section Loop

variable (env) (b : String) (filenum : Nat)

/-- **The loop up to the breakpoint.** Over objects whose algorithms all succeed,
the last of them `b`: all are run, and the file of `b` is written from the
dictionary `b` leaves, exactly if `b` is its own last name part, no earlier
algorithm has it as its last name part, and the file can be written. -/
theorem runAlgorithms_breakpoint_iff {objs : List (AlgObj D)}
    (hobjs : ∀ obj ∈ objs, Prepared cfg obj) {pre : List String}
    (halgs : objs.map AlgObj.alg = pre ++ [b]) {dict d : D}
    (hd : dictAfter cfg filenum (objs.map AlgObj.cls) dict = some d) (store : Store) :
    let l := runAlgorithms cfg env (some b) filenum objs dict store
    (l.ran = pre ++ [b] ∧ ∃ path, l.written = [(path, d)]) ↔
      afterLast '.' b = b ∧ (∀ a ∈ pre, afterLast '.' a ≠ b) ∧
        ∃ path, writeBreakpointFile cfg env d b = .ok path := by
  induction objs generalizing pre dict with
  | nil => simp at halgs
  | cons obj rest ih =>
      intro l
      have hobj := hobjs obj List.mem_cons_self
      have hrest : ∀ o ∈ rest, Prepared cfg o := fun o ho => hobjs o (List.mem_cons_of_mem _ ho)
      rw [List.map_cons, dictAfter] at hd
      split at hd
      · next dict' msg hok =>
        have hbreak : isBreakpoint (some b) (moduleName cfg obj.alg) = true ↔
            afterLast '.' obj.alg = b := by
          simp [isBreakpoint, afterLast_moduleName]
        cases pre with
        | nil =>
            -- the last object is `b` itself
            obtain ⟨rfl, hnil⟩ := List.cons.inj halgs
            obtain rfl := List.map_eq_nil_iff.mp hnil
            obtain rfl : dict' = d := Option.some.inj hd
            by_cases hlast : afterLast '.' obj.alg = obj.alg
            · obtain ⟨hran, hwritten⟩ := runAlgorithms_cons_breakpoint env filenum hobj [] hok
                store (hbreak.mpr hlast)
              simp only [l, hran, hwritten, Option.getD_some, hlast, List.nil_append, true_and,
                List.not_mem_nil, false_implies, implies_true]
              cases writeBreakpointFile cfg env dict' obj.alg <;> simp
            · -- the loop compares the part after the last dot with all of `b`
              obtain ⟨-, hwritten⟩ := runAlgorithms_cons_goesOn env filenum hobj [] hok store
                (Bool.eq_false_iff.mpr (mt hbreak.mp hlast))
              have hnil : l.written = [] := hwritten
              apply iff_of_false
              · rintro ⟨-, path, hpath⟩
                rw [hnil] at hpath
                cases hpath
              · exact fun h => hlast h.1
        | cons a pre =>
            obtain ⟨rfl, htail⟩ := List.cons.inj halgs
            by_cases hearly : afterLast '.' obj.alg = b
            · -- an earlier algorithm is taken for the breakpoint
              obtain ⟨hran, -⟩ := runAlgorithms_cons_breakpoint env filenum hobj rest hok store
                (hbreak.mpr hearly)
              apply iff_of_false
              · rintro ⟨hran', -⟩
                simp only [l, hran, List.cons_append, List.cons.injEq, true_and] at hran'
                exact absurd hran'.symm (by simp)
              · exact fun h => h.2.1 obj.alg List.mem_cons_self hearly
            · obtain ⟨hran, hwritten⟩ := runAlgorithms_cons_goesOn env filenum hobj rest hok store
                (Bool.eq_false_iff.mpr (mt hbreak.mp hearly))
              have ih := ih hrest htail hd
              simp only [l, hran, hwritten, List.cons_append, List.cons.injEq, true_and,
                List.forall_mem_cons, ne_eq, hearly, not_false_eq_true]
              exact ih
      · cases hd

end Loop

/-! ## The breakpoint of a run -/

theorem throughBreakpoint_append {b : String} {post : List String} :
    ∀ {pre : List String}, b ∉ pre → throughBreakpoint (some b) (pre ++ b :: post) = pre ++ [b]
  | [], _ => by simp [throughBreakpoint]
  | a :: pre, h => by
      rw [List.mem_cons, not_or] at h
      have hne : ¬ some a = some b := fun heq => h.1 (Option.some.inj heq).symm
      rw [List.cons_append, throughBreakpoint, if_neg hne, throughBreakpoint_append h.2,
        List.cons_append]

/-- The chain stopped at `b`: the algorithms up to it were constructed and run on
the file, no others, and one breakpoint file was written for the file, from the
dictionary `d`. -/
def StoppedAt (through : List String) (d : D) (r : ChainRun D) (f : FileRun D) : Prop :=
  r.constructed = through ∧ f.ran = through ∧ ∃ path, f.written = [(path, d)]

/-- A file's run, from its place in the list of the runs. -/
theorem runChain_file {bp : Option String} {live files algs : List String} {i : Nat}
    {f : FileRun D} {file : String}
    (hf : (runChain cfg env live files algs bp).files[i]? = some f) (hfile : files[i]? = some file) :
    let s := constructAlgorithms cfg env bp algs [] [] ⟨live, []⟩
    Constructed cfg env live (throughBreakpoint bp algs) s.objs s.shmObjs s.store ∧
    (runChain cfg env live files algs bp).constructed = throughBreakpoint bp algs ∧
    f = runJob env cfg bp s.objs s.store (file, i) := by
  intro s
  obtain ⟨hsetUp, hnil | ⟨hcons, done, hdone, hfiles⟩⟩ := runChain_files bp live files algs
  · rw [hnil] at hf
    cases hf
  · refine ⟨hcons, ?_, ?_⟩
    · unfold ChainRun.constructed
      rw [hsetUp]
      exact hcons.algs_eq
    · rw [hfiles, List.getElem?_map] at hf
      obtain ⟨job, hjob, rfl⟩ := Option.map_eq_some_iff.mp hf
      obtain ⟨rest, hrest⟩ := hdone
      have hzip : files.zipIdx[i]? = some job := by
        obtain ⟨hlt, -⟩ := List.getElem?_eq_some_iff.mp hjob
        rw [← hrest, List.getElem?_append_left hlt]
        exact hjob
      rw [List.getElem?_zipIdx, hfile] at hzip
      simp only [Option.map_some, Nat.zero_add, Option.some.injEq] at hzip
      rw [← hzip]

/-- `b` is the breakpoint: the choice of the command line, or where that makes
none, an algorithm that the list, with the values `items`, marks
`BreakpointAfter`. -/
def Designates (items : List (String × PyVal)) (breakpointAfter : Option String) (b : String) :
    Prop :=
  if isGiven breakpointAfter then breakpointAfter = some b
  else Config.hasValue items "BreakpointAfter" b = true

/-- **Breakpoints.** Let `b` be an algorithm of the list that the command line or
the list designates as breakpoint. On a file that
opens and that the algorithms up to the first `b` all succeed on, leaving the
dictionary `d`, the chain stops at `b` exactly if `b` was given on the command
line, it has no dot, no algorithm before it ends in a dot and `b`, and the
breakpoint file can be written. -/
theorem mainRunChain_breakpoint_iff (live files pre post : List String) (b : String)
    (lists : Config.AlgorithmLists) (items : List (String × PyVal))
    (breakpointAfter : Option String)
    (hlist : lists.algorithmList = pre ++ b :: post) (hfirst : b ∉ pre)
    (hdesignated : Designates items breakpointAfter b)
    (r : ChainRun D) (hr : mainRunChain cfg env live files lists breakpointAfter = some r)
    (i : Nat) (f : FileRun D) (file : String) (hf : r.files[i]? = some f)
    (hfile : files[i]? = some file) (hopen : env.openDataset file = none) (d : D)
    (hd : dictAfter cfg i (algClasses cfg env (pre ++ [b])) (env.newDict file) = some d) :
    StoppedAt (pre ++ [b]) d r f ↔
      isGiven breakpointAfter = true ∧ afterLast '.' b = b ∧ (∀ a ∈ pre, afterLast '.' a ≠ b) ∧
        ∃ dir, breakpointDir cfg = .ok dir ∧
          env.createNetcdfFile (breakpointPath env dir d b) d = none := by
  have hrun : r = runChain cfg env live files lists.algorithmList breakpointAfter := by
    unfold mainRunChain at hr
    split at hr
    · cases hr
    · exact (Option.some.inj hr).symm
  subst hrun
  rw [hlist] at hf ⊢
  obtain ⟨hcons, hconstructed, rfl⟩ := runChain_file hf hfile
  generalize constructAlgorithms cfg env breakpointAfter (pre ++ b :: post) [] [] ⟨live, []⟩ = s
    at hcons hf
  obtain ⟨-, hloop, -⟩ := runChainOnSingleFile_parts env breakpointAfter hcons.prepared s.store
    file i
  rw [hopen] at hloop
  simp only [Option.isSome_none, Bool.false_eq_true, if_false] at hloop
  have hran : (runJob env cfg breakpointAfter s.objs s.store (file, i)).ran =
      (runAlgorithms cfg env breakpointAfter i s.objs (env.newDict file) s.store).ran := by
    simp only [FileRun.ran, runJob, hloop]
  have hwritten : (runJob env cfg breakpointAfter s.objs s.store (file, i)).written =
      (runAlgorithms cfg env breakpointAfter i s.objs (env.newDict file) s.store).written := by
    simp only [FileRun.written, runJob, hloop]
  unfold StoppedAt
  rw [hran, hwritten, hconstructed]
  cases hgiven : isGiven breakpointAfter with
  | true =>
      have hbp : breakpointAfter = some b := by
        unfold Designates at hdesignated
        rwa [if_pos hgiven] at hdesignated
      subst hbp
      rw [throughBreakpoint_append hfirst] at hcons ⊢
      rw [← hcons.classes] at hd
      have hloopIff := runAlgorithms_breakpoint_iff env b i hcons.prepared hcons.algs_eq
        hd s.store
      simp only at hloopIff
      rw [hloopIff, writeBreakpointFile_ok_iff]
      simp only [true_and]
  | false =>
      have hnil := runAlgorithms_written_nil env breakpointAfter i hcons.prepared
        (fun obj hobj => isBreakpoint_false hgiven (hcons.prepared obj hobj).named)
        (env.newDict file) s.store
      rw [hnil]
      simp

end

/-! ## The test chain -/

/-- A class that adds its name to the shared dictionary. -/
def stampClass (alg : String) : AlgClass (List String) where
  construct _ := none
  init _ := ⟨[], .ok (true, "")⟩
  body _ dict := (dict ++ [alg], .ok (true, ""))
  finalize _ := none

def stampEnv : Env (List String) where
  modules alg := .ok (stampClass alg)
  openDataset _ := none
  hashName name := name
  newDict file := [file]
  l1bFileName dict := dict.head?
  createNetcdfFile _ _ := none

/-- The test chain, sequential. -/
def testchainConfig : ChainConfig := ⟨"testchain", false, false, 1, false, none⟩

/-- Three algorithms with `BreakpointAfter` at the second. -/
def breakpointItems : List (String × PyVal) :=
  [("alg_template1", .str "Enable"), ("alg_template2", .str "BreakpointAfter"),
    ("alg_template3", .str "Enable")]

/-- The algorithm list read from them. -/
def breakpointLists : Config.AlgorithmLists :=
  ⟨["alg_template1", "alg_template2", "alg_template3"], [], "alg_template2"⟩

theorem mainRunChain_breakpoint_iff_testchain :
    ∃ r f, mainRunChain testchainConfig stampEnv [] ["/l1b/a.nc"] breakpointLists
        (some "alg_template1") = some r ∧ r.files[0]? = some f ∧
      StoppedAt ["alg_template1"] ["/l1b/a.nc", "alg_template1"] r f := by
  have hrun : mainRunChain testchainConfig stampEnv [] ["/l1b/a.nc"] breakpointLists
      (some "alg_template1") = some (runChain testchainConfig stampEnv [] ["/l1b/a.nc"]
        breakpointLists.algorithmList (some "alg_template1")) := rfl
  have hiff := mainRunChain_breakpoint_iff [] ["/l1b/a.nc"] [] ["alg_template2", "alg_template3"]
    "alg_template1" breakpointLists breakpointItems (some "alg_template1") rfl (by simp) rfl _ hrun
    0 _ "/l1b/a.nc" rfl rfl rfl _ rfl
  refine ⟨_, _, hrun, rfl, ?_⟩
  refine hiff.mpr ⟨rfl, rfl, ?_, "/tmp", rfl, rfl⟩
  intro a ha
  cases ha

/-- A breakpoint set in the algorithm list is ignored: every algorithm is
constructed and run, and no breakpoint file is written. -/
theorem mainRunChain_ignores_list_breakpoint :
    Designates breakpointItems none "alg_template2" ∧
    mainBreakpoint none breakpointLists = "alg_template2" ∧
    ∃ r, mainRunChain testchainConfig stampEnv [] ["/l1b/a.nc"] breakpointLists none = some r ∧
      r.constructed = ["alg_template1", "alg_template2", "alg_template3"] ∧
      r.files.map FileRun.ran = [["alg_template1", "alg_template2", "alg_template3"]] ∧
      r.files.map FileRun.written = [[]] ∧
      ∀ f ∈ r.files, ∀ d, ¬ StoppedAt ["alg_template1", "alg_template2"] d r f := by
  have hmain : mainBreakpoint none breakpointLists = "alg_template2" := rfl
  have hrun : mainRunChain testchainConfig stampEnv [] ["/l1b/a.nc"] breakpointLists none =
      some (runChain testchainConfig stampEnv [] ["/l1b/a.nc"] breakpointLists.algorithmList
        none) := rfl
  have hconstructed : (runChain testchainConfig stampEnv [] ["/l1b/a.nc"]
      breakpointLists.algorithmList none).constructed =
        ["alg_template1", "alg_template2", "alg_template3"] := rfl
  have hran : (runChain testchainConfig stampEnv [] ["/l1b/a.nc"]
      breakpointLists.algorithmList none).files.map FileRun.ran =
        [["alg_template1", "alg_template2", "alg_template3"]] := rfl
  have hwritten : (runChain testchainConfig stampEnv [] ["/l1b/a.nc"]
      breakpointLists.algorithmList none).files.map FileRun.written = [[]] := rfl
  refine ⟨rfl, hmain, _, hrun, hconstructed, hran, hwritten, ?_⟩
  rintro f - d ⟨hconstructed, -⟩
  exact absurd hconstructed (by decide)

end Clev2er.RunChain
