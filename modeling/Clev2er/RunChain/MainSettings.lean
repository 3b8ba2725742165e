import Clev2er.Lib.Overrides
import Clev2er.RunChain.CommandLine

/-!
# The settings of a run

`main` overrides settings of the loaded configuration by its arguments, then by the
options of `--conf_opts`, and last by the names of the logs. What `run_chain` is called
with is the loaded configuration with these overrides, the last one winning
(`settings_of_main`), and what has changed is reported in the log (`changes_reported`).
-/

namespace Clev2er.RunChain

open Clev2er.Lib Clev2er.Config

/-- A configuration, read at key paths. -/
def settings : Settings (List (String × PyVal)) (List String) PyVal where
  get config path := getPath (.dict config) path
  Apart := Incomparable

/-! ## The overrides in their order -/

/-- An override, if its argument is given. -/
def overrideIf (given : Bool) (section_ key : String) (val : PyVal) :
    List (List String × PyVal) :=
  if given then [([section_, key], val)] else []

/-- The overrides of the arguments. -/
def argOverrides (args : Args) : List (List String × PyVal) :=
  [(["log_files", "debug_mode"], .bool args.debug)] ++
  overrideIf args.multiprocessing "chain" "use_multi_processing" (.bool true) ++
  overrideIf args.sequentialprocessing "chain" "use_multi_processing" (.bool false) ++
  overrideIf args.sharedmem "chain" "use_shared_memory" (.bool true) ++
  overrideIf (isNonzero args.nprocs) "chain" "max_processes_for_multiprocessing"
    (.int (args.nprocs.getD 0)) ++
  [(["chain", "chain_name"], .str args.name)] ++
  overrideIf args.stopOnError "chain" "stop_on_error" (.bool true)

/-- The override of an option: none with more than two keys. -/
def optionOverride (py : Literals) (option : String) : Option (List String × PyVal) :=
  if (optionPath option).length ≤ 2 then
    match optionValue py option with
    | .ok val => some (optionPath option, val)
    | .error _ => none
  else none

/-- The overrides of `--conf_opts`. -/
def optionOverrides (py : Literals) (args : Args) : List (List String × PyVal) :=
  (optionsOf (args.confOpts.getD "")).filterMap (optionOverride py)

/-- The names of the logs. -/
def logOverrides (errors info debug : PyVal) : List (List String × PyVal) :=
  [(["log_files", "errors"], errors), (["log_files", "info"], info),
    (["log_files", "debug"], debug)]

/-! ## The reports -/

/-- An entry of `modified_args`, if its argument is given. -/
def reportIf (given : Bool) (name : String) (val : PyVal) : List (List String × PyVal) :=
  if given then [([name], val)] else []

/-- The entries of the arguments. -/
def argReports (args : Args) : List (List String × PyVal) :=
  reportIf (decide (args.baseline ≠ "")) "baseline" (.str args.baseline) ++
  reportIf (decide (0 < args.version)) "version" (.int args.version) ++
  reportIf (isGiven args.breakpointAfter) "breakpoint_after"
    (.str (args.breakpointAfter.getD "")) ++
  reportIf args.quiet "quiet" (.bool true) ++
  reportIf args.debug "debug" (.bool true) ++
  reportIf (isNonzero args.maxFiles) "max_files" (.int (args.maxFiles.getD 0)) ++
  reportIf (decide (args.alglist ≠ "")) "alglist" (.str args.alglist) ++
  reportIf (decide (args.conf ≠ "")) "conf" (.str args.conf) ++
  reportIf (isGiven args.logstring) "logstring" (.str (args.logstring.getD "")) ++
  reportIf args.multiprocessing "use_multi_processing" (.bool true) ++
  reportIf args.sequentialprocessing "use_multi_processing" (.bool false) ++
  reportIf args.sharedmem "use_shared_memory" (.bool true) ++
  reportIf (isNonzero args.nprocs) "max_processes_for_multiprocessing"
    (.int (args.nprocs.getD 0)) ++
  reportIf args.stopOnError "stop_on_error" (.bool true)

/-- Overrides of the configuration of a state, and entries of its `modified_args`. -/
structure Overrides (state : ConfState) (overrides entries : List (List String × PyVal))
    (state' : ConfState) : Prop where
  config : settings.OverriddenBy state.1 overrides state'.1
  modifiedArgs : state'.2 = state.2 ++ entries

theorem Overrides.refl (state : ConfState) : Overrides state [] [] state :=
  ⟨.nil _, (List.append_nil _).symm⟩

theorem Overrides.trans {state state' state'' : ConfState}
    {os os' entries entries' : List (List String × PyVal)}
    (h : Overrides state os entries state') (h' : Overrides state' os' entries' state'') :
    Overrides state (os ++ os') (entries ++ entries') state'' :=
  ⟨h.config.append h'.config, by rw [h'.modifiedArgs, h.modifiedArgs, List.append_assoc]⟩

/-! ## One override -/

section Steps

variable {config config' : List (String × PyVal)} {state state' : ConfState} {given : Bool}
  {section_ key name : String} {val : PyVal} {args : Args}

/-- `config[section][key] = val` overrides one setting. -/
theorem storeIn_overridden (h : storeIn config section_ key val = .ok config') :
    settings.Overridden config [section_, key] val config' := by
  obtain ⟨items, hget, hitems⟩ := except_bind_ok h
  have hsome : (config.lookup section_).isSome = true := by
    rw [PyVal.getItem] at hget
    split at hget
    · next w hw =>
      rw [hw]
      rfl
    · cases hget
  -- it does what an option of two keys does
  have hstore : storeOption (config, []) [section_, key] val =
      .ok (config', [([section_, key], val)]) := by
    obtain ⟨stored, hset, hlast⟩ := except_bind_ok hitems
    rw [storeOption, if_pos hsome, hget]
    show (setItem items key val >>= fun options => _) = _
    rw [hset]
    show Except.ok _ = _
    rw [Except.ok.inj hlast]
    rfl
  obtain ⟨config'', hrun, hstored, -⟩ := storeOption_two [] key val (storeOption_two_ok hstore)
  rw [hstore] at hrun
  obtain ⟨rfl, -⟩ := Prod.ext_iff.mp (Except.ok.inj hrun)
  exact ⟨hstored.stored, hstored.kept⟩

theorem Overrides.report {os entries : List (List String × PyVal)}
    (h : Overrides state os entries state') :
    Overrides state os (entries ++ reportIf given name val) (report given name val state') := by
  cases given with
  | false =>
      refine ⟨h.config, ?_⟩
      show state'.2 = state.2 ++ (entries ++ [])
      rw [h.modifiedArgs, List.append_nil]
  | true =>
      refine ⟨h.config, ?_⟩
      show state'.2 ++ [([name], val)] = _
      rw [h.modifiedArgs, List.append_assoc]
      rfl

theorem override_overrides (h : override given section_ key val name state = .ok state') :
    Overrides state (overrideIf given section_ key val) (reportIf given name val) state' := by
  cases given with
  | false =>
      obtain rfl := Except.ok.inj h
      exact .refl state
  | true =>
      obtain ⟨config, hstore, hlast⟩ := except_bind_ok h
      obtain rfl := Except.ok.inj hlast
      exact ⟨(storeIn_overridden hstore).one, rfl⟩

theorem overrideDebug_overrides (h : overrideDebug args state = .ok state') :
    Overrides state [(["log_files", "debug_mode"], .bool args.debug)]
      (reportIf args.debug "debug" (.bool true)) state' := by
  obtain ⟨config, hstore, hlast⟩ := except_bind_ok h
  obtain rfl := Except.ok.inj hlast
  have hfirst : Overrides state [(["log_files", "debug_mode"], .bool args.debug)] []
      (config, state.2) :=
    ⟨(storeIn_overridden hstore).one, (List.append_nil _).symm⟩
  exact hfirst.report

theorem overrideSharedmem_overrides (h : overrideSharedmem args state = .ok state') :
    Overrides state (overrideIf args.sharedmem "chain" "use_shared_memory" (.bool true))
      (reportIf args.sharedmem "use_shared_memory" (.bool true)) state' := by
  rw [overrideSharedmem] at h
  split at h
  · next hgiven =>
    obtain ⟨chain, -, h⟩ := except_bind_ok h
    obtain ⟨useMultiProcessing, -, h⟩ := except_bind_ok h
    split at h
    · rw [hgiven]
      exact override_overrides (uncaught_ok h)
    · cases h
  · next hgiven =>
    rw [Bool.not_eq_true] at hgiven
    rw [hgiven]
    obtain rfl := Except.ok.inj h
    exact .refl state

/-- **The arguments** override their settings, and are reported. -/
theorem overrideArgs_overrides (h : overrideArgs args config = .ok state) :
    Overrides (config, []) (argOverrides args) (argReports args) state := by
  obtain ⟨state₁, hdebug, h⟩ := except_bind_ok h
  obtain ⟨state₂, hmultiprocessing, h⟩ := except_bind_ok h
  obtain ⟨state₃, hsequential, h⟩ := except_bind_ok h
  obtain ⟨state₄, hsharedmem, h⟩ := except_bind_ok h
  obtain ⟨state₅, hnprocs, h⟩ := except_bind_ok h
  obtain ⟨config₆, hname, hstop⟩ := except_bind_ok h
  have hsixth : Overrides state₅ [(["chain", "chain_name"], .str args.name)] []
      (config₆, state₅.2) :=
    ⟨(storeIn_overridden (uncaught_ok hname)).one, (List.append_nil _).symm⟩
  have hdebug' := (Overrides.refl (config, [])).report.report.report.report.trans
    (overrideDebug_overrides (uncaught_ok hdebug))
  have hmodes := (hdebug'.report.report.report.report.trans
    (override_overrides (uncaught_ok hmultiprocessing))).trans
    (override_overrides (uncaught_ok hsequential))
  have hchain := (hmodes.trans (overrideSharedmem_overrides hsharedmem)).trans
    (override_overrides (uncaught_ok hnprocs))
  have hlast := (hchain.trans hsixth).trans (override_overrides (uncaught_ok hstop))
  simpa only [argOverrides, argReports, List.append_assoc, List.nil_append] using hlast

/-- An option overrides its setting and is reported, if it has no more than two keys. -/
theorem applyOption_overrides {py : Literals} {option : String}
    (h : applyOption py state option = .ok state') :
    Overrides state (optionOverride py option).toList (optionOverride py option).toList state' := by
  obtain ⟨config, modifiedArgs⟩ := state
  obtain ⟨val, hval, hstore⟩ := applyOption_ok h
  have hne := optionPath_ne_nil option
  generalize hpath : optionPath option = path at hstore hne
  rw [optionOverride, hval, hpath]
  match path, hne with
  | [key], _ =>
      obtain ⟨hrun, hstored⟩ := storeOption_one config modifiedArgs key val
      obtain rfl := Except.ok.inj (hrun.symm.trans hstore)
      exact ⟨Settings.Overridden.one ⟨hstored.stored, hstored.kept⟩, rfl⟩
  | [key, key'], _ =>
      obtain ⟨config', hrun, hstored, -⟩ := storeOption_two modifiedArgs key' val
        (storeOption_two_ok hstore)
      obtain rfl := Except.ok.inj (hrun.symm.trans hstore)
      exact ⟨Settings.Overridden.one ⟨hstored.stored, hstored.kept⟩, rfl⟩
  | _ :: _ :: _ :: rest, _ =>
      obtain rfl := Except.ok.inj hstore
      rw [if_neg (by simp)]
      exact .refl _

theorem options_overrides {py : Literals} {options : List String}
    (h : options.foldlM (applyOption py) state = .ok state') :
    Overrides state (options.filterMap (optionOverride py))
      (options.filterMap (optionOverride py)) state' := by
  induction options generalizing state with
  | nil =>
      obtain rfl := Except.ok.inj h
      exact .refl state
  | cons option rest ih =>
      rw [List.foldlM_cons] at h
      obtain ⟨state₁, hfirst, hrest⟩ := except_bind_ok h
      have hboth := (applyOption_overrides hfirst).trans (ih hrest)
      rw [List.filterMap_cons]
      cases hoverride : optionOverride py option with
      | none => simpa only [hoverride, Option.toList_none, List.nil_append] using hboth
      | some o => simpa only [hoverride, Option.toList_some, List.singleton_append] using hboth

/-- The names of the logs are overrides too. -/
theorem nameLogs_overrides {host : Surroundings} {chainConfigFile : String}
    (h : nameLogs host args chainConfigFile config = .ok config') :
    ∃ errors info debug, settings.OverriddenBy config (logOverrides errors info debug) config' := by
  rw [nameLogs] at h
  split at h
  · cases h
  · obtain ⟨-, -, h⟩ := except_bind_ok h
    obtain ⟨-, -, h⟩ := except_bind_ok h
    obtain ⟨-, -, h⟩ := except_bind_ok h
    obtain ⟨-, -, h⟩ := except_bind_ok h
    obtain ⟨appendYearMonth, -, h⟩ := except_bind_ok h
    obtain ⟨errors, -, h⟩ := except_bind_ok h
    obtain ⟨info, -, h⟩ := except_bind_ok h
    obtain ⟨debug, -, h⟩ := except_bind_ok h
    obtain ⟨config₁, herrors, h⟩ := except_bind_ok h
    obtain ⟨config₂, hinfo, h⟩ := except_bind_ok h
    obtain ⟨config₃, hdebug, h⟩ := except_bind_ok h
    obtain ⟨-, -, h⟩ := except_bind_ok h
    obtain rfl := Except.ok.inj h
    exact ⟨errors, info, debug, .cons (storeIn_overridden (uncaught_ok herrors))
      (.cons (storeIn_overridden (uncaught_ok hinfo))
        (storeIn_overridden (uncaught_ok hdebug)).one)⟩

end Steps

/-! ## The settings of a call of `run_chain` -/

variable {host : Surroundings} {args : Args} {call : Call}

/-- All overrides of a run, in their order. -/
theorem Reached.overrides {loaded : LoadedConfig} {lists : AlgorithmLists}
    {fileList : List String} (h : Reached host args call loaded lists fileList) :
    (∃ errors info debug, settings.OverriddenBy loaded.config
      (argOverrides args ++ optionOverrides host.py args ++ logOverrides errors info debug)
      call.config) ∧
    call.modifiedArgs = argReports args ++ optionOverrides host.py args := by
  obtain ⟨state, config, hargs, hoptions, hnamed⟩ := h.overridden
  have hboth := (overrideArgs_overrides hargs).trans (options_overrides hoptions)
  obtain ⟨errors, info, debug, hlogs⟩ := nameLogs_overrides hnamed
  refine ⟨⟨errors, info, debug, hboth.config.append hlogs⟩, ?_⟩
  have hmodified := hboth.modifiedArgs
  rw [List.nil_append] at hmodified
  exact hmodified

/-- **The settings of a run.** What a path holds is the value of the last override that has
to do with it, in the order of arguments, options and names of the logs; without one it is
what the configuration files say. -/
theorem settings_of_main (h : main host args = .ok call) :
    ∃ loaded errors info debug, loadConfig host args = .ok loaded ∧
      ∀ path,
        (∀ before val after,
          argOverrides args ++ optionOverrides host.py args ++ logOverrides errors info debug =
            before ++ (path, val) :: after →
          (∀ o ∈ after, Incomparable o.1 path) →
            getPath (.dict call.config) path = some val) ∧
        ((∀ o ∈ argOverrides args ++ optionOverrides host.py args ++
            logOverrides errors info debug, Incomparable o.1 path) →
          getPath (.dict call.config) path = getPath (.dict loaded.config) path) := by
  obtain ⟨loaded, lists, fileList, hreached⟩ := main_ok h
  obtain ⟨⟨errors, info, debug, hall⟩, -⟩ := hreached.overrides
  refine ⟨loaded, errors, info, debug, hreached.loaded_eq, fun path => ⟨?_, hall.kept⟩⟩
  intro before val after hsplit hafter
  rw [hsplit] at hall
  exact hall.last_wins hafter

/-- `--sharedmem` has stored its value. -/
theorem settings_of_main_testchain :
    getPath (.dict testchainCall.config) ["chain", "use_shared_memory"] =
      some (.bool true) := by
  obtain ⟨loaded, errors, info, debug, -, hpath⟩ := settings_of_main testchainCall_eq
  refine (hpath ["chain", "use_shared_memory"]).1
    [(["log_files", "debug_mode"], .bool false), (["chain", "use_multi_processing"], .bool true)]
    (.bool true) ((["chain", "chain_name"], .str "testchain") :: logOverrides errors info debug)
    rfl ?_
  simp [logOverrides, Incomparable]

/-! ## Reported changes -/

/-- An entry of `modified_args` for an override: its keys, without the name of the section
`chain`. -/
def Reports (entries : List (List String × PyVal)) (o : List String × PyVal) : Prop :=
  o ∈ entries ∨ ∃ key, o.1 = ["chain", key] ∧ ([key], o.2) ∈ entries

theorem mem_overrideIf {given : Bool} {section_ key : String} {val : PyVal}
    {o : List String × PyVal} (ho : o ∈ overrideIf given section_ key val) :
    given = true ∧ o = ([section_, key], val) := by
  cases given with
  | false => cases ho
  | true => exact ⟨rfl, List.mem_singleton.mp ho⟩

theorem mem_reportIf {given : Bool} {name : String} {val : PyVal} (hgiven : given = true) :
    ([name], val) ∈ reportIf given name val := by
  rw [hgiven]
  exact List.mem_singleton.mpr rfl

/-- An argument that overrides a setting is reported, but for `--name` and the absence of
`--debug`. -/
theorem argOverrides_reported {args : Args} {o : List String × PyVal}
    (ho : o ∈ argOverrides args) :
    Reports (argReports args) o ∨ o.1 = ["chain", "chain_name"] ∨
      o.1 = ["log_files", "debug_mode"] := by
  have hreport : ∀ {given : Bool} {key : String} {val : PyVal},
      o ∈ overrideIf given "chain" key val →
      (∀ entry ∈ reportIf given key val, entry ∈ argReports args) →
      Reports (argReports args) o := by
    intro given key val hmem hentries
    obtain ⟨hgiven, rfl⟩ := mem_overrideIf hmem
    exact .inr ⟨key, rfl, hentries _ (mem_reportIf hgiven)⟩
  simp only [argOverrides, List.mem_append] at ho
  rcases ho with (((((ho | ho) | ho) | ho) | ho) | ho) | ho
  · rw [List.mem_singleton.mp ho]
    exact .inr (.inr rfl)
  · exact .inl (hreport ho fun entry hentry => by simp [argReports, hentry])
  · exact .inl (hreport ho fun entry hentry => by simp [argReports, hentry])
  · exact .inl (hreport ho fun entry hentry => by simp [argReports, hentry])
  · exact .inl (hreport ho fun entry hentry => by simp [argReports, hentry])
  · rw [List.mem_singleton.mp ho]
    exact .inr (.inl rfl)
  · exact .inl (hreport ho fun entry hentry => by simp [argReports, hentry])

/-- **Every change is reported.** Where `run_chain` is called with another value than the
configuration files have, an override has been made that has to do with it. It has its entry
in `modified_args`, unless it stores the name of the chain or a setting of the logs. -/
theorem changes_reported (h : main host args = .ok call) {loaded : LoadedConfig}
    (hloaded : loadConfig host args = .ok loaded) {path : List String}
    (hchanged : getPath (.dict call.config) path ≠ getPath (.dict loaded.config) path) :
    ∃ errors info debug, ∃ o ∈ argOverrides args ++ optionOverrides host.py args ++
        logOverrides errors info debug,
      ¬ Incomparable o.1 path ∧
        (Reports call.modifiedArgs o ∨ o.1 = ["chain", "chain_name"] ∨
          ∃ key, o.1 = ["log_files", key]) := by
  obtain ⟨loaded', lists, fileList, hreached⟩ := main_ok h
  obtain rfl := Except.ok.inj (hreached.loaded_eq.symm.trans hloaded)
  obtain ⟨⟨errors, info, debug, hall⟩, hmodified⟩ := hreached.overrides
  obtain ⟨o, ho, hrelated⟩ := hall.exists_of_changed hchanged
  refine ⟨errors, info, debug, o, ho, hrelated, ?_⟩
  rw [hmodified]
  rcases List.mem_append.mp ho with ho | ho
  · rcases List.mem_append.mp ho with ho | ho
    · rcases argOverrides_reported ho with hreported | hname | hdebug
      · left
        rcases hreported with hmem | ⟨key, hkey, hmem⟩
        · exact .inl (List.mem_append_left _ hmem)
        · exact .inr ⟨key, hkey, List.mem_append_left _ hmem⟩
      · exact .inr (.inl hname)
      · exact .inr (.inr ⟨_, hdebug⟩)
    · exact .inl (.inl (List.mem_append_right _ ho))
  · refine .inr (.inr ?_)
    simp only [logOverrides, List.mem_cons, List.not_mem_nil, or_false] at ho
    rcases ho with rfl | rfl | rfl
    · exact ⟨_, rfl⟩
    · exact ⟨_, rfl⟩
    · exact ⟨_, rfl⟩

/-- The changed setting of `--sharedmem` has its entry. -/
theorem changes_reported_testchain :
    ∃ errors info debug, ∃ o ∈ argOverrides testchainArgs ++
        optionOverrides testchainSurroundings.py testchainArgs ++ logOverrides errors info debug,
      ¬ Incomparable o.1 ["chain", "use_shared_memory"] ∧
        (Reports testchainCall.modifiedArgs o ∨ o.1 = ["chain", "chain_name"] ∨
          ∃ key, o.1 = ["log_files", key]) := by
  have hchanged : getPath (.dict testchainCall.config) ["chain", "use_shared_memory"] ≠
      getPath (.dict testchainSettings) ["chain", "use_shared_memory"] := by
    simp [testchainCall, testchainSettings, getPath, List.lookup_cons]
  have hloaded : loadConfig testchainSurroundings testchainArgs =
      .ok ⟨testchainSettings, "A", 1, "testchain_A001.xml"⟩ := rfl
  exact changes_reported testchainCall_eq hloaded hchanged

end Clev2er.RunChain
