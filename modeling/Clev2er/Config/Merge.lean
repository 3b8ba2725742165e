import Clev2er.Python
import Clev2er.Lib.Dict

/-!
# Merging the main and the chain configuration

`load_config_files` ends by laying the chain configuration over the main run
control configuration. The `chain` section goes key by key, and only a key the
main configuration already has is taken over; then the section is dropped from
the chain configuration and the rest is united with the main configuration at
the top level, section by section.

`mergeConfigs_paths` says what this makes of every key path of either
file.
-/

namespace Clev2er.Config

open Clev2er.Lib

/-! ## The operators of the merge, lines 395 to 402 -/

/-- `for key in value`. -/
def iterate : PyVal → Except PyExc (List PyVal)
  | .dict items => .ok (items.map (fun e => .str e.1))
  | .list xs => .ok xs
  | .str s => .ok (s.toList.map (fun c => .str (String.singleton c)))
  | _ => .error ⟨.typeError, "object is not iterable"⟩

/-- `key in value`. -/
def contains (value key : PyVal) : Except PyExc Bool :=
  match value, key with
  | .dict items, .str k => .ok (items.lookup k).isSome
  | .dict _, .list _ => .error ⟨.typeError, "unhashable type: 'list'"⟩
  | .dict _, .dict _ => .error ⟨.typeError, "unhashable type: 'dict'"⟩
  | .dict _, _ => .ok false
  | .str s, .str k => .ok (isIn k s)
  | _, _ => .error ⟨.typeError, "argument is not iterable"⟩

/-- `value[key] = w`. -/
def setItem (value : PyVal) (key : String) (w : PyVal) : Except PyExc PyVal :=
  match value with
  | .dict items => .ok (.dict (dictSet key w items))
  | _ => .error ⟨.typeError, "object does not support item assignment"⟩

/-- One round of the loop over the `chain` section of the chain
configuration. -/
def overrideChainKey (chain : PyVal) (config : List (String × PyVal)) (key : PyVal) :
    Except PyExc (List (String × PyVal)) := do
  let main ← (PyVal.dict config).getItem "chain"
  if ← contains main key then
    match key with
    | .str k => do
        let main' ← setItem main k (← chain.getItem k)
        .ok (dictSet "chain" main' config)
    | _ => .error ⟨.typeError, "indices must be strings"⟩
  else
    .ok config

/-- The two configurations merged. -/
def mergeConfigs (config chainConfig : List (String × PyVal)) :
    Except PyExc (List (String × PyVal)) := do
  match chainConfig.lookup "chain" with
  | some chain => do
      let config' ← (← iterate chain).foldlM (overrideChainKey chain) config
      .ok (dictUnion config' (dictPop "chain" chainConfig))
  | none => .ok (dictUnion config chainConfig)

/-! ## Key paths -/

/-- The value a configuration holds at a key path. -/
def getPath : PyVal → List String → Option PyVal
  | v, [] => some v
  | .dict items, k :: rest =>
      match items.lookup k with
      | some v => getPath v rest
      | none => none
  | _, _ :: _ => none

theorem getPath_dict_cons (items : List (String × PyVal)) (k : String)
    (rest : List String) :
    getPath (.dict items) (k :: rest) = (items.lookup k).bind (fun v => getPath v rest) := by
  rw [getPath]
  cases items.lookup k <;> rfl

theorem getPath_append : ∀ (v : PyVal) (path rest : List String),
    getPath v (path ++ rest) = (getPath v path).bind (fun w => getPath w rest)
  | v, [], rest => by cases v <;> rfl
  | .dict items, k :: path, rest => by
      rw [List.cons_append, getPath_dict_cons, getPath_dict_cons, Option.bind_assoc]
      congr 1
      funext v
      exact getPath_append v path rest
  | .none, _ :: _, _ | .bool _, _ :: _, _ | .int _, _ :: _, _ | .float _, _ :: _, _
  | .str _, _ :: _, _ | .list _, _ :: _, _ => rfl

/-! ## The loop over the `chain` section -/

/-- A configuration agrees with `config` outside the `chain` section. -/
def SameSections (config config' : List (String × PyVal)) : Prop :=
  ∀ k, k ≠ "chain" → config'.lookup k = config.lookup k

section Loop

variable {config main chain : List (String × PyVal)}

/-- One key of a chain section: taken over when the main section has it,
ignored when it has not. -/
theorem overrideChainKey_dict {k : String} {v : PyVal}
    (hmain : config.lookup "chain" = some (.dict main)) (hk : chain.lookup k = some v) :
    overrideChainKey (.dict chain) config (.str k) =
      .ok (if (main.lookup k).isSome then
        dictSet "chain" (.dict (dictSet k v main)) config else config) := by
  simp only [overrideChainKey, PyVal.getItem, hmain, bind, Except.bind, contains]
  by_cases hin : (main.lookup k).isSome = true
  · simp only [hin, if_true, hk, setItem]
  · rw [if_neg hin]
    simp only [hin]
    rfl

/-- **The loop.** Over keys of the chain section, the loop returns, keeps every
other section, and gives each key of the main section the chain value of the
keys seen so far. -/
theorem override_loop {chain : List (String × PyVal)} :
    ∀ (keys : List String) {config main : List (String × PyVal)},
      config.lookup "chain" = some (.dict main) →
      (∀ k ∈ keys, (chain.lookup k).isSome) →
      ∃ config' main', (keys.map PyVal.str).foldlM (overrideChainKey (.dict chain)) config =
          .ok config' ∧
        SameSections config config' ∧ config'.lookup "chain" = some (.dict main') ∧
        ∀ k, main'.lookup k =
          (main.lookup k).map (fun v => if k ∈ keys then (chain.lookup k).getD v else v)
  | [], config, main, hmain, _ => by
      refine ⟨config, main, rfl, fun _ _ => rfl, hmain, ?_⟩
      intro k
      cases main.lookup k <;> simp
  | key :: keys, config, main, hmain, hkeys => by
      obtain ⟨v, hv⟩ := Option.isSome_iff_exists.mp (hkeys key List.mem_cons_self)
      have hrest : ∀ k ∈ keys, (chain.lookup k).isSome :=
        fun k hk => hkeys k (List.mem_cons_of_mem _ hk)
      have hstep := overrideChainKey_dict hmain hv
      by_cases hin : (main.lookup key).isSome = true
      · -- the key is in the main section: its value changes, and nothing else
        rw [if_pos hin] at hstep
        have hmain₁ : (dictSet "chain" (.dict (dictSet key v main)) config).lookup "chain" =
            some (.dict (dictSet key v main)) := by simp
        obtain ⟨config', main', hrun, hsame, hchain, hlook⟩ := override_loop keys hmain₁ hrest
        refine ⟨config', main', ?_, ?_, hchain, ?_⟩
        · simp only [List.map_cons, List.foldlM_cons, hstep]
          exact hrun
        · intro k hk
          rw [hsame k hk, lookup_dictSet, if_neg hk]
        · intro k
          rw [hlook k, lookup_dictSet]
          by_cases hkk : k = key
          · subst hkk
            obtain ⟨w, hw⟩ := Option.isSome_iff_exists.mp hin
            simp [hw, hv]
          · simp [hkk]
      · -- the guard drops a key that the main section does not have
        rw [if_neg hin] at hstep
        obtain ⟨config', main', hrun, hsame, hchain, hlook⟩ := override_loop keys hmain hrest
        refine ⟨config', main', ?_, hsame, hchain, ?_⟩
        · simp only [List.map_cons, List.foldlM_cons, hstep]
          exact hrun
        · intro k
          rw [hlook k]
          by_cases hkk : k = key
          · subst hkk
            rw [Option.not_isSome_iff_eq_none] at hin
            simp [hin]
          · simp [hkk]

/-- A `chain` entry that is no section changes nothing where it does not
raise. -/
theorem overrideChainKey_not_dict {chainVal key : PyVal} {config' : List (String × PyVal)}
    (hnot : ∀ items, chainVal ≠ .dict items)
    (h : overrideChainKey chainVal config key = .ok config') : config' = config := by
  simp only [overrideChainKey, bind, Except.bind] at h
  split at h
  · cases h
  · split at h
    · cases h
    · split at h
      · cases hkey : key with
        | str k =>
            simp only [hkey] at h
            cases hval : chainVal with
            | dict items => exact absurd hval (hnot items)
            | none | bool | int | float | str | list => simp [hval, PyVal.getItem] at h
        | none | bool | int | float | list | dict => simp [hkey] at h
      · exact (Except.ok.inj h).symm

theorem override_loop_not_dict {chainVal : PyVal} (hnot : ∀ items, chainVal ≠ .dict items) :
    ∀ (keys : List PyVal) {config config' : List (String × PyVal)},
      keys.foldlM (overrideChainKey chainVal) config = .ok config' → config' = config
  | [], config, config', h => (Except.ok.inj h).symm
  | key :: keys, config, config', h => by
      rw [List.foldlM_cons] at h
      cases hstep : overrideChainKey chainVal config key with
      | error e =>
          rw [hstep] at h
          cases h
      | ok config₁ =>
          rw [hstep] at h
          have hrest := override_loop_not_dict hnot keys h
          rw [hrest, overrideChainKey_not_dict hnot hstep]

end Loop

/-! ## Every key path -/

section Paths

variable {config chainConfig merged main : List (String × PyVal)}

/-- The loop over a `chain` section of the chain configuration, and the union
that follows it. -/
theorem mergeConfigs_section {chain : List (String × PyVal)}
    (hmain : config.lookup "chain" = some (.dict main))
    (hchain : chainConfig.lookup "chain" = some (.dict chain)) :
    ∃ config' main', mergeConfigs config chainConfig =
        .ok (dictUnion config' (dictPop "chain" chainConfig)) ∧
      SameSections config config' ∧ config'.lookup "chain" = some (.dict main') ∧
      ∀ k, main'.lookup k = (main.lookup k).map (fun v => (chain.lookup k).getD v) := by
  have hkeys : ∀ k ∈ chain.map Prod.fst, (chain.lookup k).isSome := by
    intro k hk
    obtain ⟨e, he, rfl⟩ := List.mem_map.mp hk
    exact List.lookup_isSome_iff.mpr ⟨e, he, beq_self_eq_true e.1⟩
  obtain ⟨config', main', hrun, hsame, hmain', hlook⟩ :=
    override_loop (chain.map Prod.fst) hmain hkeys
  rw [List.map_map] at hrun
  have hloop : (chain.map (fun e => PyVal.str e.1)).foldlM (overrideChainKey (.dict chain))
      config = .ok config' := hrun
  refine ⟨config', main', ?_, hsame, hmain', ?_⟩
  · unfold mergeConfigs
    simp only [hchain, iterate, bind, Except.bind, hloop]
  · intro k
    rw [hlook k]
    by_cases hk : k ∈ chain.map Prod.fst
    · simp only [hk, if_true]
    · have hnone : chain.lookup k = none := by
        rw [← Option.not_isSome_iff_eq_none, List.lookup_isSome_iff]
        rintro ⟨e, he, hek⟩
        rw [beq_iff_eq] at hek
        exact hk (hek ▸ List.mem_map_of_mem he)
      simp only [hk, if_false, hnone, Option.getD_none]

/-- The sections after the merge: a section of the chain configuration replaces
the whole section of the main one, and the `chain` section keeps its keys, each
with the value the chain configuration gives it, if any. -/
theorem mergeConfigs_lookup (hmain : config.lookup "chain" = some (.dict main))
    (h : mergeConfigs config chainConfig = .ok merged) :
    (∀ k, k ≠ "chain" → merged.lookup k = (chainConfig.lookup k).or (config.lookup k)) ∧
    ∃ main', merged.lookup "chain" = some (.dict main') ∧
      ∀ k, main'.lookup k = (main.lookup k).map
        (fun v => (getPath (.dict chainConfig) ["chain", k]).getD v) := by
  cases hchain : chainConfig.lookup "chain" with
  | none =>
      -- without a `chain` section the merge is the union
      simp only [mergeConfigs, hchain] at h
      obtain rfl := Except.ok.inj h
      refine ⟨fun k _ => lookup_dictUnion _ _ _, main, ?_, ?_⟩
      · rw [lookup_dictUnion, hchain, Option.none_or, hmain]
      · intro k
        simp [getPath_dict_cons, hchain]
  | some chainVal =>
      by_cases hdict : ∃ chain, chainVal = .dict chain
      · obtain ⟨chain, rfl⟩ := hdict
        obtain ⟨config', main', hrun, hsame, hmain', hlook⟩ := mergeConfigs_section hmain hchain
        rw [hrun] at h
        obtain rfl := Except.ok.inj h
        refine ⟨?_, main', ?_, ?_⟩
        · intro k hk
          rw [lookup_dictUnion, lookup_dictPop, if_neg hk, hsame k hk]
        · rw [lookup_dictUnion, lookup_dictPop, if_pos rfl, Option.none_or, hmain']
        · intro k
          rw [hlook k, getPath_dict_cons, hchain, Option.bind_some, getPath_dict_cons]
          cases chain.lookup k <;> rfl
      · -- no section: the loop changes nothing, and the entry is dropped
        have hnot : ∀ items, chainVal ≠ .dict items := fun items hi => hdict ⟨items, hi⟩
        have hnone : ∀ k, getPath (.dict chainConfig) ["chain", k] = none := by
          intro k
          rw [getPath_dict_cons, hchain, Option.bind_some]
          cases hval : chainVal with
          | dict items => exact absurd hval (hnot items)
          | none | bool | int | float | str | list => rfl
        simp only [mergeConfigs, hchain, bind, Except.bind] at h
        split at h
        · cases h
        · split at h
          · cases h
          · next hloop =>
            obtain rfl := override_loop_not_dict hnot _ hloop
            obtain rfl := Except.ok.inj h
            refine ⟨?_, main, ?_, ?_⟩
            · intro k hk
              rw [lookup_dictUnion, lookup_dictPop, if_neg hk]
            · rw [lookup_dictUnion, lookup_dictPop, if_pos rfl, Option.none_or, hmain]
            · intro k
              simp [hnone k]

/-- **The merge, path by path.** Over a main configuration with a `chain`
section, and a chain configuration whose `chain`, if it has one, is a section:
the merge returns. Whenever it returns, a path that starts at a section other
than `chain` leads where the chain configuration leads if that has the section
at all, and where the main configuration leads otherwise; a path into the
`chain` section leads nowhere if the main configuration lacks its second key,
and else where the chain configuration leads if it sets that key, and where the
main configuration leads if it does not. -/
theorem mergeConfigs_paths (config chainConfig main : List (String × PyVal))
    (hmain : config.lookup "chain" = some (.dict main)) :
    ((∀ v, chainConfig.lookup "chain" = some v → ∃ chain, v = .dict chain) →
      ∃ merged, mergeConfigs config chainConfig = .ok merged) ∧
    ∀ merged, mergeConfigs config chainConfig = .ok merged →
      (∀ k rest, k ≠ "chain" → getPath (.dict merged) (k :: rest) =
        if (chainConfig.lookup k).isSome then getPath (.dict chainConfig) (k :: rest)
        else getPath (.dict config) (k :: rest)) ∧
      (∀ k rest, getPath (.dict merged) ("chain" :: k :: rest) =
        if (main.lookup k).isNone then none
        else if (getPath (.dict chainConfig) ["chain", k]).isSome then
          getPath (.dict chainConfig) ("chain" :: k :: rest)
        else getPath (.dict config) ("chain" :: k :: rest)) := by
  refine ⟨?_, ?_⟩
  · intro hsection
    cases hchain : chainConfig.lookup "chain" with
    | none => exact ⟨dictUnion config chainConfig, by simp only [mergeConfigs, hchain]⟩
    | some v =>
        obtain ⟨chain, rfl⟩ := hsection v hchain
        obtain ⟨config', main', hrun, -⟩ := mergeConfigs_section hmain hchain
        exact ⟨_, hrun⟩
  · intro merged h
    obtain ⟨hother, main', hmain', hlook⟩ := mergeConfigs_lookup hmain h
    refine ⟨?_, ?_⟩
    · intro k rest hk
      rw [getPath_dict_cons, hother k hk, getPath_dict_cons, getPath_dict_cons]
      cases chainConfig.lookup k <;> simp
    · intro k rest
      have hset : getPath (.dict chainConfig) ("chain" :: k :: rest) =
          (getPath (.dict chainConfig) ["chain", k]).bind (fun v => getPath v rest) :=
        getPath_append _ ["chain", k] rest
      rw [hset, getPath_dict_cons merged, hmain', Option.bind_some, getPath_dict_cons main',
        hlook k, getPath_dict_cons config, hmain, Option.bind_some, getPath_dict_cons main]
      generalize getPath (.dict chainConfig) ["chain", k] = setting
      cases main.lookup k with
      | none => simp
      | some v => cases setting <;> simp

end Paths

/-- A main configuration with two `chain` settings, a section that the chain
configuration has as well, and one of its own. -/
def runControl : List (String × PyVal) :=
  [("chain", .dict [("stop_on_error", .bool false), ("use_shared_memory", .bool false)]),
    ("log_files", .dict [("errors", .str "errors.log"), ("info", .str "info.log")]),
    ("geophysical", .dict [("speed_light", .int 299792458)])]

/-- A chain configuration that overrides one `chain` setting, adds another, sets
one key of a section the main configuration has, and has a section of its own. -/
def chainControl : List (String × PyVal) :=
  [("chain", .dict [("use_shared_memory", .bool true), ("max_errors", .int 3)]),
    ("log_files", .dict [("errors", .str "chain.log")]),
    ("tcog_retracker", .dict [("show_plots", .bool false)])]

theorem mergeConfigs_paths_runControl :
    ∃ merged, mergeConfigs runControl chainControl = .ok merged ∧
      getPath (.dict merged) ["chain", "use_shared_memory"] = some (.bool true) ∧
      getPath (.dict merged) ["chain", "stop_on_error"] = some (.bool false) ∧
      getPath (.dict merged) ["log_files", "errors"] = some (.str "chain.log") ∧
      getPath (.dict merged) ["log_files", "info"] = none ∧
      getPath (.dict merged) ["geophysical", "speed_light"] = some (.int 299792458) ∧
      getPath (.dict merged) ["tcog_retracker", "show_plots"] = some (.bool false) := by
  have hpaths := mergeConfigs_paths runControl chainControl
    [("stop_on_error", .bool false), ("use_shared_memory", .bool false)] rfl
  obtain ⟨merged, hmerged⟩ := hpaths.1 (by
    intro v hv
    exact ⟨_, (Option.some.inj hv).symm⟩)
  obtain ⟨hother, hchain⟩ := hpaths.2 merged hmerged
  refine ⟨merged, hmerged, ?_, ?_, ?_, ?_, ?_, ?_⟩
  · rw [hchain]
    rfl
  · rw [hchain]
    rfl
  · rw [hother _ _ (by decide)]
    rfl
  · rw [hother _ _ (by decide)]
    rfl
  · rw [hother _ _ (by decide)]
    rfl
  · rw [hother _ _ (by decide)]
    rfl

/-- A `chain` key only the chain configuration sets is dropped, and so is a key
only the main configuration sets in a section both files have. -/
theorem mergeConfigs_drops_settings :
    ∃ merged, mergeConfigs runControl chainControl = .ok merged ∧
      (getPath (.dict chainControl) ["chain", "max_errors"] = some (.int 3) ∧
        getPath (.dict merged) ["chain", "max_errors"] = none) ∧
      (getPath (.dict chainControl) ["log_files", "info"] = none ∧
        getPath (.dict runControl) ["log_files", "info"] = some (.str "info.log") ∧
        getPath (.dict merged) ["log_files", "info"] = none) :=
  ⟨_, rfl, ⟨rfl, rfl⟩, rfl, rfl, rfl⟩

end Clev2er.Config
