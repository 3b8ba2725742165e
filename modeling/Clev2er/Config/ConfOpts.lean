import Clev2er.Config.Merge
import Clev2er.Lib.ForEach
import Mathlib.Data.List.Forall2

/-!
# The configuration options of the command line

`--conf_opts` is a list of options between commas, each of them keys and a value
between colons. `main` stores an option with one or two keys and passes over one with
more. `confOptsCorrect_iff` says which lists of options are stored as documented.
-/

namespace Clev2er.Config

open Clev2er.Lib

/-! ## The loop over the options -/

/-- The methods of strings and the constructors of numbers that the code calls. -/
structure Literals where
  isdigit : String → Bool
  int : String → Except PyExc Int
  /-- `float(s)`, `none` for a `ValueError`. -/
  float : String → Option (BitVec 64)

/-- `s.split(sep)`. -/
def split (sep : Char) (s : String) : List String := (s.toList.splitOn sep).map String.ofList

section Code

variable (py : Literals)

/-- The type of the value of an option. -/
def typedValue (val : String) : Except PyExc PyVal :=
  if val = "false" then .ok (.bool false)
  else if val = "true" then .ok (.bool true)
  else if py.isdigit val then
    match py.int val with
    | .ok n => .ok (.int n)
    | .error e => .error e
  else
    match py.float val with
    | some bits => .ok (.float bits)
    | none => .ok (.str val)

/-- The configuration, and `modified_args`: the keys and the value of each entry. -/
abbrev ConfState := List (String × PyVal) × List (List String × PyVal)

/-- One pass of the loop. -/
def applyOption (state : ConfState) (keyval : String) : Except PyExc ConfState := do
  let (config, modifiedArgs) := state
  if ':' ∉ keyval.toList then
    .ok (dictSet keyval (.bool true) config, modifiedArgs ++ [([keyval], .bool true)])
  else
    let mkeyvals := split ':' keyval
    let val ← typedValue py (mkeyvals.getLastD "")
    match mkeyvals with
    | [key, _] => .ok (dictSet key val config, modifiedArgs ++ [([key], val)])
    | [key, key', _] =>
        let config := if (config.lookup key).isSome then config else dictSet key (.dict []) config
        let options ← setItem (← (PyVal.dict config).getItem key) key' val
        .ok (dictSet key options config, modifiedArgs ++ [([key, key'], val)])
    | _ => .ok (config, modifiedArgs)

/-- The options of the argument; an empty argument has none. -/
def optionsOf (confOpts : String) : List String :=
  if confOpts = "" then [] else split ',' confOpts

/-- The configuration after `--conf_opts`. -/
def applyConfOpts (config : List (String × PyVal)) (confOpts : String) : Except PyExc ConfState :=
  (optionsOf confOpts).foldlM (applyOption py) (config, [])

end Code

/-! ## The keys and the value of an option -/

/-- The keys of an option. -/
def optionPath (keyval : String) : List String :=
  if ':' ∉ keyval.toList then [keyval] else (split ':' keyval).dropLast

/-- The value of an option: true for a single key. -/
def optionValue (py : Literals) (keyval : String) : Except PyExc PyVal :=
  if ':' ∉ keyval.toList then .ok (.bool true) else typedValue py ((split ':' keyval).getLastD "")

/-- What a pass makes of the keys and the value of its option. -/
def storeOption (state : ConfState) (path : List String) (val : PyVal) :
    Except PyExc ConfState := do
  let (config, modifiedArgs) := state
  match path with
  | [key] => .ok (dictSet key val config, modifiedArgs ++ [([key], val)])
  | [key, key'] =>
      let config := if (config.lookup key).isSome then config else dictSet key (.dict []) config
      let options ← setItem (← (PyVal.dict config).getItem key) key' val
      .ok (dictSet key options config, modifiedArgs ++ [([key, key'], val)])
  | _ => .ok (config, modifiedArgs)

theorem two_le_length_split {sep : Char} {s : String} (h : sep ∈ s.toList) :
    2 ≤ (split sep s).length := by
  rw [split, List.length_map]
  generalize s.toList = cs at h
  induction cs with
  | nil => cases h
  | cons c cs ih =>
      rw [List.splitOn_cons_eq_if_modifyHead]
      by_cases hc : c = sep
      · rw [if_pos (beq_iff_eq.mpr hc), List.length_cons]
        have hpos := List.length_pos_of_ne_nil (List.splitOn_ne_nil sep cs)
        omega
      · rw [if_neg (by simpa using hc), List.length_modifyHead]
        exact ih ((List.mem_cons.mp h).resolve_left fun heq => hc heq.symm)

theorem optionPath_ne_nil (keyval : String) : optionPath keyval ≠ [] := by
  rw [optionPath]
  split
  · exact List.cons_ne_nil _ _
  · next h =>
    rw [not_not] at h
    have hlength := two_le_length_split h
    rw [ne_eq, ← List.length_eq_zero_iff, List.length_dropLast]
    omega

/-- A value of an option is no section. -/
theorem optionValue_ne_dict {py : Literals} {keyval : String} {v : PyVal}
    (h : optionValue py keyval = .ok v) (items : List (String × PyVal)) : v ≠ .dict items := by
  rw [optionValue] at h
  split at h
  · cases h
    intro heq
    cases heq
  · rw [typedValue] at h
    repeat' split at h
    all_goals
      cases h
      try intro heq; cases heq

section Pass

variable {py : Literals} {config : List (String × PyVal)}
  {modifiedArgs : List (List String × PyVal)} {keyval : String}

/-- One pass, by the keys and the value of its option. -/
theorem applyOption_eq (state : ConfState) :
    applyOption py state keyval =
      optionValue py keyval >>= fun val => storeOption state (optionPath keyval) val := by
  by_cases h : ':' ∉ keyval.toList
  · simp only [applyOption, optionValue, optionPath, if_pos h]
    rfl
  · have hlength := two_le_length_split (not_not.mp h)
    simp only [applyOption, optionValue, optionPath, if_neg h]
    generalize split ':' keyval = mkeyvals at hlength ⊢
    match mkeyvals, hlength with
    | [key, _], _ => rfl
    | [key, key', _], _ => rfl
    | key :: key' :: key'' :: last :: rest, _ => rfl

/-! ## One pass -/

/-- A key without a value, or with a section. -/
def AbsentOrSection (config : List (String × PyVal)) (key : String) : Prop :=
  config.lookup key = none ∨ ∃ items, config.lookup key = some (.dict items)

/-- Neither path is a prefix of the other. -/
def Incomparable (path path' : List String) : Prop := ¬ path <+: path' ∧ ¬ path' <+: path

/-- **What a pass changes**: the value at its keys, and no value at another path. -/
structure StoredAt (config config' : List (String × PyVal)) (path : List String) (val : PyVal) :
    Prop where
  stored : getPath (.dict config') path = some val
  kept : ∀ path', Incomparable path path' →
    getPath (.dict config') path' = getPath (.dict config) path'

theorem storeOption_one (config : List (String × PyVal))
    (modifiedArgs : List (List String × PyVal)) (key : String) (val : PyVal) :
    storeOption (config, modifiedArgs) [key] val =
        .ok (dictSet key val config, modifiedArgs ++ [([key], val)]) ∧
      StoredAt config (dictSet key val config) [key] val := by
  refine ⟨rfl, ?_, ?_⟩
  · rw [getPath_dict_cons, lookup_dictSet, if_pos rfl]
    cases val <;> rfl
  · rintro path' ⟨hstart, hstart'⟩
    cases path' with
    | nil => exact absurd List.nil_prefix hstart'
    | cons key' rest =>
        have hkey : key' ≠ key := by
          rintro rfl
          exact hstart ⟨rest, rfl⟩
        rw [getPath_dict_cons, getPath_dict_cons, lookup_dictSet, if_neg hkey]

/-- The section of two keys, empty where it is missing. -/
def sectionAt (config : List (String × PyVal)) (key : String) : List (String × PyVal) :=
  match config.lookup key with
  | some (.dict items) => items
  | _ => []

theorem getPath_section {key : String} (h : AbsentOrSection config key) (key' : String)
    (rest : List String) :
    getPath (.dict config) (key :: key' :: rest) =
      ((sectionAt config key).lookup key').bind fun v => getPath v rest := by
  rw [getPath_dict_cons]
  rcases h with hnone | ⟨items, hsome⟩
  · rw [sectionAt, hnone]
    rfl
  · rw [sectionAt, hsome]
    exact getPath_dict_cons items key' rest

theorem storeOption_two (modifiedArgs : List (List String × PyVal)) {key : String} (key' : String)
    (val : PyVal) (h : AbsentOrSection config key) :
    ∃ config', storeOption (config, modifiedArgs) [key, key'] val =
        .ok (config', modifiedArgs ++ [([key, key'], val)]) ∧
      StoredAt config config' [key, key'] val ∧
      config'.lookup key = some (.dict (dictSet key' val (sectionAt config key))) ∧
      ∀ other, other ≠ key → config'.lookup other = config.lookup other := by
  have hrun : ∃ config', storeOption (config, modifiedArgs) [key, key'] val =
        .ok (config', modifiedArgs ++ [([key, key'], val)]) ∧
      config'.lookup key = some (.dict (dictSet key' val (sectionAt config key))) ∧
      ∀ other, other ≠ key → config'.lookup other = config.lookup other := by
    rcases h with hnone | ⟨items, hsome⟩
    · refine ⟨dictSet key (.dict (dictSet key' val [])) (dictSet key (.dict []) config), ?_, ?_, ?_⟩
      · simp only [storeOption, hnone, Option.isSome_none, Bool.false_eq_true, if_false,
          PyVal.getItem, lookup_dictSet, if_true, setItem, bind, Except.bind]
      · rw [lookup_dictSet, if_pos rfl, sectionAt, hnone]
      · intro other hother
        rw [lookup_dictSet, if_neg hother, lookup_dictSet, if_neg hother]
    · refine ⟨dictSet key (.dict (dictSet key' val items)) config, ?_, ?_, ?_⟩
      · simp only [storeOption, hsome, Option.isSome_some, if_true, PyVal.getItem, setItem, bind,
          Except.bind]
      · rw [lookup_dictSet, if_pos rfl, sectionAt, hsome]
      · intro other hother
        rw [lookup_dictSet, if_neg hother]
  obtain ⟨config', hstore, hkey, hother⟩ := hrun
  refine ⟨config', hstore, ⟨?_, ?_⟩, hkey, hother⟩
  · rw [getPath_dict_cons, hkey, Option.bind_some, getPath_dict_cons, lookup_dictSet, if_pos rfl]
    cases val <;> rfl
  · rintro path' ⟨hstart, hstart'⟩
    cases path' with
    | nil => exact absurd List.nil_prefix hstart'
    | cons first rest =>
        by_cases hfirst : first = key
        · subst hfirst
          cases rest with
          | nil => exact absurd ⟨[key'], rfl⟩ hstart'
          | cons second rest =>
              have hsecond : second ≠ key' := by
                rintro rfl
                exact hstart ⟨rest, rfl⟩
              rw [getPath_section h, getPath_dict_cons, hkey, Option.bind_some, getPath_dict_cons,
                lookup_dictSet, if_neg hsecond]
        · rw [getPath_dict_cons, getPath_dict_cons, hother first hfirst]

/-- A scalar has no section to store into. -/
theorem storeOption_two_ok {key key' : String} {val : PyVal} {state : ConfState}
    (h : storeOption (config, modifiedArgs) [key, key'] val = .ok state) :
    AbsentOrSection config key := by
  rcases hlookup : config.lookup key with _ | v
  · exact .inl hlookup
  · refine .inr ?_
    simp only [storeOption, hlookup, Option.isSome_some, if_true, PyVal.getItem, bind,
      Except.bind] at h
    cases v with
    | dict items => exact ⟨items, hlookup⟩
    | none => cases h
    | bool b => cases h
    | int n => cases h
    | float bits => cases h
    | str t => cases h
    | list xs => cases h

end Pass

/-! ## Runs of the loop -/

section Runs

variable {py : Literals} {config : List (String × PyVal)} {options : List String}

/-- **The options are applied**: none is dropped, the last option for its keys has stored
its value, and what no option names is as before. -/
structure OptionsApplied (py : Literals) (config config' : List (String × PyVal))
    (modifiedArgs : List (List String × PyVal)) (options : List String) : Prop where
  named : List.Forall₂ (fun option entry => entry.1 = optionPath option ∧
    optionValue py option = .ok entry.2) options modifiedArgs
  holds : ∀ before option after, options = before ++ option :: after →
    (∀ option' ∈ after, optionPath option' ≠ optionPath option) →
    ∃ val, optionValue py option = .ok val ∧
      getPath (.dict config') (optionPath option) = some val
  kept : ∀ path, (∀ option ∈ options, Incomparable (optionPath option) path) →
    getPath (.dict config') path = getPath (.dict config) path

/-- The options have at most two keys and a value that can be typed; where an option has
two, the first is missing or a section, and no option names it alone. -/
structure OptionsAccepted (py : Literals) (config : List (String × PyVal))
    (options : List String) : Prop where
  short : ∀ option ∈ options, (optionPath option).length ≤ 2
  typed : ∀ option ∈ options, ∃ val, optionValue py option = .ok val
  sections : ∀ option ∈ options, ∀ key key', optionPath option = [key, key'] →
    AbsentOrSection config key ∧ ∀ option' ∈ options, optionPath option' ≠ [key]

/-- A path of one key or of two. -/
theorem path_cases {option : String} (h : (optionPath option).length ≤ 2) :
    (∃ key, optionPath option = [key]) ∨ ∃ key key', optionPath option = [key, key'] := by
  have hne := optionPath_ne_nil option
  match hpath : optionPath option with
  | [] => exact absurd hpath hne
  | [key] => exact .inl ⟨key, rfl⟩
  | [key, key'] => exact .inr ⟨key, key', rfl⟩
  | _ :: _ :: _ :: _ =>
      rw [hpath] at h
      simp only [List.length_cons] at h
      omega

/-- Accepted options with other keys do not touch the keys of an option. -/
theorem OptionsAccepted.incomparable (h : OptionsAccepted py config options)
    {option option' : String} (ho : option ∈ options) (ho' : option' ∈ options)
    (hne : optionPath option' ≠ optionPath option) :
    Incomparable (optionPath option') (optionPath option) := by
  rcases path_cases (h.short option ho) with ⟨key, hpath⟩ | ⟨key, key', hpath⟩ <;>
    rcases path_cases (h.short option' ho') with ⟨other, hother⟩ | ⟨other, other', hother⟩
  · rw [hpath, hother] at hne ⊢
    exact ⟨fun hp => hne (by simpa using hp), fun hp => hne (by simpa [eq_comm] using hp)⟩
  · have halone := (h.sections option' ho' other other' hother).2 option ho
    rw [hpath] at halone
    rw [hpath, hother]
    exact ⟨fun hp => by simp at hp, fun hp => halone (by simpa using hp)⟩
  · have halone := (h.sections option ho key key' hpath).2 option' ho'
    rw [hother] at halone
    rw [hpath, hother]
    exact ⟨fun hp => halone (by simpa using hp), fun hp => by simp at hp⟩
  · rw [hpath, hother] at hne ⊢
    exact ⟨fun hp => hne (by simpa using hp), fun hp => hne (by simpa [eq_comm] using hp)⟩

/-- One accepted option. -/
theorem applyOption_accepted (h : OptionsAccepted py config options) {option : String}
    (ho : option ∈ options) (modifiedArgs : List (List String × PyVal)) :
    ∃ config' val, optionValue py option = .ok val ∧
      applyOption py (config, modifiedArgs) option =
        .ok (config', modifiedArgs ++ [(optionPath option, val)]) ∧
      StoredAt config config' (optionPath option) val ∧
      ∀ key, optionPath option ≠ [key] → AbsentOrSection config key →
        AbsentOrSection config' key := by
  obtain ⟨val, hval⟩ := h.typed option ho
  rcases path_cases (h.short option ho) with ⟨key, hpath⟩ | ⟨key, key', hpath⟩
  · obtain ⟨hstore, hstored⟩ := storeOption_one config modifiedArgs key val
    refine ⟨dictSet key val config, val, hval, ?_, hpath ▸ hstored, ?_⟩
    · rw [applyOption_eq, hval, hpath]
      exact hstore
    · intro other hother habsent
      have hkey : other ≠ key := by
        rintro rfl
        exact hother hpath
      rwa [AbsentOrSection, lookup_dictSet, if_neg hkey]
  · obtain ⟨config', hstore, hstored, hkey, hother⟩ := storeOption_two modifiedArgs
      key' val (h.sections option ho key key' hpath).1
    refine ⟨config', val, hval, ?_, hpath ▸ hstored, ?_⟩
    · rw [applyOption_eq, hval, hpath]
      exact hstore
    · intro other _ habsent
      by_cases hsame : other = key
      · exact .inr ⟨_, hsame ▸ hkey⟩
      · rwa [AbsentOrSection, hother other hsame]

/-- **Accepted options are applied.** -/
theorem applied_of_accepted : ∀ {options : List String} {config : List (String × PyVal)},
    OptionsAccepted py config options → ∀ modifiedArgs, ∃ config' entries,
      options.foldlM (applyOption py) (config, modifiedArgs) =
        .ok (config', modifiedArgs ++ entries) ∧
      OptionsApplied py config config' entries options := by
  intro options
  induction options with
  | nil =>
      intro config _ modifiedArgs
      refine ⟨config, [], by rw [List.append_nil]; rfl, .nil, ?_, fun _ _ => rfl⟩
      intro before option after heq
      simp at heq
  | cons option rest ih =>
      intro config h modifiedArgs
      have hhead : option ∈ option :: rest := List.mem_cons_self ..
      obtain ⟨config₁, val, hval, hstep, hstored, hsections⟩ :=
        applyOption_accepted h hhead modifiedArgs
      have hrest : OptionsAccepted py config₁ rest := by
        refine ⟨fun o ho => h.short o (List.mem_cons_of_mem _ ho),
          fun o ho => h.typed o (List.mem_cons_of_mem _ ho), ?_⟩
        intro o ho key key' hpath
        obtain ⟨habsent, halone⟩ := h.sections o (List.mem_cons_of_mem _ ho) key key' hpath
        exact ⟨hsections key (halone option hhead) habsent,
          fun o' ho' => halone o' (List.mem_cons_of_mem _ ho')⟩
      obtain ⟨config', entries, hrun, happlied⟩ :=
        ih hrest (modifiedArgs ++ [(optionPath option, val)])
      refine ⟨config', (optionPath option, val) :: entries, ?_, ?_, ?_, ?_⟩
      · rw [List.foldlM_cons, hstep]
        show rest.foldlM (applyOption py) _ = _
        rw [hrun, List.append_assoc, List.singleton_append]
      · exact .cons ⟨rfl, hval⟩ happlied.named
      · intro before o after heq hlast
        cases before with
        | nil =>
            -- the first option: the others leave its keys alone
            obtain ⟨rfl, rfl⟩ := List.cons.inj heq
            refine ⟨val, hval, ?_⟩
            rw [happlied.kept _ fun o' ho' => h.incomparable hhead (List.mem_cons_of_mem _ ho')
              (hlast o' ho')]
            exact hstored.stored
        | cons first before =>
            obtain ⟨-, heq⟩ := List.cons.inj heq
            exact happlied.holds before o after heq hlast
      · intro path hpath
        rw [happlied.kept path fun o ho => hpath o (List.mem_cons_of_mem _ ho)]
        exact hstored.kept path (hpath option hhead)

/-- A pass that finishes has typed the value, and names its option if it is short. -/
theorem applyOption_ok {modifiedArgs : List (List String × PyVal)} {option : String}
    {state : ConfState} (h : applyOption py (config, modifiedArgs) option = .ok state) :
    ∃ val, optionValue py option = .ok val ∧
      storeOption (config, modifiedArgs) (optionPath option) val = .ok state := by
  rw [applyOption_eq] at h
  exact except_bind_ok h

theorem storeOption_length {modifiedArgs : List (List String × PyVal)} {path : List String}
    {val : PyVal} {state : ConfState} (hne : path ≠ [])
    (h : storeOption (config, modifiedArgs) path val = .ok state) :
    state.2.length = modifiedArgs.length + if path.length ≤ 2 then 1 else 0 := by
  match path with
  | [] => exact absurd rfl hne
  | [key] =>
      obtain rfl := Except.ok.inj h
      rw [List.length_append]
      rfl
  | [key, key'] =>
      have habsent := storeOption_two_ok h
      obtain ⟨config', hstore, -⟩ := storeOption_two modifiedArgs key' val habsent
      obtain rfl := Except.ok.inj (hstore.symm.trans h)
      rw [List.length_append]
      rfl
  | _ :: _ :: _ :: rest =>
      obtain rfl := Except.ok.inj h
      rw [if_neg (by simp only [List.length_cons]; omega)]
      rfl

/-- A pass over an option with other keys keeps what is stored at a single key. -/
theorem storeOption_lookup {modifiedArgs : List (List String × PyVal)} {path : List String}
    {val : PyVal} {state : ConfState} (hne : path ≠ [])
    (h : storeOption (config, modifiedArgs) path val = .ok state) {key : String}
    (halone : path ≠ [key]) (hpair : ∀ key', path ≠ [key, key']) :
    state.1.lookup key = config.lookup key := by
  match path with
  | [] => exact absurd rfl hne
  | [first] =>
      obtain rfl := Except.ok.inj h
      rw [lookup_dictSet, if_neg]
      rintro rfl
      exact halone rfl
  | [first, second] =>
      have habsent := storeOption_two_ok h
      obtain ⟨config', hstore, -, -, hother⟩ := storeOption_two modifiedArgs second val habsent
      obtain rfl := Except.ok.inj (hstore.symm.trans h)
      apply hother
      rintro rfl
      exact hpair second rfl
  | _ :: _ :: _ :: rest =>
      obtain rfl := Except.ok.inj h
      rfl

/-- **What a finished loop says about its options.** -/
theorem options_of_run : ∀ {options : List String} {state state' : ConfState},
    options.foldlM (applyOption py) state = .ok state' →
      (∀ option ∈ options, ∃ val, optionValue py option = .ok val) ∧
      state'.2.length = state.2.length +
        options.countP (fun option => (optionPath option).length ≤ 2) ∧
      ∀ option ∈ options, ∀ key key', optionPath option = [key, key'] →
        (∀ option' ∈ options, optionPath option' ≠ [key]) → AbsentOrSection state.1 key := by
  intro options
  induction options with
  | nil =>
      intro state state' h
      obtain rfl := Except.ok.inj h
      simp
  | cons first rest ih =>
      rintro ⟨config, modifiedArgs⟩ state' h
      rw [List.foldlM_cons] at h
      obtain ⟨state₁, hstep, hrun⟩ := except_bind_ok h
      obtain ⟨val, hval, hstore⟩ := applyOption_ok hstep
      obtain ⟨htyped, hlength, hsections⟩ := ih hrun
      have hne := optionPath_ne_nil first
      refine ⟨?_, ?_, ?_⟩
      · rw [List.forall_mem_cons]
        exact ⟨⟨val, hval⟩, htyped⟩
      · rw [hlength, storeOption_length hne hstore, List.countP_cons]
        by_cases hshort : (optionPath first).length ≤ 2
        · simp only [hshort, if_true, decide_true]
          omega
        · simp only [hshort, if_false, decide_false, Bool.false_eq_true]
          omega
      · intro option hoption key key' hpath halone
        rw [List.forall_mem_cons] at halone
        by_cases hpair : ∃ other, optionPath first = [key, other]
        · obtain ⟨other, hother⟩ := hpair
          rw [hother] at hstore
          exact storeOption_two_ok hstore
        · rw [not_exists] at hpair
          have hrest : option ∈ rest := by
            refine (List.mem_cons.mp hoption).resolve_left ?_
            rintro rfl
            exact hpair key' hpath
          have hsection := hsections option hrest key key' hpath halone.2
          rwa [AbsentOrSection, storeOption_lookup hne hstore halone.1 hpair] at hsection

/-- The last element with a property. -/
theorem exists_last {α : Type} {p : α → Prop} : ∀ {xs : List α}, (∃ x ∈ xs, p x) →
    ∃ before x after, xs = before ++ x :: after ∧ p x ∧ ∀ y ∈ after, ¬ p y := by
  intro xs
  induction xs with
  | nil =>
      rintro ⟨x, hx, -⟩
      cases hx
  | cons x xs ih =>
      rintro ⟨y, hy, hpy⟩
      by_cases hrest : ∃ z ∈ xs, p z
      · obtain ⟨before, z, after, rfl, hz, hafter⟩ := ih hrest
        exact ⟨x :: before, z, after, rfl, hz, hafter⟩
      · rw [not_exists] at hrest
        rcases List.mem_cons.mp hy with rfl | hmem
        · exact ⟨[], y, xs, rfl, hpy, fun z hz hpz => hrest z ⟨hz, hpz⟩⟩
        · exact absurd ⟨hmem, hpy⟩ (hrest y)

/-- The keys of each option hold the value of the last option for them. -/
theorem OptionsApplied.exists_value {config' : List (String × PyVal)}
    {modifiedArgs : List (List String × PyVal)}
    (h : OptionsApplied py config config' modifiedArgs options) {option : String}
    (ho : option ∈ options) : ∃ option' val, optionValue py option' = .ok val ∧
      getPath (.dict config') (optionPath option) = some val := by
  obtain ⟨before, last, after, heq, hlast, hafter⟩ :=
    exists_last (p := fun option' => optionPath option' = optionPath option) ⟨option, ho, rfl⟩
  obtain ⟨val, hval, hpath⟩ := h.holds before last after heq fun option' ho' heq' =>
    hafter option' ho' (heq'.trans hlast)
  exact ⟨last, val, hval, hlast ▸ hpath⟩

/-- A key cannot hold a value of its own and a section. -/
theorem OptionsApplied.not_alone {config' : List (String × PyVal)}
    {modifiedArgs : List (List String × PyVal)}
    (h : OptionsApplied py config config' modifiedArgs options) {option option' : String}
    (ho : option ∈ options) (ho' : option' ∈ options) {key key' : String}
    (hpath : optionPath option = [key, key']) : optionPath option' ≠ [key] := by
  intro halone
  obtain ⟨-, val, -, hval⟩ := h.exists_value ho
  obtain ⟨last, val', htyped, hval'⟩ := h.exists_value ho'
  rw [hpath, show [key, key'] = [key] ++ [key'] from rfl, getPath_append, ← halone, hval',
    Option.bind_some] at hval
  cases val' with
  | dict items => exact optionValue_ne_dict htyped items rfl
  | none => cases hval
  | bool b => cases hval
  | int n => cases hval
  | float bits => cases hval
  | str t => cases hval
  | list xs => cases hval

end Runs

/-! ## The options of the command line -/

/-- **The options of the command line are applied**: the loop finishes, and every option of
the argument is applied. -/
def ConfOptsCorrect (py : Literals) (config : List (String × PyVal)) (confOpts : String) : Prop :=
  ∃ config' modifiedArgs, applyConfOpts py config confOpts = .ok (config', modifiedArgs) ∧
    OptionsApplied py config config' modifiedArgs (optionsOf confOpts)

/-- **The options are applied just if they are accepted**: an option with more than two
keys is dropped, and a section cannot be stored into a value or next to one. -/
theorem confOptsCorrect_iff (py : Literals) (config : List (String × PyVal)) (confOpts : String) :
    ConfOptsCorrect py config confOpts ↔ OptionsAccepted py config (optionsOf confOpts) := by
  constructor
  · rintro ⟨config', modifiedArgs, hrun, happlied⟩
    obtain ⟨htyped, hlength, hsections⟩ := options_of_run hrun
    refine ⟨?_, htyped, ?_⟩
    · -- every option has an entry, and only short ones get one
      have hall : (optionsOf confOpts).countP (fun option => (optionPath option).length ≤ 2) =
          (optionsOf confOpts).length := by
        rw [happlied.named.length_eq, hlength, List.length_nil, Nat.zero_add]
      intro option ho
      simpa using List.countP_eq_length.mp hall option ho
    · intro option ho key key' hpath
      have halone : ∀ option' ∈ optionsOf confOpts, optionPath option' ≠ [key] :=
        fun option' ho' => happlied.not_alone ho ho' hpath
      exact ⟨hsections option ho key key' hpath halone, halone⟩
  · intro haccepted
    obtain ⟨config', entries, hrun, happlied⟩ := applied_of_accepted haccepted []
    exact ⟨config', entries, hrun, happlied⟩

/-- Strings of the digits 0 to 9. -/
def asciiLiterals : Literals where
  isdigit s := s ≠ "" && s.toList.all Char.isDigit
  int s := .ok (s.toNat?.getD 0)
  float _ := none

/-- **A multi-level key is dropped**: an option with three keys leaves the configuration as
it is. -/
theorem confOpts_dropped :
    applyConfOpts asciiLiterals [] "chain:log:level:5" = .ok ([], []) ∧
      ¬ ConfOptsCorrect asciiLiterals [] "chain:log:level:5" := by
  have hoptions : optionsOf "chain:log:level:5" = ["chain:log:level:5"] := by decide
  have hrun : applyConfOpts asciiLiterals [] "chain:log:level:5" = .ok ([], []) := by
    rw [applyConfOpts, hoptions]
    rfl
  refine ⟨hrun, ?_⟩
  rintro ⟨config', modifiedArgs, hrun', happlied⟩
  obtain ⟨rfl, rfl⟩ := Prod.mk.inj (Except.ok.inj (hrun.symm.trans hrun'))
  have hlength := happlied.named.length_eq
  rw [hoptions] at hlength
  exact absurd hlength (by decide)

end Clev2er.Config
