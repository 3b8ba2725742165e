import Clev2er.Config.FileNames
import Mathlib.Data.Bool.AllAny
import Mathlib.Data.Char
import Mathlib.Tactic.IntervalCases

/-!
# Selecting the configuration file and the algorithm list

`load_config_files` and `load_algorithm_list` each look for one file in a
directory of the chain. What both promise is `IsSelected`: the file matches the
baseline and version given; where these are open, it has the highest baseline
for which a matching file exists and then the highest version of that baseline;
and of an `.xml` and a `.yml` of one baseline and version it is the `.xml`.

Both searches take the last name `glob.glob` enumerates, and try all `.xml`
files of a baseline before its `.yml` files. The algorithm-list search uses the
version only if the baseline is given too.
-/

namespace Clev2er.Config

/-- `list(string.ascii_uppercase[::-1])`. -/
def reverseAlphabet : List Char :=
  ['Z', 'Y', 'X', 'W', 'V', 'U', 'T', 'S', 'R', 'Q', 'P', 'O', 'N',
   'M', 'L', 'K', 'J', 'I', 'H', 'G', 'F', 'E', 'D', 'C', 'B', 'A']

/-- `reverse_alphabet_list` of both loaders: the baseline given, or all. -/
def reverseAlphabetList (baseline : String) : List String :=
  if baseline = "" then reverseAlphabet.map String.singleton else [baseline]

/-- The search loop of both loaders: for each baseline in turn the `.xml`
candidates, then the `.yml` candidates, and of the first non-empty list the last
entry. -/
def searchBaselines (candidates : String → Format → List String)
    (baselines : List String) : Option (String × String) :=
  baselines.findSome? (fun b =>
    ((candidates b .xml).getLast?.or (candidates b .yml).getLast?).map (fun file => (b, file)))

/-- With baseline and version both given there is one name to try per format:
the `.xml` file if it is there, the `.yml` path if it is not. -/
def exactName (d : Directory) (chainName baseline : String) (version : Nat) : String :=
  if d.isfile (fileName chainName baseline version .xml)
  then fileName chainName baseline version .xml
  else fileName chainName baseline version .yml

/-! ## `load_config_files`, lines 302 to 365 -/

/-- `int(chain_config_file[-7:-4])`. -/
def versionOfPath (file : String) : Except PyExc Nat :=
  let digits := (file.toList.drop (file.toList.length - 7)).take 3
  if digits ≠ [] ∧ digits.all Char.isDigit then .ok (Nat.ofDigitChars 10 digits 0)
  else .error ⟨.valueError, "invalid literal for int() with base 10"⟩

/-- The chain configuration file `load_config_files` uses when none is named,
with the baseline and version it reports. -/
def selectConfigFile (d : Directory) (chainName baseline : String) (version : Nat) :
    Except PyExc (String × String × Nat) :=
  if baseline ≠ "" ∧ version ≠ 0 then
    .ok (d.join (exactName d chainName baseline version), baseline, version)
  else
    let candidates := fun b fmt =>
      if version ≠ 0 then d.globName (fileName chainName b version fmt)
      else d.globStar (chainName ++ "_" ++ b) fmt.suffix
    match searchBaselines candidates (reverseAlphabetList baseline) with
    | some (b, file) => do
        let v ← versionOfPath file
        .ok (file, b, v)
    | none => .error ⟨.osError, "No chain config file found for chain " ++ chainName⟩

/-! ## `load_algorithm_list`, lines 78 to 141 -/

/-- The algorithm-list file `load_algorithm_list` uses when none is named.
`listsDir` is the outcome of `os.path.isdir` on the directory of all lists. -/
def selectAlgListFile (listsDir : Bool) (d : Directory) (chainName baseline : String)
    (version : Nat) : Except PyExc String :=
  if !listsDir then .error ⟨.osError, "Could not find algorithm list directory"⟩
  else if version > 100 then
    .error ⟨.valueError, "version (" ++ toString version ++ ") must be between 1 and 100"⟩
  else if baseline ≠ "" ∧ ¬ baseline.toList.all Char.isAlpha then
    .error ⟨.valueError, "baseline (" ++ baseline ++ ") must be a char between A..Z"⟩
  else
    let baseline := String.ofList (baseline.toList.map Char.toUpper)
    if version > 0 ∧ baseline ≠ "" then
      .ok (d.join (exactName d chainName baseline version))
    else
      let candidates := fun b fmt => d.globStar (chainName ++ "_" ++ b) fmt.suffix
      match searchBaselines candidates (reverseAlphabetList baseline) with
      | some (_, file) => .ok file
      | none => .error ⟨.osError, "No algorithm list file found for chain " ++ chainName⟩

/-! ## What a selection has to be -/

/-- A baseline letter `A..Z`. -/
abbrev Letter := { c : Char // 'A' ≤ c ∧ c ≤ 'Z' }

/-- The baseline argument: empty when the baseline is not specified. -/
def baselineArg : Option Letter → String
  | none => ""
  | some b => String.singleton b.1

theorem baselineArg_some (b : Letter) : baselineArg (some b) = String.singleton b.1 := rfl

/-- `f` has the baseline and the version that are specified (`version = 0` is
an open version). -/
def Matches (baseline : Option Letter) (version : Nat) (f : ListedFile) : Prop :=
  (∀ b, baseline = some b → f.baseline = b.1) ∧ (version ≠ 0 → f.version = version)

/-- **The selection rule.** -/
structure IsSelected (files : List ListedFile) (baseline : Option Letter)
    (version : Nat) (f : ListedFile) : Prop where
  present : f ∈ files
  fits : Matches baseline version f
  highest_baseline : baseline = none →
    ∀ g ∈ files, Matches baseline version g → g.baseline ≤ f.baseline
  highest_version : version = 0 →
    ∀ g ∈ files, g.baseline = f.baseline → g.version ≤ f.version
  xml_first : f.format = .yml →
    ∀ g ∈ files, g.baseline = f.baseline → g.version = f.version → g.format = .yml

/-- The file enumerated last among the `.xml` files of a baseline, or among its
`.yml` files when it has no `.xml` file. -/
def LastListed (files : List ListedFile) (b : Char) (f : ListedFile) : Prop :=
  (ofBaseline files b .xml).getLast? = some f ∨
    ofBaseline files b .xml = [] ∧ (ofBaseline files b .yml).getLast? = some f

/-- The baseline a search without a version settles on: the one given, or the
highest that has any file. -/
def SearchedBaseline (files : List ListedFile) (baseline : Option Letter) (b : Char) : Prop :=
  match baseline with
  | some given => b = given.1
  | none => (∃ g ∈ files, g.baseline = b) ∧ ∀ g ∈ files, g.baseline ≤ b

/-! ## The search loop over the letters -/

theorem mem_reverseAlphabet {c : Char} (h : 'A' ≤ c ∧ c ≤ 'Z') : c ∈ reverseAlphabet := by
  obtain ⟨h₁, h₂⟩ := h
  have hlow : 65 ≤ c.toNat := h₁
  have hhigh : c.toNat ≤ 90 := h₂
  have hc : c = Char.ofNat c.toNat := (Char.ofNat_toNat c).symm
  generalize c.toNat = n at hc hlow hhigh
  subst hc
  interval_cases n <;> decide

theorem reverseAlphabet_descending : reverseAlphabet.Pairwise (fun a b => b < a) := by
  decide

section Search

variable (pathOf : ListedFile → String)
variable (sel : Char → Format → List ListedFile)
variable (candidates : String → Format → List String)
variable (hcand : ∀ b fmt, candidates (String.singleton b) fmt = (sel b fmt).map pathOf)

/-- What the loop finds for one baseline. -/
def hit (sel : Char → Format → List ListedFile) (b : Char) : Option ListedFile :=
  (sel b .xml).getLast?.or (sel b .yml).getLast?

include hcand in
theorem searchBaselines_singleton (b : Char) :
    searchBaselines candidates [String.singleton b] =
      (hit sel b).map (fun f => (String.singleton b, pathOf f)) := by
  simp only [searchBaselines, List.findSome?_cons, List.findSome?_nil, hcand,
    List.getLast?_map, ← Option.map_or, hit]
  cases (sel b .xml).getLast?.or (sel b .yml).getLast? <;> rfl

include hcand in
/-- Over the whole alphabet the loop stops at the highest letter that has a
candidate. -/
theorem searchBaselines_alphabet {c : Char} (hc : 'A' ≤ c ∧ c ≤ 'Z')
    (hhit : (hit sel c).isSome) :
    ∃ b f, searchBaselines candidates (reverseAlphabet.map String.singleton) =
        some (String.singleton b, pathOf f) ∧ hit sel b = some f ∧
      ∀ c', 'A' ≤ c' ∧ c' ≤ 'Z' → (hit sel c').isSome → c' ≤ b := by
  have hfun : searchBaselines candidates (reverseAlphabet.map String.singleton) =
      reverseAlphabet.findSome?
        (fun b => (hit sel b).map (fun f => (String.singleton b, pathOf f))) := by
    simp only [searchBaselines, List.findSome?_map, Function.comp_def, hcand,
      List.getLast?_map, ← Option.map_or, hit, Option.map_map]
  have hsome : (reverseAlphabet.findSome?
      (fun b => (hit sel b).map (fun f => (String.singleton b, pathOf f)))).isSome := by
    rw [List.findSome?_isSome_iff]
    exact ⟨c, mem_reverseAlphabet hc, by simpa using hhit⟩
  obtain ⟨r, hr⟩ := Option.isSome_iff_exists.mp hsome
  obtain ⟨above, b, below, hsplit, hb, hnone⟩ := List.findSome?_eq_some_iff.mp hr
  obtain ⟨f, hf, rfl⟩ := Option.map_eq_some_iff.mp hb
  refine ⟨b, f, hfun.trans hr, hf, ?_⟩
  intro c' hc' hhit'
  have hmem := mem_reverseAlphabet hc'
  rw [hsplit, List.mem_append, List.mem_cons] at hmem
  rcases hmem with habove | rfl | hbelow
  · -- a letter above `b` had no candidate
    have hempty := hnone c' habove
    rw [Option.map_eq_none_iff] at hempty
    simp [hempty] at hhit'
  · exact le_refl _
  · have hdesc := reverseAlphabet_descending
    rw [hsplit, List.pairwise_append] at hdesc
    exact le_of_lt ((List.pairwise_cons.mp hdesc.2.1).1 c' hbelow)

include hcand in
/-- **The search.** If some admissible baseline has a candidate, the loop
returns the last candidate of the baseline given, or of the highest one. -/
theorem searchBaselines_spec (baseline : Option Letter) {c : Char}
    (hc : 'A' ≤ c ∧ c ≤ 'Z') (hgiven : ∀ given, baseline = some given → c = given.1)
    (hhit : (hit sel c).isSome) :
    ∃ b f, searchBaselines candidates (reverseAlphabetList (baselineArg baseline)) =
        some (String.singleton b, pathOf f) ∧ hit sel b = some f ∧
      (∀ given, baseline = some given → b = given.1) ∧
      (baseline = none → ∀ c', 'A' ≤ c' ∧ c' ≤ 'Z' → (hit sel c').isSome → c' ≤ b) := by
  cases baseline with
  | none =>
      obtain ⟨b, f, hsearch, hf, hmax⟩ :=
        searchBaselines_alphabet pathOf sel candidates hcand hc hhit
      refine ⟨b, f, ?_, hf, ?_, fun _ => hmax⟩
      · simpa [reverseAlphabetList, baselineArg] using hsearch
      · intro given hgiv
        cases hgiv
  | some given =>
      obtain rfl : c = given.1 := hgiven given rfl
      obtain ⟨f, hf⟩ := Option.isSome_iff_exists.mp hhit
      refine ⟨given.1, f, ?_, hf, ?_, ?_⟩
      · have hne : String.singleton given.1 ≠ "" := by
          intro h
          have := congrArg String.toList h
          simp at this
        rw [reverseAlphabetList, baselineArg, if_neg hne,
          searchBaselines_singleton pathOf sel candidates hcand, hf]
        rfl
      · intro given' hgiv
        cases hgiv
        rfl
      · intro hnone
        cases hnone

end Search

/-! ## Candidates of the naming scheme -/

variable {files : List ListedFile}

/-- A search restricted to files with a property: the version given, or none. -/
def restricted (files : List ListedFile) (keep : ListedFile → Bool) (b : Char)
    (fmt : Format) : List ListedFile :=
  (ofBaseline files b fmt).filter keep

theorem mem_restricted {keep : ListedFile → Bool} {b : Char} {fmt : Format}
    {f : ListedFile} :
    f ∈ restricted files keep b fmt ↔
      f ∈ files ∧ (f.baseline = b ∧ f.format = fmt) ∧ keep f = true := by
  rw [restricted, List.mem_filter, mem_ofBaseline]
  tauto

theorem restricted_true (b : Char) (fmt : Format) :
    restricted files (fun _ => true) b fmt = ofBaseline files b fmt := by
  simp [restricted]

theorem hit_isSome {keep : ListedFile → Bool} {g : ListedFile} (hg : g ∈ files)
    (hkeep : keep g = true) : (hit (restricted files keep) g.baseline).isSome := by
  have hmem : g ∈ restricted files keep g.baseline g.format :=
    mem_restricted.mpr ⟨hg, ⟨rfl, rfl⟩, hkeep⟩
  have hne := List.ne_nil_of_mem hmem
  cases hfmt : g.format with
  | xml =>
      rw [hfmt] at hne
      simp [hit, hne]
  | yml =>
      rw [hfmt] at hne
      simp [hit, hne]

/-- What a hit is: a kept file of the baseline, and an `.xml` file unless the
baseline has no kept `.xml` file. -/
theorem hit_eq_some {keep : ListedFile → Bool} {b : Char} {f : ListedFile}
    (h : hit (restricted files keep) b = some f) :
    f ∈ files ∧ f.baseline = b ∧ keep f = true ∧
      (f.format = .yml → restricted files keep b .xml = []) := by
  rcases Option.or_eq_some_iff.mp h with hxml | ⟨hnone, hyml⟩
  · obtain ⟨hmem, ⟨hb, hfmt⟩, hkeep⟩ := mem_restricted.mp (List.mem_of_getLast? hxml)
    refine ⟨hmem, hb, hkeep, ?_⟩
    intro hyml
    rw [hfmt] at hyml
    cases hyml
  · obtain ⟨hmem, ⟨hb, _⟩, hkeep⟩ := mem_restricted.mp (List.mem_of_getLast? hyml)
    exact ⟨hmem, hb, hkeep, fun _ => List.getLast?_eq_none_iff.mp hnone⟩

theorem hit_eq_some_iff_lastListed {b : Char} {f : ListedFile} :
    hit (restricted files (fun _ => true)) b = some f ↔ LastListed files b f := by
  simp only [hit, restricted_true, LastListed, Option.or_eq_some_iff,
    List.getLast?_eq_none_iff]

/-- **A hit is a selection** up to the version: of the rule only the highest
version remains to be checked when the version is open. -/
theorem isSelected_of_hit {baseline : Option Letter} {version : Nat}
    {keep : ListedFile → Bool} {b : Char} {f : ListedFile}
    (hkeep : keep f = true → version ≠ 0 → f.version = version)
    (hcover : ∀ g ∈ files, Matches baseline version g → keep g = true)
    (htwin : ∀ g, g.version = f.version → keep f = true → keep g = true)
    (hf : hit (restricted files keep) b = some f)
    (hgiven : ∀ given, baseline = some given → b = given.1)
    (hmax : baseline = none → ∀ c, 'A' ≤ c ∧ c ≤ 'Z' →
      (hit (restricted files keep) c).isSome → c ≤ b)
    (hversion : version = 0 → ∀ g ∈ files, g.baseline = b → g.version ≤ f.version) :
    IsSelected files baseline version f := by
  obtain ⟨hmem, rfl, hkf, hxml⟩ := hit_eq_some hf
  refine ⟨hmem, ⟨hgiven, hkeep hkf⟩, ?_, hversion, ?_⟩
  · intro hnone g hg hfits
    exact hmax hnone g.baseline g.baseline_upper (hit_isSome hg (hcover g hg hfits))
  · intro hyml g hg hb hv
    cases hfmt : g.format with
    | yml => rfl
    | xml =>
        have hin : g ∈ restricted files keep f.baseline .xml :=
          mem_restricted.mpr ⟨hg, ⟨hb, hfmt⟩, htwin g hv hkf⟩
        rw [hxml hyml] at hin
        cases hin

/-! ## Selecting by full name -/

variable (path chainName : String)

theorem join_name_injective {f g : ListedFile}
    (h : (chainDirectory path chainName files).join (f.name chainName) =
      (chainDirectory path chainName files).join (g.name chainName)) :
    f.baseline = g.baseline ∧ f.version = g.version ∧ f.format = g.format := by
  have hname : f.name chainName = g.name chainName := by
    have hl := congrArg String.toList h
    simp only [Directory.join, String.toList_append, List.append_cancel_left_eq] at hl
    exact String.toList_inj.mp hl
  exact (f.name_eq_fileName_iff chainName g.baseline g.version g.format).mp hname

theorem ListedFile.eq_of_fields {f g : ListedFile}
    (h : f.baseline = g.baseline ∧ f.version = g.version ∧ f.format = g.format) :
    f = g := by
  obtain ⟨b, v, fmt, hb, hv⟩ := f
  obtain ⟨b', v', fmt', hb', hv'⟩ := g
  obtain ⟨rfl, rfl, rfl⟩ := h
  rfl

/-- With baseline and version both given, the two names tried name the right
file whenever there is one. -/
theorem exact_name_isSelected {b : Letter} {version : Nat} (hversion : version ≠ 0)
    (hex : ∃ g ∈ files, Matches (some b) version g) :
    ∃ f, IsSelected files (some b) version f ∧
      exactName (chainDirectory path chainName files) chainName (baselineArg (some b))
        version = f.name chainName := by
  rw [baselineArg_some, exactName]
  obtain ⟨g, hg, hgb, hgv⟩ := hex
  -- the xml name is tried first, and yml only where it does not exist
  by_cases hxml : (chainDirectory path chainName files).isfile
      (fileName chainName (String.singleton b.1) version .xml) = true
  · obtain ⟨f, hf, hfb, hfv, hffmt⟩ :=
      (isfile_chainDirectory path chainName files b.1 version .xml).mp hxml
    refine ⟨f, ⟨hf, ⟨?_, fun _ => hfv⟩, ?_, ?_, ?_⟩, ?_⟩
    · intro b' hb'
      cases hb'
      exact hfb
    · intro hnone
      cases hnone
    · intro hzero
      exact absurd hzero hversion
    · intro hyml
      rw [hffmt] at hyml
      cases hyml
    · rw [if_pos hxml]
      exact ((f.name_eq_fileName_iff chainName b.1 version .xml).mpr
        ⟨hfb, hfv, hffmt⟩).symm
  · have hnoxml : ∀ f ∈ files, f.baseline = b.1 → f.version = version →
        f.format = .yml := by
      intro f hf hfb hfv
      cases hfmt : f.format with
      | yml => rfl
      | xml =>
          exact absurd ((isfile_chainDirectory path chainName files b.1 version .xml).mpr
            ⟨f, hf, hfb, hfv, hfmt⟩) hxml
    have hb := hgb b rfl
    have hv := hgv hversion
    refine ⟨g, ⟨hg, ⟨hgb, hgv⟩, ?_, ?_, ?_⟩, ?_⟩
    · intro hnone
      cases hnone
    · intro hzero
      exact absurd hzero hversion
    · intro _ g' hg' hb' hv'
      exact hnoxml g' hg' (hb'.trans hb) (hv'.trans hv)
    · rw [if_neg hxml]
      exact ((g.name_eq_fileName_iff chainName b.1 version .yml).mpr
        ⟨hb, hv, hnoxml g hg hb hv⟩).symm

/-- `int(chain_config_file[-7:-4])` reads the version back from the name. -/
theorem versionOfPath_join (f : ListedFile) :
    versionOfPath ((chainDirectory path chainName files).join (f.name chainName)) =
      .ok f.version := by
  have hlen := formatVersion_length f.version_three_digits
  have hsuf := f.format.suffix_length
  have hlist : ((chainDirectory path chainName files).join (f.name chainName)).toList =
      (path ++ "/" ++ chainName ++ "_" ++ String.singleton f.baseline).toList ++
        ((formatVersion f.version).toList ++ f.format.suffix.toList) := by
    simp [Directory.join, ListedFile.name, fileName, String.toList_append]
  have hslice : (((chainDirectory path chainName files).join (f.name chainName)).toList.drop
      (((chainDirectory path chainName files).join (f.name chainName)).toList.length - 7)).take
        3 = (formatVersion f.version).toList := by
    rw [hlist, List.length_append, List.length_append, hlen, hsuf, Nat.add_sub_cancel,
      List.drop_left, ← hlen, List.take_left]
  have hdigits : ∀ c ∈ (formatVersion f.version).toList, c.isDigit = true := by
    intro c hc
    rw [formatVersion_toList, List.mem_append, List.mem_replicate] at hc
    rcases hc with ⟨-, rfl⟩ | hc
    · decide
    · exact Nat.isDigit_of_mem_toDigits (by decide) (by decide) hc
  have hne : (formatVersion f.version).toList ≠ [] := by
    intro hnil
    rw [hnil] at hlen
    cases hlen
  simp only [versionOfPath, hslice]
  rw [if_pos ⟨hne, List.all_eq_true.mpr hdigits⟩, ofDigitChars_formatVersion]

/-! ## The searches compute a hit -/

theorem baselineArg_some_ne (b : Letter) : baselineArg (some b) ≠ "" := by
  intro h
  have := congrArg String.toList h
  simp [baselineArg] at this

/-- `baseline.upper()` leaves a letter `A..Z` as it is. -/
theorem upper_baselineArg (baseline : Option Letter) :
    String.ofList ((baselineArg baseline).toList.map Char.toUpper) =
      baselineArg baseline := by
  cases baseline with
  | none => rfl
  | some b =>
      have hmem := mem_reverseAlphabet b.2
      have hup : b.1.toUpper = b.1 :=
        List.all_iff_forall_prop.mp (by decide : reverseAlphabet.all
          (fun c => c.toUpper = c) = true) b.1 hmem
      simp [baselineArg, hup]

theorem alpha_baselineArg (baseline : Option Letter) :
    (baselineArg baseline).toList.all Char.isAlpha = true := by
  cases baseline with
  | none => rfl
  | some b =>
      have hmem := mem_reverseAlphabet b.2
      have halpha : b.1.isAlpha = true :=
        List.all_eq_true.mp (by decide : reverseAlphabet.all Char.isAlpha = true) b.1 hmem
      simp [baselineArg, halpha]

/-- The wildcard search of both loaders, as it runs with an open version. -/
theorem search_globStar {baseline : Option Letter} {g : ListedFile} (hg : g ∈ files)
    (hgiven : ∀ given, baseline = some given → g.baseline = given.1) :
    ∃ b f, searchBaselines
        (fun b fmt => (chainDirectory path chainName files).globStar
          (chainName ++ "_" ++ b) fmt.suffix)
        (reverseAlphabetList (baselineArg baseline)) =
        some (String.singleton b,
          (chainDirectory path chainName files).join (f.name chainName)) ∧
      hit (restricted files (fun _ => true)) b = some f ∧
      (∀ given, baseline = some given → b = given.1) ∧
      (baseline = none → ∀ c, 'A' ≤ c ∧ c ≤ 'Z' →
        (hit (restricted files (fun _ => true)) c).isSome → c ≤ b) := by
  refine searchBaselines_spec _ _ _ ?_ baseline g.baseline_upper hgiven (hit_isSome hg rfl)
  intro b fmt
  rw [globStar_chainDirectory, restricted_true]

theorem searchedBaseline_of_hit {baseline : Option Letter} {b : Char} {f : ListedFile}
    (hf : hit (restricted files (fun _ => true)) b = some f)
    (hgiven : ∀ given, baseline = some given → b = given.1)
    (hmax : baseline = none → ∀ c, 'A' ≤ c ∧ c ≤ 'Z' →
      (hit (restricted files (fun _ => true)) c).isSome → c ≤ b) :
    SearchedBaseline files baseline b := by
  cases baseline with
  | some given => exact hgiven given rfl
  | none =>
      obtain ⟨hmem, hb, -, -⟩ := hit_eq_some hf
      exact ⟨⟨f, hmem, hb⟩, fun g hg =>
        hmax rfl g.baseline g.baseline_upper (hit_isSome hg rfl)⟩

/-- The searched baseline is unique, and so is the file listed last in it. -/
theorem searchedBaseline_unique {baseline : Option Letter} {b b' : Char}
    (h : SearchedBaseline files baseline b) (h' : SearchedBaseline files baseline b') :
    b = b' := by
  cases baseline with
  | some given => exact h.trans h'.symm
  | none =>
      obtain ⟨⟨g, hg, rfl⟩, hmax⟩ := h
      obtain ⟨⟨g', hg', rfl⟩, hmax'⟩ := h'
      exact le_antisymm (hmax' g hg) (hmax g' hg')

theorem lastListed_unique {b : Char} {f f' : ListedFile} (h : LastListed files b f)
    (h' : LastListed files b f') : f = f' := by
  have hf := hit_eq_some_iff_lastListed.mpr h
  rw [hit_eq_some_iff_lastListed.mpr h'] at hf
  exact (Option.some.inj hf).symm

/-! ## Exactly when the selection is right -/

/-- In the searched baseline, the file enumerated last (of the `.xml` files, or
of the `.yml` files where there is no `.xml`) has the baseline's highest
version. -/
def LastIsHighest (files : List ListedFile) (baseline : Option Letter) : Prop :=
  ∀ b f, SearchedBaseline files baseline b → LastListed files b f →
    ∀ g ∈ files, g.baseline = b → g.version ≤ f.version

/-- In the searched baseline, the file enumerated last has this version. -/
def LastHasVersion (files : List ListedFile) (baseline : Option Letter)
    (version : Nat) : Prop :=
  ∀ b f, SearchedBaseline files baseline b → LastListed files b f → f.version = version

/-- `selectConfigFile` with an open version returns the file listed last. -/
theorem selectConfigFile_open {baseline : Option Letter} {g : ListedFile}
    (hg : g ∈ files) (hgiven : ∀ given, baseline = some given → g.baseline = given.1) :
    ∃ b f, selectConfigFile (chainDirectory path chainName files) chainName
        (baselineArg baseline) 0 =
        .ok ((chainDirectory path chainName files).join (f.name chainName),
          String.singleton f.baseline, f.version) ∧
      hit (restricted files (fun _ => true)) b = some f ∧
      (∀ given, baseline = some given → b = given.1) ∧
      (baseline = none → ∀ c, 'A' ≤ c ∧ c ≤ 'Z' →
        (hit (restricted files (fun _ => true)) c).isSome → c ≤ b) := by
  obtain ⟨b, f, hsearch, hf, hb, hmax⟩ := search_globStar path chainName hg hgiven
  refine ⟨b, f, ?_, hf, hb, hmax⟩
  have hfb := (hit_eq_some hf).2.1
  simp only [selectConfigFile, ne_eq, not_true_eq_false, and_false, if_false, hsearch,
    versionOfPath_join, hfb]
  rfl

/-- `selectConfigFile` with a version given and the baseline open finds the
highest baseline that has this version. -/
theorem selectConfigFile_version {version : Nat} (hversion : version ≠ 0)
    (hex : ∃ g ∈ files, Matches none version g) :
    ∃ f, selectConfigFile (chainDirectory path chainName files) chainName
        (baselineArg none) version =
        .ok ((chainDirectory path chainName files).join (f.name chainName),
          String.singleton f.baseline, f.version) ∧
      IsSelected files none version f := by
  obtain ⟨g, hg, -, hgv⟩ := hex
  obtain ⟨b, f, hsearch, hf, hb, hmax⟩ := searchBaselines_spec
    (fun f => (chainDirectory path chainName files).join (f.name chainName))
    (restricted files (fun f => decide (f.version = version)))
    (fun b fmt => (chainDirectory path chainName files).globName
      (fileName chainName b version fmt))
    (fun b fmt => globName_chainDirectory path chainName files b version fmt)
    none g.baseline_upper (by simp) (hit_isSome hg (by simpa using hgv hversion))
  refine ⟨f, ?_, ?_⟩
  · have hfb := (hit_eq_some hf).2.1
    simp only [selectConfigFile, baselineArg, ne_eq, not_true_eq_false, false_and,
      if_false, hversion, not_false_eq_true, if_true]
    simp only [baselineArg] at hsearch
    rw [hsearch]
    simp only [versionOfPath_join, hfb]
    rfl
  · refine isSelected_of_hit ?_ ?_ ?_ hf hb hmax ?_
    · intro hf' _
      simpa using hf'
    · intro g' _ hfits
      simpa using hfits.2 hversion
    · intro g' hv hkeep
      simp only [decide_eq_true_eq] at hkeep ⊢
      exact hv.trans hkeep
    · intro hzero
      exact absurd hzero hversion

theorem selectConfigFile_exact {b : Letter} {version : Nat} (hversion : version ≠ 0)
    (hex : ∃ g ∈ files, Matches (some b) version g) :
    ∃ f, selectConfigFile (chainDirectory path chainName files) chainName
        (baselineArg (some b)) version =
        .ok ((chainDirectory path chainName files).join (f.name chainName),
          String.singleton f.baseline, f.version) ∧
      IsSelected files (some b) version f := by
  obtain ⟨f, hsel, hname⟩ := exact_name_isSelected path chainName hversion hex
  refine ⟨f, ?_, hsel⟩
  have hb : f.baseline = b.1 := hsel.fits.1 b rfl
  have hv : f.version = version := hsel.fits.2 hversion
  rw [selectConfigFile, if_pos ⟨baselineArg_some_ne b, hversion⟩, hname, hb, hv]
  rfl

/-- When the file listed last is selected for an open version, it has the highest. -/
theorem IsSelected.lastIsHighest {baseline : Option Letter} {version : Nat} {b : Char}
    {f : ListedFile} (hsel : IsSelected files baseline version f)
    (hsearched : SearchedBaseline files baseline b) (hlast : LastListed files b f)
    (hb : f.baseline = b) (hzero : version = 0) : LastIsHighest files baseline := by
  intro b' f' hs' hl'
  obtain rfl := searchedBaseline_unique hsearched hs'
  obtain rfl := lastListed_unique hlast hl'
  rw [← hb]
  exact hsel.highest_version hzero

/-- The configuration search is right exactly when the version is given, or the
enumeration ends with the highest version. -/
theorem selectConfigFile_isSelected_iff (baseline : Option Letter) (version : Nat)
    (hex : ∃ g ∈ files, Matches baseline version g) :
    (∃ f, selectConfigFile (chainDirectory path chainName files) chainName
        (baselineArg baseline) version =
        .ok ((chainDirectory path chainName files).join (f.name chainName),
          String.singleton f.baseline, f.version) ∧
      IsSelected files baseline version f) ↔
      (version = 0 → LastIsHighest files baseline) := by
  by_cases hversion : version = 0
  · subst hversion
    -- an open version is left to the enumeration: the last file of the baseline is taken
    obtain ⟨g, hg, hgiven, -⟩ := hex
    obtain ⟨b, f, hrun, hf, hb, hmax⟩ := selectConfigFile_open path chainName hg hgiven
    have hsearched := searchedBaseline_of_hit hf hb hmax
    have hlast := hit_eq_some_iff_lastListed.mp hf
    have hfb := (hit_eq_some hf).2.1
    constructor
    · rintro ⟨f', hrun', hsel⟩ -
      rw [hrun] at hrun'
      have hff : f = f' := ListedFile.eq_of_fields
        (join_name_injective path chainName (congrArg Prod.fst (Except.ok.inj hrun')))
      subst hff
      exact hsel.lastIsHighest hsearched hlast hfb rfl
    · intro hhigh
      refine ⟨f, hrun, isSelected_of_hit ?_ ?_ ?_ hf hb hmax ?_⟩
      · intro _ hne
        exact absurd rfl hne
      · intro _ _ _
        rfl
      · intro _ _ _
        rfl
      · intro _
        exact hhigh rfl b f hsearched hlast
  · refine ⟨fun _ hzero => absurd hzero hversion, fun _ => ?_⟩
    cases baseline with
    | none => exact selectConfigFile_version path chainName hversion hex
    | some b => exact selectConfigFile_exact path chainName hversion hex

/-- The algorithm-list search runs over the wildcard names whenever baseline or
version is open. -/
theorem selectAlgListFile_open {baseline : Option Letter} {version : Nat}
    (hversion : version ≤ 100) (hopen : baseline = none ∨ version = 0) {g : ListedFile}
    (hg : g ∈ files) (hgiven : ∀ given, baseline = some given → g.baseline = given.1) :
    ∃ b f, selectAlgListFile true (chainDirectory path chainName files) chainName
        (baselineArg baseline) version =
        .ok ((chainDirectory path chainName files).join (f.name chainName)) ∧
      hit (restricted files (fun _ => true)) b = some f ∧
      (∀ given, baseline = some given → b = given.1) ∧
      (baseline = none → ∀ c, 'A' ≤ c ∧ c ≤ 'Z' →
        (hit (restricted files (fun _ => true)) c).isSome → c ≤ b) := by
  obtain ⟨b, f, hsearch, hf, hb, hmax⟩ := search_globStar path chainName hg hgiven
  refine ⟨b, f, ?_, hf, hb, hmax⟩
  have hnot : ¬ (version > 0 ∧ baselineArg baseline ≠ "") := by
    rintro ⟨hpos, hne⟩
    rcases hopen with rfl | rfl
    · exact hne rfl
    · omega
  simp only [selectAlgListFile, Bool.not_true, Bool.false_eq_true, if_false,
    gt_iff_lt, Nat.not_lt.mpr hversion, alpha_baselineArg, not_true_eq_false, and_false,
    upper_baselineArg, hsearch]
  rw [if_neg hnot]

theorem selectAlgListFile_exact {b : Letter} {version : Nat} (hversion : version ≠ 0)
    (hle : version ≤ 100) (hex : ∃ g ∈ files, Matches (some b) version g) :
    ∃ f, selectAlgListFile true (chainDirectory path chainName files) chainName
        (baselineArg (some b)) version =
        .ok ((chainDirectory path chainName files).join (f.name chainName)) ∧
      IsSelected files (some b) version f := by
  obtain ⟨f, hsel, hname⟩ := exact_name_isSelected path chainName hversion hex
  refine ⟨f, ?_, hsel⟩
  have hcond : version > 0 ∧ baselineArg (some b) ≠ "" :=
    ⟨Nat.pos_of_ne_zero hversion, baselineArg_some_ne b⟩
  simp only [selectAlgListFile, Bool.not_true, Bool.false_eq_true, if_false,
    gt_iff_lt, Nat.not_lt.mpr hle, alpha_baselineArg, not_true_eq_false, and_false,
    upper_baselineArg]
  rw [if_pos hcond, hname]

/-- The algorithm-list search is right exactly when the version is in range and
baseline and version are both given, or the enumeration happens to end with the
right file. -/
theorem selectAlgListFile_isSelected_iff (baseline : Option Letter) (version : Nat)
    (hex : ∃ g ∈ files, Matches baseline version g) :
    (∃ f, selectAlgListFile true (chainDirectory path chainName files) chainName
        (baselineArg baseline) version =
        .ok ((chainDirectory path chainName files).join (f.name chainName)) ∧
      IsSelected files baseline version f) ↔
      version ≤ 100 ∧ (version = 0 → LastIsHighest files baseline) ∧
        (version ≠ 0 → baseline = none → LastHasVersion files baseline version) := by
  by_cases hle : version ≤ 100
  · by_cases hopen : baseline = none ∨ version = 0
    · -- the wildcard search, which does not look at a version given
      obtain ⟨g, hg, hgiven, -⟩ := hex
      obtain ⟨b, f, hrun, hf, hb, hmax⟩ :=
        selectAlgListFile_open path chainName hle hopen hg hgiven
      have hsearched := searchedBaseline_of_hit hf hb hmax
      have hlast := hit_eq_some_iff_lastListed.mp hf
      have hfb := (hit_eq_some hf).2.1
      constructor
      · rintro ⟨f', hrun', hsel⟩
        rw [hrun] at hrun'
        have hff : f = f' := ListedFile.eq_of_fields
          (join_name_injective path chainName (Except.ok.inj hrun'))
        subst hff
        refine ⟨hle, hsel.lastIsHighest hsearched hlast hfb, ?_⟩
        · intro hne _ b' f' hs' hl'
          obtain rfl := searchedBaseline_unique hsearched hs'
          obtain rfl := lastListed_unique hlast hl'
          exact hsel.fits.2 hne
      · rintro ⟨-, hhigh, hver⟩
        refine ⟨f, hrun, ?_⟩
        have hfv : version ≠ 0 → f.version = version := by
          intro hne
          rcases hopen with hnone | hzero
          · exact hver hne hnone b f hsearched hlast
          · exact absurd hzero hne
        exact isSelected_of_hit (fun _ => hfv) (fun _ _ _ => rfl) (fun _ _ _ => rfl) hf hb hmax
          (fun hzero => hhigh hzero b f hsearched hlast)
    · -- both are given: the name is known
      rw [not_or] at hopen
      obtain ⟨hsome, hversion⟩ := hopen
      obtain ⟨b, rfl⟩ := Option.ne_none_iff_exists'.mp hsome
      refine ⟨fun _ => ⟨hle, fun h => absurd h hversion, fun _ h => by cases h⟩, fun _ => ?_⟩
      exact selectAlgListFile_exact path chainName hversion hle hex
  · -- a version above 100 raises `ValueError`
    constructor
    · rintro ⟨f, hrun, -⟩
      simp only [selectAlgListFile, Bool.not_true, Bool.false_eq_true, if_false,
        gt_iff_lt, Nat.lt_of_not_le hle, if_true] at hrun
      cases hrun
    · rintro ⟨h, -⟩
      exact absurd h hle

/-- **Baseline and version selection.** For every directory content, every
enumeration order and every combination of given and open baseline and version
for which a matching file exists: the configuration search obeys the selection
rule exactly when the version is given or the enumeration ends with the highest
version of the searched baseline, and the algorithm-list search exactly when the
version is in range and, besides, an open baseline with a given version meets a
directory whose enumeration ends with that version. -/
theorem selection_follows_rule_iff (baseline : Option Letter) (version : Nat)
    (hex : ∃ g ∈ files, Matches baseline version g) :
    ((∃ f, selectConfigFile (chainDirectory path chainName files) chainName
        (baselineArg baseline) version =
        .ok ((chainDirectory path chainName files).join (f.name chainName),
          String.singleton f.baseline, f.version) ∧
      IsSelected files baseline version f) ↔
      (version = 0 → LastIsHighest files baseline)) ∧
    ((∃ f, selectAlgListFile true (chainDirectory path chainName files) chainName
        (baselineArg baseline) version =
        .ok ((chainDirectory path chainName files).join (f.name chainName)) ∧
      IsSelected files baseline version f) ↔
      version ≤ 100 ∧ (version = 0 → LastIsHighest files baseline) ∧
        (version ≠ 0 → baseline = none → LastHasVersion files baseline version)) :=
  ⟨selectConfigFile_isSelected_iff path chainName baseline version hex,
    selectAlgListFile_isSelected_iff path chainName baseline version hex⟩

/-- The two configurations of the test chain, enumerated newest first. -/
def testchainFiles : List ListedFile :=
  [⟨'A', 2, .xml, by decide, by decide⟩, ⟨'A', 1, .xml, by decide, by decide⟩]

/-- On the enumeration `A002, A001` both loaders are off the rule. -/
theorem selection_follows_rule_iff_testchain :
    (∃ g ∈ testchainFiles, Matches none 0 g) ∧
    ¬ (∃ f, selectConfigFile (chainDirectory "chain_configs/testchain" "testchain"
          testchainFiles) "testchain" (baselineArg none) 0 =
        .ok ((chainDirectory "chain_configs/testchain" "testchain" testchainFiles).join
          (f.name "testchain"), String.singleton f.baseline, f.version) ∧
      IsSelected testchainFiles none 0 f) := by
  have hex : ∃ g ∈ testchainFiles, Matches none 0 g :=
    ⟨⟨'A', 2, .xml, by decide, by decide⟩, by decide, by simp [Matches]⟩
  refine ⟨hex, ?_⟩
  rw [(selection_follows_rule_iff "chain_configs/testchain" "testchain" none 0 hex).1]
  intro hhigh
  have hlast : LastListed testchainFiles 'A' ⟨'A', 1, .xml, by decide, by decide⟩ :=
    Or.inl (by decide)
  have hsearched : SearchedBaseline testchainFiles none 'A' := by
    refine ⟨⟨_, List.mem_cons_self, rfl⟩, ?_⟩
    intro g hg
    simp only [testchainFiles, List.mem_cons, List.not_mem_nil, or_false] at hg
    rcases hg with rfl | rfl <;> exact le_refl _
  have := hhigh rfl 'A' _ hsearched hlast ⟨'A', 2, .xml, by decide, by decide⟩
    List.mem_cons_self rfl
  simp at this

/-- **The rule fails.** With `A002` enumerated before `A001` and nothing
specified, `load_config_files` takes version 1. -/
theorem selectConfigFile_takes_older_version :
    selectConfigFile (chainDirectory "chain_configs/testchain" "testchain" testchainFiles)
        "testchain" "" 0 =
      .ok ("chain_configs/testchain/testchain_A001.xml", "A", 1) ∧
    ¬ (∃ f, selectConfigFile (chainDirectory "chain_configs/testchain" "testchain"
          testchainFiles) "testchain" (baselineArg none) 0 =
        .ok ((chainDirectory "chain_configs/testchain" "testchain" testchainFiles).join
          (f.name "testchain"), String.singleton f.baseline, f.version) ∧
      IsSelected testchainFiles none 0 f) := by
  have hrun : selectConfigFile (chainDirectory "chain_configs/testchain" "testchain"
      testchainFiles) "testchain" "" 0 =
      .ok ("chain_configs/testchain/testchain_A001.xml", "A", 1) := by
    rfl
  refine ⟨hrun, ?_⟩
  rintro ⟨f, hf, hsel⟩
  rw [baselineArg, hrun] at hf
  have hversion : f.version = 1 := (congrArg (fun r => r.2.2) (Except.ok.inj hf)).symm
  have hbaseline : String.singleton f.baseline = "A" :=
    (congrArg (fun r => r.2.1) (Except.ok.inj hf)).symm
  have hb : f.baseline = 'A' := by
    have := congrArg String.toList hbaseline
    simpa using this
  have := hsel.highest_version rfl ⟨'A', 2, .xml, by decide, by decide⟩
    List.mem_cons_self hb.symm
  simp [hversion] at this

end Clev2er.Config
