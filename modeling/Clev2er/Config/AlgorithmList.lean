import Clev2er.Config.Selection
import Clev2er.Lib.RemoveWhileIterating

/-!
# Reading an algorithm list

`load_algorithm_list` reads the algorithm and finder names from the file it
selected. In an XML list every name is an element whose text says what to do
with it: `Enable`, `Disable` or `BreakpointAfter`. The names to leave out are
removed from the very list the loop is running over, once for the finders and
once for the algorithms, and a breakpoint is noticed only at a name the loop
visits.
-/

namespace Clev2er.Config

open Clev2er.Lib

/-- What the loader returns besides the path of the file. -/
structure AlgorithmLists where
  algorithmList : List String
  finderModuleList : List String
  breakpointAlgname : String
deriving DecidableEq

/-- How the loaders get at the content of a file: `xmltodict.parse` of an XML
document (a parse error is an `OSError`), `EnvYAML` of a YAML document. -/
structure Reader where
  xml : String → Except PyExc PyVal
  yml : String → Except PyExc PyVal

/-! ## The XML branch, lines 166 to 194 -/

/-- `algorithms_dict[name] == value`. -/
def hasValue (items : List (String × PyVal)) (value name : String) : Bool :=
  match items.lookup name with
  | some v => v.eqStr value
  | none => false

/-- The loop over `list(section.keys())` that removes the disabled names from
the list it runs over; with the names the loop variable took. -/
def removeDisabled (items : List (String × PyVal)) : List String × List String :=
  removeWhileIterating (hasValue items "Disable") 0 (items.map Prod.fst)

/-- `breakpoint_algname` after the loop: the last visited name marked
`BreakpointAfter`. -/
def breakpointOf (items : List (String × PyVal)) (visited : List String) : String :=
  visited.foldl
    (fun bp name => if hasValue items "BreakpointAfter" name then name else bp) ""

/-- `xml_dict["algorithm_list"]["l1b_file_selectors"]` where it is there. -/
def fileFindersDict (root : PyVal) : PyVal :=
  match root with
  | .dict items => (items.lookup "l1b_file_selectors").getD (.dict [])
  | _ => .dict []

def readXmlLists (xmlDict : PyVal) : Except PyExc AlgorithmLists := do
  let root ← xmlDict.getItem "algorithm_list"
  let algorithmsDict ← root.getItem "algorithms"
  let finders ← match fileFindersDict root with
    | .none => .ok []
    | finders => do
        let items ← finders.items
        .ok (removeDisabled items).1
  let items ← algorithmsDict.items
  let loop := removeDisabled items
  .ok ⟨loop.1, finders, breakpointOf items loop.2⟩

/-! ## The YAML branch, lines 196 to 220 -/

/-- The names of a YAML list. -/
def nameList : PyVal → Except PyExc (List String)
  | .list xs => xs.mapM (fun
      | .str s => .ok s
      | _ => .error ⟨.typeError, "expected a list of module names"⟩)
  | _ => .error ⟨.typeError, "expected a list of module names"⟩

def readYmlLists (yml : PyVal) : Except PyExc AlgorithmLists := do
  let algorithmList ← nameList (← yml.getItem "algorithms")
  let finderModuleList ← nameList (← yml.getItem "l1b_file_selectors")
  .ok ⟨algorithmList, finderModuleList, ""⟩

/-! ## The whole loader -/

/-- `path[-4:] == suffix` for a suffix of four characters. -/
def endsWith (file suffix : String) : Bool := decide (suffix.toList <:+ file.toList)

def loadAlgorithmList (read : Reader) (listsDir : Bool) (d : Directory)
    (chainName baseline : String) (version : Nat) (algListFile : String) :
    Except PyExc (AlgorithmLists × String) := do
  let file ← if algListFile = "" then selectAlgListFile listsDir d chainName baseline version
    else .ok algListFile
  if endsWith file ".xml" then
    let lists ← readXmlLists (← read.xml file)
    .ok (lists, file)
  else if endsWith file ".yml" then
    let lists ← readYmlLists (← read.yml file)
    .ok (lists, file)
  else
    .error ⟨.nameError, "Wrong file extension: must be .yml or .xml in file : " ++ file⟩

/-! ## Sections of a list document -/

/-- The children of a section element in document order. `xmltodict` keeps one
item per name, so the names are distinct. -/
structure XmlSection where
  items : List (String × PyVal)
  nodup : (items.map Prod.fst).Nodup

/-- A section as `xmltodict` returns it: an element without children is `None`. -/
def XmlSection.toPyVal (s : XmlSection) : PyVal :=
  match s.items with
  | [] => .none
  | items => .dict items

/-- The document with these two sections. -/
def listDocument (algorithms finders : XmlSection) : PyVal :=
  .dict [("algorithm_list", .dict
    [("algorithms", algorithms.toPyVal), ("l1b_file_selectors", finders.toPyVal)])]

/-- The names a section says to use: those whose value is not `Disable`. -/
def XmlSection.enabled (s : XmlSection) : List String :=
  (s.items.filter (fun e => !e.2.eqStr "Disable")).map Prod.fst

/-- No two consecutive names of the section are both disabled. -/
def XmlSection.NoAdjacentDisabled (s : XmlSection) : Prop :=
  s.items.IsChain (fun e e' => ¬ (e.2.eqStr "Disable" = true ∧ e'.2.eqStr "Disable" = true))

theorem hasValue_of_mem (s : XmlSection) (value : String) {e : String × PyVal}
    (he : e ∈ s.items) : hasValue s.items value e.1 = e.2.eqStr value := by
  have hlookup : s.items.lookup e.1 = some e.2 := by
    obtain ⟨items, hnd⟩ := s
    induction items with
    | nil => cases he
    | cons e' rest ih =>
        obtain ⟨hnotin, hrest⟩ := List.nodup_cons.mp hnd
        rcases List.mem_cons.mp he with rfl | hmem
        · exact List.lookup_cons_self
        · have hne : e.1 ≠ e'.1 := by
            intro h
            exact hnotin (h ▸ List.mem_map.mpr ⟨e, hmem, rfl⟩)
          have hbeq : (e.1 == e'.1) = false := beq_eq_false_iff_ne.mpr hne
          rw [List.lookup_cons, hbeq]
          exact ih hrest hmem
  simp only [hasValue, hlookup]

/-- The removal loop, read on the items of the section. -/
theorem removeDisabled_section (s : XmlSection) :
    (removeDisabled s.items).1 =
      sweep (hasValue s.items "Disable") (s.items.map Prod.fst) := by
  have h := removeWhileIterating_eq_sweep (hasValue s.items "Disable") []
    (s.items.map Prod.fst) (by simpa using s.nodup)
  simp only [List.nil_append, List.length_nil] at h
  rw [removeDisabled, h]

theorem enabled_eq_filter (s : XmlSection) :
    s.enabled = (s.items.map Prod.fst).filter (fun n => !hasValue s.items "Disable" n) := by
  rw [XmlSection.enabled, List.filter_map]
  congr 1
  apply List.filter_congr
  intro e he
  simp only [Function.comp, hasValue_of_mem s "Disable" he]

theorem noAdjacentDisabled_iff (s : XmlSection) :
    s.NoAdjacentDisabled ↔ (s.items.map Prod.fst).IsChain
      (fun n n' => ¬ (hasValue s.items "Disable" n = true ∧
        hasValue s.items "Disable" n' = true)) := by
  rw [List.isChain_map, XmlSection.NoAdjacentDisabled]
  apply List.IsChain.iff_of_mem_imp
  intro e e' he he'
  rw [hasValue_of_mem s "Disable" he, hasValue_of_mem s "Disable" he']

/-- **One section.** The loop leaves exactly the enabled names if and only if no
two neighbours are both disabled. -/
theorem removeDisabled_eq_enabled_iff (s : XmlSection) :
    (removeDisabled s.items).1 = s.enabled ↔ s.NoAdjacentDisabled := by
  rw [removeDisabled_section, enabled_eq_filter, noAdjacentDisabled_iff]
  exact sweep_eq_filter_iff _ _

/-! ## What the loader returns for a document -/

theorem removeDisabled_nil : removeDisabled [] = ([], []) := by
  rw [removeDisabled, List.map_nil, removeWhileIterating_of_length_le]
  simp

/-- Without a single algorithm the section is `None`, and reading its keys
raises `AttributeError`. -/
theorem readXmlLists_no_algorithms {algorithms : XmlSection} (finders : XmlSection)
    (h : algorithms.items = []) :
    readXmlLists (listDocument algorithms finders) =
      .error ⟨.attributeError, "object has no attribute 'keys'"⟩ := by
  simp only [readXmlLists, listDocument, PyVal.getItem, List.lookup_cons_self, bind,
    Except.bind, fileFindersDict, XmlSection.toPyVal, h]
  have hl : List.lookup "l1b_file_selectors" [("algorithms", PyVal.none),
      ("l1b_file_selectors", match finders.items with
        | [] => PyVal.none
        | items => PyVal.dict items)] =
      some (match finders.items with
        | [] => PyVal.none
        | items => PyVal.dict items) := rfl
  rw [hl, Option.getD_some]
  cases hf : finders.items with
  | nil => rfl
  | cons e rest => rfl

/-- With at least one algorithm, both lists are what their removal loop
leaves. -/
theorem readXmlLists_listDocument {algorithms : XmlSection} (finders : XmlSection)
    (h : algorithms.items ≠ []) :
    readXmlLists (listDocument algorithms finders) =
      .ok ⟨(removeDisabled algorithms.items).1, (removeDisabled finders.items).1,
        breakpointOf algorithms.items (removeDisabled algorithms.items).2⟩ := by
  have halg : algorithms.toPyVal = .dict algorithms.items := by
    unfold XmlSection.toPyVal
    split
    · rename_i hnil
      exact absurd hnil h
    · rfl
  have hl : List.lookup "l1b_file_selectors" [("algorithms", algorithms.toPyVal),
      ("l1b_file_selectors", finders.toPyVal)] = some finders.toPyVal := rfl
  simp only [readXmlLists, listDocument, PyVal.getItem, List.lookup_cons_self, bind,
    Except.bind, fileFindersDict, hl, Option.getD_some]
  rw [halg]
  cases hf : finders.items with
  | nil =>
      have hnone : finders.toPyVal = .none := by
        rw [XmlSection.toPyVal, hf]
      rw [hnone, removeDisabled_nil]
      rfl
  | cons e rest =>
      have hdict : finders.toPyVal = .dict (e :: rest) := by
        rw [XmlSection.toPyVal, hf]
      rw [hdict]
      rfl

theorem endsWith_xml (stem : String) : endsWith (stem ++ ".xml") ".xml" = true := by
  simp [endsWith, String.toList_append]

/-- **XML algorithm lists.** For every two sections, `load_algorithm_list`
returns exactly the names not disabled, in document order, if and only if there
is an algorithm at all and neither section disables two names in a row. -/
theorem loadAlgorithmList_enabled_iff (read : Reader) (listsDir : Bool) (d : Directory)
    (chainName baseline : String) (version : Nat) (stem : String)
    (algorithms finders : XmlSection)
    (hread : read.xml (stem ++ ".xml") = .ok (listDocument algorithms finders)) :
    (∃ bp, loadAlgorithmList read listsDir d chainName baseline version (stem ++ ".xml") =
        .ok (⟨algorithms.enabled, finders.enabled, bp⟩, stem ++ ".xml")) ↔
      algorithms.items ≠ [] ∧ algorithms.NoAdjacentDisabled ∧
        finders.NoAdjacentDisabled := by
  have hne : stem ++ ".xml" ≠ "" := by
    intro h
    have := congrArg String.toList h
    simp [String.toList_append] at this
  have hload : loadAlgorithmList read listsDir d chainName baseline version
      (stem ++ ".xml") = (do
        let lists ← readXmlLists (listDocument algorithms finders)
        .ok (lists, stem ++ ".xml")) := by
    simp only [loadAlgorithmList, if_neg hne, bind, Except.bind, endsWith_xml, if_true,
      hread]
  rw [hload]
  by_cases halg : algorithms.items = []
  · rw [readXmlLists_no_algorithms finders halg]
    constructor
    · rintro ⟨bp, h⟩
      cases h
    · rintro ⟨h, -⟩
      exact absurd halg h
  · rw [readXmlLists_listDocument finders halg]
    rw [← removeDisabled_eq_enabled_iff algorithms, ← removeDisabled_eq_enabled_iff finders]
    constructor
    · rintro ⟨bp, h⟩
      have hlists := congrArg Prod.fst (Except.ok.inj h)
      exact ⟨halg, congrArg AlgorithmLists.algorithmList hlists,
        congrArg AlgorithmLists.finderModuleList hlists⟩
    · rintro ⟨-, ha, hf⟩
      rw [ha, hf]
      exact ⟨_, rfl⟩

/-- A reader that finds the same document whatever the path. -/
def constReader (doc : PyVal) : Reader where
  xml := fun _ => .ok doc
  yml := fun _ => .ok doc

/-- The test chain with only its first algorithm enabled, and no finder. -/
def oneDisabled : XmlSection where
  items := [("alg_template1", .str "Enable"), ("alg_template2", .str "Disable")]
  nodup := by decide

def noFinders : XmlSection where
  items := []
  nodup := by decide

theorem loadAlgorithmList_enabled_iff_oneDisabled :
    (∃ bp, loadAlgorithmList (constReader (listDocument oneDisabled noFinders)) true ⟨"", []⟩
        "testchain" "A" 1 ("testchain_A001" ++ ".xml") =
      .ok (⟨oneDisabled.enabled, noFinders.enabled, bp⟩, "testchain_A001" ++ ".xml")) ∧
    oneDisabled.enabled = ["alg_template1"] := by
  refine ⟨?_, rfl⟩
  refine (loadAlgorithmList_enabled_iff _ true ⟨"", []⟩ "testchain" "A" 1 "testchain_A001"
    oneDisabled noFinders rfl).mpr ⟨by simp [oneDisabled], ?_, ?_⟩
  · simp [XmlSection.NoAdjacentDisabled, oneDisabled, PyVal.eqStr]
  · simp [XmlSection.NoAdjacentDisabled, noFinders]

/-- Both algorithms of the test chain disabled. -/
def bothDisabled : XmlSection where
  items := [("alg_template1", .str "Disable"), ("alg_template2", .str "Disable")]
  nodup := by decide

/-- **A disabled algorithm survives.** Of two neighbours that are both disabled
the loader returns the second, where no name is enabled. -/
theorem loadAlgorithmList_returns_disabled :
    loadAlgorithmList (constReader (listDocument bothDisabled noFinders)) true ⟨"", []⟩
        "testchain" "A" 1 "testchain_A001.xml" =
      .ok (⟨["alg_template2"], [], ""⟩, "testchain_A001.xml") ∧
    bothDisabled.enabled = [] := by
  refine ⟨?_, rfl⟩
  have hloop := removeWhileIterating_eq_sweep (hasValue bothDisabled.items "Disable") []
    ["alg_template1", "alg_template2"] (by decide)
  have hlists : readXmlLists (listDocument bothDisabled noFinders) = _ :=
    readXmlLists_listDocument noFinders (by simp [bothDisabled])
  have hname : endsWith "testchain_A001.xml" ".xml" = true := by decide
  simp only [loadAlgorithmList, bind, Except.bind, hname, if_true, constReader, hlists]
  rw [show removeDisabled bothDisabled.items = _ from hloop]
  rw [show removeDisabled noFinders.items = _ from removeDisabled_nil]
  rfl

end Clev2er.Config
