import Clev2er.Breakpoints.Netcdf

/-!
# Which dictionaries give a well-formed breakpoint file

`WellFormed d f` says that the file `f` holds the dictionary `d`, group for group,
attribute for attribute and variable for variable, with dimensions shared by
length and each of them in sight of its variables. `createNetcdfFile_wellFormed_iff`
says for which dictionaries the encoder writes such a file.
-/

namespace Clev2er.Breakpoints

open Clev2er.Lib

/-! ## Contents -/

section Contents

variable {items : List Item}

theorem groups_run : ∀ (items : List Item) (f : NcFile),
    (items.foldl applyItem f).groups = f.groups ++ items.filterMap Item.group? := by
  intro items
  induction items with
  | nil =>
      intro f
      simp
  | cons item items ih =>
      intro f
      rw [List.foldl_cons, ih]
      have hstep : (applyItem f item).groups = f.groups ++ item.group?.toList := by
        cases item with
        | nested path => rfl
        | leaf group key value => cases value <;> simp [applyItem, Item.group?, Leaf.scalar?, setncattr]
      rw [hstep, List.filterMap_cons]
      cases item.group? <;> simp

theorem attributes_run : ∀ (items : List Item) (f : NcFile),
    (items.foldl applyItem f).attributes = f.attributes ++ items.filterMap Item.scalar? := by
  intro items
  induction items with
  | nil =>
      intro f
      simp
  | cons item items ih =>
      intro f
      rw [List.foldl_cons, ih]
      have hstep : (applyItem f item).attributes = f.attributes ++ item.scalar?.toList := by
        cases item with
        | nested path => simp [applyItem, createGroup, Item.scalar?]
        | leaf group key value =>
            cases value <;> simp [applyItem, Item.scalar?, Leaf.scalar?, setncattr]
      rw [hstep, List.filterMap_cons]
      cases item.scalar? <;> simp

/-- A variable as an array: its place, its name, its shape and its elements. -/
def Variable.content (v : Variable) : Path × String × List Nat × List (WithNan ℚ) :=
  (v.group, v.name, v.dims.map Dim.size, v.data)

/-- The same of an array of the dictionary. -/
def arrayContent (a : Path × String × NdArray) : Path × String × List Nat × List (WithNan ℚ) :=
  (a.1, a.2.1, a.2.2.shape, a.2.2.data)

theorem variables_run : ∀ (items : List Item) (f : NcFile),
    (items.foldl applyItem f).vars.map Variable.content =
      f.vars.map Variable.content ++ (items.filterMap Item.array?).map arrayContent := by
  intro items
  induction items with
  | nil =>
      intro f
      simp
  | cons item items ih =>
      intro f
      rw [List.foldl_cons, ih]
      have hstep : (applyItem f item).vars.map Variable.content =
          f.vars.map Variable.content ++ item.array?.toList.map arrayContent := by
        cases item with
        | nested path => simp [applyItem, createGroup, Item.array?]
        | leaf group key value =>
            cases value <;>
              simp [applyItem, Item.array?, Leaf.scalar?, setncattr, Variable.content, arrayContent,
                axisDims_sizes]
      rw [hstep, List.filterMap_cons]
      cases item.array? <;> simp

end Contents

/-! ## Well-formed files -/

/-- **A well-formed breakpoint file of `d`.** -/
structure WellFormed (d : Dict) (f : NcFile) : Prop where
  /-- One group for each nested dictionary. -/
  groups : f.groups = (d.items []).filterMap Item.group?
  /-- One attribute for each scalar or string. -/
  attributes : f.attributes = (d.items []).filterMap Item.scalar?
  /-- One variable for each array, its dimensions as long as the array's axes. -/
  contents : f.vars.map Variable.content = ((d.items []).filterMap Item.array?).map arrayContent
  /-- The dimensions are those of the file. -/
  defined : ∀ v ∈ f.vars, ∀ dim ∈ v.dims, dim ∈ f.dims
  /-- Two axes share a dimension exactly when their lengths are equal. -/
  shared : ∀ v ∈ f.vars, ∀ w ∈ f.vars, ∀ dim ∈ v.dims, ∀ dim' ∈ w.dims,
    dim = dim' ↔ dim.size = dim'.size
  /-- No variable refers to a dimension out of sight. -/
  visible : f.Visible

/-- The axes of all arrays of a dictionary, in the order the encoder meets them. -/
def Dict.axes (d : Dict) : List (Path × Nat) := (d.items []).flatMap Item.axes

/-- Each length is first used in a group from which every other axis of that
length can see: its own group or an ancestor. -/
def Dict.FirstUseVisible (d : Dict) : Prop :=
  ∀ u ∈ d.axes, ∀ owner, firstUse d.axes u.2 = some owner → owner <+: u.1

/-- The dictionaries the encoder is written for. -/
def Dict.InDomain (d : Dict) : Prop := ∀ item ∈ d.items [], item.inDomain = true

/-- Every leaf is of a type the library can hold. -/
def Dict.Storable (d : Dict) : Prop := ∀ item ∈ d.items [], item.storable = true

section Result

variable {d : Dict}

/-- The file of a run without exception. -/
def encoded (d : Dict) : NcFile := (d.items []).foldl applyItem NcFile.empty

theorem encoded_inv (d : Dict) : FileInv (encoded d) d.axes := by
  have h := FileInv.run (d.items []) NcFile.empty [] FileInv.empty
  rwa [List.nil_append] at h

/-- **Sight in the file is sight in the dictionary.** -/
theorem encoded_visible_iff : (encoded d).Visible ↔ d.FirstUseVisible := by
  have hinv := encoded_inv d
  have howner : ∀ v ∈ (encoded d).vars, ∀ dim ∈ v.dims,
      firstUse d.axes dim.size = some dim.group := by
    intro v hv dim hdim
    rw [← hinv.owned dim.size, hinv.refers v hv dim hdim]
    rfl
  constructor
  · intro hvis u hu owner howner'
    obtain ⟨v, hv, hgroup, dim, hdim, hsize⟩ := hinv.covers u hu
    have hseen := hvis v hv dim hdim
    rw [← hsize, howner v hv dim hdim] at howner'
    rw [← Option.some.inj howner', ← hgroup]
    exact List.isPrefixOf_iff_prefix.mp hseen
  · intro hfirst v hv dim hdim
    exact List.isPrefixOf_iff_prefix.mpr
      (hfirst (v.group, dim.size) (hinv.used v hv dim hdim) dim.group (howner v hv dim hdim))

/-- A file of a run has everything of a well-formed one, but for the sight. -/
theorem encoded_wellFormed (hvis : (encoded d).Visible) : WellFormed d (encoded d) := by
  have hinv := encoded_inv d
  refine ⟨?_, ?_, ?_, ?_, ?_, hvis⟩
  · exact groups_run (d.items []) NcFile.empty
  · exact attributes_run (d.items []) NcFile.empty
  · exact variables_run (d.items []) NcFile.empty
  · intro v hv dim hdim
    exact List.mem_of_find?_eq_some (hinv.refers v hv dim hdim)
  · intro v hv w hw dim hdim dim' hdim'
    refine ⟨fun h => h ▸ rfl, fun h => ?_⟩
    have hfound := hinv.refers v hv dim hdim
    rw [h, hinv.refers w hw dim' hdim'] at hfound
    exact (Option.some.inj hfound).symm

/-- A well-formed file comes of storable leaves and lengths in sight. -/
theorem storable_visible_of_wellFormed {strict : Bool} {f : NcFile} (hdom : d.InDomain)
    (hf : createNetcdfFile strict d = .ok f) (hwf : WellFormed d f) :
    d.Storable ∧ d.FirstUseVisible := by
  unfold createNetcdfFile at hf
  rw [createVariables_eq] at hf
  obtain ⟨rfl, hstor⟩ := storeItems_ok hdom hf
  exact ⟨hstor, encoded_visible_iff.mp hwf.visible⟩

/-- And the other way round. -/
theorem wellFormed_of_storable_visible (strict : Bool) (hdom : d.InDomain) (hstor : d.Storable)
    (hfirst : d.FirstUseVisible) : ∃ f, createNetcdfFile strict d = .ok f ∧ WellFormed d f := by
  have hvis := encoded_visible_iff.mpr hfirst
  refine ⟨encoded d, ?_, encoded_wellFormed hvis⟩
  unfold createNetcdfFile
  rw [createVariables_eq]
  exact storeItems_of_storable hdom hstor (fun _ => hvis)

end Result

/-- **When a breakpoint file is well formed.** For every dictionary of numbers,
strings, booleans and arrays of one to three dimensions, and whether the library
refuses dimensions out of sight or not: the encoder writes a well-formed file of
it exactly when the library can hold every leaf and the first use of each length
is in sight of all others. -/
theorem createNetcdfFile_wellFormed_iff (strict : Bool) (d : Dict) (hdom : d.InDomain) :
    (∃ f, createNetcdfFile strict d = .ok f ∧ WellFormed d f) ↔
      d.Storable ∧ d.FirstUseVisible := by
  constructor
  · rintro ⟨f, hf, hwf⟩
    exact storable_visible_of_wellFormed hdom hf hwf
  · rintro ⟨hstor, hfirst⟩
    exact wellFormed_of_storable_visible strict hdom hstor hfirst

/-- A list of as many ones. -/
def onesList (n : Nat) : Leaf := .list ⟨.int64, [n], List.replicate n (.num 1)⟩

/-- A length that is first used at the top is in sight of every group. -/
theorem createNetcdfFile_wellFormed_iff_rootFirst :
    ∃ f, createNetcdfFile true
        (.leaf "time" (onesList 3) (.dict "level2" (.leaf "height" (onesList 3) .nil) .nil)) =
          .ok f ∧
      WellFormed
        (.leaf "time" (onesList 3) (.dict "level2" (.leaf "height" (onesList 3) .nil) .nil)) f := by
  refine (createNetcdfFile_wellFormed_iff true _ ?_).mpr ⟨?_, ?_⟩
  · unfold Dict.InDomain
    decide
  · unfold Dict.Storable
    decide
  · unfold Dict.FirstUseVisible
    intro u hu owner howner
    have haxes : u = ([], 3) ∨ u = (["level2"], 3) := by
      simpa [Dict.axes, Dict.items, Item.axes, onesList] using hu
    rcases haxes with rfl | rfl
    · cases howner
      exact List.prefix_refl _
    · cases howner
      exact List.nil_prefix

/-- Two sibling groups with arrays of the same length. -/
def siblingGroups : Dict :=
  .dict "cryosat" (.leaf "height" (onesList 3) .nil)
    (.dict "icesat" (.leaf "height" (onesList 3) .nil) .nil)

theorem siblingGroups_inDomain : siblingGroups.InDomain := by
  unfold Dict.InDomain siblingGroups
  decide

theorem siblingGroups_not_firstUseVisible : ¬ siblingGroups.FirstUseVisible := by
  intro hfirst
  have hsees := hfirst (["icesat"], 3) (by decide) ["cryosat"] (by decide)
  exact absurd hsees (by decide)

/-- The second sibling refers to the dimension of the first, whatever the library
does about it. -/
theorem createNetcdfFile_siblings :
    siblingGroups.InDomain ∧
      (¬ ∃ f, createNetcdfFile true siblingGroups = .ok f ∧ WellFormed siblingGroups f) ∧
      (¬ ∃ f, createNetcdfFile false siblingGroups = .ok f ∧ WellFormed siblingGroups f) := by
  refine ⟨siblingGroups_inDomain, ?_, ?_⟩
  · rintro ⟨f, hf, hwf⟩
    exact siblingGroups_not_firstUseVisible
      (storable_visible_of_wellFormed siblingGroups_inDomain hf hwf).2
  · rintro ⟨f, hf, hwf⟩
    exact siblingGroups_not_firstUseVisible
      (storable_visible_of_wellFormed siblingGroups_inDomain hf hwf).2

end Clev2er.Breakpoints
