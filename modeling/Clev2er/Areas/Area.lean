import Clev2er.Lib.Chain
import Clev2er.Lib.Dict
import Clev2er.Lib.ForEach
import Clev2er.Python
import Mathlib.Data.Rat.Defs

/-!
# Areas

`Area.load_area`. The definition of an area is a dictionary, and `use_definitions_from`
in it names another area whose settings it takes where it has none of its own. That area
may name a third one, and so on.

`loadArea_nearest` says where each setting comes from, and `loadArea_returns_iff` when the
loop over the areas ends.
-/

namespace Clev2er.Areas

open Clev2er.Lib

/-! ## Definitions -/

/-- The settings, as far as the filters of an area tell them apart. -/
inductive AreaValue where
  | none
  | bool (b : Bool)
  | num (q : ℚ)
  | str (s : String)
  | ints (ns : List Nat)
deriving DecidableEq

/-- `area_definition`. -/
abbrev AreaItems := List (String × AreaValue)

/-- The package `clev2er.utils.areas.definitions`. -/
structure Definitions where
  /-- A value inside an f-string. -/
  format : AreaValue → String
  /-- `importlib.import_module`, and the `area_definition` of the module. -/
  importModule : String → Except PyExc AreaItems

def useDefinitionsFrom : String := "use_definitions_from"

/-- `.get("use_definitions_from", None)`, where a `None` in the definition says the same
as no entry. -/
def secondaryAreaName (areaDefinition : AreaItems) : Option AreaValue :=
  match areaDefinition.lookup useDefinitionsFrom with
  | some .none => none
  | v => v

def couldNotLoad (name : String) : PyExc :=
  ⟨.importError, "Could not load area definition: " ++ name⟩

section Load

variable (defs : Definitions)

/-- The import of a definition. An `ImportError` gets another text. -/
def importDefinition (name : String) : Except PyExc AreaItems :=
  match defs.importModule name with
  | .error e => .error (if e.cls = .importError then couldNotLoad name else e)
  | .ok areaDefinition => .ok areaDefinition

/-- `while secondary_area_name is not None`, at most `fuel` times. -/
def loadSecondary : Nat → AreaItems → Option AreaValue → Option (Except PyExc AreaItems)
  | _, areaDefinition, none => some (.ok areaDefinition)
  | 0, _, some _ => none
  | fuel + 1, areaDefinition, some name =>
      match importDefinition defs (defs.format name) with
      | .error e => some (.error e)
      | .ok areaDefinition2 =>
          loadSecondary fuel
            (dictUnion (dictPop useDefinitionsFrom areaDefinition2)
              (dictPop useDefinitionsFrom areaDefinition))
            (secondaryAreaName areaDefinition2)

/-- The definition that `load_area` reads its settings from. -/
def loadDefinition (fuel : Nat) (name : String) (overrides : Option AreaItems) :
    Option (Except PyExc AreaItems) :=
  match importDefinition defs name with
  | .error e => some (.error e)
  | .ok areaDefinition =>
      (loadSecondary defs fuel areaDefinition (secondaryAreaName areaDefinition)).map fun loaded =>
        loaded.map fun d => dictUnion d (overrides.getD [])

end Load

/-! ## Settings -/

/-- The attributes of an `Area` that its filters read. -/
structure Area where
  longName : AreaValue
  hemisphere : AreaValue
  centreLon : AreaValue
  centreLat : AreaValue
  widthKm : AreaValue
  heightKm : AreaValue
  specifyByCentre : AreaValue
  specifyByBoundingLat : AreaValue
  specifyPlotAreaByLowerleftCorner : AreaValue
  llcornerLat : AreaValue
  llcornerLon : AreaValue
  applyAreaMaskToData : AreaValue
  minlon : AreaValue
  maxlon : AreaValue
  minlat : AreaValue
  maxlat : AreaValue
  maskname : AreaValue
  masktype : AreaValue
  basinNumbers : AreaValue
deriving DecidableEq

/-- `area_definition[key]`. -/
def required (get : String → Option AreaValue) (key : String) : Except PyExc AreaValue :=
  match get key with
  | some v => .ok v
  | none => .error ⟨.keyError, key⟩

/-- The attributes, from `area_definition.get`. -/
def Area.ofValues (get : String → Option AreaValue) : Except PyExc Area := do
  let longName ← required get "long_name"
  let hemisphere ← required get "hemisphere"
  .ok
    { longName := longName
      hemisphere := hemisphere
      centreLon := (get "centre_lon").getD .none
      centreLat := (get "centre_lat").getD .none
      widthKm := (get "width_km").getD .none
      heightKm := (get "height_km").getD .none
      specifyByCentre := (get "specify_by_centre").getD (.bool false)
      specifyByBoundingLat := (get "specify_by_bounding_lat").getD (.bool false)
      specifyPlotAreaByLowerleftCorner :=
        (get "specify_plot_area_by_lowerleft_corner").getD (.bool false)
      llcornerLat := (get "llcorner_lat").getD .none
      llcornerLon := (get "llcorner_lon").getD .none
      applyAreaMaskToData := (get "apply_area_mask_to_data").getD (.bool true)
      minlon := (get "minlon").getD .none
      maxlon := (get "maxlon").getD .none
      minlat := (get "minlat").getD .none
      maxlat := (get "maxlat").getD .none
      maskname := (get "maskname").getD .none
      masktype := (get "masktype").getD .none
      basinNumbers := (get "basin_numbers").getD .none }

/-- `load_area`; `none` if the loop has not ended. -/
def loadArea (defs : Definitions) (fuel : Nat) (name : String) (overrides : Option AreaItems) :
    Option (Except PyExc Area) :=
  (loadDefinition defs fuel name overrides).map fun loaded => do
    let areaDefinition ← loaded
    Area.ofValues fun key => areaDefinition.lookup key

/-! ## The areas of a name -/

section Nearest

variable {defs : Definitions}

/-- The area that an area takes definitions from. -/
def nextArea (defs : Definitions) (name : String) : Option String :=
  match defs.importModule name with
  | .ok areaDefinition => (secondaryAreaName areaDefinition).map defs.format
  | .error _ => none

/-- The definitions from an area to the last one, which names no other. -/
inductive Levels (defs : Definitions) : Option String → List AreaItems → Prop
  | last : Levels defs none []
  | more {name : String} {d : AreaItems} {ds : List AreaItems}
      (hload : defs.importModule name = .ok d)
      (hrest : Levels defs ((secondaryAreaName d).map defs.format) ds) :
      Levels defs (some name) (d :: ds)

/-- A setting: of the overrides, otherwise of the first definition that has it. -/
def nearest (overrides : Option AreaItems) (levels : List AreaItems) (key : String) :
    Option AreaValue :=
  ((overrides.getD []).lookup key).or (levels.findSome? fun d => d.lookup key)

theorem importDefinition_ok {name : String} {d : AreaItems}
    (h : importDefinition defs name = .ok d) : defs.importModule name = .ok d := by
  rw [importDefinition] at h
  split at h
  · cases h
  · next hload => rw [hload, Except.ok.inj h]

/-- **The loop** puts the definitions under what is there already. -/
theorem loadSecondary_nearest {fuel : Nat} {areaDefinition d : AreaItems}
    {secondary : Option AreaValue}
    (h : loadSecondary defs fuel areaDefinition secondary = some (.ok d)) :
    ∃ levels, Levels defs (secondary.map defs.format) levels ∧
      ∀ key, key ≠ useDefinitionsFrom → d.lookup key =
        (areaDefinition.lookup key).or (levels.findSome? fun d => d.lookup key) := by
  induction fuel generalizing areaDefinition secondary with
  | zero =>
      cases secondary with
      | none =>
          obtain rfl := Except.ok.inj (Option.some.inj h)
          exact ⟨[], .last, by simp⟩
      | some v => cases h
  | succ fuel ih =>
      cases secondary with
      | none =>
          obtain rfl := Except.ok.inj (Option.some.inj h)
          exact ⟨[], .last, by simp⟩
      | some v =>
          rw [loadSecondary] at h
          split at h
          · cases h
          · next areaDefinition2 hload =>
            obtain ⟨levels, hlevels, hvalues⟩ := ih h
            refine ⟨areaDefinition2 :: levels, .more (importDefinition_ok hload) hlevels, ?_⟩
            intro key hkey
            rw [hvalues key hkey, lookup_dictUnion, lookup_dictPop, lookup_dictPop, if_neg hkey,
              if_neg hkey, Option.or_assoc, List.findSome?_cons]
            cases areaDefinition2.lookup key <;> simp

/-- The attributes are made of other settings than `use_definitions_from`. -/
theorem ofValues_congr {get get' : String → Option AreaValue}
    (h : ∀ key, key ≠ useDefinitionsFrom → get key = get' key) :
    Area.ofValues get = Area.ofValues get' := by
  simp (disch := decide) only [Area.ofValues, required, h]

/-- **Where the settings of an area come from**: where `load_area` returns, the areas that
it has gone through end with one that names no other, and each attribute is made of the
override, otherwise of the setting of the first of these areas that has it. -/
theorem loadArea_nearest {fuel : Nat} {name : String} {overrides : Option AreaItems} {area : Area}
    (h : loadArea defs fuel name overrides = some (.ok area)) :
    ∃ levels, Levels defs (some name) levels ∧ Area.ofValues (nearest overrides levels) = .ok area := by
  obtain ⟨loaded, hloaded, harea⟩ := Option.map_eq_some_iff.mp h
  obtain ⟨d, rfl, harea⟩ := except_bind_ok harea
  rw [loadDefinition] at hloaded
  split at hloaded
  · cases hloaded
  · next areaDefinition hload =>
    obtain ⟨result, hresult, hmap⟩ := Option.map_eq_some_iff.mp hloaded
    rcases result with e | d'
    · cases hmap
    obtain rfl := Except.ok.inj hmap
    obtain ⟨levels, hlevels, hvalues⟩ := loadSecondary_nearest hresult
    refine ⟨areaDefinition :: levels, .more (importDefinition_ok hload) hlevels, ?_⟩
    rw [← harea]
    apply ofValues_congr
    intro key hkey
    rw [nearest, lookup_dictUnion, hvalues key hkey, List.findSome?_cons]
    cases areaDefinition.lookup key <;> simp

/-- Three of the definitions, as far as the filters read them. -/
def greenlandDefinitions : Definitions where
  format v :=
    match v with
    | .str s => s
    | _ => "None"
  importModule name :=
    if name = "greenland" then
      .ok [("long_name", .str "Greenland"), ("hemisphere", .str "north"),
        ("specify_by_bounding_lat", .bool false), ("specify_by_centre", .bool true),
        ("centre_lon", .num (-167 / 4)), ("centre_lat", .num (143 / 2)),
        ("specify_plot_area_by_lowerleft_corner", .bool false), ("llcorner_lat", .none),
        ("llcorner_lon", .none), ("width_km", .num 1540), ("height_km", .num 2740),
        ("minlon", .num 285), ("maxlon", .num 350), ("minlat", .num 59), ("maxlat", .num 85),
        ("apply_area_mask_to_data", .bool false), ("maskname", .none), ("masktype", .none),
        ("basin_numbers", .none)]
    else if name = "greenland_hs" then .ok [("use_definitions_from", .str "greenland")]
    else if name = "greenland_hs_fi" then
      .ok [("use_definitions_from", .str "greenland_hs"), ("apply_area_mask_to_data", .bool true),
        ("maskname", .str "greenland_bedmachine_v3_grid_mask"), ("masktype", .str "grid"),
        ("basin_numbers", .ints [3])]
    else .error ⟨.importError, "No module named " ++ name⟩

/-- The floating ice of Greenland, with an override. -/
def floatingGreenland : Area where
  longName := .str "Greenland"
  hemisphere := .str "north"
  centreLon := .num (-167 / 4)
  centreLat := .num (143 / 2)
  widthKm := .num 100
  heightKm := .num 2740
  specifyByCentre := .bool true
  specifyByBoundingLat := .bool false
  specifyPlotAreaByLowerleftCorner := .bool false
  llcornerLat := .none
  llcornerLon := .none
  applyAreaMaskToData := .bool true
  minlon := .num 285
  maxlon := .num 350
  minlat := .num 59
  maxlat := .num 85
  maskname := .str "greenland_bedmachine_v3_grid_mask"
  masktype := .str "grid"
  basinNumbers := .ints [3]

/-- The mask is of the area itself, the bounds are of the second area that it leads to. -/
theorem loadArea_nearest_greenland :
    ∃ levels, Levels greenlandDefinitions (some "greenland_hs_fi") levels ∧
      Area.ofValues (nearest (some [("width_km", .num 100)]) levels) = .ok floatingGreenland := by
  have hload : loadArea greenlandDefinitions 2 "greenland_hs_fi"
      (some [("width_km", .num 100)]) = some (.ok floatingGreenland) := rfl
  exact loadArea_nearest hload

/-! ## The end of the loop -/

theorem nextArea_ok {name : String} {d : AreaItems} (h : importDefinition defs name = .ok d) :
    nextArea defs name = (secondaryAreaName d).map defs.format := by
  rw [nextArea, importDefinition_ok h]

theorem nextArea_error {name : String} {e : PyExc} (h : importDefinition defs name = .error e) :
    nextArea defs name = none := by
  rw [importDefinition] at h
  split at h
  · next hload => rw [nextArea, hload]
  · cases h

/-- The loop is still going as long as there is a further area. -/
theorem loadSecondary_eq_none_iff {fuel : Nat} {areaDefinition : AreaItems} {v : AreaValue} :
    loadSecondary defs fuel areaDefinition (some v) = none ↔
      along (nextArea defs) (defs.format v) fuel ≠ none := by
  induction fuel generalizing areaDefinition v with
  | zero => simp [loadSecondary, along]
  | succ fuel ih =>
      rw [loadSecondary, along_succ]
      rcases hload : importDefinition defs (defs.format v) with e | areaDefinition2
      · simp [nextArea_error hload]
      · rw [nextArea_ok hload]
        simp only
        cases secondaryAreaName areaDefinition2 with
        | none => simp [loadSecondary]
        | some w => exact ih

theorem loadArea_eq_none_iff {fuel : Nat} {name : String} {overrides : Option AreaItems} :
    loadArea defs fuel name overrides = none ↔ along (nextArea defs) name (fuel + 1) ≠ none := by
  rw [loadArea, Option.map_eq_none_iff, loadDefinition, along_succ]
  rcases hload : importDefinition defs name with e | areaDefinition
  · simp [nextArea_error hload]
  · rw [nextArea_ok hload]
    simp only [Option.map_eq_none_iff]
    cases secondaryAreaName areaDefinition with
    | none => simp [loadSecondary]
    | some v => exact loadSecondary_eq_none_iff

/-- **When `load_area` ends.** With finitely many definitions to import, the loop ends
exactly if the areas that follow each other do not come back to one of them, and then
within as many rounds as there are definitions. -/
theorem loadArea_returns_iff (names : Finset String)
    (hnames : ∀ name d, defs.importModule name = .ok d → name ∈ names) (name : String)
    (overrides : Option AreaItems) :
    ((∃ fuel result, loadArea defs fuel name overrides = some result) ↔
        ¬ ComesBack (nextArea defs) name) ∧
      ((∃ fuel result, loadArea defs fuel name overrides = some result) →
        ∃ result, loadArea defs names.card name overrides = some result) := by
  have hdomain : ∀ b, nextArea defs b ≠ none → b ∈ names := by
    intro b hb
    rcases hload : defs.importModule b with e | d
    · rw [nextArea, hload] at hb
      exact absurd rfl hb
    · exact hnames b d hload
  have hreturns : ∀ fuel, (∃ result, loadArea defs fuel name overrides = some result) ↔
      along (nextArea defs) name (fuel + 1) = none := by
    intro fuel
    rw [← Option.ne_none_iff_exists', ne_eq, loadArea_eq_none_iff, not_not]
  simp only [hreturns]
  have hback : (∃ fuel, along (nextArea defs) name (fuel + 1) = none) →
      ¬ ComesBack (nextArea defs) name := by
    rintro ⟨fuel, hnone⟩ hback
    exact hback.along_ne_none _ hnone
  exact ⟨⟨hback, fun h => ⟨names.card, along_eq_none names hdomain h⟩⟩,
    fun h => along_eq_none names hdomain (hback h)⟩

/-- The three definitions end within three rounds. -/
theorem loadArea_returns_greenland :
    ∃ result, loadArea greenlandDefinitions 3 "greenland_hs_fi" none = some result := by
  have hnames : ∀ name d, greenlandDefinitions.importModule name = .ok d →
      name ∈ ({"greenland", "greenland_hs", "greenland_hs_fi"} : Finset String) := by
    intro name d hload
    simp only [greenlandDefinitions] at hload
    split at hload
    · next heq => simp [heq]
    · split at hload
      · next heq => simp [heq]
      · split at hload
        · next heq => simp [heq]
        · cases hload
  exact (loadArea_returns_iff _ hnames "greenland_hs_fi" none).2 ⟨2, _, rfl⟩

end Nearest

end Clev2er.Areas
