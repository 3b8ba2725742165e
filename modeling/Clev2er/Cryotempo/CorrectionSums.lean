import Clev2er.Cryotempo.Corrections
import Clev2er.Cryotempo.Hemisphere
import Mathlib.Data.List.Nodup

/-!
# The sum of the geophysical corrections

What `alg_geo_corrections` stores for each record, after
`alg_cats2008a_tide_correction` has run on the same dictionary: the two algorithms
branch on the same conditions, so a CATS2008a tide is stored wherever one is added.
A file of the south in LRM mode gets no ocean terms.
-/

namespace Clev2er.Cryotempo

open Clev2er.Lib Clev2er.Retrack Clev2er.Breakpoints

/-! ## Arrays -/

/-- Every index is one of the array, from its start or from its end. -/
def InRange (xs : List Sample) (indices : List ℤ) : Prop :=
  ∀ index ∈ indices, -(xs.length : ℤ) ≤ index ∧ index < xs.length

theorem elementAt_cases (xs : List Sample) (index : ℤ) :
    (∃ x, elementAt xs index = .ok x) ∨
      elementAt xs index = .error indexError ∧
        ¬ (-(xs.length : ℤ) ≤ index ∧ index < xs.length) := by
  rw [elementAt]
  split
  · exact .inl ⟨_, rfl⟩
  · split
    · exact .inl ⟨_, rfl⟩
    · exact .inr ⟨rfl, by omega⟩

/-- A 1 Hz array at the 1 Hz index of a record. -/
def at1Hz (p : L1bProduct) (xs : List Sample) (i : Nat) : Sample :=
  match elementAt xs (p.indMeas1hz.getD i 0) with
  | .ok x => x
  | .error _ => .nan

/-- The fancy index of a loop fails at the first index out of range. -/
theorem forEach_elementAt (xs : List Sample) : ∀ (indices : List ℤ) (i : Nat),
    (∃ ys, forEach (fun _ => elementAt xs) i indices = .ok ys) ∨
      forEach (fun _ => elementAt xs) i indices = .error indexError ∧ ¬ InRange xs indices := by
  intro indices
  induction indices with
  | nil => exact fun i => .inl ⟨[], rfl⟩
  | cons index indices ih =>
      intro i
      rw [forEach]
      rcases elementAt_cases xs index with ⟨x, hx⟩ | ⟨herror, hout⟩
      · rw [hx]
        rcases ih (i + 1) with ⟨ys, hys⟩ | ⟨herror, hout⟩
        · exact .inl ⟨x :: ys, by simp only [hys]⟩
        · refine .inr ⟨by simp only [herror], fun hrange => hout ?_⟩
          exact fun j hj => hrange j (List.mem_cons_of_mem _ hj)
      · rw [herror]
        exact .inr ⟨rfl, fun hrange => hout (hrange index (List.mem_cons_self ..))⟩

theorem takeAt_cases (p : L1bProduct) (xs : List Sample) :
    (∃ ys, takeAt xs p.indMeas1hz = .ok ys ∧ ys.length = p.file.numRecords ∧
        ∀ i < p.file.numRecords, ys.getD i .nan = at1Hz p xs i) ∨
      takeAt xs p.indMeas1hz = .error indexError ∧ ¬ InRange xs p.indMeas1hz := by
  rcases forEach_elementAt xs p.indMeas1hz 0 with ⟨ys, hys⟩ | herror
  · obtain ⟨hlength, hentry⟩ := forEach_ok 0 .nan hys
    rw [p.length_indMeas1hz] at hlength hentry
    refine .inl ⟨ys, hys, hlength, fun i hi => ?_⟩
    have hbody := hentry i hi
    rw [at1Hz, hbody]
  · exact .inr herror

theorem addArrays_same {xs ys : List Sample} {n : Nat} (hx : xs.length = n) (hy : ys.length = n) :
    ∃ zs, addArrays xs ys = .ok zs ∧ zs.length = n ∧
      ∀ i < n, zs.getD i .nan = xs.getD i .nan + ys.getD i .nan := by
  refine ⟨List.zipWith (fun x y => x + y) xs ys, if_pos (hx.trans hy.symm), ?_, ?_⟩
  · rw [List.length_zipWith, hx, hy, Nat.min_self]
  · intro i hi
    rw [List.getD_eq_getElem _ _ (by simp [hx, hy, hi]), List.getElem_zipWith,
      List.getD_eq_getElem _ _ (hx ▸ hi), List.getD_eq_getElem _ _ (hy ▸ hi)]

/-! ## Index-array updates -/

/-- Every term reaches the records of the locations. -/
theorem addAt_of_lt {terms : List (List Sample)} {n : Nat} (hterms : ∀ t ∈ terms, t.length = n) :
    ∀ {locations : List Nat} {xs : List Sample}, xs.length = n → (∀ i ∈ locations, i < n) →
      ∃ ys, addAt terms locations xs = .ok ys := by
  intro locations
  induction locations with
  | nil => exact fun {xs} _ _ => ⟨xs, rfl⟩
  | cons i locations ih =>
      intro xs hlength hlt
      have hi : i < n := hlt i (List.mem_cons_self ..)
      rw [addAt, if_pos ⟨hlength ▸ hi, fun t ht => (hterms t ht) ▸ hi⟩]
      exact ih (by rwa [List.length_set]) fun j hj => hlt j (List.mem_cons_of_mem _ hj)

/-- **The terms are added exactly once** to each record of the locations, and to no
other. -/
theorem addAt_ok {terms : List (List Sample)} : ∀ {locations : List Nat} {xs ys : List Sample},
    locations.Nodup → addAt terms locations xs = .ok ys →
      ys.length = xs.length ∧ ∀ j, ys.getD j .nan =
        if j ∈ locations then
          xs.getD j .nan + terms.foldl (fun s t => s + t.getD j .nan) 0
        else xs.getD j .nan := by
  intro locations
  induction locations with
  | nil =>
      intro xs ys _ h
      obtain rfl := Except.ok.inj h
      exact ⟨rfl, fun j => (if_neg List.not_mem_nil).symm⟩
  | cons i locations ih =>
      intro xs ys hnodup h
      obtain ⟨hfresh, hnodup⟩ := List.nodup_cons.mp hnodup
      rw [addAt] at h
      split at h
      · next hlt =>
        obtain ⟨hlength, hentry⟩ := ih hnodup h
        rw [List.length_set] at hlength
        refine ⟨hlength, fun j => ?_⟩
        rw [hentry j]
        by_cases hij : i = j
        · subst hij
          rw [if_neg hfresh, getD_set, if_pos ⟨rfl, hlt.1⟩, if_pos (List.mem_cons_self ..)]
        · have hset : ∀ v, (xs.set i v).getD j .nan = xs.getD j .nan := by
            intro v
            rw [getD_set, if_neg fun hsame => hij hsame.1]
          rw [hset]
          by_cases hmem : j ∈ locations
          · rw [if_pos hmem, if_pos (List.mem_cons_of_mem _ hmem)]
          · rw [if_neg hmem, if_neg]
            exact fun hcons => (List.mem_cons.mp hcons).elim (fun heq => hij heq.symm) hmem
      · cases h

/-! ## The sums -/

/-- DRY + WET + GIM + OLT + SET + GPT of a record. -/
def landSum (p : L1bProduct) (loadTide : List Sample) (i : Nat) : Sample :=
  at1Hz p p.modDryTropoCor i + at1Hz p p.modWetTropoCor i + at1Hz p p.ionoCorGim i +
    loadTide.getD i .nan + at1Hz p p.solidEarthTide i + at1Hz p p.poleTide i

/-- Every 1 Hz index is one of the 1 Hz arrays. -/
def ValidIndices (p : L1bProduct) : Prop :=
  ∀ xs ∈ [p.modDryTropoCor, p.modWetTropoCor, p.ionoCorGim, p.solidEarthTide, p.poleTide,
    p.hfFluctTotalCor], InRange xs p.indMeas1hz

theorem sumOfCorrections_cases {p : L1bProduct} {loadTide : List Sample}
    (hload : loadTide.length = p.file.numRecords) :
    (∃ s, sumOfCorrections p loadTide = .ok s ∧ s.length = p.file.numRecords ∧
        ∀ i < p.file.numRecords, s.getD i .nan = landSum p loadTide i) ∨
      sumOfCorrections p loadTide = .error indexError ∧ ¬ ValidIndices p := by
  rw [sumOfCorrections]
  rcases takeAt_cases p p.modDryTropoCor with ⟨dry, hdry, hdryLen, hdryAt⟩ | ⟨herror, hout⟩
  swap
  · exact .inr ⟨by rw [herror]; rfl, fun hvalid => hout (hvalid _ (by simp))⟩
  rcases takeAt_cases p p.modWetTropoCor with ⟨wet, hwet, hwetLen, hwetAt⟩ | ⟨herror, hout⟩
  swap
  · exact .inr ⟨by rw [hdry, herror]; rfl, fun hvalid => hout (hvalid _ (by simp))⟩
  rcases takeAt_cases p p.ionoCorGim with ⟨gim, hgim, hgimLen, hgimAt⟩ | ⟨herror, hout⟩
  swap
  · exact .inr ⟨by rw [hdry, hwet, herror]; rfl, fun hvalid => hout (hvalid _ (by simp))⟩
  rcases takeAt_cases p p.solidEarthTide with ⟨solid, hsolid, hsolidLen, hsolidAt⟩ | ⟨herror, hout⟩
  swap
  · exact .inr ⟨by rw [hdry, hwet, hgim, herror]; rfl, fun hvalid => hout (hvalid _ (by simp))⟩
  rcases takeAt_cases p p.poleTide with ⟨pole, hpole, hpoleLen, hpoleAt⟩ | ⟨herror, hout⟩
  swap
  · exact .inr ⟨by rw [hdry, hwet, hgim, hsolid, herror]; rfl,
      fun hvalid => hout (hvalid _ (by simp))⟩
  obtain ⟨s₁, h₁, h₁Len, h₁At⟩ := addArrays_same hdryLen hwetLen
  obtain ⟨s₂, h₂, h₂Len, h₂At⟩ := addArrays_same h₁Len hgimLen
  obtain ⟨s₃, h₃, h₃Len, h₃At⟩ := addArrays_same h₂Len hload
  obtain ⟨s₄, h₄, h₄Len, h₄At⟩ := addArrays_same h₃Len hsolidLen
  obtain ⟨s₅, h₅, h₅Len, h₅At⟩ := addArrays_same h₄Len hpoleLen
  refine .inl ⟨s₅, ?_, h₅Len, fun i hi => ?_⟩
  · rw [hdry, hwet, hgim, hsolid, hpole]
    simp only [bind, Except.bind, h₁, h₂, h₃, h₄, h₅]
  · rw [h₅At i hi, h₄At i hi, h₃At i hi, h₂At i hi, h₁At i hi, hdryAt i hi, hwetAt i hi,
      hgimAt i hi, hsolidAt i hi, hpoleAt i hi, landSum]

/-- `xs[floating] += terms` and `xs[ocean] += terms`. -/
theorem addAt_two (terms : List (List Sample)) {floating ocean : List Nat} {s : List Sample}
    {n : Nat} (hterms : ∀ t ∈ terms, t.length = n) (hlength : s.length = n)
    (hnodup : (floating ++ ocean).Nodup) (hlt : ∀ i ∈ floating ++ ocean, i < n) :
    ∃ s', (addAt terms floating s >>= fun s => addAt terms ocean s) = .ok s' ∧ s'.length = n ∧
      ∀ i, s'.getD i .nan =
        if i ∈ floating ++ ocean then
          s.getD i .nan + terms.foldl (fun s t => s + t.getD i .nan) 0
        else s.getD i .nan := by
  obtain ⟨hfloating, hocean, hdisjoint⟩ := List.nodup_append.mp hnodup
  obtain ⟨s₁, h₁⟩ := addAt_of_lt hterms hlength fun i hi => hlt i (List.mem_append_left _ hi)
  obtain ⟨h₁Len, h₁At⟩ := addAt_ok hfloating h₁
  obtain ⟨s₂, h₂⟩ := addAt_of_lt hterms (h₁Len.trans hlength) fun i hi =>
    hlt i (List.mem_append_right _ hi)
  obtain ⟨h₂Len, h₂At⟩ := addAt_ok hocean h₂
  refine ⟨s₂, by rw [h₁]; exact h₂, h₂Len.trans (h₁Len.trans hlength), fun i => ?_⟩
  rw [h₂At i, h₁At i]
  by_cases hi : i ∈ floating
  · rw [if_neg fun hi' => hdisjoint i hi i hi' rfl, if_pos hi,
      if_pos (List.mem_append_left _ hi)]
  · rw [if_neg hi]
    by_cases hi' : i ∈ ocean
    · rw [if_pos hi', if_pos (List.mem_append_right _ hi')]
    · rw [if_neg hi', if_neg]
      exact fun hmem => (List.mem_append.mp hmem).elim hi hi'

/-! ## What the algorithms read -/

/-- The entries of the dictionary that the two algorithms read, for the records of a
product: each record is in one location array at most. -/
structure GeoInputs (p : L1bProduct) (d : Dict) where
  south : Bool
  mode : InstrMode
  floating : List Nat
  ocean : List Nat
  loadTide : List Sample
  oceanTide : List Sample
  oceanTideEq : List Sample
  hemisphere_eq : get? "hemisphere" d = some (.text (if south then "south" else "north"))
  instrMode_eq : get? "instr_mode" d = some (.text mode.name)
  floating_eq : get? "floating_ice_locations" d = some (.nats .int64 floating)
  ocean_eq : get? "ocean_locations" d = some (.nats .int64 ocean)
  numRecords_eq : get? "num_20hz_records" d = some (.leaf (.pyInt p.file.numRecords))
  loadTide_eq : fesEntry d "load_tide_20" = some loadTide
  oceanTide_eq : fesEntry d "ocean_tide_20" = some oceanTide
  oceanTideEq_eq : fesEntry d "ocean_tide_eq_20" = some oceanTideEq
  length_loadTide : loadTide.length = p.file.numRecords
  length_oceanTide : oceanTide.length = p.file.numRecords
  length_oceanTideEq : oceanTideEq.length = p.file.numRecords
  nodup : (floating ++ ocean).Nodup
  lt : ∀ i ∈ floating ++ ocean, i < p.file.numRecords

theorem nats_indices (dtype : Dtype) (ns : List Nat) : (Value.nats dtype ns).indices = .ok ns := by
  have hentries : ((ns : List ℚ).map fun q => WithNan.num q) = ns.map fun n => .num (n : ℚ) := by
    induction ns with
    | nil => rfl
    | cons n ns ih => exact congrArg (List.cons _) ih
  simp only [Value.indices, Value.nats, Value.array, Value.samples, hentries, List.map_map,
    Function.comp_def, Rat.num_natCast, Int.toNat_natCast, List.map_id']

/-- The CATS2008a tide of a record, 0 where the dictionary has none. -/
def catsTideAt (d : Dict) (i : Nat) : Sample :=
  match get? "cats_tide" d with
  | some v =>
      match v.samples with
      | .ok xs => xs.getD i (.num 0)
      | .error _ => .num 0
  | none => .num 0

section Cats

variable {base : String} {glob : String → List String} {openCats : String → Option CatsFile}
  {p : L1bProduct} {d : Dict} {message : String} {stored : List (String × Value)}

/-- A CATS2008a tide is added: over sea in the south, in SARIn mode. -/
def GeoInputs.NeedsCats (g : GeoInputs p d) : Prop :=
  g.south = true ∧ g.mode = .sin ∧ (g.floating ≠ [] ∨ g.ocean ≠ [])

/-- What `alg_cats2008a_tide_correction` stores: a tide wherever one is added. -/
def GeoInputs.CatsStored (g : GeoInputs p d) (stored : List (String × Value)) : Prop :=
  (stored = [("cats_tide_required", .leaf (.pyBool false))] ∧ ¬ g.NeedsCats) ∨
    ∃ dtype tide, stored = [("cats_tide_required", .leaf (.pyBool false)),
        ("cats_tide", .array dtype tide), ("cats_tide_required", .leaf (.pyBool true))] ∧
      tide.length = p.file.numRecords

theorem item_ok {key : String} {v w : Value} (h : get? key d = some v) (hw : item d key = .ok w) :
    w = v := by
  rw [item, h] at hw
  exact (Except.ok.inj hw).symm

theorem cats_stores (g : GeoInputs p d) :
    Stores g.CatsStored (cats2008aTideCorrection base glob openCats d) := by
  unfold cats2008aTideCorrection
  simp only []
  refine Stores.bind fun hemisphere hhemisphere => ?_
  have hvalue := item_ok g.hemisphere_eq hhemisphere
  split
  · next hnorth =>
    refine Stores.success (.inl ⟨rfl, fun hneeds => ?_⟩)
    rw [hvalue, hneeds.1] at hnorth
    exact absurd hnorth (by decide)
  · refine Stores.bind fun mode hmode => ?_
    obtain rfl := item_ok g.instrMode_eq hmode
    split
    · next hlrm =>
      refine Stores.bind fun _ _ => Stores.success (.inl ⟨rfl, fun hneeds => hlrm ?_⟩)
      rw [hneeds.2.1]
      rfl
    · refine Stores.bind fun floatingValue hfloatingValue => Stores.bind fun floating hfloating =>
        Stores.bind fun oceanValue hoceanValue => Stores.bind fun ocean hocean => ?_
      obtain rfl := item_ok g.floating_eq hfloatingValue
      obtain rfl := item_ok g.ocean_eq hoceanValue
      rw [nats_indices] at hfloating hocean
      obtain rfl := Except.ok.inj hfloating
      obtain rfl := Except.ok.inj hocean
      split
      · next hnone =>
        refine Stores.success (.inl ⟨rfl, fun hneeds => ?_⟩)
        exact hneeds.2.2.elim (fun h => h (List.length_eq_zero_iff.mp hnone.1))
          fun h => h (List.length_eq_zero_iff.mp hnone.2)
      · refine Stores.bind fun _ _ => Stores.bind fun _ _ => Stores.bind fun _ _ => ?_
        split
        · exact Stores.failure _
        · split
          · split
            · exact Stores.failure _
            · next f hf =>
              refine Stores.bind fun numValue hnumValue => Stores.bind fun numRecords hnum => ?_
              obtain rfl := item_ok g.numRecords_eq hnumValue
              obtain rfl := Except.ok.inj hnum
              split
              · exact Stores.failure _
              · next hlength =>
                rw [not_not, Nat.cast_inj] at hlength
                exact Stores.success (.inr ⟨_, _, rfl, by rw [List.length_map, hlength]⟩)
          · exact Stores.failure _

/-- The other entries of the dictionary stay. -/
theorem get?_afterCats {g : GeoInputs p d} (h : g.CatsStored stored) {key : String}
    (hkey : key ≠ "cats_tide_required") (hkey' : key ≠ "cats_tide") :
    get? key (update stored d) = get? key d := by
  apply get?_update_of_not_mem
  rcases h with ⟨rfl, -⟩ | ⟨dtype, tide, rfl, -⟩
  · intro e he
    rw [List.mem_singleton.mp he]
    exact hkey.symm
  · intro e he
    simp only [List.mem_cons, List.not_mem_nil, or_false] at he
    rcases he with rfl | rfl | rfl
    · exact hkey.symm
    · exact hkey'.symm
    · exact hkey.symm

/-- **`cats_tide` is there wherever it is added.** -/
theorem catsTideOf_afterCats {g : GeoInputs p d} (h : g.CatsStored stored) :
    ∃ found, catsTideOf (update stored d) = .ok (some found) ∧
      (g.NeedsCats → ∃ cats, found = some cats ∧ cats.length = p.file.numRecords ∧
        ∀ i < p.file.numRecords, cats.getD i .nan = catsTideAt (update stored d) i) := by
  rcases h with ⟨rfl, hnot⟩ | ⟨dtype, tide, rfl, hlength⟩
  · refine ⟨none, ?_, fun hneeds => absurd hneeds hnot⟩
    have hrequired : get? "cats_tide_required"
        (update [("cats_tide_required", .leaf (.pyBool false))] d) =
        some (.leaf (.pyBool false)) := by
      simp [update, get?_setItem]
    rw [catsTideOf, item, hrequired]
    rfl
  · have hrequired : get? "cats_tide_required"
        (update [("cats_tide_required", .leaf (.pyBool false)), ("cats_tide", .array dtype tide),
          ("cats_tide_required", .leaf (.pyBool true))] d) = some (.leaf (.pyBool true)) := by
      simp [update, get?_setItem]
    have htide : get? "cats_tide"
        (update [("cats_tide_required", .leaf (.pyBool false)), ("cats_tide", .array dtype tide),
          ("cats_tide_required", .leaf (.pyBool true))] d) = some (.array dtype tide) := by
      simp [update, get?_setItem]
    refine ⟨some tide, ?_, fun _ => ⟨tide, rfl, hlength, fun i hi => ?_⟩⟩
    · rw [catsTideOf, item, hrequired]
      simp only [bind, Except.bind, if_true, htide]
      rfl
    · rw [← hlength] at hi
      rw [catsTideAt, htide]
      show tide.getD i .nan = tide.getD i (.num 0)
      rw [List.getD_eq_getElem _ _ hi, List.getD_eq_getElem _ _ hi]

/-! ## What is stored -/

/-- The sum of the corrections of a record: over sea the terms of the hemisphere are
added, in the south in SARIn mode only. -/
def GeoInputs.correctionSum (g : GeoInputs p d) (catsTide : Nat → Sample) (i : Nat) : Sample :=
  if i ∈ g.floating ++ g.ocean then
    if g.south then
      if g.mode = .sin then
        landSum p g.loadTide i + (at1Hz p p.hfFluctTotalCor i + catsTide i)
      else landSum p g.loadTide i
    else
      landSum p g.loadTide i +
        (at1Hz p p.hfFluctTotalCor i + (g.oceanTide.getD i .nan + g.oceanTideEq.getD i .nan))
  else landSum p g.loadTide i

/-- The ocean terms of the north. -/
theorem northernTides_ok (g : GeoInputs p d) (catsTide : Nat → Sample) (hsouth : g.south = false)
    {dac s : List Sample} (hdacLen : dac.length = p.file.numRecords)
    (hdacAt : ∀ i < p.file.numRecords, dac.getD i .nan = at1Hz p p.hfFluctTotalCor i)
    (hlength : s.length = p.file.numRecords)
    (hs : ∀ i < p.file.numRecords, s.getD i .nan = landSum p g.loadTide i) :
    ∃ s', (addAt [dac, g.oceanTideEq, g.oceanTide] g.floating s >>= fun s =>
        addAt [dac, g.oceanTideEq, g.oceanTide] g.ocean s) = .ok s' ∧
      s'.length = p.file.numRecords ∧
      ∀ i < p.file.numRecords, s'.getD i .nan = g.correctionSum catsTide i := by
  obtain ⟨s', hs', hLen, hAt⟩ := addAt_two [dac, g.oceanTideEq, g.oceanTide]
    (by simp [hdacLen, g.length_oceanTideEq, g.length_oceanTide]) hlength g.nodup g.lt
  refine ⟨s', hs', hLen, fun i hi => ?_⟩
  rw [hAt i, hs i hi, GeoInputs.correctionSum, hsouth, if_neg Bool.false_ne_true]
  simp only [List.foldl_cons, List.foldl_nil, WithNan.zero_add, WithNan.add_assoc, hdacAt i hi]
  rw [WithNan.add_comm (g.oceanTideEq.getD i .nan)]

/-- The ocean terms of the south in SARIn mode. -/
theorem southernTides_ok (g : GeoInputs p d) {catsTide : Nat → Sample} (hsouth : g.south = true)
    (hmode : g.mode = .sin) {dac cats s : List Sample}
    (hdacLen : dac.length = p.file.numRecords)
    (hdacAt : ∀ i < p.file.numRecords, dac.getD i .nan = at1Hz p p.hfFluctTotalCor i)
    (hcatsLen : cats.length = p.file.numRecords)
    (hcatsAt : ∀ i < p.file.numRecords, cats.getD i .nan = catsTide i)
    (hlength : s.length = p.file.numRecords)
    (hs : ∀ i < p.file.numRecords, s.getD i .nan = landSum p g.loadTide i) :
    ∃ s', (addAt [dac, cats] g.floating s >>= fun s => addAt [dac, cats] g.ocean s) = .ok s' ∧
      s'.length = p.file.numRecords ∧
      ∀ i < p.file.numRecords, s'.getD i .nan = g.correctionSum catsTide i := by
  obtain ⟨s', hs', hLen, hAt⟩ := addAt_two [dac, cats] (by simp [hdacLen, hcatsLen]) hlength
    g.nodup g.lt
  refine ⟨s', hs', hLen, fun i hi => ?_⟩
  rw [hAt i, hs i hi, GeoInputs.correctionSum, hsouth, if_pos rfl, hmode, if_pos rfl]
  simp only [List.foldl_cons, List.foldl_nil, WithNan.zero_add, hdacAt i hi, hcatsAt i hi]

/-- The ocean terms, added to the sum over land. -/
theorem addOceanTides_cases (g : GeoInputs p d) {catsTide : Nat → Sample}
    {found : Option (List Sample)} {s : List Sample} (hlength : s.length = p.file.numRecords)
    (hs : ∀ i < p.file.numRecords, s.getD i .nan = landSum p g.loadTide i)
    (hcats : g.NeedsCats → ∃ cats, found = some cats ∧ cats.length = p.file.numRecords ∧
      ∀ i < p.file.numRecords, cats.getD i .nan = catsTide i) :
    (∃ s', addOceanTides p (.text (if g.south then "south" else "north")) (.text g.mode.name)
          g.oceanTide g.oceanTideEq found g.floating g.ocean s = .ok s' ∧
        s'.length = p.file.numRecords ∧
        ∀ i < p.file.numRecords, s'.getD i .nan = g.correctionSum catsTide i) ∨
      addOceanTides p (.text (if g.south then "south" else "north")) (.text g.mode.name)
          g.oceanTide g.oceanTideEq found g.floating g.ocean s = .error indexError ∧
        ¬ ValidIndices p := by
  rw [addOceanTides]
  split
  · next hnone =>
    -- no record is over sea
    refine .inl ⟨s, rfl, hlength, fun i hi => ?_⟩
    have hnot : i ∉ g.floating ++ g.ocean := by
      rw [List.length_eq_zero_iff.mp (Nat.eq_zero_of_add_eq_zero_right hnone),
        List.length_eq_zero_iff.mp (Nat.eq_zero_of_add_eq_zero_left hnone)]
      exact List.not_mem_nil
    rw [hs i hi, GeoInputs.correctionSum, if_neg hnot]
  · next hsome =>
    rcases takeAt_cases p p.hfFluctTotalCor with ⟨dac, hdac, hdacLen, hdacAt⟩ | ⟨herror, hout⟩
    · rw [hdac]
      simp only [bind, Except.bind]
      cases hsouth : g.south with
      | false =>
          rw [if_neg Bool.false_ne_true, if_pos rfl]
          exact .inl (northernTides_ok g catsTide hsouth hdacLen hdacAt hlength hs)
      | true =>
          have hnorth : Value.text "south" ≠ Value.text "north" := by decide
          rw [if_pos rfl, if_neg hnorth]
          cases hmode : g.mode with
          | sin =>
              have hneeds : g.NeedsCats := by
                refine ⟨hsouth, hmode, ?_⟩
                by_contra hnone
                simp only [not_or, not_not] at hnone
                exact hsome (by rw [hnone.1, hnone.2]; rfl)
              obtain ⟨cats, rfl, hcatsLen, hcatsAt⟩ := hcats hneeds
              rw [if_pos ⟨rfl, rfl⟩]
              exact .inl (southernTides_ok g hsouth hmode hdacLen hdacAt hcatsLen hcatsAt
                hlength hs)
          | lrm =>
              -- the gate of the tides is shut
              have hgate : ¬ (Value.text "south" = Value.text "south" ∧
                  Value.text InstrMode.lrm.name = Value.text "SIN") := by decide
              refine .inl ⟨s, if_neg hgate, hlength, fun i hi => ?_⟩
              simp only [hs i hi, GeoInputs.correctionSum, hsouth, hmode, if_true, reduceCtorEq,
                if_false, ite_self]
    · exact .inr ⟨by rw [herror]; rfl, fun hvalid => hout (hvalid _ (by simp))⟩

/-- `alg_geo_corrections` after `alg_cats2008a_tide_correction`: the sums of all records,
or an index out of range. -/
theorem geoCorrections_cases (g : GeoInputs p d) (hstored : g.CatsStored stored) :
    (∃ s, geoCorrections p (update stored d) =
          (if s.length = 0 then .error ⟨.other "ZeroDivisionError", "division by zero"⟩
          else .ok (.success "" [("invalid_corrections_locs", .nats .int64
              ((List.range s.length).filter (fun i => (s.getD i .nan).isNan))),
            ("sum_cor_20_ku", .floats s)])) ∧
        s.length = p.file.numRecords ∧ ∀ i < p.file.numRecords,
          s.getD i .nan = g.correctionSum (catsTideAt (update stored d)) i) ∨
      geoCorrections p (update stored d) = .error indexError ∧ ¬ ValidIndices p := by
  have hread : ∀ key, key ≠ "cats_tide_required" → key ≠ "cats_tide" →
      get? key (update stored d) = get? key d := fun key => get?_afterCats hstored
  have hfes : ∀ key, fesEntry (update stored d) key = fesEntry d key := by
    intro key
    rw [fesEntry, fesEntry, hread "fes2014b_corrections" (by decide) (by decide)]
  have hitem : ∀ {key v}, key ≠ "cats_tide_required" → key ≠ "cats_tide" →
      get? key d = some v → item (update stored d) key = .ok v := by
    intro key v hkey hkey' hv
    rw [item, hread key hkey hkey', hv]
  obtain ⟨found, hfound, hneeds⟩ := catsTideOf_afterCats hstored
  rw [geoCorrections, hfes, hfes, hfes, g.loadTide_eq, g.oceanTide_eq, g.oceanTideEq_eq]
  simp only [hfound, hitem (by decide) (by decide) g.floating_eq,
    hitem (by decide) (by decide) g.ocean_eq, hitem (by decide) (by decide) g.hemisphere_eq,
    hitem (by decide) (by decide) g.instrMode_eq, nats_indices, bind, Except.bind]
  rcases sumOfCorrections_cases g.length_loadTide with ⟨s, hs, hsLen, hsAt⟩ | ⟨herror, hout⟩
  · simp only [hs]
    rcases addOceanTides_cases g hsLen hsAt hneeds with ⟨s', hs', hLen, hAt⟩ | ⟨herror, hout⟩
    · simp only [hs']
      exact .inl ⟨s', rfl, hLen, hAt⟩
    · rw [herror]
      exact .inr ⟨rfl, hout⟩
  · rw [herror]
    exact .inr ⟨rfl, hout⟩

/-- **The sum of the corrections**, after `alg_cats2008a_tide_correction` has run on the
same dictionary: what is stored for each record is `correctionSum`, a file with records
and valid 1 Hz indices gets its sums, and a `cats_tide` that is `None` is never indexed. -/
theorem geoCorrections_sum (g : GeoInputs p d)
    (hcats : cats2008aTideCorrection base glob openCats d = .ok (.success message stored)) :
    (∀ message' stored', geoCorrections p (update stored d) = .ok (.success message' stored') →
      ∃ invalid s, stored' = [("invalid_corrections_locs", invalid), ("sum_cor_20_ku", .floats s)] ∧
        s.length = p.file.numRecords ∧ ∀ i < p.file.numRecords,
          s.getD i .nan = g.correctionSum (catsTideAt (update stored d)) i) ∧
    (0 < p.file.numRecords → ValidIndices p →
      ∃ stored', geoCorrections p (update stored d) = .ok (.success "" stored')) ∧
    geoCorrections p (update stored d) ≠
      .error ⟨.typeError, "'NoneType' object is not subscriptable"⟩ := by
  have hstored : g.CatsStored stored := cats_stores g message stored hcats
  rcases geoCorrections_cases g hstored with ⟨s, hrun, hLen, hAt⟩ | ⟨herror, hout⟩
  · rw [hrun]
    refine ⟨?_, ?_, ?_⟩
    · intro message' stored' h
      split at h
      · cases h
      · cases h
        exact ⟨_, s, rfl, hLen, hAt⟩
    · intro hpos _
      rw [if_neg (by omega)]
      exact ⟨_, rfl⟩
    · split
      · intro h
        cases h
      · intro h
        cases h
  · rw [herror]
    refine ⟨?_, fun _ hvalid => absurd hvalid hout, ?_⟩
    · intro message' stored' h
      cases h
    · intro h
      cases h

end Cats

/-! ## One record over sea -/

theorem seaFile_lt : (quietFile 1).numRecords < 2 ^ 63 := by
  rw [numRecords_quietFile]
  norm_num

/-- A record whose corrections are all 1. -/
def seaProduct : L1bProduct where
  file := quietFile 1
  lat := [.num (-60)]
  lon := [.num 0]
  alt := [.num 0]
  dopCor := [.num 0]
  transmitPwr := [.num 0]
  offNadirPitchAngle := [.num 0]
  offNadirRollAngle := [.num 0]
  indMeas1hz := [0]
  modDryTropoCor := [.num 1]
  modWetTropoCor := [.num 1]
  ionoCorGim := [.num 1]
  solidEarthTide := [.num 1]
  poleTide := [.num 1]
  hfFluctTotalCor := [.num 1]
  sirOpMode := some "LRM"
  firstRecordLat := some (-60000000)
  lastRecordLat := some (-60000000)
  length_lat := (numRecords_quietFile 1).symm
  length_lon := (numRecords_quietFile 1).symm
  length_alt := (numRecords_quietFile 1).symm
  length_dopCor := (numRecords_quietFile 1).symm
  length_transmitPwr := (numRecords_quietFile 1).symm
  length_indMeas1hz := (numRecords_quietFile 1).symm
  numRecords_lt := seaFile_lt
  mode_named := lrm_named 1

/-- Its dictionary: a record over ocean, in LRM mode. -/
def seaDict (south : Bool) : Dict :=
  update
    [("num_20hz_records", .leaf (.pyInt 1)), ("instr_mode", .text "LRM"),
      ("hemisphere", .text (if south then "south" else "north")),
      ("ocean_locations", .nats .int64 [0]), ("floating_ice_locations", .nats .int64 []),
      ("fes2014b_corrections", .dict (update
        [("ocean_tide_20", .floats [.num 1]), ("ocean_tide_eq_20", .floats [.num 1]),
          ("load_tide_20", .floats [.num 1])] .nil))] .nil

def seaInputs (south : Bool) : GeoInputs seaProduct (seaDict south) where
  south := south
  mode := .lrm
  floating := []
  ocean := [0]
  loadTide := [.num 1]
  oceanTide := [.num 1]
  oceanTideEq := [.num 1]
  hemisphere_eq := rfl
  instrMode_eq := rfl
  floating_eq := rfl
  ocean_eq := rfl
  numRecords_eq := rfl
  loadTide_eq := rfl
  oceanTide_eq := rfl
  oceanTideEq_eq := rfl
  length_loadTide := (numRecords_quietFile 1).symm
  length_oceanTide := (numRecords_quietFile 1).symm
  length_oceanTideEq := (numRecords_quietFile 1).symm
  nodup := List.nodup_singleton 0
  lt := by
    intro i hi
    rw [List.nil_append, List.mem_singleton] at hi
    subst hi
    exact Nat.one_pos

theorem seaProduct_validIndices : ValidIndices seaProduct := by
  intro xs hxs index hindex
  rw [seaProduct, List.mem_singleton] at hindex
  simp only [seaProduct, List.mem_cons, List.not_mem_nil, or_false, or_self] at hxs
  subst hxs hindex
  decide

/-- A record over the ocean of the north. -/
theorem geoCorrections_sum_north :
    ∃ stored', geoCorrections seaProduct
      (update [("cats_tide_required", .leaf (.pyBool false))] (seaDict false)) =
        .ok (.success "" stored') := by
  have hcats : cats2008aTideCorrection "" (fun _ => []) (fun _ => none) (seaDict false) =
      .ok (.success "no CATS tide correction required for northern hemisphere"
        [("cats_tide_required", .leaf (.pyBool false))]) := rfl
  exact (geoCorrections_sum (seaInputs false) hcats).2.1 Nat.one_pos seaProduct_validIndices

/-- The sum with the ocean terms of the hemisphere in either mode. -/
def GeoInputs.seaSum {p : L1bProduct} {d : Dict} (g : GeoInputs p d) (catsTide : Nat → Sample)
    (i : Nat) : Sample :=
  if i ∈ g.floating ++ g.ocean then
    landSum p g.loadTide i + (at1Hz p p.hfFluctTotalCor i +
      if g.south then catsTide i else g.oceanTide.getD i .nan + g.oceanTideEq.getD i .nan)
  else landSum p g.loadTide i

/-- **A record over the ocean of the south** in LRM mode gets no ocean terms: its sum is
the one over land. -/
theorem geoCorrections_southern_lrm :
    ∃ message stored s invalid,
      cats2008aTideCorrection "" (fun _ => []) (fun _ => none) (seaDict true) =
        .ok (.success message stored) ∧
      geoCorrections seaProduct (update stored (seaDict true)) =
        .ok (.success "" [("invalid_corrections_locs", invalid), ("sum_cor_20_ku", .floats s)]) ∧
      s.getD 0 .nan ≠ (seaInputs true).seaSum (catsTideAt (update stored (seaDict true))) 0 := by
  have hcats : cats2008aTideCorrection "" (fun _ => []) (fun _ => none) (seaDict true) =
      .ok (.success "No CATS tide correction required for LRM mode"
        [("cats_tide_required", .leaf (.pyBool false))]) := rfl
  rcases geoCorrections_cases (seaInputs true) (cats_stores (seaInputs true) _ _ hcats) with
    ⟨s, hrun, hlength, hentry⟩ | ⟨-, hout⟩
  · rw [if_neg (by rw [hlength]; exact Nat.one_ne_zero)] at hrun
    refine ⟨_, _, s, _, hcats, hrun, ?_⟩
    have hland : landSum seaProduct (seaInputs true).loadTide 0 = .num 6 := by
      norm_num [landSum, at1Hz, elementAt, seaProduct, seaInputs]
    have hdac : at1Hz seaProduct seaProduct.hfFluctTotalCor 0 = .num 1 := by
      norm_num [at1Hz, elementAt, seaProduct]
    have htide : catsTideAt (update [("cats_tide_required", .leaf (.pyBool false))]
        (seaDict true)) 0 = .num 0 := rfl
    have hsea : 0 ∈ (seaInputs true).floating ++ (seaInputs true).ocean := List.mem_singleton_self 0
    rw [hentry 0 Nat.one_pos, GeoInputs.correctionSum, GeoInputs.seaSum, if_pos hsea, if_pos hsea,
      hland, hdac, htide]
    simp [seaInputs]
  · exact absurd seaProduct_validIndices hout

end Clev2er.Cryotempo
