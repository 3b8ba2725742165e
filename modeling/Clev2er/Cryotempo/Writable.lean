import Clev2er.Cryotempo.SharedDict

/-!
# Shared dictionaries that can be written

`create_netcdf_file` on a shared dictionary. `Kept` is the invariant the chain has
up to the geolocation: leaves of the kinds the encoder knows, and one nested
dictionary, whose arrays use only a length that the root has used before. A
dictionary of the invariant can be written (`Kept.writable`); one with a `None`
cannot (`HasNone.not_written`).
-/

namespace Clev2er.Cryotempo

open Clev2er.Lib Clev2er.Retrack Clev2er.Breakpoints

/-! ## Dictionaries that can be written -/

/-- The encoder knows the kind of the leaf, and the library can hold it. -/
def acceptedLeaf (v : Leaf) : Bool := v.inDomain && v.storable

/-- The same of an item of a dictionary. -/
def acceptedItem (i : Item) : Bool := i.inDomain && i.storable

/-- Every value of a dictionary, at any level. -/
def Accepted (d : Dict) : Prop := ∀ i ∈ d.items [], acceptedItem i = true

/-- A leaf of the root, in a track of `n` records. -/
structure PlainLeaf (n : Nat) (key : String) (v : Leaf) : Prop where
  accepted : acceptedLeaf v = true
  key_ne : key ≠ "fes2014b_corrections"
  nadir : key = "lats_nadir" → ∃ a, v = .array a ∧ a.shape = [n]
  records : key = "num_20hz_records" → v = .pyInt n

/-- A dictionary of arrays with `n` entries. -/
def ArraysOf (n : Nat) : Dict → Prop
  | .nil => True
  | .leaf _ v rest => (∃ a, v = .array a ∧ a.shape = [n] ∧ a.dtype.supported = true) ∧
      ArraysOf n rest
  | .dict _ _ _ => False

/-- The invariant of the chain: plain leaves, and the tides after the nadir
latitudes. `seen` says that the latitudes came before. -/
def Kept (n : Nat) : Bool → Dict → Prop
  | _, .nil => True
  | seen, .leaf key v rest => PlainLeaf n key v ∧ Kept n (seen || key == "lats_nadir") rest
  | seen, .dict key v rest =>
      key = "fes2014b_corrections" ∧ seen = true ∧ ArraysOf n v ∧ Kept n seen rest

section Kept

variable {n : Nat}

theorem Kept.get?_leaf {key : String} {v : Leaf} : ∀ {d : Dict} {seen : Bool}, Kept n seen d →
    get? key d = some (.leaf v) → PlainLeaf n key v := by
  intro d
  induction d with
  | nil =>
      intro seen _ h
      cases h
  | leaf k u rest ih =>
      intro seen hd h
      rw [get?] at h
      split at h
      · next hk =>
        subst hk
        cases h
        exact hd.1
      · exact ih hd.2 h
  | dict k u rest _ ih =>
      intro seen hd h
      rw [get?] at h
      split at h
      · cases h
      · exact ih hd.2.2.2 h

/-- The number of records is the one of the track. -/
theorem Kept.numRecords_eq {d : Dict} {seen : Bool} (hd : Kept n seen d) {v : Value} {i : ℤ}
    (hv : item d "num_20hz_records" = .ok v) (hi : v.asInt = .ok i) : i = n := by
  have hget : get? "num_20hz_records" d = some v := by
    unfold item at hv
    split at hv
    · next u hu =>
      cases hv
      exact hu
    · cases hv
  unfold Value.asInt at hi
  split at hi
  · cases hi
    have hrecords := (hd.get?_leaf hget).records rfl
    cases hrecords
    rfl
  · cases hi

/-- **Storing a plain leaf** keeps the invariant, wherever the key stands. -/
theorem Kept.setLeaf {key : String} {v : Leaf} (hv : PlainLeaf n key v) :
    ∀ {d : Dict} {seen : Bool}, Kept n seen d → Kept n seen (setItem key (.leaf v) d) := by
  intro d
  induction d with
  | nil =>
      intro seen _
      exact ⟨hv, trivial⟩
  | leaf k u rest ih =>
      intro seen hd
      rw [setItem]
      split
      · next hk =>
        subst hk
        exact ⟨hv, hd.2⟩
      · exact ⟨hd.1, ih hd.2⟩
  | dict k u rest _ ih =>
      intro seen hd
      rw [setItem, if_neg (fun hk => hv.key_ne (hk.symm.trans hd.1))]
      exact ⟨hd.1, hd.2.1, hd.2.2.1, ih hd.2.2.2⟩

/-- An assignment of a plain leaf. -/
def PlainEntry (n : Nat) (e : String × Value) : Prop := ∃ v, e.2 = .leaf v ∧ PlainLeaf n e.1 v

theorem Kept.update {stored : List (String × Value)} : ∀ {d : Dict}, Kept n false d →
    (∀ e ∈ stored, PlainEntry n e) → Kept n false (update stored d) := by
  induction stored with
  | nil =>
      intro d hd _
      exact hd
  | cons e stored ih =>
      intro d hd h
      obtain ⟨v, hv, hplain⟩ := h e List.mem_cons_self
      have hstep : Cryotempo.update (e :: stored) d =
          Cryotempo.update stored (setItem e.1 (.leaf v) d) := by
        rw [← hv]
        rfl
      rw [hstep]
      exact ih (hd.setLeaf hplain) (fun e' he' => h e' (List.mem_cons_of_mem _ he'))

/-- **Storing the tides** keeps it, once the latitudes are there. -/
theorem Kept.setTides {tides : Dict} (htides : ArraysOf n tides) :
    ∀ {d : Dict} {seen : Bool}, Kept n seen d → (seen = true ∨ hasKey d "lats_nadir" = true) →
      Kept n seen (setItem "fes2014b_corrections" (.dict tides) d) := by
  intro d
  induction d with
  | nil =>
      intro seen _ hseen
      rcases hseen with rfl | h
      · exact ⟨rfl, rfl, htides, trivial⟩
      · cases h
  | leaf k u rest ih =>
      intro seen hd hseen
      rw [setItem, if_neg hd.1.key_ne]
      refine ⟨hd.1, ih hd.2 ?_⟩
      by_cases hk : k = "lats_nadir"
      · left
        simp [hk]
      · rcases hseen with rfl | h
        · exact Or.inl rfl
        · right
          rwa [hasKey, get?, if_neg hk] at h
  | dict k u rest _ ih =>
      intro seen hd hseen
      rw [setItem]
      split
      · exact ⟨rfl, hd.2.1, htides, hd.2.2.2⟩
      · exact ⟨hd.1, hd.2.1, hd.2.2.1, ih hd.2.2.2 (Or.inl hd.2.1)⟩

/-! ## Writing them -/

/-- An array with one axis, of a type the library has. -/
theorem acceptedLeaf_array {dtype : Dtype} (h : dtype.supported = true) (m : Nat)
    (xs : List Sample) : acceptedLeaf (.array ⟨dtype, [m], xs⟩) = true := by
  have hstored : storedDtype dtype = dtype := by
    unfold storedDtype
    split
    · next hbool =>
      rw [hbool] at h
      cases h
    · rfl
  simp [acceptedLeaf, Leaf.inDomain, Leaf.storable, hstored, h]

theorem ArraysOf.accepted : ∀ {d : Dict} {group : Path}, ArraysOf n d →
    ∀ i ∈ d.items group, acceptedItem i = true := by
  intro d
  induction d with
  | nil =>
      intro group _ i hi
      cases hi
  | leaf k u rest ih =>
      intro group hd i hi
      obtain ⟨⟨⟨dtype, shape, xs⟩, rfl, rfl, hdtype⟩, hrest⟩ := hd
      rcases List.mem_cons.mp hi with rfl | hi
      · exact acceptedLeaf_array hdtype n xs
      · exact ih hrest i hi
  | dict k u rest _ _ =>
      intro group hd
      cases hd

theorem Kept.accepted : ∀ {d : Dict} {seen : Bool}, Kept n seen d → Accepted d := by
  intro d
  induction d with
  | nil =>
      intro seen _ i hi
      cases hi
  | leaf k u rest ih =>
      intro seen hd i hi
      rcases List.mem_cons.mp hi with rfl | hi
      · exact hd.1.accepted
      · exact ih hd.2 i hi
  | dict k u rest _ ih =>
      intro seen hd i hi
      rcases List.mem_cons.mp hi with rfl | hi
      · rfl
      · rcases List.mem_append.mp hi with hi | hi
        · exact hd.2.2.1.accepted i hi
        · exact ih hd.2.2.2 i hi

/-- The axes met so far: below the root only those of `n` entries, and the root used
that length first. -/
structure Sight (n : Nat) (seen : Bool) (uses : List (Path × Nat)) : Prop where
  nested : ∀ u ∈ uses, u.1 = [] ∨ (u.2 = n ∧ seen = true)
  first : seen = true → firstUse uses n = some []

theorem firstUse_or (uses more : List (Path × Nat)) (size : Nat) :
    firstUse (uses ++ more) size = (firstUse uses size).or (firstUse more size) := by
  unfold firstUse
  rw [List.find?_append]
  cases uses.find? (fun u => u.2 == size) <;> rfl

/-- Then the root owns every dimension. -/
theorem Sight.owner {seen : Bool} {uses : List (Path × Nat)} (h : Sight n seen uses) {size : Nat}
    {owner : Path} (howner : firstUse uses size = some owner) : owner = [] := by
  obtain ⟨u, hu, rfl⟩ := Option.map_eq_some_iff.mp howner
  have hsize : u.2 = size := beq_iff_eq.mp (List.find?_some (p := fun u : Path × Nat => u.2 == size) hu)
  rcases h.nested u (List.mem_of_find?_eq_some hu) with hroot | ⟨hn, hseen⟩
  · exact hroot
  · rw [← hsize, hn, h.first hseen] at howner
    exact (Option.some.inj howner).symm

/-- More axes of the root, or of `n` entries below it. -/
theorem Sight.append {seen : Bool} {uses more : List (Path × Nat)} (h : Sight n seen uses)
    (hmore : ∀ u ∈ more, u.1 = [] ∨ (u.2 = n ∧ seen = true)) : Sight n seen (uses ++ more) := by
  constructor
  · intro u hu
    rcases List.mem_append.mp hu with hu | hu
    · exact h.nested u hu
    · exact hmore u hu
  · intro hseen
    rw [firstUse_or, h.first hseen]
    rfl

/-- The nadir latitudes. -/
theorem Sight.latitudes {seen : Bool} {uses : List (Path × Nat)} (h : Sight n seen uses) :
    Sight n true (uses ++ [([], n)]) := by
  constructor
  · intro u hu
    rcases List.mem_append.mp hu with hu | hu
    · exact (h.nested u hu).imp_right (fun hn => ⟨hn.1, rfl⟩)
    · exact Or.inl (by rw [List.mem_singleton.mp hu])
  · intro _
    rw [firstUse_or]
    cases hfirst : firstUse uses n with
    | none => simp [firstUse]
    | some owner => rw [h.owner hfirst, Option.some_or]

theorem ArraysOf.axes : ∀ {d : Dict} {group : Path}, ArraysOf n d →
    ∀ u ∈ (d.items group).flatMap Item.axes, u.2 = n := by
  intro d
  induction d with
  | nil =>
      intro group _ u hu
      cases hu
  | leaf k v rest ih =>
      intro group hd u hu
      obtain ⟨⟨a, rfl, hshape, -⟩, hrest⟩ := hd
      rw [Dict.items, List.flatMap_cons, Item.axes, hshape] at hu
      rcases List.mem_append.mp hu with hu | hu
      · rw [List.mem_singleton.mp hu]
      · exact ih hrest u hu
  | dict k v rest _ _ =>
      intro group hd
      cases hd

theorem axes_root (key : String) (v : Leaf) : ∀ u ∈ (Item.leaf [] key v).axes, u.1 = [] := by
  intro u hu
  cases v with
  | array a =>
      obtain ⟨m, -, rfl⟩ := List.mem_map.mp hu
      rfl
  | list a =>
      obtain ⟨m, -, rfl⟩ := List.mem_map.mp hu
      rfl
  | pyBool b => cases hu
  | pyInt i => cases hu
  | pyFloat x => cases hu
  | npScalar dtype x => cases hu
  | str t => cases hu
  | other t => cases hu

theorem Kept.sight : ∀ {d : Dict} {seen : Bool} {uses : List (Path × Nat)}, Kept n seen d →
    Sight n seen uses → ∃ seen', Sight n seen' (uses ++ (d.items []).flatMap Item.axes) := by
  intro d
  induction d with
  | nil =>
      intro seen uses _ h
      exact ⟨seen, by simpa [Dict.items] using h⟩
  | leaf k v rest ih =>
      intro seen uses hd h
      rw [Dict.items, List.flatMap_cons, ← List.append_assoc]
      refine ih hd.2 ?_
      by_cases hk : k = "lats_nadir"
      · obtain ⟨a, rfl, hshape⟩ := hd.1.nadir hk
        simp only [hk, beq_self_eq_true, Bool.or_true, Item.axes, hshape, List.map_cons, List.map_nil]
        exact h.latitudes
      · rw [show (k == "lats_nadir") = false from beq_eq_false_iff_ne.mpr hk, Bool.or_false]
        exact h.append (fun u hu => Or.inl (axes_root k v u hu))
  | dict k v rest _ ih =>
      intro seen uses hd h
      have hnested : (Item.nested ([] ++ [k])).axes = [] := rfl
      rw [Dict.items, List.flatMap_cons, List.flatMap_append, hnested, List.nil_append,
        ← List.append_assoc]
      refine ih hd.2.2.2 ?_
      exact h.append (fun u hu => Or.inr ⟨hd.2.2.1.axes u hu, hd.2.1⟩)

/-- **A dictionary of the invariant can be written**, whether or not the library
looks for the dimensions. -/
theorem Kept.writable {d : Dict} (hd : Kept n false d) (strict : Bool) :
    ∃ f, createNetcdfFile strict d = .ok f := by
  have haccepted := hd.accepted
  have hvisible : d.FirstUseVisible := by
    intro u _ owner howner
    have hempty : Sight n false [] := ⟨nofun, nofun⟩
    obtain ⟨seen, hsight⟩ := hd.sight hempty
    rw [List.nil_append] at hsight
    obtain rfl : owner = [] := hsight.owner howner
    exact List.nil_prefix
  refine ⟨(d.items []).foldl applyItem NcFile.empty, ?_⟩
  unfold createNetcdfFile
  rw [createVariables_eq]
  apply storeItems_of_storable
  · intro i hi
    exact (Bool.and_eq_true_iff.mp (haccepted i hi)).1
  · intro i hi
    exact (Bool.and_eq_true_iff.mp (haccepted i hi)).2
  · intro _
    exact encoded_visible_iff.mpr hvisible

end Kept

/-! ## Dictionaries that cannot be written -/

/-- The keys of the basins of one ice sheet. -/
def basinKeys : List String := ["basin_mask_values_zwally", "basin_mask_values_mouginot"]

/-- One of them is `None`. -/
def HasNone (d : Dict) : Prop := ∃ key ∈ basinKeys, get? key d = some .none

/-- A run of the encoder has stored every item. -/
theorem foldlM_stored {strict : Bool} : ∀ {items : List Item} {f f' : NcFile},
    items.foldlM (storeItem strict) f = .ok f' →
    ∀ i ∈ items, ∃ g g', storeItem strict g i = .ok g' := by
  intro items
  induction items with
  | nil =>
      intro f f' _ i hi
      cases hi
  | cons item items ih =>
      intro f f' h i hi
      rw [List.foldlM_cons] at h
      cases hitem : storeItem strict f item with
      | error e =>
          rw [hitem] at h
          cases h
      | ok g =>
          rw [hitem] at h
          rcases List.mem_cons.mp hi with rfl | hi
          · exact ⟨f, g, hitem⟩
          · exact ih h i hi

/-- The encoder raises on `None`, in whatever it has written before. -/
theorem HasNone.not_written {d : Dict} (hd : HasNone d) (strict : Bool) :
    ∃ e, createNetcdfFile strict d = .error e := by
  obtain ⟨key, -, hnone⟩ := hd
  unfold createNetcdfFile
  rw [createVariables_eq]
  cases hrun : (d.items []).foldlM (storeItem strict) NcFile.empty with
  | error e => exact ⟨e, rfl⟩
  | ok f =>
      obtain ⟨g, g', hstored⟩ := foldlM_stored hrun _ (mem_items_of_get? hnone)
      cases hstored

end Clev2er.Cryotempo
