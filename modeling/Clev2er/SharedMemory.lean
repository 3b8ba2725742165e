import Clev2er.Python

/-!
# DEMs and masks in shared memory

A `Dem` of GeoTIFF type or a grid `Mask` that is told to store its array in
shared memory looks for a segment of its name: it attaches to the segment if
there is one, and else loads the array and creates the segment. `clean_up`
closes what was attached and unlinks what was created. Everything else (npz and
zarr DEMs, area masks, and every load without the flag) keeps a private copy.

`Loaded` is what a sequence of loads leaves behind: who owns which segment. The
clean-up lemmas are stated over it.
-/

namespace Clev2er

/-! ## Resources and segments -/

/-- What an algorithm loads in `init()`: a DEM, of GeoTIFF type or not, or a
mask, loaded by one of the two grid mask loaders or not. -/
inductive Resource where
  | dem (name : String) (geotiff : Bool)
  | mask (name : String) (grid : Bool)
deriving DecidableEq

/-- The segment a loader looks for: the name of a DEM, the first eight hex
digits of the MD5 of a mask's name. `hashName` stands for the latter. -/
def Resource.segment (hashName : String → String) : Resource → Option String
  | .dem name true => some name
  | .mask name true => some (hashName name)
  | .dem _ false | .mask _ false => none

/-- The segments that exist, and those created since the run started. -/
structure Store where
  live : List String
  created : List String
deriving DecidableEq

/-- A constructed `Dem` or `Mask`. -/
structure Handle where
  resource : Resource
  storeInSharedMemory : Bool
  sharedMem : Option String
  sharedMemChild : Bool
deriving DecidableEq

/-- `Dem.load_geotiff`, `Mask.load_netcdf_mask` and `Mask.load_npz_mask`. -/
def Resource.load (hashName : String → String) (storeInSharedMemory : Bool)
    (r : Resource) (store : Store) : Handle × Store :=
  match storeInSharedMemory, r.segment hashName with
  | true, some seg =>
      if seg ∈ store.live then
        (⟨r, true, some seg, true⟩, store)
      else
        (⟨r, true, some seg, false⟩, ⟨seg :: store.live, seg :: store.created⟩)
  | flag, _ => (⟨r, flag, none, false⟩, store)

/-- `SharedMemory.unlink`. -/
def Store.unlink (store : Store) (seg : String) : Store :=
  { store with live := store.live.filter (fun s => s ≠ seg) }

/-- `Dem.clean_up` and `Mask.clean_up`. -/
def Handle.cleanUp (h : Handle) (store : Store) : Store :=
  match h.storeInSharedMemory, h.sharedMem, h.sharedMemChild with
  | true, some seg, false => store.unlink seg
  | _, _, _ => store

/-- The loads of one `init()`, in order. -/
def loadAll (hashName : String → String) (storeInSharedMemory : Bool) :
    List Resource → Store → List Handle × Store
  | [], store => ([], store)
  | r :: rs, store =>
      let first := r.load hashName storeInSharedMemory store
      let rest := loadAll hashName storeInSharedMemory rs first.2
      (first.1 :: rest.1, rest.2)

def cleanUpAll (handles : List Handle) (store : Store) : Store :=
  handles.foldl (fun store h => h.cleanUp store) store

/-! ## Private copies -/

section Private

variable (hashName : String → String)

theorem load_private (r : Resource) (store : Store) :
    r.load hashName false store = (⟨r, false, none, false⟩, store) := by
  unfold Resource.load
  cases r.segment hashName <;> rfl

/-- **Without the flag** every load is a private copy and leaves the segments
alone. -/
theorem loadAll_private : ∀ (rs : List Resource) (store : Store),
    loadAll hashName false rs store =
      (rs.map (fun r => ⟨r, false, none, false⟩), store)
  | [], store => rfl
  | r :: rs, store => by
      simp only [loadAll, load_private, loadAll_private rs store, List.map_cons]

end Private

/-! ## Who owns which segment -/

/-- The segment a handle has created, and has to unlink. -/
def Handle.owns (h : Handle) : Option String :=
  match h.storeInSharedMemory, h.sharedMem, h.sharedMemChild with
  | true, some seg, false => some seg
  | _, _, _ => none

theorem cleanUp_eq (h : Handle) (store : Store) :
    h.cleanUp store = match h.owns with
      | some seg => store.unlink seg
      | none => store := by
  obtain ⟨r, flag, mem, child⟩ := h
  cases flag <;> cases mem <;> cases child <;> rfl

/-- Handles that own nothing leave the segments alone. -/
theorem cleanUpAll_of_owns_none (store : Store) : ∀ {handles : List Handle},
    (∀ h ∈ handles, h.owns = none) → cleanUpAll handles store = store
  | [], _ => rfl
  | h :: handles, hall => by
      have hstep : cleanUpAll (h :: handles) store = cleanUpAll handles (h.cleanUp store) := rfl
      rw [hstep, cleanUp_eq, hall h List.mem_cons_self]
      exact cleanUpAll_of_owns_none store (fun h' hh => hall h' (List.mem_cons_of_mem _ hh))

theorem mem_live_unlink {store : Store} {seg s : String} :
    s ∈ (store.unlink seg).live ↔ s ∈ store.live ∧ s ≠ seg := by
  simp [Store.unlink]

/-- Cleaning up handles takes away the segments they own, and no others. -/
theorem mem_live_cleanUpAll {seg : String} : ∀ {handles : List Handle} {store : Store},
    seg ∈ (cleanUpAll handles store).live ↔
      seg ∈ store.live ∧ ∀ h ∈ handles, h.owns ≠ some seg
  | [], store => by simp [cleanUpAll]
  | h :: handles, store => by
      have ih : seg ∈ (cleanUpAll handles (h.cleanUp store)).live ↔ _ := mem_live_cleanUpAll
      have hstep : cleanUpAll (h :: handles) store = cleanUpAll handles (h.cleanUp store) := rfl
      rw [hstep, ih, cleanUp_eq]
      cases howns : h.owns with
      | none => simp [howns]
      | some own =>
          simp only [mem_live_unlink, List.forall_mem_cons, howns, ne_eq, Option.some.injEq]
          constructor
          · rintro ⟨⟨hlive, hne⟩, hrest⟩
            exact ⟨hlive, fun h => hne h.symm, hrest⟩
          · rintro ⟨hlive, hne, hrest⟩
            exact ⟨⟨hlive, fun h => hne h.symm⟩, hrest⟩

theorem created_cleanUpAll : ∀ (handles : List Handle) (store : Store),
    (cleanUpAll handles store).created = store.created
  | [], store => rfl
  | h :: handles, store => by
      have ih : (cleanUpAll handles (h.cleanUp store)).created = _ :=
        created_cleanUpAll handles _
      have hstep : (h.cleanUp store).created = store.created := by
        rw [cleanUp_eq]
        cases h.owns <;> rfl
      exact ih.trans hstep

/-! ## What loading leaves behind -/

section Shared

variable (hashName : String → String)

/-- The segments a list of resources is looked for under. -/
def segmentsOf (rs : List Resource) : List String :=
  rs.filterMap (Resource.segment hashName)

/-- `handles` are what was loaded since the segments were `before`: a created
segment is live, was not there before, and is owned by exactly one position of
`handles`; and nothing else has changed. -/
structure Loaded (before : List String) (handles : List Handle) (store : Store) : Prop where
  live_iff : ∀ seg, seg ∈ store.live ↔ seg ∈ before ∨ seg ∈ store.created
  created_new : ∀ seg ∈ store.created, seg ∉ before
  owned : handles.filterMap Handle.owns = store.created.reverse
  nodup : store.created.Nodup

theorem Loaded.start (live : List String) : Loaded live [] ⟨live, []⟩ where
  live_iff := by simp
  created_new := by simp
  owned := rfl
  nodup := List.nodup_nil

/-- One more load into shared memory: either the segment was live and the handle
owns nothing, or it is created and owned. -/
theorem Loaded.load {before : List String}
    {handles : List Handle} {store : Store} (h : Loaded before handles store) (r : Resource) :
    Loaded before (handles ++ [(r.load hashName true store).1]) (r.load hashName true store).2 := by
  unfold Resource.load
  cases hseg : r.segment hashName with
  | none =>
      refine ⟨h.live_iff, h.created_new, ?_, h.nodup⟩
      simp [h.owned, Handle.owns]
  | some seg =>
      by_cases hlive : seg ∈ store.live
      · simp only [hlive, if_true]
        refine ⟨h.live_iff, h.created_new, ?_, h.nodup⟩
        simp [h.owned, Handle.owns]
      · simp only [hlive, if_false]
        have hnew := mt (h.live_iff seg).mpr hlive
        rw [not_or] at hnew
        refine ⟨?_, ?_, ?_, ?_⟩
        · intro s
          simp only [List.mem_cons, h.live_iff s]
          tauto
        · intro s hs
          rcases List.mem_cons.mp hs with rfl | hs
          · exact hnew.1
          · exact h.created_new s hs
        · simp [h.owned, Handle.owns]
        · exact List.nodup_cons.mpr ⟨hnew.2, h.nodup⟩

theorem Loaded.loadAll {before : List String} :
    ∀ {handles : List Handle} {store : Store},
      Loaded before handles store → ∀ rs : List Resource,
      Loaded before (handles ++ (Clev2er.loadAll hashName true rs store).1)
        (Clev2er.loadAll hashName true rs store).2
  | handles, store, h, [] => by simpa [Clev2er.loadAll] using h
  | handles, store, h, r :: rs => by
      have hrest := Loaded.loadAll (h.load hashName r) rs
      rw [List.append_assoc] at hrest
      exact hrest

/-- A load makes its segment live. -/
theorem mem_live_load (r : Resource) (store : Store) (seg : String) :
    seg ∈ (r.load hashName true store).2.live ↔
      seg ∈ store.live ∨ r.segment hashName = some seg := by
  unfold Resource.load
  cases hseg : r.segment hashName with
  | none => simp
  | some own =>
      by_cases hlive : own ∈ store.live
      · simp only [hlive, if_true, Option.some.injEq]
        constructor
        · exact Or.inl
        · rintro (h | rfl)
          · exact h
          · exact hlive
      · simp only [hlive, if_false, List.mem_cons, Option.some.injEq]
        constructor
        · rintro (rfl | h)
          · exact Or.inr rfl
          · exact Or.inl h
        · rintro (h | rfl)
          · exact Or.inr h
          · exact Or.inl rfl

theorem mem_live_loadAll (seg : String) :
    ∀ (rs : List Resource) (store : Store),
      seg ∈ (loadAll hashName true rs store).2.live ↔
        seg ∈ store.live ∨ seg ∈ segmentsOf hashName rs
  | [], store => by simp [loadAll, segmentsOf]
  | r :: rs, store => by
      have ih := mem_live_loadAll seg rs (r.load hashName true store).2
      have hcons : seg ∈ segmentsOf hashName (r :: rs) ↔
          r.segment hashName = some seg ∨ seg ∈ segmentsOf hashName rs := by
        simp [segmentsOf, List.mem_filterMap]
      show seg ∈ (loadAll hashName true rs (r.load hashName true store).2).2.live ↔ _
      rw [ih, mem_live_load, hcons, or_assoc]

end Shared

/-! ## Cleaning up what was loaded -/

section CleanUp

variable {before : List String} {handles lost : List Handle} {store : Store}

theorem Loaded.mem_created_iff (h : Loaded before handles store) (seg : String) :
    seg ∈ store.created ↔ ∃ handle ∈ handles, handle.owns = some seg := by
  rw [← List.mem_reverse, ← h.owned, List.mem_filterMap]

/-- No segment has two owners. -/
theorem Loaded.owners_distinct (h : Loaded before (handles ++ lost) store) {seg : String}
    {first second : Handle} (hfirst : first ∈ handles) (hsecond : second ∈ lost)
    (howns : first.owns = some seg) : second.owns ≠ some seg := by
  have hnodup : (handles.filterMap Handle.owns ++ lost.filterMap Handle.owns).Nodup := by
    rw [← List.filterMap_append, h.owned]
    exact (List.reverse_perm _).nodup_iff.mpr h.nodup
  intro howns'
  exact (List.nodup_append.mp hnodup).2.2 seg (List.mem_filterMap.mpr ⟨first, hfirst, howns⟩)
    seg (List.mem_filterMap.mpr ⟨second, hsecond, howns'⟩) rfl

/-- **Cleaning up all handles** unlinks every created segment. -/
theorem Loaded.cleanUpAll_unlinks (h : Loaded before handles store) :
    ∀ seg ∈ store.created, seg ∉ (cleanUpAll handles store).live := by
  intro seg hseg hlive
  obtain ⟨handle, hhandle, howns⟩ := (h.mem_created_iff seg).mp hseg
  exact (mem_live_cleanUpAll.mp hlive).2 handle hhandle howns

/-- **Cleaning up all but some handles** unlinks every created segment exactly if
the others own none. -/
theorem Loaded.cleanUpAll_unlinks_iff (h : Loaded before (handles ++ lost) store) :
    (∀ seg ∈ store.created, seg ∉ (cleanUpAll handles store).live) ↔
      ∀ handle ∈ lost, handle.owns = none := by
  constructor
  · intro hall handle hhandle
    cases howns : handle.owns with
    | none => rfl
    | some seg =>
        have hseg : seg ∈ store.created :=
          (h.mem_created_iff seg).mpr ⟨handle, List.mem_append_right _ hhandle, howns⟩
        refine absurd ?_ (hall seg hseg)
        rw [mem_live_cleanUpAll]
        refine ⟨(h.live_iff seg).mpr (Or.inr hseg), ?_⟩
        intro other hother hown
        exact h.owners_distinct hother hhandle hown howns
  · intro hlost seg hseg hlive
    obtain ⟨handle, hhandle, howns⟩ := (h.mem_created_iff seg).mp hseg
    rcases List.mem_append.mp hhandle with hhandle | hhandle
    · exact (mem_live_cleanUpAll.mp hlive).2 handle hhandle howns
    · rw [hlost handle hhandle] at howns
      cases howns

/-- What some loads own: nothing exactly if every segment they look for was
there. -/
theorem Loaded.loadAll_owns_none_iff (hashName : String → String)
    (h : Loaded before handles store) (rs : List Resource) :
    (∀ handle ∈ (Clev2er.loadAll hashName true rs store).1, handle.owns = none) ↔
      ∀ seg ∈ segmentsOf hashName rs, seg ∈ store.live := by
  have hload := h.loadAll hashName rs
  have hlive := fun seg => mem_live_loadAll hashName seg rs store
  generalize Clev2er.loadAll hashName true rs store = loaded at hload hlive
  obtain ⟨lost, store'⟩ := loaded
  simp only at hload hlive ⊢
  constructor
  · intro hnone seg hseg
    have hseg' : seg ∈ store'.live := (hlive seg).mpr (Or.inr hseg)
    rcases (hload.live_iff seg).mp hseg' with hold | hcreated
    · exact (h.live_iff seg).mpr (Or.inl hold)
    · obtain ⟨handle, hhandle, howns⟩ := (hload.mem_created_iff seg).mp hcreated
      rcases List.mem_append.mp hhandle with hhandle | hhandle
      · exact (h.live_iff seg).mpr (Or.inr ((h.mem_created_iff seg).mpr ⟨handle, hhandle, howns⟩))
      · rw [hnone handle hhandle] at howns
        cases howns
  · intro hall handle hhandle
    cases howns : handle.owns with
    | none => rfl
    | some seg =>
        have hcreated : seg ∈ store'.created :=
          (hload.mem_created_iff seg).mpr ⟨handle, List.mem_append_right _ hhandle, howns⟩
        have hold : seg ∈ store.live := by
          rcases (hlive seg).mp ((hload.live_iff seg).mpr (Or.inr hcreated)) with hold | hseg
          · exact hold
          · exact hall seg hseg
        -- a segment that was live has no second owner
        rcases (h.live_iff seg).mp hold with hbefore | hcreated₀
        · exact absurd hbefore (hload.created_new seg hcreated)
        · obtain ⟨other, hother, hown⟩ := (h.mem_created_iff seg).mp hcreated₀
          exact absurd howns (hload.owners_distinct hother hhandle hown)

end CleanUp

end Clev2er
