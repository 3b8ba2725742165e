import Clev2er.Cryotempo.DataFlow
import Clev2er.Cryotempo.ProductRun

/-!
# The order of the algorithms

An algorithm list may be put into any order in which no algorithm comes to the other side
of one whose keys it reads or writes (`dictAfter_reordered`). In the three lists of the
chain every algorithm finds the keys it needs (`needs_available`).
-/

namespace Clev2er.Cryotempo

open Clev2er.Lib Clev2er.Breakpoints Clev2er.RunChain

/-! ## Other orders -/

section Order

variable {c : CryotempoChain} {setUp : AlgSetUp} {cfg : ChainConfig} {filenum : Nat}

/-- **Reordering an algorithm list**, without changing the order of algorithms that share
a key that one of them writes, leaves the same values under all keys, or fails as well. -/
theorem dictAfter_reordered (hw : WriterLocal c) {algs other : List Alg} (hnodup : algs.Nodup)
    (h : Reordered Alg.reads Alg.writes algs other) (d : Dict) :
    dictAccess.SameResult (dictAfter cfg filenum (algs.map (algClass c setUp)) d)
      (dictAfter cfg filenum (other.map (algClass c setUp)) d) := by
  rw [dictAfter_eq_pipeline, dictAfter_eq_pipeline]
  exact (algFlow hw).sameResult_of_reordered hnodup h d

theorem reordered_refDem_uncertainty :
    Reordered Alg.reads Alg.writes [.refDem, .uncertainty, .productOutput]
      [.uncertainty, .refDem, .productOutput] := by
  refine ⟨List.Perm.swap _ _ _, fun a b hsub hdependent => ?_⟩
  have hpair : a = .uncertainty ∧ b = .productOutput ∨
      a = .refDem ∧ (b = .productOutput ∨ b = .uncertainty) := by
    simpa [List.cons_sublist_cons', List.sublist_cons_iff] using hsub
  rcases hpair with ⟨rfl, rfl⟩ | ⟨rfl, rfl | rfl⟩
  · decide
  · decide
  · exact absurd ⟨by decide +kernel, by decide +kernel, by decide +kernel⟩ hdependent

/-- `alg_ref_dem` and `alg_uncertainty` may be swapped, and the product stays the same. -/
theorem dictAfter_reordered_refDem :
    dictAccess.SameResult
      (dictAfter sequentialConfig 0
        ([Alg.refDem, .uncertainty, .productOutput].map (algClass writingChain plainSetUp))
        (update [("height_filt", .floats [.num poleHeight])] poleLocated))
      (dictAfter sequentialConfig 0
        ([Alg.uncertainty, .refDem, .productOutput].map (algClass writingChain plainSetUp))
        (update [("height_filt", .floats [.num poleHeight])] poleLocated)) :=
  dictAfter_reordered (writerLocal_writeProduct (w := poleWriter) rfl) (by decide)
    reordered_refDem_uncertainty _

end Order

/-! ## The keys an algorithm needs -/

/-- The keys that an algorithm asks for before it reads them. -/
def Alg.optional : Alg → List String
  | .skipOnAreaBounds => ["hemisphere"]
  | .geoCorrections => ["cats_tide"]
  | .productOutput => ["relocation_distance"]
  | _ => []

/-- The keys whose absence raises or fails. -/
def Alg.needs (alg : Alg) : List String := alg.reads.filter fun key => key ∉ alg.optional

/-- The keys that are there after an algorithm has succeeded. -/
def Alg.leaves (mode : Option Value) (alg : Alg) : List String :=
  (if alg = .skipOnAreaBounds then ["hemisphere"] else []) ++
    ((alg.keyLists mode).headD []).filter fun key => (alg.keyLists mode).all fun keys => key ∈ keys

section Needs

variable {c : CryotempoChain} {p : L1bProduct} {d : Dict}

/-- The area check stores the hemisphere, or has found it. -/
theorem skipOnAreaBounds_hemisphere : Stores
    (fun stored => hasKey d "hemisphere" = true ∨ ∃ e ∈ stored, e.1 = "hemisphere")
    (skipOnAreaBounds c.switches c.greenlandMask p d) := by
  unfold skipOnAreaBounds
  rcases p.firstRecordLat with _ | first
  · exact Stores.failure _
  rcases p.lastRecordLat with _ | last
  · exact Stores.failure _
  rcases get? "instr_mode" d with _ | mode
  · exact Stores.failure _
  refine Stores.ite (Stores.failure _) ?_
  rcases hemisphereFlags p.lat with ⟨south, north⟩
  cases south with
  | true =>
      cases north with
      | true => exact Stores.failure _
      | false =>
          refine Stores.ite (Stores.failure _) (Stores.ite (Stores.failure _) ?_)
          dsimp only
          rw [if_neg Bool.false_ne_true]
          exact Stores.ite (Stores.failure _)
            (Stores.success (.inr ⟨_, List.mem_cons_self, rfl⟩))
  | false =>
      cases north with
      | true =>
          refine Stores.ite (Stores.failure _) (Stores.ite (Stores.failure _) ?_)
          dsimp only
          rw [if_pos rfl]
          rcases c.greenlandMask.pointsInside p.lat (p.lon.map mod360) [] with e | ⟨inside, nInside⟩
          · exact Stores.error _
          · exact Stores.ite (Stores.failure _)
              (Stores.success (.inr ⟨_, List.mem_cons_self, rfl⟩))
      | false =>
          refine Stores.ite (Stores.failure _) ?_
          dsimp only
          split
          · exact Stores.failure _
          · next hfound =>
            rw [if_neg Bool.false_ne_true]
            exact Stores.ite (Stores.failure _) (Stores.success (.inl (by simpa using hfound)))

theorem processOf_leaves (c : CryotempoChain) (p : L1bProduct) (alg : Alg) (d : Dict) :
    Stores (fun stored => ∀ key ∈ alg.leaves (get? "instr_mode" d),
      hasKey (update stored d) key = true) (processOf c p alg d) := by
  intro m stored hok key hkey
  apply hasKey_update
  rcases List.mem_append.mp hkey with hhemisphere | hkey
  · split at hhemisphere
    · next halg =>
      subst halg
      obtain rfl := List.mem_singleton.mp hhemisphere
      exact skipOnAreaBounds_hemisphere m stored hok
    · exact absurd hhemisphere List.not_mem_nil
  · right
    have hkeys := processOf_keys c p alg d m stored hok
    have hall := List.all_eq_true.mp (List.mem_filter.mp hkey).2 _ hkeys
    obtain ⟨e, he, heq⟩ := List.mem_map.mp (of_decide_eq_true hall)
    exact ⟨e, he, heq⟩

/-- Only `alg_identify_file` stores the mode. -/
theorem mode_kept {alg : Alg} (h : alg ≠ .identifyFile) : Stores
    (fun stored => get? "instr_mode" (update stored d) = get? "instr_mode" d)
    (processOf c p alg d) := by
  intro m stored hok
  apply get?_update_of_not_mem
  intro e he heq
  have hmem := processOf_writes m stored hok e he
  rw [heq] at hmem
  revert h hmem
  cases alg <;> decide +kernel

end Needs

/-! ## The lists -/

/-- Every algorithm needs only keys that are known to be there. -/
def allAvailable (mode : Option Value) : List String → List Alg → Bool
  | _, [] => true
  | known, alg :: rest =>
      decide (∀ key ∈ alg.needs, key ∈ known) &&
        allAvailable mode (known ++ alg.leaves mode) rest

section Lists

variable {c : CryotempoChain} {setUp : AlgSetUp} {cfg : ChainConfig} {filenum : Nat}

/-- A run leaves what its algorithms leave. -/
theorem needs_of_allAvailable {mode : Option Value} {alg : Alg} {post : List Alg} :
    ∀ {front : List Alg} {known : List String} {d d' : Dict},
      allAvailable mode known (front ++ alg :: post) = true → Alg.identifyFile ∉ front →
      (∀ key ∈ known, hasKey d key = true) → get? "instr_mode" d = mode →
      dictAfter cfg filenum (front.map (algClass c setUp)) d = some d' →
      ∀ key ∈ alg.needs, hasKey d' key = true := by
  intro front
  induction front with
  | nil =>
      intro known d d' hcheck _ hknown _ h key hkey
      obtain rfl := Option.some.inj h
      exact hknown key (of_decide_eq_true (Bool.and_eq_true_iff.mp hcheck).1 key hkey)
  | cons first front ih =>
      intro known d d' hcheck hnot hknown hmode h
      obtain ⟨m, stored, hok, hrest⟩ := dictAfter_cons h
      have hfirst : first ≠ .identifyFile := fun heq => hnot (heq ▸ List.mem_cons_self)
      have hrest' : Alg.identifyFile ∉ front := fun hmem => hnot (List.mem_cons_of_mem _ hmem)
      refine ih (Bool.and_eq_true_iff.mp hcheck).2 hrest' ?_ ?_ hrest
      · intro key hkey
        rcases List.mem_append.mp hkey with hkey | hkey
        · exact hasKey_update (.inl (hknown key hkey))
        · rw [← hmode] at hkey
          exact processOf_leaves c _ first d m stored hok key hkey
      · exact (mode_kept hfirst m stored hok).trans hmode

/-- The keys after `alg_identify_file`. -/
def identifiedKeys : List String := ["l1b_file_name", "num_20hz_records", "instr_mode"]

theorem lists_available : ∀ algs ∈ [cryotempoB001, cryotempoC001, cryotempoD001],
    ∀ mode ∈ [InstrMode.lrm, .sin],
      algs = .identifyFile :: algs.tail ∧ Alg.identifyFile ∉ algs.tail ∧
      allAvailable (some (.text mode.name)) identifiedKeys algs.tail = true := by
  decide +kernel

/-- `alg_identify_file` stores the mode of the product. -/
theorem identifyFile_spec {p : L1bProduct} : Stores (fun stored => stored =
    [("num_20hz_records", .leaf (.pyInt p.lat.length)), ("instr_mode", .text p.file.mode.name)])
    (identifyFile p) := by
  unfold identifyFile
  split
  · exact Stores.failure _
  · next text htext =>
    rw [p.mode_named text htext]
    exact Stores.success rfl

/-- **Every algorithm of the three lists finds the keys it needs**, on every file and
whatever the masks, DEMs, tide files and settings. -/
theorem needs_available {algs front post : List Alg} {alg : Alg}
    (hlist : algs ∈ [cryotempoB001, cryotempoC001, cryotempoD001])
    (hsplit : algs = front ++ alg :: post) {file : String} {d : Dict}
    (hd : dictAfter cfg filenum (front.map (algClass c setUp))
      (.leaf "l1b_file_name" (.str file) .nil) = some d) :
    ∀ key ∈ alg.needs, hasKey d key = true := by
  cases front with
  | nil =>
      have hfirst := (lists_available algs hlist .lrm List.mem_cons_self).1
      rw [hsplit, List.nil_append, List.cons_eq_cons] at hfirst
      rw [hfirst.1]
      exact fun key hkey => absurd hkey List.not_mem_nil
  | cons first front =>
      obtain ⟨m, stored, hok, hrest⟩ := dictAfter_cons hd
      have hmode : (c.products filenum).file.mode ∈ [InstrMode.lrm, .sin] := by
        cases (c.products filenum).file.mode <;> decide
      obtain ⟨hcons, hnot, hcheck⟩ := lists_available algs hlist _ hmode
      rw [hsplit, List.cons_append, List.tail_cons, List.cons_eq_cons] at hcons
      rw [hsplit, List.cons_append, List.tail_cons] at hnot hcheck
      have hfirst := hcons.1
      subst hfirst
      rw [processOf] at hok
      obtain rfl := identifyFile_spec m stored hok
      refine needs_of_allAvailable hcheck (fun hmem => hnot (List.mem_append_left _ hmem)) ?_ ?_
        hrest
      · intro key hkey
        simp only [identifiedKeys, List.mem_cons, List.not_mem_nil, or_false] at hkey
        rcases hkey with rfl | rfl | rfl
        · exact hasKey_update (.inl rfl)
        · exact hasKey_update (.inr ⟨_, List.mem_cons_self, rfl⟩)
        · exact hasKey_update (.inr ⟨_, List.mem_cons_of_mem _ List.mem_cons_self, rfl⟩)
      · simp [update, get?_setItem]

/-- `alg_retrack` on the track over the South Pole. -/
theorem needs_available_retrack : Alg.retrack.needs.all (hasKey poleSelected) = true := by
  have hlist : cryotempoD001 ∈ [cryotempoB001, cryotempoC001, cryotempoD001] := by simp
  have hsplit : cryotempoD001 = beforeLrmGeolocation.take 9 ++
      .retrack :: (cryotempoD001.drop 10) := rfl
  exact List.all_eq_true.mpr (needs_available hlist hsplit poleSelected_run)

end Lists

end Clev2er.Cryotempo
