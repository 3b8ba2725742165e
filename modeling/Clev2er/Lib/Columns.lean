import Clev2er.Lib.IndexArray

/-!
# Columns of records

Arrays of one length are the columns of a list of records. Each step that takes the
elements of every column at the indices where a condition holds is a filter of the
records (`gather_trueIndices`).
-/

namespace Clev2er.Lib

variable {α β γ ρ : Type}

/-- `xs[indices]`. -/
def gather (d : α) (xs : List α) (indices : List Nat) : List α :=
  indices.map fun i => xs.getD i d

/-- `np.flatnonzero(flags)`. -/
def trueIndices (flags : List Bool) : List Nat := positionsWhere id flags

/-- `a & b`. -/
def both (a b : List Bool) : List Bool := List.zipWith (· && ·) a b

/-! ## Columns -/

/-- Three arrays of one length. -/
theorem exists_records {xs : List α} {ys : List β} {zs : List γ} (hxs : xs.length = zs.length)
    (hys : ys.length = zs.length) :
    ∃ rs : List (α × β × γ), rs = xs.zip (ys.zip zs) ∧ xs = rs.map (fun r => r.1) ∧
      ys = rs.map (fun r => r.2.1) ∧ zs = rs.map (fun r => r.2.2) := by
  have hzip : (ys.zip zs).length = zs.length := by
    rw [List.length_zip, hys, Nat.min_self]
  refine ⟨_, rfl, ?_, ?_, ?_⟩
  · exact (List.map_fst_zip (by rw [hzip, hxs])).symm
  · rw [show (fun r : α × β × γ => r.2.1) = Prod.fst ∘ Prod.snd from rfl, ← List.map_map,
      List.map_snd_zip (by rw [hzip, hxs]), List.map_fst_zip hys.le]
  · rw [show (fun r : α × β × γ => r.2.2) = Prod.snd ∘ Prod.snd from rfl, ← List.map_map,
      List.map_snd_zip (by rw [hzip, hxs]), List.map_snd_zip hys.ge]

@[simp] theorem both_map (p q : ρ → Bool) (rs : List ρ) :
    both (rs.map p) (rs.map q) = rs.map fun r => p r && q r := by
  rw [both, List.zipWith_map, List.zipWith_self]

/-! ## Selections -/

theorem trueIndices_cons (b : Bool) (bs : List Bool) :
    trueIndices (b :: bs) = (if b then [0] else []) ++ (trueIndices bs).map Nat.succ := by
  have htail : (List.map Nat.succ (List.range bs.length)).filter
      (fun i => ((b :: bs)[i]?).any id) =
      (List.filter (fun i => (bs[i]?).any id) (List.range bs.length)).map Nat.succ := by
    rw [List.filter_map]
    rfl
  rw [trueIndices, positionsWhere, List.length_cons, List.range_succ_eq_map, List.filter_cons,
    htail]
  cases b <;> rfl

/-- **A selection of a column** is the column of the filtered records. -/
theorem gather_trueIndices (d : α) (f : ρ → α) (p : ρ → Bool) (rs : List ρ) :
    gather d (rs.map f) (trueIndices (rs.map p)) = (rs.filter p).map f := by
  induction rs with
  | nil => rfl
  | cons r rs ih =>
      have htail : gather d ((r :: rs).map f) ((trueIndices (rs.map p)).map Nat.succ) =
          (rs.filter p).map f := by
        rw [← ih, gather, gather, List.map_map]
        rfl
      rw [gather] at htail
      rw [List.map_cons (f := p), trueIndices_cons, gather, List.map_append, htail,
        List.filter_cons]
      cases p r <;> rfl

theorem length_trueIndices (p : ρ → Bool) (rs : List ρ) :
    (trueIndices (rs.map p)).length = (rs.filter p).length := by
  have h := congrArg List.length (gather_trueIndices true p p rs)
  rwa [gather, List.length_map, List.length_map] at h

/-- All elements. -/
theorem gather_range (d : α) (xs : List α) : gather d xs (List.range xs.length) = xs := by
  apply List.ext_getElem
  · simp [gather]
  · intro i _ hi
    simp [gather, List.getElem?_eq_getElem hi]

/-- The indices take the records `rs'` out of every column of the records `rs`. -/
def Selects (indices : List Nat) (rs rs' : List ρ) : Prop :=
  ∀ {α : Type} (d : α) (f : ρ → α), gather d (rs.map f) indices = rs'.map f

theorem selects_trueIndices (p : ρ → Bool) (rs : List ρ) :
    Selects (trueIndices (rs.map p)) rs (rs.filter p) :=
  fun d f => gather_trueIndices d f p rs

theorem selects_range (rs : List ρ) : Selects (List.range rs.length) rs rs := by
  intro α d f
  have h := gather_range d (rs.map f)
  rwa [List.length_map] at h

theorem selects_nil (rs : List ρ) : Selects [] rs [] := fun _ _ => rfl

end Clev2er.Lib
