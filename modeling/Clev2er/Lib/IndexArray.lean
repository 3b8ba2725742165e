import Clev2er.Lib.ForEach
import Mathlib.Data.List.Perm.Lattice
import Mathlib.Data.List.Range

/-!
# Index arrays

`xs[indices] = v` writes one value at the positions of an index array,
`xs[indices] = values` one value at each, and the arrays
`np.where(classes == c)[0]` of all classes `c` split the positions among them.
-/

namespace Clev2er.Lib

variable {α : Type}

/-- `xs[indices] = v`. -/
def assignAt (indices : List Nat) (v : α) (xs : List α) : List α :=
  indices.foldl (fun xs i => xs.set i v) xs

@[simp] theorem length_assignAt (indices : List Nat) (v : α) (xs : List α) :
    (assignAt indices v xs).length = xs.length := by
  unfold assignAt
  induction indices generalizing xs with
  | nil => rfl
  | cons i indices ih => rw [List.foldl_cons, ih, List.length_set]

/-- `xs[indices] = values`. -/
def assignEach (indices : List Nat) (values : List α) (xs : List α) : List α :=
  (indices.zip values).foldl (fun xs entry => xs.set entry.1 entry.2) xs

/-- Values that depend on the position are written like one value. -/
theorem getD_assignEach {indices : List Nat} {xs : List α} {j : Nat} (hj : j < xs.length)
    (g : Nat → α) (d : α) : (assignEach indices (indices.map g) xs).getD j d =
      if j ∈ indices then g j else xs.getD j d := by
  unfold assignEach
  induction indices generalizing xs with
  | nil => rfl
  | cons i indices ih =>
      rw [List.map_cons, List.zip_cons_cons, List.foldl_cons, ih (by rwa [List.length_set]),
        getD_set]
      by_cases hmem : j ∈ indices
      · rw [if_pos hmem, if_pos (List.mem_cons_of_mem _ hmem)]
      · rw [if_neg hmem]
        by_cases hij : i = j
        · subst hij
          rw [if_pos ⟨rfl, hj⟩, if_pos (List.mem_cons_self ..)]
        · rw [if_neg fun h => hij h.1, if_neg]
          exact fun h => (List.mem_cons.mp h).elim (fun heq => hij heq.symm) hmem

@[simp] theorem length_assignEach (indices : List Nat) (values xs : List α) :
    (assignEach indices values xs).length = xs.length := by
  unfold assignEach
  induction indices.zip values generalizing xs with
  | nil => rfl
  | cons entry entries ih => rw [List.foldl_cons, ih, List.length_set]

theorem assignAt_eq_assignEach (indices : List Nat) (v : α) (xs : List α) :
    assignAt indices v xs = assignEach indices (indices.map fun _ => v) xs := by
  unfold assignAt assignEach
  induction indices generalizing xs with
  | nil => rfl
  | cons i indices ih =>
      rw [List.foldl_cons, ih, List.map_cons, List.zip_cons_cons, List.foldl_cons]

theorem getD_assignAt {indices : List Nat} {xs : List α} {j : Nat} (hj : j < xs.length) (v d : α) :
    (assignAt indices v xs).getD j d = if j ∈ indices then v else xs.getD j d := by
  rw [assignAt_eq_assignEach, getD_assignEach hj]

/-- `np.where(p(xs))[0]`. -/
def positionsWhere (p : α → Bool) (xs : List α) : List Nat :=
  (List.range xs.length).filter fun i => xs[i]?.any p

theorem mem_positionsWhere {p : α → Bool} {xs : List α} {i : Nat} {d : α} (hi : i < xs.length) :
    i ∈ positionsWhere p xs ↔ p (xs.getD i d) = true := by
  rw [positionsWhere, List.mem_filter, List.mem_range, and_iff_right hi,
    List.getElem?_eq_getElem hi, List.getD_eq_getElem _ _ hi]
  rfl

/-- The positions of one class. -/
def classPositions (classOf : Nat → Nat) (n c : Nat) : List Nat :=
  (List.range n).filter (classOf · = c)

theorem mem_classPositions {classOf : Nat → Nat} {n c i : Nat} :
    i ∈ classPositions classOf n c ↔ i < n ∧ classOf i = c := by
  simp [classPositions]

/-- **The classes split the positions**: each position is in the array of one class. -/
theorem classPositions_perm {classOf : Nat → Nat} {n k : Nat} (h : ∀ i < n, classOf i < k) :
    ((List.range k).flatMap (classPositions classOf n)).Perm (List.range n) := by
  rw [List.perm_ext_iff_of_nodup ?_ List.nodup_range]
  · intro i
    simp only [List.mem_flatMap, List.mem_range, mem_classPositions]
    constructor
    · rintro ⟨c, -, hi, -⟩
      exact hi
    · exact fun hi => ⟨classOf i, h i hi, hi, rfl⟩
  · rw [List.nodup_flatMap]
    refine ⟨fun c _ => List.nodup_range.filter _, ?_⟩
    refine List.Pairwise.imp ?_ List.nodup_range
    intro c c' hne i hc hc'
    exact hne ((mem_classPositions.mp hc).2.symm.trans (mem_classPositions.mp hc').2)

end Clev2er.Lib
