import Clev2er.Lib.GridAxis
import Clev2er.Lib.WithNan

/-!
# Two ways to bin a value

The nodes of an axis as the edges of bins. `binIndex` digitizes a value and clips the
result, which gives bins closed on the left, and the last closed on both sides.
`cutBin` gives bins closed on the right, and the first closed on both sides. Between
the first edge and the last they differ at the edges in between, and nowhere else.
-/

namespace Clev2er.Lib.Axis

variable {α : Type} [LinearOrder α]

/-- `np.digitize(v, bins)`: the number of edges up to the value. NaN comes after every
edge. -/
def digitize (a : Axis α) : WithNan α → Nat
  | .num v => firstIndex a.length fun i => decide (v < a.node i)
  | .nan => a.length

/-- `np.clip(np.digitize(v, bins) - 1, 0, len(bins) - 2)`. -/
def binIndex (a : Axis α) (v : WithNan α) : Nat := min (a.digitize v - 1) (a.length - 2)

/-- The bin of `pd.cut(v, bins, include_lowest=True)`, where there is one. -/
def cutBin (a : Axis α) : WithNan α → Option Nat
  | .nan => none
  | .num v =>
      let ids := if v = a.node 0 then 1 else a.searchsorted v
      if ids = 0 ∨ ids = a.length then none else some (ids - 1)

/-- The labels `bins[:-1]`: each bin has the label of its left edge. -/
def labels (a : Axis α) : List α := (List.range (a.length - 1)).map a.node

/-- An edge between two bins. -/
def IsInteriorEdge (a : Axis α) (v : α) : Prop :=
  ∃ i, 0 < i ∧ i + 1 < a.length ∧ v = a.node i

variable {a : Axis α} {v : α}

theorem binIndex_num (v : α) : a.binIndex (.num v) = a.cellIndex v := rfl

theorem binIndex_lt (hlen : 2 ≤ a.length) (v : WithNan α) : a.binIndex v + 1 < a.length := by
  unfold binIndex
  omega

/-- A value in `(bins[k], bins[k + 1]]` is in bin `k`, and the first edge in the first. -/
theorem cutBin_of_mem {k : Nat} (hk : k + 1 < a.length)
    (hlow : a.node k < v ∨ k = 0 ∧ v = a.node 0) (hhigh : v ≤ a.node (k + 1)) :
    a.cutBin (.num v) = some k := by
  have hids : (if v = a.node 0 then 1 else a.searchsorted v) = k + 1 := by
    rcases hlow with hlow | ⟨rfl, rfl⟩
    · have hne : v ≠ a.node 0 :=
        ne_of_gt (lt_of_le_of_lt (node_le (Nat.zero_le k) (by omega)) hlow)
      rw [if_neg hne, searchsorted]
      have hle : firstIndex a.length (fun i => decide (v ≤ a.node i)) ≤ k + 1 := by
        by_contra hgt
        exact of_decide_eq_false (not_of_lt_firstIndex (not_le.mp hgt)) hhigh
      have hge : k < firstIndex a.length (fun i => decide (v ≤ a.node i)) := by
        by_contra hlt
        have hspec := of_decide_eq_true (firstIndex_spec (n := a.length)
          (p := fun i => decide (v ≤ a.node i)) (by omega))
        exact absurd (hspec.trans (node_le (not_lt.mp hlt) (by omega))) (not_le_of_gt hlow)
      omega
    · exact if_pos rfl
  rw [cutBin]
  simp only [hids]
  rw [if_neg (by omega), Nat.add_sub_cancel]

/-- At an edge between two bins, `cutBin` gives the bin before and `binIndex` the bin
after. -/
theorem bins_of_interiorEdge {i : Nat} (hi : 0 < i) (hlt : i + 1 < a.length) :
    a.cutBin (.num (a.node i)) = some (i - 1) ∧ a.binIndex (.num (a.node i)) = i := by
  constructor
  · refine cutBin_of_mem (by omega) (.inl (a.ascending _ _ (by omega) (by omega))) (le_of_eq ?_)
    rw [Nat.sub_add_cancel hi]
  · have hin : a.inside (a.node i) = true :=
      inside_iff.mpr ⟨by omega, node_le (Nat.zero_le i) (by omega), node_le (by omega) (by omega)⟩
    exact (isCell_cellIndex (by omega) hin).unique
      ⟨hlt, le_refl _, .inl (a.ascending _ _ (Nat.lt_succ_self i) hlt)⟩

/-- **The two ways agree away from the edges between bins**, and only there. -/
theorem cutBin_eq_binIndex_iff (hlen : 2 ≤ a.length) (hin : a.inside v = true) :
    a.cutBin (.num v) = some (a.binIndex (.num v)) ↔ ¬ a.IsInteriorEdge v := by
  constructor
  · rintro heq ⟨i, hi, hlt, rfl⟩
    obtain ⟨hcut, hbin⟩ := bins_of_interiorEdge hi hlt
    rw [hcut, hbin] at heq
    have := Option.some.inj heq
    omega
  · intro hedge
    obtain ⟨hk, hlow, hhigh⟩ := isCell_cellIndex hlen hin
    rw [binIndex_num]
    refine cutBin_of_mem hk ?_ ?_
    · rcases lt_or_eq_of_le hlow with hlt | heq
      · exact .inl hlt
      · rcases Nat.eq_zero_or_pos (a.cellIndex v) with hzero | hpos
        · exact .inr ⟨hzero, by rw [← heq, hzero]⟩
        · exact absurd ⟨_, hpos, hk, heq.symm⟩ hedge
    · rcases hhigh with hlt | hlast
      · exact le_of_lt hlt
      · -- the last bin ends at the last edge
        rw [show a.cellIndex v + 1 = a.length - 1 by omega]
        exact (inside_iff.mp hin).2.2

end Clev2er.Lib.Axis
