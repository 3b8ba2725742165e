import Mathlib.Order.Basic
import Mathlib.Order.Lattice
import Mathlib.Order.Defs.LinearOrder

/-!
# The axis of an interpolation grid, and cutting a piece out of it

An axis is a strictly ascending array of nodes. A value inside it lies in one
cell: the last one that starts at or below it (`cellIndex`). `Axis.cut` is the
piece of an axis between two query values, widened by one node on both sides and
clamped to the axis.

The main result is `cut_inside_iff` and `cut_cellIndex`: for a value between the
two, the piece has it inside exactly when the axis has, and in the same cell.
-/

namespace Clev2er.Lib

variable {α : Type} [LinearOrder α]

/-! ## First index -/

/-- The first index below `n` with `p`, or `n`. -/
def firstIndex (n : Nat) (p : Nat → Bool) : Nat := (List.range n).findIdx p

theorem firstIndex_le (n : Nat) (p : Nat → Bool) : firstIndex n p ≤ n := by
  have h : (List.range n).findIdx p ≤ (List.range n).length := List.findIdx_le_length
  rwa [List.length_range] at h

theorem firstIndex_spec {n : Nat} {p : Nat → Bool} (h : firstIndex n p < n) :
    p (firstIndex n p) = true := by
  have hlen : (List.range n).findIdx p < (List.range n).length := by
    rw [List.length_range]
    exact h
  have hp := List.findIdx_getElem (w := hlen)
  rwa [List.getElem_range] at hp

theorem not_of_lt_firstIndex {n i : Nat} {p : Nat → Bool} (h : i < firstIndex n p) :
    p i = false := by
  have hp := List.not_of_lt_findIdx h
  rwa [List.getElem_range] at hp

/-! ## Axes -/

/-- A strictly ascending array of nodes. -/
structure Axis (α : Type) [LinearOrder α] where
  length : Nat
  node : Nat → α
  ascending : ∀ i j, i < j → j < length → node i < node j

namespace Axis

variable (a : Axis α)

/-- `np.searchsorted(a, v)`: the first node not below `v`. -/
def searchsorted (v : α) : Nat := firstIndex a.length fun i => decide (v ≤ a.node i)

/-- `a[lo : hi + 1]`. -/
def slice (lo hi : Nat) (h : hi < a.length) : Axis α where
  length := hi + 1 - lo
  node i := a.node (lo + i)
  ascending i j hij hj := a.ascending (lo + i) (lo + j) (by omega) (by omega)

/-- Between the first node and the last. -/
def inside (v : α) : Bool :=
  decide (0 < a.length) && decide (a.node 0 ≤ v) && decide (v ≤ a.node (a.length - 1))

/-- The cell of a value: the last one that starts at or below it. -/
def cellIndex (v : α) : Nat :=
  min ((firstIndex a.length fun i => decide (v < a.node i)) - 1) (a.length - 2)

/-- `k` is the cell of `v`: it starts at or below `v` and ends above, or is the
last one. -/
def IsCell (v : α) (k : Nat) : Prop :=
  k + 1 < a.length ∧ a.node k ≤ v ∧ (v < a.node (k + 1) ∨ k + 2 = a.length)

variable {a}

theorem node_le {i j : Nat} (hij : i ≤ j) (hj : j < a.length) : a.node i ≤ a.node j := by
  rcases Nat.lt_or_eq_of_le hij with hlt | rfl
  · exact le_of_lt (a.ascending i j hlt hj)
  · exact le_refl _

theorem inside_iff {v : α} :
    a.inside v = true ↔ 0 < a.length ∧ a.node 0 ≤ v ∧ v ≤ a.node (a.length - 1) := by
  simp only [inside, Bool.and_eq_true, decide_eq_true_eq]
  exact and_assoc

/-- A value has one cell. -/
theorem IsCell.unique {v : α} {k l : Nat} (hk : a.IsCell v k) (hl : a.IsCell v l) : k = l := by
  obtain ⟨hk1, hk2, hk3⟩ := hk
  obtain ⟨hl1, hl2, hl3⟩ := hl
  rcases Nat.lt_trichotomy k l with hlt | heq | hgt
  · have hle : a.node (k + 1) ≤ v := le_trans (node_le hlt (by omega)) hl2
    rcases hk3 with h | h
    · exact absurd h (not_lt_of_ge hle)
    · omega
  · exact heq
  · have hle : a.node (l + 1) ≤ v := le_trans (node_le hgt (by omega)) hk2
    rcases hl3 with h | h
    · exact absurd h (not_lt_of_ge hle)
    · omega

/-- **`cellIndex` finds the cell** of every value inside an axis of two nodes or
more. -/
theorem isCell_cellIndex (hlen : 2 ≤ a.length) {v : α} (hin : a.inside v = true) :
    a.IsCell v (a.cellIndex v) := by
  obtain ⟨-, hlow, hhigh⟩ := inside_iff.mp hin
  have hle := firstIndex_le a.length fun i => decide (v < a.node i)
  have hbelow : ∀ i, i < firstIndex a.length (fun i => decide (v < a.node i)) → a.node i ≤ v := by
    intro i hi
    exact le_of_not_gt (of_decide_eq_false (not_of_lt_firstIndex hi))
  have habove : firstIndex a.length (fun i => decide (v < a.node i)) < a.length →
      v < a.node (firstIndex a.length fun i => decide (v < a.node i)) := by
    intro h
    exact of_decide_eq_true (firstIndex_spec (p := fun i => decide (v < a.node i)) h)
  unfold cellIndex
  generalize firstIndex a.length (fun i => decide (v < a.node i)) = n at hle hbelow habove ⊢
  have hpos : 0 < n := by
    rcases Nat.eq_zero_or_pos n with h | h
    · rw [h] at habove
      exact absurd hlow (not_le_of_gt (habove (by omega)))
    · exact h
  rcases Nat.lt_or_ge n a.length with hlt | hge
  · rw [Nat.min_eq_left (by omega)]
    refine ⟨by omega, hbelow (n - 1) (by omega), Or.inl ?_⟩
    rw [Nat.sub_add_cancel hpos]
    exact habove hlt
  · -- the value is the last node
    rw [Nat.min_eq_right (by omega)]
    exact ⟨by omega, hbelow (a.length - 2) (by omega), Or.inr (by omega)⟩

/-! ## The piece between two values -/

section Cut

variable {v : α}

/-- The index range that `chunked` code cuts out for values from `low` to
`high`. -/
def cutLow (a : Axis α) (low : α) : Nat := max (a.searchsorted low - 1) 0

def cutHigh (a : Axis α) (high : α) : Nat := min (a.searchsorted high + 1) (a.length - 1)

theorem cutHigh_lt (high : α) (hlen : 2 ≤ a.length) : a.cutHigh high < a.length := by
  unfold cutHigh
  omega

/-- The piece of the axis. -/
def cut (a : Axis α) (low high : α) (hlen : 2 ≤ a.length) : Axis α :=
  a.slice (a.cutLow low) (a.cutHigh high) (cutHigh_lt high hlen)

theorem cutLow_lt (low : α) (hlen : 2 ≤ a.length) : a.cutLow low < a.length := by
  have := firstIndex_le a.length fun i => decide (low ≤ a.node i)
  unfold cutLow searchsorted
  omega

/-- Below the piece lies nothing of interest: it starts at the axis' start, or
strictly below `low`. -/
theorem cutLow_spec (a : Axis α) (low : α) : a.cutLow low = 0 ∨ a.node (a.cutLow low) < low := by
  rcases Nat.eq_zero_or_pos (a.cutLow low) with h | h
  · exact Or.inl h
  · right
    have hlt : a.cutLow low < firstIndex a.length fun i => decide (low ≤ a.node i) := by
      unfold cutLow searchsorted at h ⊢
      omega
    exact lt_of_not_ge (of_decide_eq_false (not_of_lt_firstIndex hlt))

/-- And above it: it ends at the axis' end, or strictly above `high`. -/
theorem cutHigh_spec (a : Axis α) (high : α) : a.cutHigh high + 1 = a.length ∨ high < a.node (a.cutHigh high) ∨
    a.length = 0 := by
  by_cases hend : a.searchsorted high + 1 < a.length - 1
  · right
    left
    have heq : a.cutHigh high = a.searchsorted high + 1 := Nat.min_eq_left (by omega)
    have hle : high ≤ a.node (a.searchsorted high) :=
      of_decide_eq_true (firstIndex_spec (p := fun i => decide (high ≤ a.node i))
        (show a.searchsorted high < a.length by omega))
    rw [heq]
    exact lt_of_le_of_lt hle (a.ascending _ _ (Nat.lt_succ_self _) (by omega))
  · have heq : a.cutHigh high = a.length - 1 := Nat.min_eq_right (by omega)
    rw [heq]
    omega

variable {low high : α}

theorem cut_length (hlen : 2 ≤ a.length) :
    (a.cut low high hlen).length = a.cutHigh high + 1 - a.cutLow low := rfl

theorem cut_node (hlen : 2 ≤ a.length) (i : Nat) :
    (a.cut low high hlen).node i = a.node (a.cutLow low + i) := rfl

/-- The two ends are in order: `low ≤ high` keeps their indices so. -/
theorem cutLow_le_cutHigh (hlen : 2 ≤ a.length) (hle : low ≤ high) :
    a.cutLow low ≤ a.cutHigh high := by
  have hlow := cutLow_lt low hlen
  rcases cutHigh_spec a high with h | h | h
  · omega
  · by_contra hgt
    have hnode : a.node (a.cutHigh high) < a.node (a.cutLow low) :=
      a.ascending _ _ (by omega) hlow
    rcases cutLow_spec a low with h0 | h0
    · omega
    · exact absurd (lt_trans h hnode) (not_lt_of_ge (le_of_lt (lt_of_lt_of_le h0 hle)))
  · omega

/-- **A value between the two is inside the piece exactly when it is inside the
axis.** -/
theorem cut_inside_iff (hlen : 2 ≤ a.length) (hlow : low ≤ v) (hhigh : v ≤ high) :
    (a.cut low high hlen).inside v = true ↔ a.inside v = true := by
  have horder := cutLow_le_cutHigh hlen (le_trans hlow hhigh)
  have hlt := cutHigh_lt high hlen
  rw [inside_iff, inside_iff, cut_length, cut_node, cut_node, Nat.add_zero,
    show a.cutLow low + (a.cutHigh high + 1 - a.cutLow low - 1) = a.cutHigh high by omega]
  constructor
  · rintro ⟨-, h1, h2⟩
    exact ⟨by omega, le_trans (node_le (Nat.zero_le _) (by omega)) h1,
      le_trans h2 (node_le (by omega) (by omega))⟩
  · rintro ⟨-, h1, h2⟩
    refine ⟨by omega, ?_, ?_⟩
    · rcases cutLow_spec a low with h | h
      · rw [h]
        exact h1
      · exact le_of_lt (lt_of_lt_of_le h hlow)
    · rcases cutHigh_spec a high with h | h | h
      · rw [show a.cutHigh high = a.length - 1 by omega]
        exact h2
      · exact le_of_lt (lt_of_le_of_lt hhigh h)
      · omega

/-- The piece around a value inside the axis has two nodes at least. -/
theorem two_le_cut_length (hlen : 2 ≤ a.length) (hlow : low ≤ v) (hhigh : v ≤ high)
    (hin : a.inside v = true) : 2 ≤ (a.cut low high hlen).length := by
  obtain ⟨-, -, hlast⟩ := inside_iff.mp hin
  have horder := cutLow_le_cutHigh hlen (le_trans hlow hhigh)
  rw [cut_length]
  by_contra hone
  have heq : a.cutHigh high = a.cutLow low := by omega
  rcases cutHigh_spec a high with h | h | h
  · -- both at the last node, which then lies below every value
    rcases cutLow_spec a low with h0 | h0
    · omega
    · rw [← heq, show a.cutHigh high = a.length - 1 by omega] at h0
      exact absurd hlast (not_le_of_gt (lt_of_lt_of_le h0 hlow))
  · rcases cutLow_spec a low with h0 | h0
    · -- `cutHigh` is at least one
      have hpos : 0 < a.cutHigh high := by
        unfold cutHigh
        omega
      omega
    · rw [heq] at h
      exact absurd (lt_trans h h0) (not_lt_of_ge (le_trans hlow hhigh))
  · omega

/-- **And it lies in the same cell.** -/
theorem cut_cellIndex (hlen : 2 ≤ a.length) (hlow : low ≤ v) (hhigh : v ≤ high)
    (hin : a.inside v = true) :
    a.cellIndex v = a.cutLow low + (a.cut low high hlen).cellIndex v := by
  have hlt := cutHigh_lt high hlen
  have hcut := two_le_cut_length hlen hlow hhigh hin
  have hcell := isCell_cellIndex hcut ((cut_inside_iff hlen hlow hhigh).mpr hin)
  refine (isCell_cellIndex hlen hin).unique ?_
  obtain ⟨h1, h2, h3⟩ := hcell
  rw [cut_length] at h1 h3
  rw [cut_node] at h2 h3
  refine ⟨by omega, h2, ?_⟩
  rcases h3 with h3 | h3
  · exact Or.inl h3
  · rcases cutHigh_spec a high with h | h | h
    · right
      omega
    · -- the piece ends inside the axis, strictly above the value
      left
      rw [show a.cutLow low + (a.cut low high hlen).cellIndex v + 1 = a.cutHigh high by omega]
      exact lt_of_le_of_lt hhigh h
    · omega

end Cut

end Axis

end Clev2er.Lib
