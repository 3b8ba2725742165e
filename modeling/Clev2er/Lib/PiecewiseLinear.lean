import Mathlib.Algebra.Order.Field.Basic
import Mathlib.Tactic.Linarith
import Mathlib.Tactic.Ring
import Mathlib.Topology.Algebra.Order.Field

/-!
# Piecewise linear functions

The polyline through the points `(x k, y k)`, constant before the first node and
after the last. It is built piece by piece: each piece adds its rise as the argument
passes from one node to the next.
-/

namespace Clev2er.Lib

/-! ## Nodes -/

section Nodes

variable {α : Type} [LinearOrder α] {x : ℕ → α} {n : ℕ}

/-- The first `n` steps between nodes go up. -/
def Ascending (x : ℕ → α) (n : ℕ) : Prop := ∀ k < n, x k < x (k + 1)

theorem Ascending.le (h : Ascending x n) {i j : ℕ} (hij : i ≤ j) (hj : j ≤ n) : x i ≤ x j := by
  induction j, hij using Nat.le_induction with
  | base => exact le_refl _
  | succ j hij ih => exact (ih (by omega)).trans (h j (by omega)).le

/-- Every argument from the first node to the last lies between two nodes. -/
theorem exists_piece {s : α} (hn : 0 < n) (hlow : x 0 ≤ s) (hhigh : s ≤ x n) :
    ∃ k < n, x k ≤ s ∧ s ≤ x (k + 1) := by
  induction n with
  | zero => exact absurd hn (lt_irrefl 0)
  | succ n ih =>
      rcases le_total (x n) s with hs | hs
      · exact ⟨n, Nat.lt_succ_self n, hs, hhigh⟩
      · rcases Nat.eq_zero_or_pos n with rfl | hpos
        · exact ⟨0, Nat.one_pos, hlow, hhigh⟩
        · obtain ⟨k, hk, hpiece⟩ := ih hpos hs
          exact ⟨k, Nat.lt_succ_of_lt hk, hpiece⟩

end Nodes

variable {K : Type} [Field K] [LinearOrder K]

/-! ## One piece -/

/-- The share of a unit step that is done at `t`. -/
def ramp (t : K) : K := max 0 (min 1 t)

/-- The share of the way from node `k` to the next. -/
def progress (x : ℕ → K) (k : ℕ) (s : K) : K := (s - x k) / (x (k + 1) - x k)

/-- The straight line through the nodes `k` and `k + 1`. -/
def lineThrough (x y : ℕ → K) (k : ℕ) (s : K) : K := y k + (y (k + 1) - y k) * progress x k s

section Piece

variable {x y : ℕ → K} {k : ℕ} {s t : K}

theorem ramp_of_nonpos (h : t ≤ 0) : ramp t = 0 :=
  max_eq_left ((min_le_right 1 t).trans h)

theorem ramp_of_mem (h0 : 0 ≤ t) (h1 : t ≤ 1) : ramp t = t := by
  rw [ramp, min_eq_right h1, max_eq_right h0]

theorem monotone_ramp : Monotone (ramp : K → K) :=
  fun _ _ h => max_le_max_left 0 (min_le_min_left 1 h)

variable [IsStrictOrderedRing K]

theorem ramp_of_one_le (h : 1 ≤ t) : ramp t = 1 := by
  rw [ramp, min_eq_left h, max_eq_right zero_le_one]

theorem monotone_progress (h : x k < x (k + 1)) : Monotone (progress x k) :=
  fun _ _ hst => div_le_div_of_nonneg_right (sub_le_sub_right hst _) (sub_pos.mpr h).le

theorem progress_nonpos (h : x k < x (k + 1)) (hs : s ≤ x k) : progress x k s ≤ 0 :=
  div_nonpos_of_nonpos_of_nonneg (sub_nonpos.mpr hs) (sub_pos.mpr h).le

theorem progress_nonneg (h : x k < x (k + 1)) (hs : x k ≤ s) : 0 ≤ progress x k s :=
  div_nonneg (sub_nonneg.mpr hs) (sub_pos.mpr h).le

theorem progress_le_one (h : x k < x (k + 1)) (hs : s ≤ x (k + 1)) : progress x k s ≤ 1 := by
  rw [progress, div_le_one (sub_pos.mpr h)]
  exact sub_le_sub_right hs _

theorem one_le_progress (h : x k < x (k + 1)) (hs : x (k + 1) ≤ s) : 1 ≤ progress x k s := by
  rw [progress, one_le_div (sub_pos.mpr h)]
  exact sub_le_sub_right hs _

/-- Between two nodes the line lies between their values. -/
theorem lineThrough_mem (h : x k < x (k + 1)) (hlow : x k ≤ s) (hhigh : s ≤ x (k + 1)) :
    min (y k) (y (k + 1)) ≤ lineThrough x y k s ∧ lineThrough x y k s ≤ max (y k) (y (k + 1)) := by
  have h0 := progress_nonneg h hlow
  have h1 := progress_le_one h hhigh
  unfold lineThrough
  generalize progress x k s = t at h0 h1 ⊢
  rcases le_total (y k) (y (k + 1)) with hy | hy
  · rw [min_eq_left hy, max_eq_right hy]
    constructor
    · have hrise : 0 ≤ (y (k + 1) - y k) * t := mul_nonneg (sub_nonneg.mpr hy) h0
      linarith
    · have hrise : (y (k + 1) - y k) * t ≤ (y (k + 1) - y k) * 1 :=
        mul_le_mul_of_nonneg_left h1 (sub_nonneg.mpr hy)
      linarith
  · rw [min_eq_right hy, max_eq_left hy]
    constructor
    · have hfall : (y (k + 1) - y k) * 1 ≤ (y (k + 1) - y k) * t :=
        mul_le_mul_of_nonpos_left h1 (sub_nonpos.mpr hy)
      linarith
    · have hfall : (y (k + 1) - y k) * t ≤ 0 :=
        mul_nonpos_of_nonpos_of_nonneg (sub_nonpos.mpr hy) h0
      linarith

end Piece

/-! ## The polyline -/

/-- The polyline through the nodes `0` to `n`. -/
def polyline (x y : ℕ → K) : ℕ → K → K
  | 0, _ => y 0
  | n + 1, s => polyline x y n s + (y (n + 1) - y n) * ramp (progress x n s)

variable [IsStrictOrderedRing K] {x y : ℕ → K} {n : ℕ}

/-- Behind its last node the polyline is constant. -/
theorem polyline_of_le (h : Ascending x n) {s : K} (hs : x n ≤ s) : polyline x y n s = y n := by
  induction n with
  | zero => rfl
  | succ n ih =>
      have hlast : x n < x (n + 1) := h n (Nat.lt_succ_self n)
      rw [polyline, ih (fun k hk => h k (Nat.lt_succ_of_lt hk)) (hlast.le.trans hs),
        ramp_of_one_le (one_le_progress hlast hs), mul_one, add_sub_cancel]

/-- The pieces behind the argument do not matter. -/
theorem polyline_of_ge (h : Ascending x n) {j m : ℕ} {s : K} (hjm : j ≤ m) (hm : m ≤ n)
    (hs : s ≤ x j) : polyline x y m s = polyline x y j s := by
  induction m, hjm using Nat.le_induction with
  | base => rfl
  | succ m hjm ih =>
      have hbefore : s ≤ x m := hs.trans (h.le hjm (by omega))
      rw [polyline, ih (by omega), ramp_of_nonpos (progress_nonpos (h m (by omega)) hbefore),
        mul_zero, add_zero]

theorem polyline_of_le_first (h : Ascending x n) {s : K} (hs : s ≤ x 0) :
    polyline x y n s = y 0 :=
  polyline_of_ge h (Nat.zero_le n) (le_refl n) hs

/-- **Between two nodes the polyline is the line through them.** -/
theorem polyline_eq_lineThrough (h : Ascending x n) {k : ℕ} (hk : k < n) {s : K}
    (hlow : x k ≤ s) (hhigh : s ≤ x (k + 1)) : polyline x y n s = lineThrough x y k s := by
  have hbefore : polyline x y k s = y k :=
    polyline_of_le (fun i hi => h i (hi.trans hk)) hlow
  rw [polyline_of_ge h hk (le_refl n) hhigh, polyline, hbefore,
    ramp_of_mem (progress_nonneg (h k hk) hlow) (progress_le_one (h k hk) hhigh), lineThrough]

/-- A polyline through values that do not fall does not fall. -/
theorem monotone_polyline (h : Ascending x n) (hy : ∀ k < n, y k ≤ y (k + 1)) :
    Monotone (polyline x y n) := by
  induction n with
  | zero => exact monotone_const
  | succ n ih =>
      have hbefore := ih (fun k hk => h k (Nat.lt_succ_of_lt hk))
        fun k hk => hy k (Nat.lt_succ_of_lt hk)
      intro s t hst
      have hramp : ramp (progress x n s) ≤ ramp (progress x n t) :=
        monotone_ramp (monotone_progress (h n (Nat.lt_succ_self n)) hst)
      exact add_le_add (hbefore hst)
        (mul_le_mul_of_nonneg_left hramp (sub_nonneg.mpr (hy n (Nat.lt_succ_self n))))

/-- The pieces meet at the nodes. -/
theorem continuous_polyline [TopologicalSpace K] [OrderTopology K] :
    Continuous (polyline x y n) := by
  induction n with
  | zero => exact continuous_const
  | succ n ih =>
      have hprogress : Continuous (progress x n) :=
        (continuous_id.sub continuous_const).div_const _
      have hramp : Continuous fun s => ramp (progress x n s) :=
        continuous_const.max (continuous_const.min hprogress)
      exact ih.add (continuous_const.mul hramp)

end Clev2er.Lib
