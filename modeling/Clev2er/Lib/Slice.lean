import Mathlib.Algebra.BigOperators.Group.List.Basic
import Mathlib.Algebra.BigOperators.Intervals
import Mathlib.Algebra.Order.Ring.Rat

/-!
# Slices of an array and their sums

`slice xs a b` is Python's `xs[a:b]`. The sum of a slice is the sum over the
interval `[a, b)` of indices (`sum_slice`), with the entries past the end of the
array counting as zero, so windows that slide, split and shrink are handled by
Mathlib's lemmas for sums over intervals.
-/

namespace Clev2er.Lib

/-- `xs[a:b]`, for `0 ≤ a` and `0 ≤ b`. -/
def slice {α : Type} (xs : List α) (a b : Nat) : List α := (xs.take b).drop a

theorem length_slice {α : Type} {xs : List α} {a b : Nat} (hb : b ≤ xs.length) :
    (slice xs a b).length = b - a := by
  simp [slice, Nat.min_eq_left hb]

theorem getElem?_slice {α : Type} (xs : List α) (a b j : Nat) :
    (slice xs a b)[j]? = if a + j < b then xs[a + j]? else none := by
  rw [slice, List.getElem?_drop, List.getElem?_take]

theorem slice_map {α β : Type} (f : α → β) (xs : List α) (a b : Nat) :
    slice (xs.map f) a b = (slice xs a b).map f := by
  unfold slice
  rw [← List.map_take, ← List.map_drop]

/-- Two arrays sliced alike are combined entry by entry. -/
theorem mem_zipWith_slice {α β γ : Type} {f : α → β → γ} {xs : List α} {ys : List β} {a b : Nat}
    {p : γ} :
    p ∈ List.zipWith f (slice xs a b) (slice ys a b) ↔
      ∃ k x y, a ≤ k ∧ k < b ∧ xs[k]? = some x ∧ ys[k]? = some y ∧ p = f x y := by
  rw [List.mem_iff_getElem?]
  constructor
  · rintro ⟨j, hj⟩
    rw [List.getElem?_zipWith, getElem?_slice, getElem?_slice] at hj
    by_cases hlt : a + j < b
    · rw [if_pos hlt, if_pos hlt] at hj
      rcases hx : xs[a + j]? with _ | x
      · simp [hx] at hj
      · rcases hy : ys[a + j]? with _ | y
        · simp [hx, hy] at hj
        · rw [hx, hy] at hj
          exact ⟨a + j, x, y, Nat.le_add_right a j, hlt, hx, hy, (Option.some.inj hj).symm⟩
    · simp [if_neg hlt] at hj
  · rintro ⟨k, x, y, hak, hkb, hx, hy, rfl⟩
    refine ⟨k - a, ?_⟩
    rw [List.getElem?_zipWith, getElem?_slice, getElem?_slice, Nat.add_sub_cancel' hak,
      if_pos hkb, if_pos hkb, hx, hy]

section Sums

variable {K : Type} [AddCommMonoid K]

/-- The sum of the entries with index in `[a, b)`. -/
def windowSum (xs : List K) (a b : Nat) : K := ∑ i ∈ Finset.Ico a b, xs.getD i 0

theorem sum_take (xs : List K) (b : Nat) : (xs.take b).sum = windowSum xs 0 b := by
  unfold windowSum
  induction b with
  | zero => simp
  | succ b ih =>
      rw [Finset.sum_Ico_succ_top (Nat.zero_le b), ← ih, List.take_add_one, List.sum_append]
      congr 1
      rw [List.getD_eq_getElem?_getD]
      cases xs[b]? <;> simp

theorem windowSum_consecutive (xs : List K) {a b c : Nat} (hab : a ≤ b) (hbc : b ≤ c) :
    windowSum xs a b + windowSum xs b c = windowSum xs a c :=
  Finset.sum_Ico_consecutive _ hab hbc

theorem windowSum_succ_top (xs : List K) {a b : Nat} (hab : a ≤ b) :
    windowSum xs a (b + 1) = windowSum xs a b + xs.getD b 0 :=
  Finset.sum_Ico_succ_top hab _

theorem windowSum_succ_bot (xs : List K) {a b : Nat} (hab : a < b) :
    windowSum xs a b = xs.getD a 0 + windowSum xs (a + 1) b :=
  Finset.sum_eq_sum_Ico_succ_bot hab _

end Sums

theorem sum_slice {K : Type} [AddCommGroup K] (xs : List K) {a b : Nat} (hab : a ≤ b) :
    (slice xs a b).sum = windowSum xs a b := by
  have htake : (xs.take b).take a = xs.take a := by
    rw [List.take_take, Nat.min_eq_left hab]
  have hsplit : ((xs.take b).take a).sum + (slice xs a b).sum = (xs.take b).sum := by
    rw [← List.sum_append]
    unfold slice
    rw [List.take_append_drop]
  rw [htake, sum_take, sum_take, ← windowSum_consecutive xs (Nat.zero_le a) hab] at hsplit
  exact add_left_cancel hsplit

end Clev2er.Lib
