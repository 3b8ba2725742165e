import Mathlib.Algebra.BigOperators.Group.List.Basic
import Mathlib.Data.List.SplitLengths
import Mathlib.Tactic.Ring

/-!
# Splitting a list into nearly equal sections

`arraySplit k xs` cuts a list into `k` consecutive sections whose lengths differ
by at most one, the longer ones first: numpy's `array_split`. `ceilDiv n m` is
the number of sections a caller asks for who wants none longer than `m`.

Main results: the sections are `xs` cut in order (`arraySplit_flatten`), and
with `ceilDiv xs.length m` of them none is empty and none longer than `m`
(`arraySplit_ceilDiv_ne_nil`, `arraySplit_ceilDiv_length_le`).
-/

namespace Clev2er.Lib

variable {α : Type}

/-- `math.ceil(n / m)`. -/
def ceilDiv (n m : Nat) : Nat := (n + m - 1) / m

/-- The section lengths: `divmod(n, k)`, the first `extras` sections one
longer. -/
def sectionSizes (n k : Nat) : List Nat :=
  List.replicate (n % k) (n / k + 1) ++ List.replicate (k - n % k) (n / k)

/-- `np.array_split(xs, k)`, for `k ≥ 1`. -/
def arraySplit (k : Nat) (xs : List α) : List (List α) :=
  (sectionSizes xs.length k).splitLengths xs

/-! ## The sections -/

theorem length_sectionSizes (n : Nat) {k : Nat} (hk : 0 < k) :
    (sectionSizes n k).length = k := by
  have hlt := Nat.mod_lt n hk
  simp only [sectionSizes, List.length_append, List.length_replicate]
  omega

theorem sum_sectionSizes (n : Nat) {k : Nat} (hk : 0 < k) : (sectionSizes n k).sum = n := by
  have hle : n % k ≤ k := Nat.le_of_lt (Nat.mod_lt n hk)
  have hdiv := Nat.div_add_mod n k
  simp only [sectionSizes, List.sum_append, List.sum_replicate_nat]
  calc n % k * (n / k + 1) + (k - n % k) * (n / k)
      = (n % k + (k - n % k)) * (n / k) + n % k := by ring
    _ = k * (n / k) + n % k := by rw [Nat.add_sub_cancel' hle]
    _ = n := hdiv

/-- **The sections together are the list**, in order. -/
theorem arraySplit_flatten {k : Nat} (hk : 0 < k) (xs : List α) :
    (arraySplit k xs).flatten = xs :=
  List.flatten_splitLengths _ _ (Nat.le_of_eq (sum_sectionSizes xs.length hk).symm)

theorem arraySplit_length {k : Nat} (hk : 0 < k) (xs : List α) :
    (arraySplit k xs).length = k := by
  unfold arraySplit
  rw [List.length_splitLengths, length_sectionSizes xs.length hk]

theorem length_mem_arraySplit {k : Nat} (hk : 0 < k) {xs c : List α}
    (hc : c ∈ arraySplit k xs) : c.length = xs.length / k ∨
      (c.length = xs.length / k + 1 ∧ 0 < xs.length % k) := by
  have hmap : (arraySplit k xs).map List.length = sectionSizes xs.length k :=
    List.map_splitLengths_length _ _ (Nat.le_of_eq (sum_sectionSizes xs.length hk))
  have hmem : c.length ∈ sectionSizes xs.length k := hmap ▸ List.mem_map_of_mem hc
  rcases List.mem_append.mp hmem with h | h
  · obtain ⟨hpos, heq⟩ := List.mem_replicate.mp h
    exact Or.inr ⟨heq, Nat.pos_of_ne_zero hpos⟩
  · exact Or.inl (List.mem_replicate.mp h).2

/-! ## Sections of a bounded length -/

section Bounded

variable {xs : List α} {m : Nat}

theorem ceilDiv_pos (hxs : xs ≠ []) (hm : 0 < m) : 0 < ceilDiv xs.length m := by
  have hlen := List.length_pos_of_ne_nil hxs
  exact Nat.div_pos (by omega) hm

theorem le_ceilDiv_mul (n : Nat) (hm : 0 < m) : n ≤ m * ceilDiv n m := by
  have hdiv := Nat.div_add_mod (n + m - 1) m
  have hlt := Nat.mod_lt (n + m - 1) hm
  unfold ceilDiv
  omega

theorem ceilDiv_le_self (n : Nat) (hm : 0 < m) : ceilDiv n m ≤ n := by
  unfold ceilDiv
  rcases Nat.eq_zero_or_pos n with rfl | hn
  · rw [Nat.div_eq_of_lt (by omega)]
  · rw [Nat.div_le_iff_le_mul hm]
    have hmul : n * 1 ≤ n * m := Nat.mul_le_mul_left n hm
    omega

/-- **No section is empty.** -/
theorem arraySplit_ceilDiv_ne_nil (hxs : xs ≠ []) (hm : 0 < m) {c : List α}
    (hc : c ∈ arraySplit (ceilDiv xs.length m) xs) : c ≠ [] := by
  have hk := ceilDiv_pos hxs hm
  have hone : 1 ≤ xs.length / ceilDiv xs.length m :=
    Nat.div_pos (ceilDiv_le_self xs.length hm) hk
  apply List.ne_nil_of_length_pos
  rcases length_mem_arraySplit hk hc with h | h <;> omega

/-- **No section is longer than `m`.** -/
theorem arraySplit_ceilDiv_length_le (hxs : xs ≠ []) (hm : 0 < m) {c : List α}
    (hc : c ∈ arraySplit (ceilDiv xs.length m) xs) : c.length ≤ m := by
  have hk := ceilDiv_pos hxs hm
  have hmul := le_ceilDiv_mul xs.length hm
  generalize ceilDiv xs.length m = k at hk hmul hc
  have hle : xs.length / k ≤ m := by
    apply Nat.div_le_of_le_mul
    rwa [Nat.mul_comm] at hmul
  rcases length_mem_arraySplit hk hc with h | ⟨h, hmod⟩
  · omega
  · -- a longer section only where the division leaves a rest
    have hlt : xs.length / k < m := by
      apply (Nat.div_lt_iff_lt_mul hk).mpr
      rcases Nat.lt_or_eq_of_le hmul with hlt | heq
      · exact hlt
      · rw [heq, Nat.mul_mod_left] at hmod
        exact absurd hmod (Nat.lt_irrefl 0)
    omega

end Bounded

end Clev2er.Lib
