import Clev2er.Lib.Slice
import Mathlib.Algebra.Order.Floor.Ring
import Mathlib.Algebra.Order.Field.Basic
import Mathlib.Data.List.GetD
import Mathlib.Tactic.Linarith
import Mathlib.Tactic.Ring

/-!
# Cropping a uniform axis to a window

A uniform axis has its nodes at equal steps, which may be negative. The node
nearest to a point between its ends is within half a step of it
(`Nearest.within_half`).

Code that crops an axis to `[v - w, v + w]` takes the slice from the node nearest
to one end to the node nearest to the other, and so leaves out the latter. The
main result is `crop_ascending` and `crop_descending`: the slice still has every
node closer to `v` than `r`, if the window is half a step wider than that.
-/

namespace Clev2er.Lib

variable {K : Type} [Field K] [LinearOrder K]

/-- The axis `start, start + step, ...` of `n` nodes. -/
def uniformAxis (start step : K) (n : Nat) : List K :=
  (List.range n).map (fun k : Nat => start + k * step)

/-- Node `k` is one of those closest to `v`. -/
structure Nearest (nodes : List K) (v : K) (k : Nat) : Prop where
  lt : k < nodes.length
  le : ∀ j, j < nodes.length → |v - nodes.getD k 0| ≤ |v - nodes.getD j 0|

variable {start step v r margin : K} {n k lo hi : Nat}

omit [LinearOrder K] in
theorem uniformAxis_length (start step : K) (n : Nat) : (uniformAxis start step n).length = n := by
  rw [uniformAxis, List.length_map, List.length_range]

omit [LinearOrder K] in
theorem uniformAxis_getD (hk : k < n) : (uniformAxis start step n).getD k 0 = start + k * step := by
  rw [uniformAxis, List.getD_eq_getElem _ _ (by simpa using hk), List.getElem_map,
    List.getElem_range]

omit [LinearOrder K] in
theorem uniformAxis_neg (start step : K) (n : Nat) :
    (uniformAxis start step n).map (fun x => -x) = uniformAxis (-start) (-step) n := by
  rw [uniformAxis, uniformAxis, List.map_map]
  apply List.map_congr_left
  intro k _
  show -(start + k * step) = -start + k * -step
  rw [neg_add, mul_neg]

omit [LinearOrder K] in
/-- The reverse of an axis starts at its last node. -/
theorem uniformAxis_reverse (start step : K) (n : Nat) :
    (uniformAxis start step n).reverse = uniformAxis (start + ((n : K) - 1) * step) (-step) n := by
  apply List.ext_getElem
  · simp [uniformAxis_length]
  · intro k hk _
    have hk' : k < n := by simpa [uniformAxis_length] using hk
    have hcast : ((n - 1 - k : Nat) : K) = (n : K) - 1 - k := by
      rw [Nat.cast_sub (by omega), Nat.cast_sub (by omega), Nat.cast_one]
    simp only [uniformAxis, List.getElem_reverse, List.getElem_map, List.getElem_range,
      List.length_map, List.length_range]
    rw [hcast]
    ring

/-- Turning the axis round turns its nearest nodes round. -/
theorem Nearest.neg {nodes : List K} (h : Nearest nodes v k) :
    Nearest (nodes.map (fun x => -x)) (-v) k := by
  have hnode : ∀ j, (nodes.map (fun x => -x)).getD j 0 = -nodes.getD j 0 := by
    intro j
    rw [List.getD_eq_getElem?_getD, List.getD_eq_getElem?_getD, List.getElem?_map]
    cases nodes[j]? with
    | none => exact neg_zero.symm
    | some x => rfl
  have hdist : ∀ j, |-v - (nodes.map (fun x => -x)).getD j 0| = |v - nodes.getD j 0| := by
    intro j
    rw [hnode, neg_sub_neg, abs_sub_comm]
  refine ⟨by simpa using h.lt, ?_⟩
  intro j hj
  rw [hdist, hdist]
  exact h.le j (by simpa using hj)

section Nearest

variable [IsStrictOrderedRing K] [FloorRing K]

/-- A node within half a step of a point between the ends of the axis. -/
theorem exists_node_within_half (hstep : 0 < step) (hstart : start ≤ v)
    (hend : v ≤ start + ((n : K) - 1) * step) :
    ∃ k, k < n ∧ |v - (start + k * step)| ≤ step / 2 := by
  have hnonneg : 0 ≤ (v - start) / step + 1 / 2 := by
    have := div_nonneg (sub_nonneg.mpr hstart) hstep.le
    linarith
  have hlow := Nat.floor_le hnonneg
  have hhigh := Nat.lt_floor_add_one ((v - start) / step + 1 / 2)
  have hv : v = start + (v - start) / step * step := by
    rw [div_mul_cancel₀ _ (ne_of_gt hstep)]
    ring
  have hlast : (v - start) / step ≤ (n : K) - 1 := by
    rw [div_le_iff₀ hstep]
    linarith
  generalize (v - start) / step = t at hnonneg hlow hhigh hv hlast
  refine ⟨⌊t + 1 / 2⌋₊, ?_, ?_⟩
  · have hlt : ((⌊t + 1 / 2⌋₊ : Nat) : K) < n := by linarith
    exact_mod_cast hlt
  · have hdiff : v - (start + (⌊t + 1 / 2⌋₊ : Nat) * step) =
        (t - (⌊t + 1 / 2⌋₊ : Nat)) * step := by
      rw [hv]
      ring
    have hhalf : |t - (⌊t + 1 / 2⌋₊ : Nat)| ≤ 1 / 2 := by
      rw [abs_le]
      constructor <;> linarith
    rw [hdiff, abs_mul, abs_of_pos hstep]
    have := mul_le_mul_of_nonneg_right hhalf hstep.le
    linarith

/-- **The nearest node is within half a step.** -/
theorem Nearest.within_half (h : Nearest (uniformAxis start step n) v k) (hstep : 0 < step)
    (hstart : start ≤ v) (hend : v ≤ start + ((n : K) - 1) * step) :
    k < n ∧ |v - (start + k * step)| ≤ step / 2 := by
  obtain ⟨j, hj, hnear⟩ := exists_node_within_half hstep hstart hend
  have hk : k < n := by
    rw [← uniformAxis_length start step n]
    exact h.lt
  have hle := h.le j (by rwa [uniformAxis_length])
  rw [uniformAxis_getD hk, uniformAxis_getD hj] at hle
  exact ⟨hk, le_trans hle hnear⟩

/-! ## The crop -/

theorem node_le_node (start : K) (hstep : 0 < step) {i j : Nat} (hij : i ≤ j) :
    start + (i : K) * step ≤ start + j * step := by
  have hcast : (i : K) ≤ j := by exact_mod_cast hij
  have := mul_le_mul_of_nonneg_right hcast hstep.le
  linarith

/-- **The crop of an ascending axis** between the nodes nearest to the ends of a
window has every node closer to its middle than `r`. -/
theorem crop_ascending (hstep : 0 < step) (hmargin : step ≤ 2 * margin)
    (hlo : Nearest (uniformAxis start step n) (v - (r + margin)) lo)
    (hhi : Nearest (uniformAxis start step n) (v + (r + margin)) hi)
    (hr : 0 ≤ r) (hstart : start ≤ v - (r + margin))
    (hend : v + (r + margin) ≤ start + ((n : K) - 1) * step)
    (hk : |start + k * step - v| < r) : lo ≤ k ∧ k < hi := by
  obtain ⟨-, hlow⟩ := hlo.within_half hstep hstart (by linarith)
  obtain ⟨-, hhigh⟩ := hhi.within_half hstep (by linarith) hend
  rw [abs_le] at hlow hhigh
  rw [abs_lt] at hk
  constructor
  · by_contra hlt
    have hstepUp : start + ((k + 1 : Nat) : K) * step ≤ start + lo * step :=
      node_le_node start hstep (by omega)
    push_cast at hstepUp
    linarith
  · by_contra hge
    have := node_le_node start hstep (Nat.le_of_not_lt hge)
    linarith

/-- **And of a descending axis**, from the node nearest to the upper end on. -/
theorem crop_descending (hstep : 0 < step) (hmargin : step ≤ 2 * margin)
    (hlo : Nearest (uniformAxis start (-step) n) (v + (r + margin)) lo)
    (hhi : Nearest (uniformAxis start (-step) n) (v - (r + margin)) hi)
    (hr : 0 ≤ r) (hstart : v + (r + margin) ≤ start)
    (hend : start - ((n : K) - 1) * step ≤ v - (r + margin))
    (hk : |start - k * step - v| < r) : lo ≤ k ∧ k < hi := by
  have hlo' := hlo.neg
  have hhi' := hhi.neg
  rw [uniformAxis_neg, neg_neg, neg_add'] at hlo'
  rw [uniformAxis_neg, neg_neg, neg_sub', sub_neg_eq_add] at hhi'
  apply crop_ascending hstep hmargin hlo' hhi' hr (by linarith) (by linarith)
  rw [← abs_neg]
  have heq : -(-start + k * step - -v) = start - k * step - v := by ring
  rwa [heq]

end Nearest

end Clev2er.Lib
