import Mathlib.Data.Finset.Card

/-!
# Chains of a partial successor

The elements that `next` leads to from `a`, one after the other. A chain that comes back
to an element has no end, and one that does not come back, of a successor that is defined
on finitely many elements only, ends after as many steps as there are such elements, and
one (`along_eq_none`).
-/

namespace Clev2er.Lib

variable {α : Type} (next : α → Option α)

/-- The element `n` steps on, if the chain is as long as that. -/
def along (a : α) : Nat → Option α
  | 0 => some a
  | n + 1 => (along a n).bind next

/-- The chain from `a` comes to an element from which it comes to that element again. -/
def ComesBack (a : α) : Prop :=
  ∃ m n b, 0 < n ∧ along next a m = some b ∧ along next b n = some b

variable {next} {a b : α}

theorem along_add (m n : Nat) :
    along next a (m + n) = (along next a m).bind fun b => along next b n := by
  induction n with
  | zero =>
      exact (Option.bind_fun_some _).symm
  | succ n ih =>
      show (along next a (m + n)).bind next = (along next a m).bind fun b => along next b (n + 1)
      rw [ih, Option.bind_assoc]
      rfl

/-- The chain from the successor. -/
theorem along_succ (n : Nat) : along next a (n + 1) = (next a).bind fun b => along next b n := by
  rw [Nat.add_comm, along_add]
  rfl

theorem along_none_of_le {m n : Nat} (h : along next a m = none) (hmn : m ≤ n) :
    along next a n = none := by
  obtain ⟨k, rfl⟩ := Nat.exists_eq_add_of_le hmn
  rw [along_add, h]
  rfl

theorem exists_along_of_le {m n : Nat} {c : α} (h : along next a n = some c) (hmn : m ≤ n) :
    ∃ b, along next a m = some b := by
  rcases hm : along next a m with _ | b
  · rw [along_none_of_le hm hmn] at h
    cases h
  · exact ⟨b, rfl⟩

/-- A chain that comes back has no end. -/
theorem ComesBack.along_ne_none (h : ComesBack next a) (k : Nat) : along next a k ≠ none := by
  obtain ⟨m, n, b, hn, hm, hback⟩ := h
  have hround : ∀ r, along next b (n * r) = some b := by
    intro r
    induction r with
    | zero => rfl
    | succ r ih =>
        rw [Nat.mul_succ, along_add, ih]
        exact hback
  have hfar : along next a (m + n * k) = some b := by
    rw [along_add, hm]
    exact hround k
  intro hnone
  have hle : k ≤ m + n * k := le_trans (Nat.le_mul_of_pos_left k hn) (Nat.le_add_left _ _)
  rw [along_none_of_le hnone hle] at hfar
  cases hfar

/-- An element that occurs twice. -/
theorem comesBack_of_twice {m n : Nat} (hlt : m < n) (hm : along next a m = some b)
    (hn : along next a n = some b) : ComesBack next a := by
  refine ⟨m, n - m, b, Nat.sub_pos_of_lt hlt, hm, ?_⟩
  rw [← Nat.add_sub_of_le hlt.le, along_add, hm] at hn
  exact hn

/-- **A chain that does not come back ends** after one step more than the successor has
elements to be defined on. -/
theorem along_eq_none [DecidableEq α] (domain : Finset α)
    (hdomain : ∀ b, next b ≠ none → b ∈ domain) (h : ¬ ComesBack next a) :
    along next a (domain.card + 1) = none := by
  by_contra hlong
  obtain ⟨c, hc⟩ := Option.ne_none_iff_exists'.mp hlong
  -- the elements before the last one have a successor
  have hmem : ∀ i ∈ Finset.range (domain.card + 1), (along next a i).getD a ∈ domain := by
    intro i hi
    have hstep : along next a (i + 1) ≠ none := by
      obtain ⟨b, hb⟩ := exists_along_of_le hc (Finset.mem_range.mp hi)
      simp [hb]
    obtain ⟨b, hb⟩ := exists_along_of_le hc (Finset.mem_range.mp hi).le
    rw [along, hb] at hstep
    rw [hb]
    exact hdomain b hstep
  obtain ⟨i, hi, j, hj, hne, heq⟩ := Finset.exists_ne_map_eq_of_card_lt_of_maps_to
    (by rw [Finset.card_range]; exact Nat.lt_succ_self _) hmem
  obtain ⟨b, hb⟩ := exists_along_of_le hc (Finset.mem_range.mp hi).le
  obtain ⟨b', hb'⟩ := exists_along_of_le hc (Finset.mem_range.mp hj).le
  rw [hb, hb'] at heq
  simp only [Option.getD_some] at heq
  subst heq
  rcases Nat.lt_or_gt_of_ne hne with hlt | hgt
  · exact h (comesBack_of_twice hlt hb hb')
  · exact h (comesBack_of_twice hgt hb' hb)

end Clev2er.Lib
