import Mathlib.Data.List.Sort

/-!
# Places in an ascending order

The entry at a place of a sorted list, by counts alone: so many entries are below it, and
so many up to it. Counts do not depend on the order of the list, and they can be
weighted, so the middle of a list can be found without sorting it.
-/

namespace Clev2er.Lib

variable {α : Type} [LinearOrder α]

/-- `a` is at place `k` of the ascending order, where `count p` is the number of
entries with `p`. -/
structure AtPlace (count : (α → Bool) → ℕ) (k : ℕ) (a : α) : Prop where
  below : count (fun x => decide (x < a)) ≤ k
  upTo : k < count (fun x => decide (x ≤ a))

/-- The two entries in the middle; of an odd number of entries they are the same. -/
structure Middle (count : (α → Bool) → ℕ) (low high : α) : Prop where
  low : AtPlace count ((count (fun _ => true) - 1) / 2) low
  high : AtPlace count (count (fun _ => true) / 2) high

section Sorted

variable {xs : List α} {k : ℕ} {a b : α}

theorem atPlace_of_getElem? (hsorted : xs.Pairwise (· ≤ ·)) (h : xs[k]? = some a) :
    AtPlace (xs.countP ·) k a := by
  obtain ⟨hk, rfl⟩ := List.getElem?_eq_some_iff.mp h
  have hsplit : ∀ p : α → Bool, ∀ j, xs.countP p = (xs.take j).countP p + (xs.drop j).countP p := by
    intro p j
    rw [← List.countP_append, List.take_append_drop]
  have hle : ∀ i j (hi : i ≤ j) (hj : j < xs.length), xs[i] ≤ xs[j] := by
    intro i j hi hj
    rcases Nat.lt_or_eq_of_le hi with hlt | rfl
    · exact List.pairwise_iff_getElem.mp hsorted i j _ hj hlt
    · exact le_rfl
  constructor
  · -- no entry from `k` on is below
    have hnone : (xs.drop k).countP (fun x => decide (x < xs[k])) = 0 := by
      rw [List.countP_eq_zero]
      intro x hx
      obtain ⟨i, hi, rfl⟩ := List.mem_drop_iff_getElem.mp hx
      simpa using hle k (k + i) (by omega) (by omega)
    rw [hsplit _ k, hnone, Nat.add_zero]
    exact le_trans List.countP_le_length (List.length_take_le k xs)
  · -- all entries up to `k` count
    have hall : (xs.take (k + 1)).countP (fun x => decide (x ≤ xs[k])) =
        (xs.take (k + 1)).length := by
      rw [List.countP_eq_length]
      intro x hx
      obtain ⟨i, hi, rfl⟩ := List.mem_take_iff_getElem.mp hx
      simpa using hle i k (by omega) hk
    rw [hsplit _ (k + 1), hall, List.length_take]
    omega

/-- There is one entry at a place. -/
theorem AtPlace.unique (ha : AtPlace (xs.countP ·) k a) (hb : AtPlace (xs.countP ·) k b) :
    a = b := by
  have hlt : ∀ {a b : α}, a < b → xs.countP (fun x => decide (x ≤ a)) ≤
      xs.countP (fun x => decide (x < b)) := by
    intro a b hab
    refine List.countP_mono_left fun x _ hx => ?_
    rw [decide_eq_true_eq] at hx ⊢
    exact lt_of_le_of_lt hx hab
  rcases lt_trichotomy a b with hab | heq | hab
  · exact absurd (lt_of_lt_of_le ha.upTo (le_trans (hlt hab) hb.below)) (lt_irrefl k)
  · exact heq
  · exact absurd (lt_of_lt_of_le hb.upTo (le_trans (hlt hab) ha.below)) (lt_irrefl k)

/-- **The entry at a place, by counts.** -/
theorem getElem?_iff_atPlace (hsorted : xs.Pairwise (· ≤ ·)) :
    xs[k]? = some a ↔ AtPlace (xs.countP ·) k a := by
  refine ⟨atPlace_of_getElem? hsorted, fun h => ?_⟩
  have hk : k < xs.length := lt_of_lt_of_le h.upTo List.countP_le_length
  have hplace := atPlace_of_getElem? hsorted (List.getElem?_eq_getElem hk)
  rw [h.unique hplace]
  exact List.getElem?_eq_getElem hk

end Sorted

/-! ## The middle -/

section Middle

variable {xs sorted : List α} {low high : α}

/-- **The middle of a list** is in the middle of the sorted list. -/
theorem middle_iff (hsorted : sorted.Pairwise (· ≤ ·)) (hperm : sorted.Perm xs) :
    Middle (xs.countP ·) low high ↔
      sorted[(sorted.length - 1) / 2]? = some low ∧ sorted[sorted.length / 2]? = some high := by
  have hcount : (xs.countP · : (α → Bool) → ℕ) = (sorted.countP ·) :=
    funext fun p => (hperm.countP_eq p).symm
  rw [getElem?_iff_atPlace hsorted, getElem?_iff_atPlace hsorted, hcount]
  constructor
  · rintro ⟨hlow, hhigh⟩
    rw [List.countP_true] at hlow hhigh
    exact ⟨hlow, hhigh⟩
  · rintro ⟨hlow, hhigh⟩
    refine ⟨?_, ?_⟩
    · rwa [List.countP_true]
    · rwa [List.countP_true]

/-- Counting every entry `c` times does not move the middle. -/
theorem Middle.scale {count : (α → Bool) → ℕ} {c : ℕ} (hc : 0 < c) (h : Middle count low high) :
    Middle (fun p => c * count p) low high := by
  obtain ⟨⟨hbelow, hupTo⟩, ⟨hbelow', hupTo'⟩⟩ := h
  refine ⟨⟨?_, ?_⟩, ⟨?_, ?_⟩⟩
  · rw [Nat.le_div_iff_mul_le Nat.two_pos] at hbelow ⊢
    calc c * count (fun x => decide (x < low)) * 2
        = c * (count (fun x => decide (x < low)) * 2) := Nat.mul_assoc _ _ _
      _ ≤ c * (count (fun _ => true) - 1) := Nat.mul_le_mul_left c hbelow
      _ ≤ c * count (fun _ => true) - 1 := by
          rw [Nat.mul_sub_one]
          omega
  · rw [Nat.div_lt_iff_lt_mul Nat.two_pos] at hupTo ⊢
    have hpos : 0 < c * count (fun x => decide (x ≤ low)) := Nat.mul_pos hc (by omega)
    have hle := Nat.mul_le_mul_left c
      (show count (fun _ => true) ≤ count (fun x => decide (x ≤ low)) * 2 by omega)
    rw [← Nat.mul_assoc] at hle
    omega
  · rw [Nat.le_div_iff_mul_le Nat.two_pos] at hbelow' ⊢
    rw [Nat.mul_assoc]
    exact Nat.mul_le_mul_left c hbelow'
  · rw [Nat.div_lt_iff_lt_mul Nat.two_pos] at hupTo' ⊢
    rw [Nat.mul_assoc]
    exact Nat.mul_lt_mul_of_pos_left hupTo' hc

end Middle

end Clev2er.Lib
