import Clev2er.Lib.ForEach
import Clev2er.Lib.WithNan
import Mathlib.Order.Lattice

/-!
# The first best entry of an array

`argmin`, `argmax` and their NaN-skipping variants scan an array and keep the
best entry so far; an entry replaces it only if it is strictly better, so the
first of several best entries stays. `scanBest` is that scan for an arbitrary
`better`, and `FirstBest` what it finds.
-/

namespace Clev2er.Lib

variable {K : Type}

/-! ## Rankings -/

/-- A strict order in which any third value is worse than the better of two, or
better than the worse. -/
structure Ranking (better : K → K → Bool) : Prop where
  asymm : ∀ {a b}, better a b = true → better b a = false
  cotrans : ∀ {a c} b, better a c = true → better a b = true ∨ better b c = true

theorem Ranking.irrefl {better : K → K → Bool} (h : Ranking better) (a : K) :
    better a a = false := by
  cases haa : better a a with
  | false => rfl
  | true => exact haa.symm.trans (h.asymm haa)

theorem ranking_lt [LinearOrder K] : Ranking (fun a b : K => decide (a < b)) where
  asymm h := by
    rw [decide_eq_true_eq] at h
    rw [decide_eq_false_iff_not]
    exact lt_asymm h
  cotrans b h := by
    simp only [decide_eq_true_eq] at h ⊢
    rcases lt_or_ge b _ with hlt | hge
    · exact Or.inr hlt
    · exact Or.inl (lt_of_lt_of_le h hge)

theorem ranking_gt [LinearOrder K] : Ranking (fun a b : K => decide (b < a)) where
  asymm h := by
    rw [decide_eq_true_eq] at h
    rw [decide_eq_false_iff_not]
    exact lt_asymm h
  cotrans b h := by
    simp only [decide_eq_true_eq] at h ⊢
    rcases lt_or_ge b _ with hlt | hge
    · exact Or.inl hlt
    · exact Or.inr (lt_of_lt_of_le h hge)

/-! ## The scan -/

/-- The scan from index `i` on, with the best entry so far. -/
def scanBest (better : K → K → Bool) : Nat → Option (Nat × K) → List (WithNan K) → Option (Nat × K)
  | _, best, [] => best
  | i, best, .nan :: xs => scanBest better (i + 1) best xs
  | i, none, .num x :: xs => scanBest better (i + 1) (some (i, x)) xs
  | i, some (k, v), .num x :: xs =>
      if better x v then scanBest better (i + 1) (some (i, x)) xs
      else scanBest better (i + 1) (some (k, v)) xs

/-- Entry `m` is the number `v`; no entry is better, and all earlier ones are
worse. -/
structure FirstBest (better : K → K → Bool) (xs : List (WithNan K)) (m : Nat) (v : K) : Prop where
  entry : xs[m]? = some (WithNan.num v)
  best : ∀ (j : Nat) (w : K), xs[j]? = some (WithNan.num w) → better w v = false
  first : ∀ (j : Nat) (w : K), j < m → xs[j]? = some (WithNan.num w) → better v w = true

section Scan

variable {better : K → K → Bool} {xs : List (WithNan K)} {m : Nat} {v w : K}

theorem FirstBest.lt_length (h : FirstBest better xs m v) : m < xs.length :=
  (List.getElem?_eq_some_iff.mp h.entry).1

/-- There is one first best entry only. -/
theorem FirstBest.unique {m' : Nat} {v' : K} (h : FirstBest better xs m v)
    (h' : FirstBest better xs m' v') : m = m' ∧ v = v' := by
  rcases Nat.lt_trichotomy m m' with hlt | heq | hgt
  · exact absurd (h'.first m v hlt h.entry) (by simp [h.best m' v' h'.entry])
  · subst heq
    have := h.entry.symm.trans h'.entry
    exact ⟨rfl, WithNan.num.inj (Option.some.inj this)⟩
  · exact absurd (h.first m' v' hgt h'.entry) (by simp [h'.best m v h.entry])

/-- An entry behind the array is one of the array, or the new one. -/
theorem getElem?_append_one {x y : WithNan K} {j : Nat} (h : (xs ++ [x])[j]? = some y) :
    xs[j]? = some y ∨ (j = xs.length ∧ y = x) := by
  rcases Nat.lt_trichotomy j xs.length with hlt | heq | hgt
  · left
    rwa [List.getElem?_append_left hlt] at h
  · subst heq
    right
    rw [List.getElem?_append_right (Nat.le_refl _), Nat.sub_self] at h
    exact ⟨rfl, (Option.some.inj h).symm⟩
  · exfalso
    rw [List.getElem?_eq_none (by simp; omega)] at h
    cases h

theorem FirstBest.append_nan (h : FirstBest better xs m v) :
    FirstBest better (xs ++ [.nan]) m v := by
  refine ⟨?_, ?_, ?_⟩
  · rw [List.getElem?_append_left h.lt_length]
    exact h.entry
  · intro j u hj
    rcases getElem?_append_one hj with hold | ⟨-, hnan⟩
    · exact h.best j u hold
    · cases hnan
  · intro j u hlt hj
    rcases getElem?_append_one hj with hold | ⟨-, hnan⟩
    · exact h.first j u hlt hold
    · cases hnan

theorem FirstBest.append_not_better (h : FirstBest better xs m v) (hw : better w v = false) :
    FirstBest better (xs ++ [.num w]) m v := by
  have hm := h.lt_length
  refine ⟨?_, ?_, ?_⟩
  · rw [List.getElem?_append_left hm]
    exact h.entry
  · intro j u hj
    rcases getElem?_append_one hj with hold | ⟨-, hnew⟩
    · exact h.best j u hold
    · rw [WithNan.num.inj hnew]
      exact hw
  · intro j u hlt hj
    rcases getElem?_append_one hj with hold | ⟨rfl, -⟩
    · exact h.first j u hlt hold
    · exact absurd hlt (Nat.lt_asymm hm)

theorem FirstBest.append_better (hrank : Ranking better) (h : FirstBest better xs m v)
    (hw : better w v = true) : FirstBest better (xs ++ [.num w]) xs.length w := by
  refine ⟨by simp, ?_, ?_⟩
  · intro j u hj
    rcases getElem?_append_one hj with hold | ⟨-, hnew⟩
    · -- an entry better than the new one would be better than the old best
      by_contra hne
      rcases hrank.cotrans v (Bool.of_not_eq_false hne) with huv | hvw
      · rw [h.best j u hold] at huv
        cases huv
      · rw [hrank.asymm hw] at hvw
        cases hvw
    · rw [WithNan.num.inj hnew]
      exact hrank.irrefl w
  · intro j u hlt hj
    rcases getElem?_append_one hj with hold | ⟨rfl, -⟩
    · rcases hrank.cotrans u hw with hwu | huv
      · exact hwu
      · rw [h.best j u hold] at huv
        cases huv
    · exact absurd hlt (Nat.lt_irrefl _)

/-- The first number of an array. -/
theorem firstBest_of_nans (hrank : Ranking better) (hnan : ∀ x ∈ xs, x = .nan) :
    FirstBest better (xs ++ [.num w]) xs.length w := by
  have hone : ∀ (j : Nat) (u : K), (xs ++ [WithNan.num w])[j]? = some (.num u) →
      j = xs.length ∧ u = w := by
    intro j u hj
    rcases getElem?_append_one hj with hold | ⟨heq, hnew⟩
    · cases hnan _ (List.mem_of_getElem? hold)
    · exact ⟨heq, WithNan.num.inj hnew⟩
  refine ⟨by simp, ?_, ?_⟩
  · intro j u hj
    rw [(hone j u hj).2]
    exact hrank.irrefl w
  · intro j u hlt hj
    rw [(hone j u hj).1] at hlt
    exact absurd hlt (Nat.lt_irrefl _)

/-- The scan keeps the first best entry of what it has seen. -/
theorem scanBest_some (hrank : Ranking better) :
    ∀ (xs pre : List (WithNan K)) (m : Nat) (v : K), FirstBest better pre m v →
      ∃ m' v', scanBest better pre.length (some (m, v)) xs = some (m', v') ∧
        FirstBest better (pre ++ xs) m' v' := by
  intro xs
  induction xs with
  | nil =>
      intro pre m v h
      exact ⟨m, v, rfl, by rwa [List.append_nil]⟩
  | cons x xs ih =>
      intro pre m v h
      rw [List.append_cons]
      have hlen : ∀ y : WithNan K, pre.length + 1 = (pre ++ [y]).length := fun y => by simp
      cases x with
      | nan =>
          rw [scanBest, hlen .nan]
          exact ih _ m v h.append_nan
      | num x =>
          rw [scanBest, hlen (.num x)]
          split
          · next hbetter => exact ih _ _ x (h.append_better hrank hbetter)
          · next hbetter =>
            exact ih _ m v (h.append_not_better (Bool.of_not_eq_true hbetter))

/-- The scan before the first number. -/
theorem scanBest_none (hrank : Ranking better) :
    ∀ (xs pre : List (WithNan K)), (∀ x ∈ pre, x = .nan) →
      (scanBest better pre.length none xs = none ∧ ∀ x ∈ pre ++ xs, x = .nan) ∨
        ∃ m v, scanBest better pre.length none xs = some (m, v) ∧
          FirstBest better (pre ++ xs) m v := by
  intro xs
  induction xs with
  | nil =>
      intro pre hpre
      exact Or.inl ⟨rfl, by rwa [List.append_nil]⟩
  | cons x xs ih =>
      intro pre hpre
      rw [List.append_cons]
      have hlen : ∀ y : WithNan K, pre.length + 1 = (pre ++ [y]).length := fun y => by simp
      cases x with
      | nan =>
          rw [scanBest, hlen .nan]
          apply ih
          intro x hx
          rcases List.mem_append.mp hx with hx | hx
          · exact hpre x hx
          · exact List.mem_singleton.mp hx
      | num x =>
          rw [scanBest, hlen (.num x)]
          exact Or.inr (scanBest_some hrank xs _ _ x (firstBest_of_nans hrank hpre))

/-- **What the scan of a whole array finds**: nothing if no entry is a number, and
the first best entry otherwise. -/
theorem scanBest_cases (hrank : Ranking better) (xs : List (WithNan K)) :
    (scanBest better 0 none xs = none ∧ ∀ x ∈ xs, x = .nan) ∨
      ∃ m v, scanBest better 0 none xs = some (m, v) ∧ FirstBest better xs m v := by
  have h := scanBest_none hrank xs [] (by simp)
  simpa using h

end Scan

end Clev2er.Lib
