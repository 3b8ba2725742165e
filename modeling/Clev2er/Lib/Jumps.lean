import Mathlib.Algebra.BigOperators.Group.List.Basic
import Mathlib.Algebra.Order.BigOperators.Group.List
import Mathlib.Algebra.Order.Group.Defs
import Mathlib.Tactic.Abel

/-!
# Clocks that jump

A table lists the times at which a clock is set forward, and by how much. `ahead` is the
time on a clock that follows the table, `behind` the way back that looks the jumps up at
the time shown rather than at the time meant. The two are inverse outside the jumps
that lie between these times.
-/

namespace Clev2er.Lib

/-! ## Jumps of a table -/

section Jumps

variable {S M : Type} [AddCommMonoid M]

/-- The jumps of the entries whose time satisfies `p`. -/
def jumpsOf (p : S → Bool) (table : List (S × M)) : M :=
  ((table.filter fun entry => p entry.1).map Prod.snd).sum

@[simp] theorem jumpsOf_nil (p : S → Bool) : jumpsOf p ([] : List (S × M)) = 0 := rfl

theorem jumpsOf_cons (p : S → Bool) (entry : S × M) (table : List (S × M)) :
    jumpsOf p (entry :: table) = (if p entry.1 then entry.2 else 0) + jumpsOf p table := by
  unfold jumpsOf
  rw [List.filter_cons]
  split
  · rw [List.map_cons, List.sum_cons]
  · rw [zero_add]

theorem jumpsOf_congr {p q : S → Bool} {table : List (S × M)}
    (h : ∀ entry ∈ table, p entry.1 = q entry.1) : jumpsOf p table = jumpsOf q table := by
  unfold jumpsOf
  rw [List.filter_congr h]

/-- The jumps are those at which `q` holds as well, and the others. -/
theorem jumpsOf_split (p q : S → Bool) (table : List (S × M)) :
    jumpsOf p table =
      jumpsOf (fun t => p t && q t) table + jumpsOf (fun t => p t && !q t) table := by
  induction table with
  | nil => simp
  | cons entry table ih =>
      rw [jumpsOf_cons, jumpsOf_cons, jumpsOf_cons, ih]
      cases p entry.1 <;> cases q entry.1 <;> simp [add_assoc, add_left_comm]

variable [PartialOrder M] [IsOrderedAddMonoid M]

/-- No entry sets the clock back. -/
def NeverBack (table : List (S × M)) : Prop := ∀ entry ∈ table, 0 ≤ entry.2

theorem NeverBack.jumpsOf_nonneg {table : List (S × M)} (h : NeverBack table) (p : S → Bool) :
    0 ≤ jumpsOf p table := by
  apply List.sum_nonneg
  intro jump hjump
  obtain ⟨entry, hentry, rfl⟩ := List.mem_map.mp hjump
  exact h entry (List.mem_of_mem_filter hentry)

/-- Jumps that are never back cancel just if there are none. -/
theorem NeverBack.jumpsOf_eq_zero {table : List (S × M)} (h : NeverBack table) (p : S → Bool) :
    jumpsOf p table = 0 ↔ ∀ entry ∈ table, p entry.1 = true → entry.2 = 0 := by
  induction table with
  | nil => simp
  | cons entry table ih =>
      have htail : NeverBack table := fun e he => h e (List.mem_cons_of_mem _ he)
      have hhead : 0 ≤ if p entry.1 = true then entry.2 else 0 := by
        split
        · exact h entry List.mem_cons_self
        · exact le_refl 0
      rw [jumpsOf_cons, add_eq_zero_iff_of_nonneg hhead (htail.jumpsOf_nonneg p), ih htail,
        List.forall_mem_cons]
      apply and_congr_left'
      exact ite_eq_right_iff

end Jumps

/-! ## Jumps between listed values -/

section Changes

variable {S M : Type} [AddCommGroup M]

/-- The jumps from each value of a table to the next, the first from `start`. -/
def changes (start : M) : List (S × M) → List (S × M)
  | [] => []
  | (time, value) :: table => (time, value - start) :: changes value table

/-- The value of the last entry up to a time, and `start` before the first. -/
def valueAt [LE S] [DecidableLE S] (t : S) (start : M) : List (S × M) → M
  | [] => start
  | (time, value) :: table => if time ≤ t then valueAt t value table else start

theorem changes_fst (start : M) (table : List (S × M)) :
    (changes start table).map Prod.fst = table.map Prod.fst := by
  induction table generalizing start with
  | nil => rfl
  | cons entry table ih => exact congrArg (entry.1 :: ·) (ih entry.2)

/-- **The jumps up to a time add up to the last value** where the times ascend. -/
theorem jumpsOf_changes [LinearOrder S] (t : S) (start : M) {table : List (S × M)}
    (h : (table.map Prod.fst).Pairwise (· ≤ ·)) :
    start + jumpsOf (fun time => decide (time ≤ t)) (changes start table) =
      valueAt t start table := by
  induction table generalizing start with
  | nil => exact add_zero start
  | cons entry table ih =>
      obtain ⟨hfirst, htail⟩ := List.pairwise_cons.mp h
      rw [changes, jumpsOf_cons, valueAt]
      by_cases hle : entry.1 ≤ t
      · rw [if_pos (decide_eq_true hle), if_pos hle, ← add_assoc, add_sub_cancel, ih _ htail]
      · -- no later entry is up to the time either
        have hnone : jumpsOf (fun time => decide (time ≤ t)) (changes entry.2 table) = 0 := by
          unfold jumpsOf
          rw [List.filter_eq_nil_iff.mpr, List.map_nil, List.sum_nil]
          intro e he hlater
          have hmem : e.1 ∈ table.map Prod.fst := by
            rw [← changes_fst entry.2]
            exact List.mem_map_of_mem he
          exact hle ((hfirst e.1 hmem).trans (of_decide_eq_true hlater))
        rw [if_neg (by simpa using hle), if_neg hle, hnone, add_zero, add_zero]

end Changes

/-! ## Clocks -/

section Clocks

variable {T : Type} [AddCommGroup T] [LinearOrder T]

/-- The jumps up to a time. -/
def upTo (table : List (T × T)) (t : T) : T := jumpsOf (fun time => decide (time ≤ t)) table

/-- The jumps after a time, up to another. -/
def within (table : List (T × T)) (s t : T) : T :=
  jumpsOf (fun time => decide (s < time ∧ time ≤ t)) table

/-- The clock that follows the table. -/
def ahead (table : List (T × T)) (t : T) : T := t + upTo table t

/-- The way back, with the jumps up to the time shown. -/
def behind (table : List (T × T)) (t : T) : T := t - upTo table t

variable {table : List (T × T)} {s t : T}

theorem upTo_eq_add_within (h : s ≤ t) : upTo table t = upTo table s + within table s t := by
  rw [upTo, jumpsOf_split _ (fun time => decide (time ≤ s))]
  congr 1
  · apply jumpsOf_congr
    intro entry _
    rw [← Bool.decide_and]
    exact decide_eq_decide.mpr ⟨And.right, fun hle => ⟨hle.trans h, hle⟩⟩
  · apply jumpsOf_congr
    intro entry _
    rw [← decide_not, ← Bool.decide_and]
    exact decide_eq_decide.mpr ⟨fun hle => ⟨not_le.mp hle.2, hle.1⟩,
      fun hlt => ⟨hlt.2, not_le.mpr hlt.1⟩⟩

/-- The way back shortens a duration by the jumps within it. -/
theorem behind_sub_behind (h : s ≤ t) :
    behind table t - behind table s = (t - s) - within table s t := by
  rw [behind, behind, upTo_eq_add_within h]
  abel

variable [IsOrderedAddMonoid T]

theorem NeverBack.within_nonneg (h : NeverBack table) (s t : T) : 0 ≤ within table s t :=
  h.jumpsOf_nonneg _

theorem NeverBack.le_ahead (h : NeverBack table) (t : T) : t ≤ ahead table t :=
  le_add_of_nonneg_right (h.jumpsOf_nonneg _)

/-- The way back misses a time by the jumps before the clock shows it. -/
theorem NeverBack.behind_ahead (h : NeverBack table) (t : T) :
    behind table (ahead table t) = t - within table t (ahead table t) := by
  rw [behind, upTo_eq_add_within (h.le_ahead t)]
  nth_rewrite 1 [ahead]
  abel

/-- **The way back is exact** just where no jump comes before the clock shows the time. -/
theorem NeverBack.behind_ahead_eq_iff (h : NeverBack table) (t : T) :
    behind table (ahead table t) = t ↔ within table t (ahead table t) = 0 := by
  rw [h.behind_ahead, sub_eq_self]

end Clocks

end Clev2er.Lib
