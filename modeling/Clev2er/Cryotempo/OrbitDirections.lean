import Clev2er.Lib.WithNan
import Mathlib.Algebra.Order.Ring.Rat
import Mathlib.Tactic.NormNum

/-!
# `find_orbit_directions`

The records at which the product says that the ascending and the descending part of a
track start. The first step is classified by an `if` without a case for equal latitudes,
so a track that starts flat gets a descending part at record 0;
`startsFound_iff` says that this is the only fault.
-/

namespace Clev2er.Cryotempo

open Clev2er.Lib

variable {K : Type}

/-! ## The search -/

section Code

variable [LinearOrder K]

/-- The loop of `find_orbit_directions`, from `index` on, over the latitudes from there. -/
def directionLoop (ascStart descStart : Option ℕ) (index : ℕ) :
    List (WithNan K) → Option ℕ × Option ℕ
  | here :: next :: rest =>
      if here < next ∧ ascStart = none then (some index, descStart)
      else if next < here ∧ descStart = none then (ascStart, some index)
      else directionLoop ascStart descStart (index + 1) (next :: rest)
  | _ => (ascStart, descStart)

/-- `find_orbit_directions`: `asc_start` and `desc_start`. -/
def findOrbitDirections : List (WithNan K) → Option ℕ × Option ℕ
  | first :: second :: rest =>
      if first < second then directionLoop (some 0) none 1 (second :: rest)
      else directionLoop none (some 0) 1 (second :: rest)
  | _ => (none, none)

end Code

/-! ## What it should find -/

/-- Record `i` and the record after it are related. -/
def StepWhere (r : WithNan K → WithNan K → Prop) (lats : List (WithNan K)) (i : ℕ) : Prop :=
  ∃ here next, lats[i]? = some here ∧ lats[i + 1]? = some next ∧ r here next

/-- `lats[i+1] > lats[i]`. -/
def Rises [LinearOrder K] (lats : List (WithNan K)) (i : ℕ) : Prop :=
  StepWhere (fun here next => here < next) lats i

/-- `lats[i+1] < lats[i]`. -/
def Falls [LinearOrder K] (lats : List (WithNan K)) (i : ℕ) : Prop :=
  StepWhere (fun here next => next < here) lats i

/-- The least index with a property, and `none` where no index has it. -/
def IsFirst (p : ℕ → Prop) : Option ℕ → Prop
  | some i => p i ∧ ∀ j < i, ¬ p j
  | none => ∀ i, ¬ p i

/-- Both parts start where the track first rises and first falls. -/
structure StartsFound [LinearOrder K] (lats : List (WithNan K)) : Prop where
  ascending : IsFirst (Rises lats) (findOrbitDirections lats).1
  descending : IsFirst (Falls lats) (findOrbitDirections lats).2

/-! ## The first step of a kind -/

section Step

variable {r : WithNan K → WithNan K → Prop} {lats xs : List (WithNan K)}
  {here next : WithNan K} {i : ℕ}

theorem stepWhere_iff (hhere : lats[i]? = some here) (hnext : lats[i + 1]? = some next) :
    StepWhere r lats i ↔ r here next := by
  constructor
  · rintro ⟨x, y, hx, hy, hr⟩
    obtain rfl := Option.some.inj (hhere.symm.trans hx)
    obtain rfl := Option.some.inj (hnext.symm.trans hy)
    exact hr
  · exact fun hr => ⟨here, next, hhere, hnext, hr⟩

/-- A step has a record after it. -/
theorem StepWhere.lt_length (h : StepWhere r lats i) : i + 1 < lats.length := by
  obtain ⟨_, _, -, hnext, -⟩ := h
  exact (List.getElem?_eq_some_iff.mp hnext).1

/-- The loop with one direction left to find. -/
def firstStep (r : WithNan K → WithNan K → Prop) [DecidableRel r] (index : ℕ) :
    List (WithNan K) → Option ℕ
  | here :: next :: rest =>
      if r here next then some index else firstStep r (index + 1) (next :: rest)
  | _ => none

/-- Nothing is found before `index`, so what the loop finds from there is the first. -/
theorem isFirst_firstStep [DecidableRel r] {index : ℕ} (hdrop : lats.drop index = xs)
    (hbefore : ∀ j < index, ¬ StepWhere r lats j) :
    IsFirst (StepWhere r lats) (firstStep r index xs) := by
  induction xs generalizing index with
  | nil =>
      intro j hj
      have hlength : lats.length ≤ index := List.drop_eq_nil_iff.mp hdrop
      have hlt := hj.lt_length
      exact hbefore j (by omega) hj
  | cons here rest ih =>
      have hdropNext : lats.drop (index + 1) = rest := by
        rw [← List.drop_drop, hdrop, List.drop_one, List.tail_cons]
      have hhere : lats[index]? = some here := by
        rw [← List.head?_drop, hdrop, List.head?_cons]
      cases rest with
      | nil =>
          intro j hj
          have hlength : lats.length ≤ index + 1 := List.drop_eq_nil_iff.mp hdropNext
          have hlt := hj.lt_length
          exact hbefore j (by omega) hj
      | cons next rest =>
          have hnext : lats[index + 1]? = some next := by
            rw [← List.head?_drop, hdropNext, List.head?_cons]
          rw [firstStep]
          split
          · next hr => exact ⟨(stepWhere_iff hhere hnext).mpr hr, hbefore⟩
          · next hr =>
            apply ih hdropNext
            intro j hj
            rcases Nat.lt_succ_iff_lt_or_eq.mp hj with hlt | rfl
            · exact hbefore j hlt
            · rwa [stepWhere_iff hhere hnext]

/-- A direction that the first step does not have starts where the loop finds it. -/
theorem isFirst_from_one [DecidableRel r] {rest : List (WithNan K)} (h : ¬ r here next) :
    IsFirst (StepWhere r (here :: next :: rest)) (firstStep r 1 (next :: rest)) := by
  refine isFirst_firstStep rfl fun j hj => ?_
  obtain rfl : j = 0 := by omega
  rwa [stepWhere_iff rfl rfl]

theorem isFirst_zero {p : ℕ → Prop} (h : p 0) : IsFirst p (some 0) :=
  ⟨h, fun j hj => absurd hj (Nat.not_lt_zero j)⟩

end Step

variable [LinearOrder K]

/-! ## The loop -/

theorem directionLoop_ascending (a index : ℕ) (xs : List (WithNan K)) :
    directionLoop (some a) none index xs =
      (some a, firstStep (fun here next => next < here) index xs) := by
  induction xs generalizing index with
  | nil => rfl
  | cons here rest ih =>
      cases rest with
      | nil => rfl
      | cons next rest =>
          rw [directionLoop, firstStep, if_neg fun h => Option.some_ne_none a h.2]
          by_cases hfall : next < here
          · rw [if_pos ⟨hfall, rfl⟩, if_pos hfall]
          · rw [if_neg fun h => hfall h.1, if_neg hfall]
            exact ih (index + 1)

theorem directionLoop_descending (d index : ℕ) (xs : List (WithNan K)) :
    directionLoop none (some d) index xs =
      (firstStep (fun here next => here < next) index xs, some d) := by
  induction xs generalizing index with
  | nil => rfl
  | cons here rest ih =>
      cases rest with
      | nil => rfl
      | cons next rest =>
          rw [directionLoop, firstStep]
          by_cases hrise : here < next
          · rw [if_pos ⟨hrise, rfl⟩, if_pos hrise]
          · rw [if_neg fun h => hrise h.1, if_neg fun h => Option.some_ne_none d h.2,
              if_neg hrise]
            exact ih (index + 1)

/-- A step does not rise and fall. -/
theorem not_falls_of_rises {a b : WithNan K} (h : a < b) : ¬ b < a := by
  obtain ⟨x, y, rfl, rfl, hlt⟩ := WithNan.exists_num_of_lt h
  exact not_lt_of_gt hlt

/-! ## Where the starts are found -/

section Found

variable {lats : List (WithNan K)}

/-- A track of one record has no direction. -/
theorem startsFound_of_short (h : lats.length < 2) : StartsFound lats := by
  have hstart : findOrbitDirections lats = (none, none) := by
    match lats, h with
    | [], _ => rfl
    | [_], _ => rfl
  have hnone : ∀ (r : WithNan K → WithNan K → Prop) (i : ℕ), ¬ StepWhere r lats i := by
    intro r i hstep
    have hlt := hstep.lt_length
    omega
  constructor
  · rw [hstart]
    exact hnone _
  · rw [hstart]
    exact hnone _

variable {first second : WithNan K} {rest : List (WithNan K)}

theorem rises_zero : Rises (first :: second :: rest) 0 ↔ first < second := stepWhere_iff rfl rfl

theorem falls_zero : Falls (first :: second :: rest) 0 ↔ second < first := stepWhere_iff rfl rfl

/-- **Where the directions are found**: exactly on the tracks of fewer than two records
and on those whose first step rises or falls. -/
theorem startsFound_iff (lats : List (WithNan K)) :
    StartsFound lats ↔ lats.length < 2 ∨ Rises lats 0 ∨ Falls lats 0 := by
  match lats with
  | [] => exact ⟨fun _ => .inl Nat.zero_lt_two, fun _ => startsFound_of_short Nat.zero_lt_two⟩
  | [x] => exact ⟨fun _ => .inl Nat.one_lt_two, fun _ => startsFound_of_short Nat.one_lt_two⟩
  | first :: second :: rest =>
      rw [rises_zero, falls_zero]
      by_cases hrise : first < second
      · have hrun : findOrbitDirections (first :: second :: rest) =
            (some 0, firstStep (fun here next => next < here) 1 (second :: rest)) := by
          rw [findOrbitDirections, if_pos hrise, directionLoop_ascending]
        refine ⟨fun _ => .inr (.inl hrise), fun _ => ⟨?_, ?_⟩⟩
        · rw [hrun]
          exact isFirst_zero (rises_zero.mpr hrise)
        · rw [hrun]
          exact isFirst_from_one (not_falls_of_rises hrise)
      · have hrun : findOrbitDirections (first :: second :: rest) =
            (firstStep (fun here next => here < next) 1 (second :: rest), some 0) := by
          rw [findOrbitDirections, if_neg hrise, directionLoop_descending]
        constructor
        · intro h
          -- a start at record 0 is the least index only if the first step falls
          have hfirst := h.descending
          rw [hrun] at hfirst
          exact .inr (.inr (falls_zero.mp hfirst.1))
        · rintro (hshort | h | hfall)
          · simp only [List.length_cons] at hshort
            omega
          · exact absurd h hrise
          · constructor
            · rw [hrun]
              exact isFirst_from_one hrise
            · rw [hrun]
              exact isFirst_zero (falls_zero.mpr hfall)

end Found

/-- **A flat first step is taken for a descent**: of the latitudes 70, 70, 71 the
descending part starts at record 0, though they never fall. -/
theorem findOrbitDirections_flat_start :
    findOrbitDirections [WithNan.num (70 : ℚ), .num 70, .num 71] = (some 1, some 0) ∧
      (∀ i, ¬ Falls [WithNan.num (70 : ℚ), .num 70, .num 71] i) ∧
      ¬ StartsFound [WithNan.num (70 : ℚ), .num 70, .num 71] := by
  have hrun : findOrbitDirections [WithNan.num (70 : ℚ), .num 70, .num 71] =
      (some 1, some 0) := by decide
  refine ⟨hrun, ?_, ?_⟩
  · intro i hfall
    have hlt : i + 1 < 3 := hfall.lt_length
    obtain rfl | rfl : i = 0 ∨ i = 1 := by omega
    · exact absurd (falls_zero.mp hfall) (lt_irrefl (70 : ℚ))
    · have hstep : (71 : ℚ) < 70 := (stepWhere_iff rfl rfl).mp hfall
      norm_num at hstep
  · intro h
    have hfirst := h.descending
    rw [hrun] at hfirst
    exact absurd (falls_zero.mp hfirst.1) (lt_irrefl (70 : ℚ))

end Clev2er.Cryotempo
