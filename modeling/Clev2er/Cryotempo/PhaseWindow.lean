import Clev2er.Cryotempo.GeolocateLepta
import Clev2er.Cryotempo.SarinPhase
import Clev2er.Lib.Unwrap
import Mathlib.Algebra.Order.Archimedean.Basic

/-!
# `extract_phase_window`

The phases of a window, unwrapped, with whole turns added until their median lies within
half a turn of zero. `extractPhaseWindow_unwrapped` says that the loops end, and what the
window is then.
-/

namespace Clev2er.Cryotempo

open Clev2er.Lib Clev2er.Retrack Clev2er.Uncertainty AddCommGroup

/-! ## numpy functions -/

/-- `np.pi`, the double. -/
def npPi : ℚ := 884279719003555 / 281474976710656

theorem npPi_pos : 0 < npPi := by norm_num [npPi]

/-- `np.mod(x, p)`. -/
def npMod (x : Sample) (p : ℚ) : Sample := x.map fun x => x - p * ⌊x / p⌋

/-- `np.cumsum`, after a sum. -/
def cumsumFrom (sum : Sample) : List Sample → List Sample
  | [] => []
  | x :: xs => (sum + x) :: cumsumFrom (sum + x) xs

/-- `ph_correct` of `np.unwrap`, of a difference. -/
def phCorrect (dd : Sample) : Sample :=
  let ddmod := npMod (dd + .num npPi) (2 * npPi) - .num npPi
  let ddmod := if ddmod = .num (-npPi) ∧ .num 0 < dd then .num npPi else ddmod
  if dd.map abs < .num npPi then .num 0 else ddmod - dd

/-- `np.unwrap`. -/
def npUnwrap (p : List Sample) : List Sample :=
  match p with
  | [] => []
  | x :: xs =>
      let dd := List.zipWith (· - ·) xs (x :: xs)
      x :: List.zipWith (· + ·) xs (cumsumFrom (.num 0) (dd.map phCorrect))

/-! ## The function -/

/-- `while np.median(phase_o) < -np.pi`, at most `fuel` times. -/
def raisePhase : Nat → List Sample → Option (List Sample)
  | 0, phase => if npMedian phase < .num (-npPi) then none else some phase
  | fuel + 1, phase =>
      if npMedian phase < .num (-npPi) then
        raisePhase fuel (phase.map fun v => v + .num (2 * npPi))
      else some phase

/-- `while np.median(phase_o) > np.pi`. -/
def lowerPhase : Nat → List Sample → Option (List Sample)
  | 0, phase => if .num npPi < npMedian phase then none else some phase
  | fuel + 1, phase =>
      if .num npPi < npMedian phase then
        lowerPhase fuel (phase.map fun v => v - .num (2 * npPi))
      else some phase

/-- `extract_phase_window`; `none` if a loop has not ended. -/
def extractPhaseWindow (fuel : Nat) (phaseIn : List Sample) (phaseWindowStart phaseWindowWidth : Int)
    (unwrap : Bool) : Option (List Sample) :=
  let phase := pySlice phaseIn phaseWindowStart (phaseWindowStart + phaseWindowWidth)
  if unwrap then (raisePhase fuel (npUnwrap phase)).bind (lowerPhase fuel) else some phase

/-! ## Unwrapping -/

theorem phCorrect_num (d : ℚ) : phCorrect (.num d) = .num (unwrapStep npPi d - d) := by
  have hmod : npMod (.num d + .num npPi) (2 * npPi) - .num npPi = .num (wrapped npPi d) := by
    rw [wrapped, ← two_mul]
    rfl
  rw [phCorrect]
  simp only [hmod, WithNan.map_num, WithNan.num_lt_num, WithNan.num.injEq]
  unfold unwrapStep
  split
  · simp
  · split <;> rfl

theorem unwrapFrom_num (x c : ℚ) (xs : List ℚ) :
    List.zipWith (· + ·) (xs.map WithNan.num) (cumsumFrom (.num c)
      ((List.zipWith (· - ·) (xs.map WithNan.num) ((x :: xs).map WithNan.num)).map phCorrect)) =
      (unwrapFrom npPi x (x + c) xs).map .num := by
  induction xs generalizing x c with
  | nil => rfl
  | cons x' xs ih =>
      have hvalue : x' + (c + (unwrapStep npPi (x' - x) - (x' - x))) =
          x + c + unwrapStep npPi (x' - x) := by ring
      have hrest := ih x' (c + (unwrapStep npPi (x' - x) - (x' - x)))
      rw [hvalue] at hrest
      simp only [List.map_cons, List.zipWith_cons_cons, cumsumFrom, WithNan.num_sub_num,
        phCorrect_num, WithNan.num_add_num, hvalue]
      exact congrArg _ hrest

/-- On numbers, `np.unwrap` adds whole turns. -/
theorem npUnwrap_num (xs : List ℚ) : npUnwrap (xs.map .num) = (unwrap npPi xs).map .num := by
  cases xs with
  | nil => rfl
  | cons x xs =>
      have hrest := unwrapFrom_num x 0 xs
      rw [add_zero] at hrest
      exact congrArg _ hrest

/-! ## The median -/

theorem sortedNumbers_num (xs : List ℚ) :
    sortedNumbers (xs.map WithNan.num) = xs.mergeSort fun x y => decide (x ≤ y) := by
  rw [sortedNumbers, List.filterMap_map]
  congr 1
  exact List.filterMap_some

theorem npMedian_num (xs : List ℚ) : npMedian (xs.map .num) = median (xs.map WithNan.num) := by
  have hnum : (xs.map WithNan.num).any WithNan.isNan = false := by
    simp [List.any_map, Function.comp_def]
  rw [npMedian, hnum]
  rfl

/-- A window of phases has a median. -/
theorem exists_npMedian {xs : List ℚ} (hne : xs ≠ []) : ∃ m, npMedian (xs.map .num) = .num m := by
  have hpos : 0 < xs.length := List.length_pos_iff.mpr hne
  rw [npMedian_num, median, sortedNumbers_num]
  simp only [List.length_mergeSort]
  rw [List.getElem?_eq_getElem (by rw [List.length_mergeSort]; omega),
    List.getElem?_eq_getElem (by rw [List.length_mergeSort]; omega)]
  exact ⟨_, rfl⟩

/-- The median moves with the phases. -/
theorem npMedian_shift {xs : List ℚ} {m : ℚ} (hm : npMedian (xs.map .num) = .num m) (c : ℚ) :
    npMedian ((xs.map (· + c)).map .num) = .num (m + c) := by
  have hsort : (xs.map (· + c)).mergeSort (fun x y => decide (x ≤ y)) =
      (xs.mergeSort fun x y => decide (x ≤ y)).map (· + c) := by
    refine (List.map_mergeSort ?_).symm
    intro a _ b _
    simp
  rw [npMedian_num, median, sortedNumbers_num] at hm ⊢
  rw [hsort]
  simp only [List.length_map, List.getElem?_map] at hm ⊢
  split at hm
  · next low high hlow hhigh =>
    obtain rfl := WithNan.num.inj hm
    rw [hlow, hhigh]
    simp only [Option.map_some, WithNan.num.injEq]
    push_cast
    ring
  · cases hm

/-! ## The loops -/

section Loops

variable {xs : List ℚ} {m : ℚ}

theorem map_shift (xs : List ℚ) (a b : ℚ) :
    (xs.map (· + a)).map (· + b) = xs.map (· + (a + b)) := by
  rw [List.map_map]
  exact List.map_congr_left fun x _ => add_assoc x a b

theorem shift_num (xs : List ℚ) (c : ℚ) :
    (xs.map WithNan.num).map (fun v => v + .num c) = (xs.map (· + c)).map .num := by
  rw [List.map_map, List.map_map]
  rfl

theorem shift_neg_num (xs : List ℚ) (c : ℚ) :
    (xs.map WithNan.num).map (fun v => v - .num c) = (xs.map (· + -c)).map .num := by
  rw [List.map_map, List.map_map]
  apply List.map_congr_left
  intro x _
  exact congrArg _ (sub_eq_add_neg x c)

theorem raisePhase_done {phase : List Sample} (hstop : ¬ npMedian phase < .num (-npPi))
    (fuel : ℕ) : raisePhase fuel phase = some phase := by
  cases fuel with
  | zero => rw [raisePhase, if_neg hstop]
  | succ _ => rw [raisePhase, if_neg hstop]

theorem lowerPhase_done {phase : List Sample} (hstop : ¬ .num npPi < npMedian phase)
    (fuel : ℕ) : lowerPhase fuel phase = some phase := by
  cases fuel with
  | zero => rw [lowerPhase, if_neg hstop]
  | succ _ => rw [lowerPhase, if_neg hstop]

/-- **The first loop** ends with a median of `-npPi` at least, and below `npPi` if it has
added a turn. -/
theorem raisePhase_ends (n : ℕ) (hm : npMedian (xs.map .num) = .num m)
    (hn : -npPi ≤ m + n * (2 * npPi)) :
    ∃ k : ℕ, (∀ fuel, n ≤ fuel → raisePhase fuel (xs.map .num) =
        some ((xs.map (· + k * (2 * npPi))).map .num)) ∧
      -npPi ≤ m + k * (2 * npPi) ∧ (k = 0 ∨ m + k * (2 * npPi) < npPi) := by
  induction n generalizing xs m with
  | zero =>
      have hstop : ¬ npMedian (xs.map .num) < .num (-npPi) := by
        rw [hm, WithNan.num_lt_num, not_lt]
        simpa using hn
      refine ⟨0, ?_, by simpa using hn, .inl rfl⟩
      intro fuel _
      simpa using raisePhase_done hstop fuel
  | succ n ih =>
      by_cases hlow : m < -npPi
      · have hgo : npMedian (xs.map .num) < .num (-npPi) := by
          rw [hm]
          exact hlow
        obtain ⟨k, hloop, hge, hlt⟩ := ih (npMedian_shift hm (2 * npPi)) (by push_cast at hn; linarith)
        refine ⟨k + 1, ?_, by push_cast; linarith, .inr ?_⟩
        · intro fuel hfuel
          obtain ⟨fuel, rfl⟩ := Nat.exists_eq_add_of_le' (le_trans (Nat.le_add_left 1 n) hfuel)
          rw [raisePhase, if_pos hgo, shift_num, hloop fuel (by omega), map_shift]
          push_cast
          rw [add_mul, one_mul, add_comm (2 * npPi)]
        · rcases hlt with rfl | hlt
          · push_cast
            linarith
          · push_cast
            linarith
      · have hstop : ¬ npMedian (xs.map .num) < .num (-npPi) := by
          rw [hm]
          exact hlow
        refine ⟨0, ?_, by simpa using not_lt.mp hlow, .inl rfl⟩
        intro fuel _
        simpa using raisePhase_done hstop fuel

/-- **The second loop** ends with a median of at most half a turn. -/
theorem lowerPhase_ends (n : ℕ) (hm : npMedian (xs.map .num) = .num m) (hlow : -npPi ≤ m)
    (hn : m ≤ npPi + n * (2 * npPi)) :
    ∃ k : ℕ, (∀ fuel, n ≤ fuel → lowerPhase fuel (xs.map .num) =
        some ((xs.map (· + -(k * (2 * npPi)))).map .num)) ∧
      |m - k * (2 * npPi)| ≤ npPi := by
  induction n generalizing xs m with
  | zero =>
      have hhigh : m ≤ npPi := by simpa using hn
      have hstop : ¬ .num npPi < npMedian (xs.map .num) := by
        rw [hm]
        exact not_lt.mpr hhigh
      refine ⟨0, ?_, by simpa using abs_le.mpr ⟨hlow, hhigh⟩⟩
      intro fuel _
      simpa using lowerPhase_done hstop fuel
  | succ n ih =>
      by_cases hhigh : npPi < m
      · have hgo : .num npPi < npMedian (xs.map .num) := by
          rw [hm]
          exact hhigh
        obtain ⟨k, hloop, hk⟩ := ih (npMedian_shift hm (-(2 * npPi))) (by linarith)
          (by push_cast at hn; linarith)
        refine ⟨k + 1, ?_, ?_⟩
        · intro fuel hfuel
          obtain ⟨fuel, rfl⟩ := Nat.exists_eq_add_of_le' (le_trans (Nat.le_add_left 1 n) hfuel)
          rw [lowerPhase, if_pos hgo, shift_neg_num, hloop fuel (by omega), map_shift]
          push_cast
          rw [add_mul, one_mul, neg_add, add_comm (-(2 * npPi))]
        · have hsplit : m - ((k + 1 : ℕ) : ℚ) * (2 * npPi) = m + -(2 * npPi) - k * (2 * npPi) := by
            push_cast
            ring
          rwa [hsplit]
      · have hstop : ¬ .num npPi < npMedian (xs.map .num) := by
          rw [hm]
          exact hhigh
        refine ⟨0, ?_, by simpa using abs_le.mpr ⟨hlow, not_lt.mp hhigh⟩⟩
        intro fuel _
        simpa using lowerPhase_done hstop fuel

end Loops

/-! ## The window -/

/-- Phases that are those of a window up to whole turns, that go on by half a turn at most
from one to the next, and whose median is within half a turn of zero. -/
structure UnwrappedWindow (xs ys : List ℚ) : Prop where
  sameModulo : SameModulo (2 * npPi) xs ys
  steps : StepsUpTo npPi ys
  median : ∃ m, npMedian (ys.map .num) = .num m ∧ |m| ≤ npPi

/-- The loops end, with whole turns added. -/
theorem loops_end {ys : List ℚ} (hne : ys ≠ []) :
    ∃ (k : ℤ) (n : ℕ) (m : ℚ), (∀ fuel, n ≤ fuel →
        (raisePhase fuel (ys.map .num)).bind (lowerPhase fuel) =
          some ((ys.map (· + k • (2 * npPi))).map .num)) ∧
      npMedian ((ys.map (· + k • (2 * npPi))).map .num) = .num m ∧ |m| ≤ npPi := by
  have hperiod : 0 < 2 * npPi := mul_pos two_pos npPi_pos
  -- the first loop
  obtain ⟨m, hm⟩ := exists_npMedian hne
  obtain ⟨n, hn⟩ := exists_nat_ge ((-npPi - m) / (2 * npPi))
  rw [div_le_iff₀ hperiod] at hn
  obtain ⟨k, hraise, hlow, -⟩ := raisePhase_ends n hm (by linarith)
  -- the second loop
  have hm' := npMedian_shift hm (k * (2 * npPi))
  obtain ⟨n', hn'⟩ := exists_nat_ge ((m + k * (2 * npPi) - npPi) / (2 * npPi))
  rw [div_le_iff₀ hperiod] at hn'
  obtain ⟨k', hlower, hmedian⟩ := lowerPhase_ends n' hm' hlow (by linarith)
  have hturns : k * (2 * npPi) + -(k' * (2 * npPi)) = ((k : ℤ) - k') • (2 * npPi) := by
    rw [zsmul_eq_mul]
    push_cast
    ring
  refine ⟨(k : ℤ) - k', max n n', m + ((k : ℤ) - k') • (2 * npPi), ?_, npMedian_shift hm _, ?_⟩
  · intro fuel hfuel
    rw [hraise fuel (le_trans (le_max_left _ _) hfuel), Option.bind_some,
      hlower fuel (le_trans (le_max_right _ _) hfuel), map_shift, hturns]
  · rwa [← hturns, ← add_assoc, ← sub_eq_add_neg]

/-- **A window of phases** is unwrapped, and the loops end. No other phases that agree with
those of the window up to whole turns go on by less than half a turn and have a median
below half a turn; so the result does not depend on the turns that the phases come with. -/
theorem extractPhaseWindow_unwrapped {phaseIn : List Sample} {phaseWindowStart phaseWindowWidth : Int}
    {xs : List ℚ} (hne : xs ≠ [])
    (hwindow : pySlice phaseIn phaseWindowStart (phaseWindowStart + phaseWindowWidth) =
      xs.map .num) :
    ∃ ys, (∃ n, ∀ fuel, n ≤ fuel →
        extractPhaseWindow fuel phaseIn phaseWindowStart phaseWindowWidth true =
          some (ys.map .num)) ∧
      UnwrappedWindow xs ys ∧
      ∀ zs m, SameModulo (2 * npPi) xs zs → StepsBelow npPi zs →
        npMedian (zs.map .num) = .num m → |m| < npPi → zs = ys := by
  have hunwrap : SameModulo (2 * npPi) xs (unwrap npPi xs) := unwrap_sameModulo xs
  have hsteps := unwrap_steps npPi_pos xs
  have hne' : unwrap npPi xs ≠ [] := by
    intro hnil
    rw [hnil] at hunwrap
    cases hunwrap
    exact hne rfl
  obtain ⟨k, n, m, hloops, hmedian, hbound⟩ := loops_end hne'
  have hsame := hunwrap.trans (sameModulo_shift (2 * npPi) k (unwrap npPi xs))
  have hsteps' := stepsUpTo_shift hsteps (k • (2 * npPi))
  refine ⟨_, ⟨n, fun fuel hfuel => ?_⟩, ⟨hsame, hsteps', m, hmedian, hbound⟩, ?_⟩
  · rw [extractPhaseWindow, hwindow, npUnwrap_num]
    exact hloops fuel hfuel
  · intro zs m' hzs hstepsZ hmedianZ hboundZ
    obtain ⟨j, rfl⟩ := eq_shift_of_sameModulo (hsame.symm.trans hzs) hsteps' hstepsZ
    -- the medians are less than a turn apart
    have hshift := (npMedian_shift hmedian (j • (2 * npPi))).symm.trans hmedianZ
    have hmod : (0 : ℚ) ≡ j • (2 * npPi) [PMOD 2 * npPi] := (zsmul_modEq_zero j).symm
    have hj : (0 : ℚ) = j • (2 * npPi) := by
      refine eq_of_modEq hmod ?_
      have heq := WithNan.num.inj hshift
      have htriangle := abs_sub m' m
      rw [sub_zero, show j • (2 * npPi) = m' - m by rw [← heq]; ring]
      linarith
    rw [← hj]
    simp

/-- Three phases about half a turn. -/
theorem extractPhaseWindow_unwrapped_three :
    ∃ ys, (∃ n, ∀ fuel, n ≤ fuel →
        extractPhaseWindow fuel [.num 0, .num 3, .num (-3), .num 3] 1 3 true =
          some (ys.map .num)) ∧
      UnwrappedWindow [3, -3, 3] ys ∧
      ∀ zs m, SameModulo (2 * npPi) [3, -3, 3] zs → StepsBelow npPi zs →
        npMedian (zs.map .num) = .num m → |m| < npPi → zs = ys :=
  extractPhaseWindow_unwrapped (List.cons_ne_nil _ _) rfl

end Clev2er.Cryotempo
