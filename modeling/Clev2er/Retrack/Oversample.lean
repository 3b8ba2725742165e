import Clev2er.Lib.ForEach
import Clev2er.Lib.WithNan
import Mathlib.Algebra.Order.Floor.Semiring
import Mathlib.Data.Rat.Floor
import Mathlib.Tactic.FieldSimp
import Mathlib.Tactic.Linarith
import Mathlib.Tactic.Ring

/-!
# Oversampling a waveform and its gradient

Both retrackers resample the (smoothed) waveform with `np.interp` at
`waveform_size * wf_oversampling_factor` evenly spaced positions and
differentiate the samples with `np.gradient`. Bins that the smoothing left at
zero were set to NaN before, so samples may be NaN.

`gradient_num` is the fact the leading-edge search rests on: with two or more
samples a bin, a sample whose gradient is a number is a number itself, since
every NaN sample has a NaN neighbour.
-/

namespace Clev2er.Retrack

open Clev2er.Lib

/-- One sample of a waveform. -/
abbrev Sample := WithNan ℚ

/-! ## `np.interp` and `np.gradient` -/

/-- `np.linspace(0, n - 1, n * f)[j]`: the bin position of sample `j`. -/
def binPosition (n f j : Nat) : ℚ := (j : ℚ) * (((n - 1 : Nat) : ℚ) / ((n * f - 1 : Nat) : ℚ))

/-- `np.interp(x, [0, 1, ..], bins)` at one position: the last bin from there on,
a bin's own value at its position, the line between two bins elsewhere. -/
def interpBins (bins : List Sample) (x : ℚ) : Sample :=
  let k := ⌊x⌋₊
  if bins.length ≤ k + 1 then bins.getD (bins.length - 1) .nan
  else if x = k then bins.getD k .nan
  else
    let slope := bins.getD (k + 1) .nan - bins.getD k .nan
    slope * .num (x - k) + bins.getD k .nan

/-- The number of samples. -/
def sampleCount (bins : List Sample) (f : Nat) : Nat := bins.length * f

/-- Sample `j` of the oversampled waveform. -/
def sampleAt (bins : List Sample) (f j : Nat) : Sample :=
  interpBins bins (binPosition bins.length f j)

/-- `np.interp(wf_bin_numi, wf_bin_num, bins)`. -/
def oversample (bins : List Sample) (f : Nat) : List Sample :=
  (List.range (sampleCount bins f)).map (sampleAt bins f)

/-- Entry `j` of `np.gradient(ys, h)`: central differences, one-sided at both
ends. -/
def gradientAt (ys : List Sample) (h : ℚ) (j : Nat) : Sample :=
  if j = 0 then (ys.getD 1 .nan - ys.getD 0 .nan) / .num h
  else if j + 1 = ys.length then (ys.getD j .nan - ys.getD (j - 1) .nan) / .num h
  else (ys.getD (j + 1) .nan - ys.getD (j - 1) .nan) / .num (2 * h)

/-- `np.gradient(ys, h)`, for two or more samples. -/
def gradient (ys : List Sample) (h : ℚ) : List Sample :=
  (List.range ys.length).map (gradientAt ys h)

/-- `wfnorm_sm[wfnorm_sm == 0] = np.nan`. -/
def zeroToNan (bins : List ℚ) : List Sample :=
  bins.map (fun q => if q = 0 then .nan else .num q)

/-! ## Reading the arrays -/

@[simp] theorem length_oversample (bins : List Sample) (f : Nat) :
    (oversample bins f).length = sampleCount bins f := by
  simp [oversample]

@[simp] theorem length_zeroToNan (bins : List ℚ) : (zeroToNan bins).length = bins.length := by
  simp [zeroToNan]

theorem oversample_getD (bins : List Sample) {f j : Nat} (hj : j < sampleCount bins f) :
    (oversample bins f).getD j .nan = sampleAt bins f j :=
  getD_map_range _ hj _

theorem gradient_getD (ys : List Sample) (h : ℚ) {j : Nat} (hj : j < ys.length) :
    (gradient ys h).getD j .nan = gradientAt ys h j :=
  getD_map_range _ hj _

/-! ## Positions -/

section Positions

variable {n f : Nat}

theorem binPosition_nonneg (n f j : Nat) : 0 ≤ binPosition n f j := by
  unfold binPosition
  positivity

theorem binPosition_mono {i j : Nat} (hij : i ≤ j) : binPosition n f i ≤ binPosition n f j := by
  unfold binPosition
  exact mul_le_mul_of_nonneg_right (Nat.cast_le.mpr hij) (by positivity)

theorem binPosition_succ (n f j : Nat) :
    binPosition n f (j + 1) = binPosition n f j + binPosition n f 1 := by
  unfold binPosition
  push_cast
  ring

/-- Samples lie less than half a bin apart. -/
theorem two_mul_spacing_lt_one (hn : 0 < n) (hf : 2 ≤ f) : 2 * binPosition n f 1 < 1 := by
  have hle : 2 * n ≤ n * f := by
    rw [Nat.mul_comm 2 n]
    exact Nat.mul_le_mul_left n hf
  have hpos : (0 : ℚ) < ((n * f - 1 : Nat) : ℚ) := by
    rw [Nat.cast_pos]
    omega
  have hlt : ((2 * (n - 1) : Nat) : ℚ) < ((n * f - 1 : Nat) : ℚ) := by
    rw [Nat.cast_lt]
    omega
  push_cast at hlt
  unfold binPosition
  rw [Nat.cast_one, one_mul, ← mul_div_assoc, div_lt_one hpos]
  exact hlt

theorem binPosition_lt_binPosition (hn : 2 ≤ n) (hf : 0 < f) {i j : Nat} (hij : i < j) :
    binPosition n f i < binPosition n f j := by
  have hle : n * 1 ≤ n * f := Nat.mul_le_mul_left n hf
  have hnum : (0 : ℚ) < ((n - 1 : Nat) : ℚ) := Nat.cast_pos.mpr (by omega)
  have hden : (0 : ℚ) < ((n * f - 1 : Nat) : ℚ) := Nat.cast_pos.mpr (by omega)
  unfold binPosition
  exact mul_lt_mul_of_pos_right (Nat.cast_lt.mpr hij) (div_pos hnum hden)

theorem binPosition_lt_iff (hn : 2 ≤ n) (hf : 0 < f) {i j : Nat} :
    binPosition n f i < binPosition n f j ↔ i < j := by
  refine ⟨fun h => ?_, binPosition_lt_binPosition hn hf⟩
  by_contra hle
  rcases Nat.lt_or_eq_of_le (Nat.le_of_not_lt hle) with hlt | heq
  · exact absurd h (lt_asymm (binPosition_lt_binPosition hn hf hlt))
  · rw [heq] at h
    exact absurd h (lt_irrefl _)

theorem binPosition_injective (hn : 2 ≤ n) (hf : 0 < f) {i j : Nat}
    (h : binPosition n f i = binPosition n f j) : i = j := by
  rcases Nat.lt_trichotomy i j with hlt | heq | hgt
  · exact absurd h (ne_of_lt (binPosition_lt_binPosition hn hf hlt))
  · exact heq
  · exact absurd h (ne_of_gt (binPosition_lt_binPosition hn hf hgt))

/-- Every sample before the last lies before the last bin. -/
theorem binPosition_lt_last (hn : 2 ≤ n) {j : Nat} (hj : j + 1 < n * f) :
    binPosition n f j < ((n - 1 : Nat) : ℚ) := by
  have hnum : (0 : ℚ) < ((n - 1 : Nat) : ℚ) := Nat.cast_pos.mpr (by omega)
  have hden : (0 : ℚ) < ((n * f - 1 : Nat) : ℚ) := Nat.cast_pos.mpr (by omega)
  have hlt : (j : ℚ) < ((n * f - 1 : Nat) : ℚ) := Nat.cast_lt.mpr (by omega)
  unfold binPosition
  rw [← mul_div_assoc, div_lt_iff₀ hden, mul_comm]
  exact mul_lt_mul_of_pos_left hlt hnum

theorem binPosition_le_last {j : Nat} (hj : j < n * f) :
    binPosition n f j ≤ ((n - 1 : Nat) : ℚ) := by
  have hnum : (0 : ℚ) ≤ ((n - 1 : Nat) : ℚ) := Nat.cast_nonneg _
  have hle : (j : ℚ) ≤ ((n * f - 1 : Nat) : ℚ) := Nat.cast_le.mpr (by omega)
  unfold binPosition
  rcases Nat.eq_zero_or_pos (n * f - 1) with hzero | hpos
  · rw [hzero, Nat.cast_zero, div_zero, mul_zero]
    exact hnum
  · have hden : (0 : ℚ) < ((n * f - 1 : Nat) : ℚ) := Nat.cast_pos.mpr hpos
    rw [← mul_div_assoc, div_le_iff₀ hden, mul_comm]
    exact mul_le_mul_of_nonneg_left hle hnum

end Positions

/-! ## Where the samples are NaN -/

section Nan

variable {bins : List Sample} {f j k : Nat} {x : ℚ}

/-- From a NaN bin up to the next one. -/
theorem interpBins_nan_of_left (hk : k + 1 < bins.length) (hnan : bins.getD k .nan = .nan)
    (hle : (k : ℚ) ≤ x) (hlt : x < k + 1) : interpBins bins x = .nan := by
  have hfloor : ⌊x⌋₊ = k := (Nat.floor_eq_iff (le_trans (Nat.cast_nonneg k) hle)).mpr ⟨hle, hlt⟩
  simp only [interpBins, hfloor, hnan]
  rw [if_neg (by omega)]
  split <;> simp

/-- From a bin up to a NaN bin. -/
theorem interpBins_nan_of_right (hk : k + 1 < bins.length)
    (hnan : bins.getD (k + 1) .nan = .nan) (hlt : (k : ℚ) < x) (hle : x ≤ k + 1) :
    interpBins bins x = .nan := by
  have hx : 0 ≤ x := le_trans (Nat.cast_nonneg k) hlt.le
  rcases lt_or_eq_of_le hle with hlt' | heq
  · have hfloor : ⌊x⌋₊ = k := (Nat.floor_eq_iff hx).mpr ⟨hlt.le, hlt'⟩
    simp only [interpBins, hfloor, hnan]
    rw [if_neg (by omega), if_neg (ne_of_gt hlt)]
    simp
  · have hxk : x = ((k + 1 : Nat) : ℚ) := by
      rw [heq]
      push_cast
      rfl
    have hfloor : ⌊x⌋₊ = k + 1 := by rw [hxk, Nat.floor_natCast]
    simp only [interpBins, hfloor, hnan]
    by_cases hlast : bins.length ≤ k + 1 + 1
    · rw [if_pos hlast, show bins.length - 1 = k + 1 by omega, hnan]
    · rw [if_neg hlast, if_pos hxk]

/-- A NaN sample that is not the last comes from a NaN bin at its position or on
one of its two sides. -/
theorem nan_bin_of_interpBins_nan (hx : 0 ≤ x) (hlast : x < ((bins.length - 1 : Nat) : ℚ))
    (hnan : interpBins bins x = .nan) :
    ∃ k, k + 1 < bins.length ∧ (k : ℚ) ≤ x ∧ x < k + 1 ∧
      (bins.getD k .nan = .nan ∨ ((k : ℚ) < x ∧ bins.getD (k + 1) .nan = .nan)) := by
  have hle : (⌊x⌋₊ : ℚ) ≤ x := Nat.floor_le hx
  have hk : ⌊x⌋₊ < bins.length - 1 := (Nat.floor_lt hx).mpr hlast
  refine ⟨⌊x⌋₊, by omega, hle, Nat.lt_floor_add_one x, ?_⟩
  simp only [interpBins] at hnan
  rw [if_neg (by omega)] at hnan
  by_cases hx' : x = ⌊x⌋₊
  · rw [if_pos hx'] at hnan
    exact Or.inl hnan
  · rw [if_neg hx'] at hnan
    have hlt : (⌊x⌋₊ : ℚ) < x := lt_of_le_of_ne hle (Ne.symm hx')
    cases hleft : bins.getD ⌊x⌋₊ .nan with
    | nan => exact Or.inl rfl
    | num a =>
        cases hright : bins.getD (⌊x⌋₊ + 1) .nan with
        | nan => exact Or.inr ⟨hlt, rfl⟩
        | num b =>
            rw [hleft, hright] at hnan
            exact absurd hnan nofun

/-- **A NaN sample has a NaN neighbour** as soon as a bin holds two samples: a
NaN bin makes the whole stretch to the next bin NaN, and that stretch is wider
than two steps. -/
theorem nan_neighbour (hf : 2 ≤ f) (hj : 0 < j) (hj' : j + 1 < sampleCount bins f)
    (hnan : sampleAt bins f j = .nan) :
    sampleAt bins f (j - 1) = .nan ∨ sampleAt bins f (j + 1) = .nan := by
  have hn : 0 < bins.length := by
    rcases Nat.eq_zero_or_pos bins.length with h | h
    · rw [sampleCount, h, Nat.zero_mul] at hj'
      omega
    · exact h
  obtain ⟨i, rfl⟩ : ∃ i, j = i + 1 := ⟨j - 1, by omega⟩
  rw [Nat.add_sub_cancel]
  by_cases hone : bins.length = 1
  · -- a single bin: every sample is that bin
    left
    have hzero : ∀ i, binPosition bins.length f i = 0 := by
      intro i
      simp [binPosition, hone]
    unfold sampleAt at hnan ⊢
    rw [hzero] at hnan ⊢
    exact hnan
  -- two steps are shorter than the stretch, so it holds one of the neighbours
  have hspace := two_mul_spacing_lt_one hn hf
  have hprev := binPosition_succ bins.length f i
  have hnext := binPosition_succ bins.length f (i + 1)
  have hpos := binPosition_nonneg bins.length f 1
  obtain ⟨k, hk, hle, hlt, hbin⟩ := nan_bin_of_interpBins_nan
    (binPosition_nonneg bins.length f (i + 1)) (binPosition_lt_last (by omega) hj') hnan
  unfold sampleAt
  rcases hbin with hleft | ⟨hlt', hright⟩
  · by_cases hback : (k : ℚ) ≤ binPosition bins.length f i
    · left
      exact interpBins_nan_of_left hk hleft hback (by linarith)
    · right
      exact interpBins_nan_of_left hk hleft (by linarith) (by linarith)
  · by_cases hback : (k : ℚ) < binPosition bins.length f i
    · left
      exact interpBins_nan_of_right hk hright hback (by linarith)
    · right
      exact interpBins_nan_of_right hk hright (by linarith) (by linarith)

/-- **A gradient that is a number belongs to a sample that is a number.** -/
theorem gradient_num (hf : 2 ≤ f) {h : ℚ} (hj : j < sampleCount bins f)
    (hgrad : (gradient (oversample bins f) h).getD j .nan ≠ .nan) :
    (oversample bins f).getD j .nan ≠ .nan := by
  intro hnan
  apply hgrad
  rw [gradient_getD _ _ (by simpa using hj)]
  unfold gradientAt
  rw [length_oversample]
  -- one-sided differences at the ends, a central one between them
  by_cases hzero : j = 0
  · subst hzero
    rw [if_pos rfl, hnan, WithNan.sub_nan, WithNan.nan_div]
  rw [if_neg hzero]
  by_cases hlast : j + 1 = sampleCount bins f
  · rw [if_pos hlast, hnan, WithNan.nan_sub, WithNan.nan_div]
  rw [if_neg hlast]
  rw [oversample_getD bins hj] at hnan
  rw [oversample_getD bins (by omega : j + 1 < _), oversample_getD bins (by omega : j - 1 < _)]
  rcases nan_neighbour hf (by omega) (by omega) hnan with hprev | hnext
  · rw [hprev, WithNan.sub_nan, WithNan.nan_div]
  · rw [hnext, WithNan.nan_sub, WithNan.nan_div]

end Nan

/-! ## Where the samples are positive -/

section Positive

variable {bins : List ℚ}

end Positive

end Clev2er.Retrack
