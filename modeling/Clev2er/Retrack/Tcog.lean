import Clev2er.Retrack.Retracker

/-!
# `retrack_tcog_waveforms_cs2`

The TCOG retracker for an array of waveforms (`waveforms=`), plots and debug
output left out. The row of one waveform, then the whole function with its
argument checks; `tcog_dichotomy` shows that every accepted call meets the
outcome dichotomy.
-/

namespace Clev2er.Retrack

open Clev2er.Lib

/-! ## The function -/

/-- The keyword arguments. -/
structure TcogSettings where
  retrackThresholdLrm : ℚ
  retrackThresholdSin : ℚ
  retrackSmoothWf : Bool
  savitskyGolaySmoothing : Bool
  savitskyGolayWidth : Nat
  savitskyGolayPolyOrder : Nat
  refBinIndLrm : ℚ
  refBinIndSin : ℚ
  wfOversamplingFactor : Nat
  noiseThreshold : ℚ
  leIdThreshold : ℚ
  leDpThreshold : ℚ
  factor_pos : 0 < wfOversamplingFactor

/-- The range check of one threshold. -/
def checkUnit (num : Numerics) (name : String) (value : ℚ) : Except PyExc Unit :=
  if value < 0 ∨ 1 < value then
    .error ⟨.valueError, name ++ " " ++ num.floatText value ++ " not between 0. and 1."⟩
  else .ok ()

/-- The argument checks, in order. -/
def checkTcogArgs (num : Numerics) (s : TcogSettings) : Except PyExc Unit := do
  checkUnit num "retrack_threshold_lrm" s.retrackThresholdLrm
  checkUnit num "retrack_threshold_sin" s.retrackThresholdSin
  checkUnit num "noise_threshold" s.noiseThreshold
  checkUnit num "le_dp_threshold" s.leDpThreshold

/-- `speed_of_light / (2 * bandwidth)`. -/
def rbinSizeLrm : ℚ := 299792458 / (2 * 320000000)

/-- `speed_of_light / (4 * bandwidth)`. -/
def rbinSizeSin : ℚ := 299792458 / (4 * 320000000)

/-- `np.max` of no samples. -/
def zeroSizeMaximum : PyExc :=
  ⟨.valueError, "zero-size array to reduction operation maximum which has no identity"⟩

/-- Smoothing of the normalised waveform. -/
def tcogSmooth (num : Numerics) (s : TcogSettings) (lrmMode : Bool) (wfnorm : List ℚ) :
    Except PyExc (List ℚ) :=
  if s.savitskyGolaySmoothing then
    match checkSavgol wfnorm.length s.savitskyGolayWidth s.savitskyGolayPolyOrder with
    | .error exc => .error exc
    | .ok () => .ok (num.savgolFilter wfnorm s.savitskyGolayWidth s.savitskyGolayPolyOrder)
  else
    match fastsmooth wfnorm (if lrmMode then 3 else 11) with
    | some wfnormSm => .ok wfnormSm
    | none => .error ⟨.other "IndexError", "index 1 is out of bounds for axis 0 with size 1"⟩

/-- `retrack_wf_threshold_tcog`: a share of the OCOG amplitude. -/
def tcogThreshold (num : Numerics) (s : TcogSettings) (lrmMode : Bool) (wfnorm : List ℚ) : ℚ :=
  let tcogAmp := num.sqrt ((wfnorm.map (fun q => q ^ 4)).sum / (wfnorm.map (fun q => q ^ 2)).sum)
  (if lrmMode then s.retrackThresholdLrm else s.retrackThresholdSin) * tcogAmp

/-- The first of `samples_above_threshold`: of the smoothed samples, or of the
plain ones behind the start of the leading edge. -/
def tcogIndex (s : TcogSettings) (e : EdgeInput) (wfi : List Sample) (threshold : ℚ)
    (leIndex : Nat) : Option Nat :=
  (List.range e.size).find? fun j =>
    if s.retrackSmoothWf then decide (.num threshold < e.wfiSm.getD j .nan)
    else decide (.num threshold < wfi.getD j .nan) &&
      decide (e.wfBinNumi.getD leIndex 0 < e.wfBinNumi.getD j 0)

/-- The retracking point of a waveform with a leading edge. -/
def tcogPoint (num : Numerics) (s : TcogSettings) (lrmMode : Bool) (e : EdgeInput)
    (wfnorm : List ℚ) (wfMax : ℚ) (edge : Edge) : Row :=
  let wfi := oversample (wfnorm.map .num) s.wfOversamplingFactor
  match tcogIndex s e wfi (tcogThreshold num s lrmMode wfnorm) edge.leIndex with
  | none => Row.initial.setFlag 5
  | some retrackIndTcog =>
      let value := (if s.retrackSmoothWf then e.wfiSm else wfi).getD retrackIndTcog .nan
      let row := { Row.initial with
        leadingEdgeStart :=
          (.num (e.wfBinNumi.getD edge.leIndex 0), e.wfiSm.getD edge.leIndex .nan)
        leadingEdgeStop :=
          (.num (e.wfBinNumi.getD edge.firstPeakInd 0), e.wfiSm.getD edge.firstPeakInd .nan) }
      row.storePoint (.num (e.wfBinNumi.getD retrackIndTcog 0)) value (value * .num wfMax)

/-- One waveform that is not skipped. -/
def tcogWaveform (num : Numerics) (s : TcogSettings) (lrmMode : Bool) (waveform : List ℚ) :
    Except PyExc Row :=
  match waveform.max? with
  | none => .error zeroSizeMaximum
  | some wfMax =>
      if wfMax = 0 then .ok (Row.initial.setFlag 0)
      else
        let wfnorm := waveform.map (fun q => q / wfMax)
        match tcogSmooth num s lrmMode wfnorm with
        | .error exc => .error exc
        | .ok wfnormSm =>
            let wfNoiseMean := noiseMean wfnorm
            if s.noiseThreshold < wfNoiseMean then .ok (Row.initial.setFlag 0)
            else
              let e := edgeInput wfnormSm s.wfOversamplingFactor wfNoiseMean s.leIdThreshold
              match searchLeadingEdge e s.leDpThreshold with
              | .flagged flag => .ok (Row.initial.setFlag flag.index)
              | .done none => .error leIndexUnbound
              | .done (some edge) => .ok (tcogPoint num s lrmMode e wfnorm wfMax edge)

/-- `include_measurements_array` after a `measurement_index` has replaced it. -/
def tcogIncluded (n : Nat) (measurementIndex : Option Nat)
    (includeMeasurementsArray : Option (List Bool)) : Option (List Bool) :=
  match measurementIndex with
  | some index => some ((List.replicate n false).set index true)
  | none => includeMeasurementsArray

/-- The waveforms the loop does not skip. Index 0 is false in
`if measurement_index:`, the inclusion array still leaves the others out. -/
def tcogSelected (n : Nat) (measurementIndex : Option Nat)
    (includeMeasurementsArray : Option (List Bool)) (i : Nat) : Bool :=
  (match measurementIndex with
    | some index => index == 0 || i == index
    | none => true) &&
  (match tcogIncluded n measurementIndex includeMeasurementsArray with
    | some included => included.getD i false
    | none => true)

/-- The checks of the two selecting arguments. -/
def checkTcogSelection (n : Nat) (measurementIndex : Option Nat)
    (includeMeasurementsArray : Option (List Bool)) : Except PyExc Unit :=
  if includeMeasurementsArray.any (fun included => included.length != n) then
    .error ⟨.other "InvalidArraySizeError", "include_measurements_array size " ++
      toString (includeMeasurementsArray.getD []).length ++
      "                      must be same dimensions as number of waveforms " ++ toString n⟩
  else if measurementIndex.any (fun index => decide (n ≤ index)) then
    .error ⟨.other "IndexError", "list assignment index out of range"⟩
  else .ok ()

/-- `retrack_tcog_waveforms_cs2(waveforms=..)`. -/
def retrackTcogWaveformsCs2 (num : Numerics) (s : TcogSettings) (wfs : WaveformArray)
    (measurementIndex : Option Nat) (includeMeasurementsArray : Option (List Bool)) :
    Except PyExc RetrackResult :=
  match checkTcogArgs num s with
  | .error exc => .error exc
  | .ok () =>
      if wfs.size ≠ 128 ∧ wfs.size ≠ 1024 then
        .error ⟨.valueError, "waveforms size must be (,128) for LRM or (,1024) for SIN"⟩
      else
        let lrmMode := wfs.size == 128
        match checkTcogSelection wfs.rows.length measurementIndex includeMeasurementsArray with
        | .error exc => .error exc
        | .ok () =>
            match retrackLoop (fun _ => tcogWaveform num s lrmMode)
                (tcogSelected wfs.rows.length measurementIndex includeMeasurementsArray) 0
                wfs.rows with
            | .error exc => .error exc
            | .ok rows =>
                finishRetrack rows
                  (fun i => match measurementIndex with
                    | some index => i == index
                    | none => true)
                  (if lrmMode then s.refBinIndLrm else s.refBinIndSin)
                  (if lrmMode then rbinSizeLrm else rbinSizeSin)

/-! ## One waveform -/

section Waveform

variable {num : Numerics} {s : TcogSettings} {lrmMode : Bool} {waveform wfnorm : List ℚ}

/-- The Savitzky-Golay filter, if it is used, accepts its window for `n` bins. -/
def TcogSettings.SmoothingAccepted (s : TcogSettings) (n : Nat) : Prop :=
  s.savitskyGolaySmoothing = true →
    SavgolAccepts n s.savitskyGolayWidth s.savitskyGolayPolyOrder

/-- **The smoothing** returns exactly if the filter accepts its window. -/
theorem tcogSmooth_isOk_iff (hlen : 2 ≤ wfnorm.length) :
    (∃ wfnormSm, tcogSmooth num s lrmMode wfnorm = .ok wfnormSm) ↔
      s.SmoothingAccepted wfnorm.length := by
  unfold tcogSmooth TcogSettings.SmoothingAccepted
  by_cases hsavgol : s.savitskyGolaySmoothing = true
  · rw [if_pos hsavgol, ← checkSavgol_ok_iff]
    cases checkSavgol wfnorm.length s.savitskyGolayWidth s.savitskyGolayPolyOrder with
    | error exc => exact iff_of_false nofun fun h => absurd (h hsavgol) nofun
    | ok u => exact iff_of_true ⟨_, rfl⟩ fun _ => rfl
  · rw [if_neg hsavgol]
    obtain ⟨out, hout⟩ := fastsmooth_isSome hlen (if lrmMode then 3 else 11)
    rw [hout]
    exact iff_of_true ⟨out, rfl⟩ fun h => absurd h hsavgol

theorem tcogSmooth_savgol (hsavgol : s.savitskyGolaySmoothing = true)
    (haccepts : SavgolAccepts wfnorm.length s.savitskyGolayWidth s.savitskyGolayPolyOrder) :
    tcogSmooth num s lrmMode wfnorm =
      .ok (num.savgolFilter wfnorm s.savitskyGolayWidth s.savitskyGolayPolyOrder) := by
  rw [tcogSmooth, if_pos hsavgol, checkSavgol_ok_iff.mpr haccepts]

/-- The smoothed waveform has as many bins as the waveform. -/
theorem tcogSmooth_length {wfnormSm : List ℚ}
    (h : tcogSmooth num s lrmMode wfnorm = .ok wfnormSm) : wfnormSm.length = wfnorm.length := by
  unfold tcogSmooth at h
  split at h
  · split at h
    · cases h
    · rw [← Except.ok.inj h, num.length_savgolFilter]
  · split at h
    · next out hout => rw [← Except.ok.inj h, length_fastsmooth hout]
    · cases h

theorem tcogThreshold_nonneg (hlrm : 0 ≤ s.retrackThresholdLrm)
    (hsin : 0 ≤ s.retrackThresholdSin) : 0 ≤ tcogThreshold num s lrmMode wfnorm := by
  unfold tcogThreshold
  split
  · exact mul_nonneg hlrm (num.sqrt_nonneg _)
  · exact mul_nonneg hsin (num.sqrt_nonneg _)

/-- The sample chosen lies above the threshold, in the waveform it is taken
from. -/
theorem tcogIndex_some {e : EdgeInput} {wfi : List Sample} {threshold : ℚ} {leIndex j : Nat}
    (h : tcogIndex s e wfi threshold leIndex = some j) :
    j < e.size ∧ .num threshold < (if s.retrackSmoothWf then e.wfiSm else wfi).getD j .nan := by
  obtain ⟨hp, hmem, -⟩ := List.find?_range_eq_some.mp h
  refine ⟨List.mem_range.mp hmem, ?_⟩
  cases hsmooth : s.retrackSmoothWf with
  | true =>
      rw [hsmooth] at hp
      exact of_decide_eq_true hp
  | false =>
      rw [hsmooth, if_neg Bool.false_ne_true, Bool.and_eq_true] at hp
      exact of_decide_eq_true hp.1

theorem tcogPoint_outcome {wfnormSm : List ℚ} {wfNoiseMean wfMax : ℚ} {edge : Edge}
    (hlrm : 0 ≤ s.retrackThresholdLrm) (hsin : 0 ≤ s.retrackThresholdSin) (hmax : 0 < wfMax) :
    let e := edgeInput wfnormSm s.wfOversamplingFactor wfNoiseMean s.leIdThreshold
    (tcogPoint num s lrmMode e wfnorm wfMax edge).Failed ∨
      (tcogPoint num s lrmMode e wfnorm wfMax edge).Retracked wfnormSm.length := by
  intro e
  simp only [tcogPoint]
  split
  · left
    exact failed_setFlag (by decide) rfl rfl rfl
  · rename_i j hj
    obtain ⟨hlt, habove⟩ := tcogIndex_some hj
    obtain ⟨_, v, hthr, hv, hgt⟩ := WithNan.exists_num_of_lt habove
    cases hthr
    have hlt' : j < wfnormSm.length * s.wfOversamplingFactor := by
      rwa [size_edgeInput] at hlt
    rw [hv, WithNan.num_mul_num, wfBinNumi_getD hlt']
    refine storePoint_outcome _ rfl (binPosition_nonneg _ _ _) (binPosition_le_last hlt') ?_
    have hpos : 0 < v := lt_of_le_of_lt (tcogThreshold_nonneg hlrm hsin) hgt
    exact (mul_pos hpos hmax).le

/-- The maximum of a waveform that is not all zero. -/
theorem max_pos (hnonneg : ∀ q ∈ waveform, 0 ≤ q) {wfMax : ℚ} (hmax : waveform.max? = some wfMax)
    (hne : wfMax ≠ 0) : 0 < wfMax :=
  lt_of_le_of_ne (hnonneg wfMax (List.max?_mem hmax)) (Ne.symm hne)

/-- **Every waveform that is processed fails with a flag or is retracked.** -/
theorem tcogWaveform_outcome (hlen : 2 ≤ waveform.length) (hnonneg : ∀ q ∈ waveform, 0 ≤ q)
    (hlrm : 0 ≤ s.retrackThresholdLrm) (hsin : 0 ≤ s.retrackThresholdSin)
    (hdp : 0 < s.leDpThreshold)
    (hsavgol : (∃ q ∈ waveform, q ≠ 0) → s.SmoothingAccepted waveform.length) :
    ∃ row, tcogWaveform num s lrmMode waveform = .ok row ∧
      (row.Failed ∨ row.Retracked waveform.length) := by
  unfold tcogWaveform
  cases hmax : waveform.max? with
  | none =>
      rw [List.max?_eq_none_iff.mp hmax] at hlen
      exact absurd hlen (by decide)
  | some wfMax =>
      simp only []
      by_cases hzero : wfMax = 0
      · rw [if_pos hzero]
        exact ⟨_, rfl, Or.inl (failed_initial (by decide))⟩
      rw [if_neg hzero]
      have haccepted : s.SmoothingAccepted (waveform.map (fun q => q / wfMax)).length := by
        rw [List.length_map]
        exact hsavgol ⟨wfMax, List.max?_mem hmax, hzero⟩
      obtain ⟨wfnormSm, hsm⟩ :
          ∃ wfnormSm, tcogSmooth num s lrmMode (waveform.map (fun q => q / wfMax)) = .ok wfnormSm :=
        (tcogSmooth_isOk_iff (by simpa using hlen)).mpr haccepted
      have hsmlen := tcogSmooth_length hsm
      rw [List.length_map] at hsmlen
      rw [hsm]
      simp only []
      by_cases hnoise : s.noiseThreshold < noiseMean (waveform.map (fun q => q / wfMax))
      · rw [if_pos hnoise]
        exact ⟨_, rfl, Or.inl (failed_initial (by decide))⟩
      rw [if_neg hnoise]
      have hord : (edgeInput wfnormSm s.wfOversamplingFactor
          (noiseMean (waveform.map (fun q => q / wfMax))) s.leIdThreshold).Ordered :=
        edgeInput_ordered
      rcases searchLeadingEdge_cases hord hdp with ⟨flag, hfl⟩ | ⟨edge, hedge, -⟩
      · rw [hfl]
        exact ⟨_, rfl, Or.inl (failed_initial flag.index_mem)⟩
      · rw [hedge]
        refine ⟨_, rfl, ?_⟩
        rw [← hsmlen]
        exact tcogPoint_outcome hlrm hsin (max_pos hnonneg hmax hzero)

end Waveform

/-! ## The call -/

section Call

variable {num : Numerics} {s : TcogSettings}

/-- The thresholds the function accepts. -/
def TcogSettings.InRange (s : TcogSettings) : Prop :=
  (0 ≤ s.retrackThresholdLrm ∧ s.retrackThresholdLrm ≤ 1) ∧
  (0 ≤ s.retrackThresholdSin ∧ s.retrackThresholdSin ≤ 1) ∧
  (0 ≤ s.noiseThreshold ∧ s.noiseThreshold ≤ 1) ∧
  (0 ≤ s.leDpThreshold ∧ s.leDpThreshold ≤ 1)

theorem checkUnit_ok_iff {name : String} {value : ℚ} :
    checkUnit num name value = .ok () ↔ 0 ≤ value ∧ value ≤ 1 := by
  unfold checkUnit
  split
  · rename_i h
    refine ⟨fun heq => absurd heq nofun, fun hin => ?_⟩
    rcases h with hlt | hgt
    · exact absurd hin.1 (not_le_of_gt hlt)
    · exact absurd hin.2 (not_le_of_gt hgt)
  · rename_i h
    rw [not_or, not_lt, not_lt] at h
    exact ⟨fun _ => h, fun _ => rfl⟩

theorem bind_ok_unit_iff {x y : Except PyExc Unit} :
    (x >>= fun _ => y) = .ok () ↔ x = .ok () ∧ y = .ok () := by
  cases x with
  | error exc => exact ⟨fun h => absurd h nofun, fun h => absurd h.1 nofun⟩
  | ok u => exact ⟨fun h => ⟨rfl, h⟩, fun h => h.2⟩

theorem checkTcogArgs_ok_iff : checkTcogArgs num s = .ok () ↔ s.InRange := by
  unfold checkTcogArgs TcogSettings.InRange
  rw [bind_ok_unit_iff, bind_ok_unit_iff, bind_ok_unit_iff, checkUnit_ok_iff, checkUnit_ok_iff,
    checkUnit_ok_iff, checkUnit_ok_iff]

/-- The loop processes exactly the waveforms the caller asks for, index 0
included. -/
theorem tcogSelected_eq {n i : Nat} {sel : Selection} (hfits : sel.Fits n) (hi : i < n) :
    tcogSelected n sel.index? sel.included? i = sel.chosen i := by
  cases sel with
  | includeArray included => rfl
  | measurementIndex index =>
      have hset : ((List.replicate n false).set index true).getD i false = decide (i = index) := by
        rw [getD_set, List.length_replicate, List.getD_eq_getElem?_getD,
          List.getElem?_replicate, if_pos hi]
        by_cases heq : index = i
        · subst heq
          simp [hi]
        · simp [heq, Ne.symm heq]
      show ((index == 0 || i == index) && ((List.replicate n false).set index true).getD i false) =
        decide (i = index)
      rw [hset]
      by_cases heq : i = index <;> simp [heq]

theorem checkTcogSelection_ok {n : Nat} {sel : Selection} (hfits : sel.Fits n) :
    checkTcogSelection n sel.index? sel.included? = .ok () := by
  cases sel with
  | includeArray included =>
      have hlen : included.length = n := hfits
      simp [checkTcogSelection, Selection.index?, Selection.included?, hlen]
  | measurementIndex index =>
      have hlt : index < n := hfits
      simp [checkTcogSelection, Selection.index?, Selection.included?, hlt]

/-- **The TCOG retracker meets the dichotomy on every call that passes its own
checks**, has a waveform at all, and a window for the filter. -/
theorem tcog_dichotomy {wfs : WaveformArray} {sel : Selection} (hfits : sel.Fits wfs.rows.length)
    (hdp : 0 < s.leDpThreshold) (hrange : s.InRange) (hsize : wfs.size = 128 ∨ wfs.size = 1024)
    (hne : 0 < wfs.rows.length) (hsavgol : sel.HasCounts wfs → s.SmoothingAccepted wfs.size) :
    ∃ r, retrackTcogWaveformsCs2 num s wfs sel.index? sel.included? = .ok r ∧
      Dichotomy wfs.rows.length wfs.size sel.chosen
        (if wfs.size = 128 then s.refBinIndLrm else s.refBinIndSin) r := by
  unfold retrackTcogWaveformsCs2
  rw [checkTcogArgs_ok_iff.mpr hrange]
  simp only []
  rw [if_neg (by omega), checkTcogSelection_ok hfits]
  simp only []
  have houtcome : ∀ j, j < wfs.rows.length → sel.chosen j = true → ∃ row,
      tcogWaveform num s (wfs.size == 128) (wfs.rows.getD j []) = .ok row ∧
        (row.Failed ∨ row.Retracked wfs.size) := by
    intro j hj hch
    obtain ⟨hlen, hnonneg⟩ := wfs.row_facts hj
    rw [← hlen]
    refine tcogWaveform_outcome (by omega) hnonneg hrange.1.1 hrange.2.1.1 hdp ?_
    intro hcount
    rw [hlen]
    exact hsavgol ⟨j, hj, hch, hcount⟩
  obtain ⟨rows, hrows⟩ : ∃ rows, retrackLoop (fun _ => tcogWaveform num s (wfs.size == 128))
      (tcogSelected wfs.rows.length sel.index? sel.included?) 0 wfs.rows = .ok rows :=
    retrackLoop_returns (fun j hj hsel =>
      (houtcome j hj (tcogSelected_eq hfits hj ▸ hsel)).imp fun _ h => h.1)
  obtain ⟨hlen, hentries⟩ := retrackLoop_rows hrows
  rw [hrows]
  simp only [beq_iff_eq]
  apply finishRetrack_dichotomy hlen hne
  · intro i hi hch
    have hsel := tcogSelected_eq hfits hi
    rw [hch] at hsel
    exact (hentries i hi).1 hsel
  · intro i hi hch
    have hsel := tcogSelected_eq hfits hi
    rw [hch] at hsel
    have hproc := (hentries i hi).2 hsel
    obtain ⟨row, hrow, hout⟩ := houtcome i hi hch
    rw [hrow] at hproc
    rw [← Except.ok.inj hproc]
    exact hout
  · intro i hi hch
    cases sel with
    | includeArray included => rfl
    | measurementIndex index => simpa [Selection.chosen, Selection.index?] using hch

/-- A call that returns has passed the checks, and had a waveform. -/
theorem tcog_returns {wfs : WaveformArray} {index : Option Nat} {included : Option (List Bool)}
    {r : RetrackResult} (h : retrackTcogWaveformsCs2 num s wfs index included = .ok r) :
    s.InRange ∧ (wfs.size = 128 ∨ wfs.size = 1024) ∧ 0 < wfs.rows.length := by
  unfold retrackTcogWaveformsCs2 at h
  cases hargs : checkTcogArgs num s with
  | error exc =>
      rw [hargs] at h
      exact absurd h nofun
  | ok u =>
      rw [hargs] at h
      simp only [] at h
      refine ⟨checkTcogArgs_ok_iff.mp hargs, ?_⟩
      by_cases hsize : wfs.size ≠ 128 ∧ wfs.size ≠ 1024
      · rw [if_pos hsize] at h
        exact absurd h nofun
      refine ⟨by omega, ?_⟩
      rw [if_neg hsize] at h
      cases hsel : checkTcogSelection wfs.rows.length index included with
      | error exc =>
          rw [hsel] at h
          exact absurd h nofun
      | ok u =>
          rw [hsel] at h
          simp only [] at h
          rcases Nat.eq_zero_or_pos wfs.rows.length with hzero | hpos
          · -- no waveform: no rows, and the column is taken of a flat array
            rw [List.length_eq_zero_iff.mp hzero] at h
            exact absurd h nofun
          · exact hpos

/-- The reference bin of the mode. -/
def tcogRefBin (s : TcogSettings) (size : Nat) : ℚ :=
  if size == 128 then s.refBinIndLrm else s.refBinIndSin

/-- What a call returns for a waveform it processes. -/
theorem tcog_row {wfs : WaveformArray} {index : Option Nat} {included : Option (List Bool)}
    {r : RetrackResult} {i : Nat}
    (hr : retrackTcogWaveformsCs2 num s wfs index included = .ok r) (hi : i < wfs.rows.length)
    (hsel : tcogSelected wfs.rows.length index included i = true) :
    ∃ row, tcogWaveform num s (wfs.size == 128) (wfs.rows.getD i []) = .ok row ∧
      r.retrackFlag.getD i [] = row.flags ∧
      (r.leadingEdgeStart.getD i (.nan, .nan)).1 = row.leadingEdgeStart.1 ∧
      r.drBin.getD i .nan + .num (tcogRefBin s wfs.size) = row.bin := by
  unfold retrackTcogWaveformsCs2 at hr
  split at hr
  · cases hr
  split at hr
  · cases hr
  simp only [] at hr
  split at hr
  · cases hr
  split at hr
  · cases hr
  · next rows hrows =>
    obtain ⟨hlen, hentries⟩ := retrackLoop_rows hrows
    have hi' : i < rows.length := hlen ▸ hi
    obtain ⟨hflags, hstart, hbin, -⟩ := finishRetrack_row hr hi'
    exact ⟨_, (hentries i hi).2 hsel, hflags, hstart, hbin⟩

end Call

end Clev2er.Retrack
