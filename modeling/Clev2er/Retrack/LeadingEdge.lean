import Clev2er.Retrack.Oversample

/-!
# The leading-edge search

The `while le_dp < le_dp_threshold` loop, which
`retrack_tcog_waveforms_cs2` and `retrack_cs2_sin_max_coherence` have in the same
words. One round looks for the start of a leading edge behind the last peak found
and for the peak that ends it; it leaves the loop with one of three flags, or
hands the rise of the edge to the loop test.

The loop is run with fuel. `leadingEdgeLoop_terminates` says that as many rounds
as there are samples are enough, since the start moves on with every round.
-/

namespace Clev2er.Retrack

open Clev2er.Lib

/-! ## The loop -/

/-- The arrays and numbers the loop reads. -/
structure EdgeInput where
  /-- `wfi_sm`: the oversampled smoothed waveform. -/
  wfiSm : List Sample
  /-- `d_wf_sm`: its gradient. -/
  dWfSm : List Sample
  /-- `wf_bin_numi`: the bin positions of the samples. -/
  wfBinNumi : List ℚ
  wfNoiseMean : ℚ
  leIdThreshold : ℚ
  wfOversamplingFactor : Nat

/-- The flag a failed search sets: index 1, 2 or 3 of `retrack_flag[i]`. -/
inductive EdgeFlag where
  | noSampleAboveNoise
  | noPeak
  | endOfWaveform
deriving DecidableEq, Repr

/-- `le_index`, `first_peak_ind` and `le_dp`. -/
structure Edge where
  leIndex : Nat
  firstPeakInd : Nat
  leDp : Sample
deriving DecidableEq, Repr

/-- How the search ends: with a flag set, or by the loop test. There is no edge
yet if the test fails at once. -/
inductive EdgeSearch where
  | flagged (flag : EdgeFlag)
  | done (edge : Option Edge)
deriving DecidableEq, Repr

namespace EdgeInput

variable (e : EdgeInput)

/-- `wf_bin_numi.size`. -/
def size : Nat := e.wfBinNumi.length

/-- The first entry of `le_index` behind `previous_le_ind` by more than the
oversampling factor. -/
def findLeIndex (previousLeInd : Nat) : Option Nat :=
  (List.range e.size).find? fun j =>
    decide (.num (e.wfNoiseMean + e.leIdThreshold) < e.wfiSm.getD j .nan) &&
    decide (.num 0 < e.dWfSm.getD j .nan) &&
    decide (previousLeInd + e.wfOversamplingFactor < j)

/-- The first entry of `first_peak_indices`. -/
def findFirstPeak (leIndex : Nat) : Option Nat :=
  (List.range e.size).find? fun j =>
    decide (e.dWfSm.getD j .nan ≤ .num 0) &&
    decide (e.wfBinNumi.getD leIndex 0 < e.wfBinNumi.getD j 0)

/-- One round of the loop, up to the loop test. -/
def leadingEdgeRound (previousLeInd : Nat) : EdgeFlag ⊕ Edge :=
  match e.findLeIndex previousLeInd with
  | none => .inl .noSampleAboveNoise
  | some leIndex =>
      match e.findFirstPeak leIndex with
      | none => .inl .noPeak
      | some firstPeakInd =>
          if e.size < firstPeakInd + e.wfOversamplingFactor + 1 then .inl .endOfWaveform
          else .inr
            { leIndex := leIndex
              firstPeakInd := firstPeakInd
              leDp := e.wfiSm.getD firstPeakInd .nan - e.wfiSm.getD leIndex .nan }

/-- The loop; `last` is the edge of the round before, and `none` is out of
fuel. -/
def leadingEdgeLoop (leDpThreshold : ℚ) :
    (fuel previousLeInd : Nat) → (leDp : Sample) → (last : Option Edge) → Option EdgeSearch
  | 0, _, _, _ => none
  | fuel + 1, previousLeInd, leDp, last =>
      if leDp < .num leDpThreshold then
        match e.leadingEdgeRound previousLeInd with
        | .inl flag => some (.flagged flag)
        | .inr edge => leadingEdgeLoop leDpThreshold fuel edge.firstPeakInd edge.leDp (some edge)
      else some (.done last)

/-- The search from the start: `previous_le_ind = 0`, `le_dp = 0`. -/
def leadingEdge (leDpThreshold : ℚ) (fuel : Nat) : Option EdgeSearch :=
  e.leadingEdgeLoop leDpThreshold fuel 0 (.num 0) none

end EdgeInput

/-- The arrays both retrackers build from the smoothed waveform: zero bins set to
NaN, oversampled and differentiated with spacing `1 / wf_oversampling_factor`. -/
def edgeInput (wfnormSm : List ℚ) (f : Nat) (wfNoiseMean leIdThreshold : ℚ) : EdgeInput :=
  let wfiSm := oversample (zeroToNan wfnormSm) f
  { wfiSm := wfiSm
    dWfSm := gradient wfiSm (1 / f)
    wfBinNumi := (List.range (wfnormSm.length * f)).map (binPosition wfnormSm.length f)
    wfNoiseMean := wfNoiseMean
    leIdThreshold := leIdThreshold
    wfOversamplingFactor := f }

/-! ## One round -/

section Round

variable {e : EdgeInput} {previousLeInd leIndex firstPeakInd : Nat}

theorem findLeIndex_some (h : e.findLeIndex previousLeInd = some leIndex) :
    leIndex < e.size ∧
      .num (e.wfNoiseMean + e.leIdThreshold) < e.wfiSm.getD leIndex .nan ∧
      .num 0 < e.dWfSm.getD leIndex .nan ∧
      previousLeInd + e.wfOversamplingFactor < leIndex := by
  obtain ⟨hp, hmem, -⟩ := List.find?_range_eq_some.mp h
  simp only [Bool.and_eq_true, decide_eq_true_eq] at hp
  exact ⟨List.mem_range.mp hmem, hp.1.1, hp.1.2, hp.2⟩

theorem findFirstPeak_some (h : e.findFirstPeak leIndex = some firstPeakInd) :
    firstPeakInd < e.size ∧ e.dWfSm.getD firstPeakInd .nan ≤ .num 0 ∧
      e.wfBinNumi.getD leIndex 0 < e.wfBinNumi.getD firstPeakInd 0 ∧
      ∀ j, j < firstPeakInd → e.wfBinNumi.getD leIndex 0 < e.wfBinNumi.getD j 0 →
        ¬ e.dWfSm.getD j .nan ≤ .num 0 := by
  obtain ⟨hp, hmem, hfirst⟩ := List.find?_range_eq_some.mp h
  simp only [Bool.and_eq_true, decide_eq_true_eq] at hp
  refine ⟨List.mem_range.mp hmem, hp.1, hp.2, ?_⟩
  intro j hj hpos hle
  have := hfirst j hj
  simp only [Bool.not_eq_true', Bool.and_eq_false_iff, decide_eq_false_iff_not] at this
  rcases this with hd | hpos'
  · exact hd hle
  · exact hpos' hpos

/-- A round that sets no flag has found both ends of an edge, clear of the end of
the waveform. -/
theorem leadingEdgeRound_inr {edge : Edge} (h : e.leadingEdgeRound previousLeInd = .inr edge) :
    e.findLeIndex previousLeInd = some edge.leIndex ∧
      e.findFirstPeak edge.leIndex = some edge.firstPeakInd ∧
      edge.firstPeakInd + e.wfOversamplingFactor + 1 ≤ e.size ∧
      edge.leDp = e.wfiSm.getD edge.firstPeakInd .nan - e.wfiSm.getD edge.leIndex .nan := by
  unfold EdgeInput.leadingEdgeRound at h
  cases hle : e.findLeIndex previousLeInd with
  | none =>
      rw [hle] at h
      exact absurd h nofun
  | some leIndex =>
      rw [hle] at h
      cases hpeak : e.findFirstPeak leIndex with
      | none =>
          simp only [hpeak] at h
          exact absurd h nofun
      | some firstPeakInd =>
          simp only [hpeak] at h
          split at h
          · exact absurd h nofun
          · rename_i hend
            cases h
            exact ⟨rfl, hpeak, Nat.le_of_not_lt hend, rfl⟩

end Round

/-! ## The whole search -/

section Search

variable {e : EdgeInput} {leDpThreshold : ℚ}

/-- Positions ordered as their indices. -/
def EdgeInput.Ordered (e : EdgeInput) : Prop :=
  ∀ i j, i < e.size → j < e.size → e.wfBinNumi.getD i 0 < e.wfBinNumi.getD j 0 → i < j

/-- **A round that does not leave the loop moves on by more than the oversampling
factor.** -/
theorem round_moves_on (hord : e.Ordered) {previousLeInd : Nat} {edge : Edge}
    (h : e.leadingEdgeRound previousLeInd = .inr edge) :
    previousLeInd + e.wfOversamplingFactor < edge.firstPeakInd := by
  obtain ⟨hle, hpeak, -, -⟩ := leadingEdgeRound_inr h
  obtain ⟨hle_lt, -, -, hmove⟩ := findLeIndex_some hle
  obtain ⟨hpeak_lt, -, hpos, -⟩ := findFirstPeak_some hpeak
  exact lt_trans hmove (hord _ _ hle_lt hpeak_lt hpos)

/-- **The loop terminates**: the samples behind `previous_le_ind` bound the
rounds left. -/
theorem leadingEdgeLoop_terminates (hord : e.Ordered) :
    ∀ (fuel previousLeInd : Nat) (leDp : Sample) (last : Option Edge),
      e.size < fuel + previousLeInd → 0 < fuel →
      ∃ r, e.leadingEdgeLoop leDpThreshold fuel previousLeInd leDp last = some r := by
  intro fuel
  induction fuel with
  | zero =>
      intro _ _ _ _ hpos
      omega
  | succ fuel ih =>
      intro previousLeInd leDp last hfuel _
      unfold EdgeInput.leadingEdgeLoop
      split
      · cases hround : e.leadingEdgeRound previousLeInd with
        | inl flag => exact ⟨_, rfl⟩
        | inr edge =>
            have hmove := round_moves_on hord hround
            obtain ⟨-, hpeak, -, -⟩ := leadingEdgeRound_inr hround
            have hlt := (findFirstPeak_some hpeak).1
            exact ih edge.firstPeakInd edge.leDp (some edge) (by omega) (by omega)
      · exact ⟨_, rfl⟩

/-- More fuel does not change a search that ends. -/
theorem leadingEdgeLoop_mono :
    ∀ {fuel fuel' previousLeInd : Nat} {leDp : Sample} {last : Option Edge} {r : EdgeSearch},
      fuel ≤ fuel' → e.leadingEdgeLoop leDpThreshold fuel previousLeInd leDp last = some r →
      e.leadingEdgeLoop leDpThreshold fuel' previousLeInd leDp last = some r := by
  intro fuel
  induction fuel with
  | zero =>
      intro _ _ _ _ _ _ h
      exact absurd h nofun
  | succ fuel ih =>
      intro fuel' previousLeInd leDp last r hle h
      obtain ⟨fuel', rfl⟩ : ∃ g, fuel' = g + 1 := ⟨fuel' - 1, by omega⟩
      unfold EdgeInput.leadingEdgeLoop at h ⊢
      split
      · rename_i htest
        rw [if_pos htest] at h
        cases hround : e.leadingEdgeRound previousLeInd with
        | inl flag =>
            rw [hround] at h
            exact h
        | inr edge =>
            rw [hround] at h
            exact ih (by omega) h
      · rename_i htest
        rw [if_neg htest] at h
        exact h

/-- An edge the loop test has let through. -/
def Accepted (e : EdgeInput) (leDpThreshold : ℚ) (edge : Edge) : Prop :=
  (∃ previousLeInd, e.leadingEdgeRound previousLeInd = .inr edge) ∧
    ¬ edge.leDp < .num leDpThreshold

/-- A leading edge in the arrays `e`: it starts above the noise on a rising
sample, ends at the first sample after that which does not rise, clear of the end
of the waveform, and rises by the threshold or more. -/
structure IsLeadingEdge (e : EdgeInput) (leDpThreshold : ℚ) (edge : Edge) : Prop where
  start_lt_peak : edge.leIndex < edge.firstPeakInd
  peak_clear : edge.firstPeakInd + e.wfOversamplingFactor < e.size
  above_noise : .num (e.wfNoiseMean + e.leIdThreshold) < e.wfiSm.getD edge.leIndex .nan
  rising : .num 0 < e.dWfSm.getD edge.leIndex .nan
  peak : e.dWfSm.getD edge.firstPeakInd .nan ≤ .num 0
  first : ∀ j, edge.leIndex < j → j < edge.firstPeakInd → ¬ e.dWfSm.getD j .nan ≤ .num 0
  rise : .num leDpThreshold ≤
    e.wfiSm.getD edge.firstPeakInd .nan - e.wfiSm.getD edge.leIndex .nan

/-- The run invariant: the edge of the round before came out of a round, with the
rise that the loop is about to test. -/
theorem leadingEdgeLoop_done :
    ∀ {fuel previousLeInd : Nat} {leDp : Sample} {last result : Option Edge},
      (leDp < .num leDpThreshold ∨ ∃ edge, last = some edge ∧ edge.leDp = leDp ∧
        ∃ previousLeInd, e.leadingEdgeRound previousLeInd = .inr edge) →
      e.leadingEdgeLoop leDpThreshold fuel previousLeInd leDp last = some (.done result) →
      ∃ edge, result = some edge ∧ Accepted e leDpThreshold edge := by
  intro fuel
  induction fuel with
  | zero =>
      intro _ _ _ _ _ h
      exact absurd h nofun
  | succ fuel ih =>
      intro previousLeInd leDp last result hinv h
      unfold EdgeInput.leadingEdgeLoop at h
      split at h
      · cases hround : e.leadingEdgeRound previousLeInd with
        | inl flag =>
            rw [hround] at h
            exact absurd h nofun
        | inr edge =>
            rw [hround] at h
            exact ih (Or.inr ⟨edge, rfl, rfl, previousLeInd, hround⟩) h
      · rename_i htest
        rcases hinv with hlt | ⟨edge, rfl, rfl, hround⟩
        · exact absurd hlt htest
        · cases h
          exact ⟨edge, rfl, hround, htest⟩

theorem leadingEdge_done (hpos : 0 < leDpThreshold) {fuel : Nat} {result : Option Edge}
    (h : e.leadingEdge leDpThreshold fuel = some (.done result)) :
    ∃ edge, result = some edge ∧ Accepted e leDpThreshold edge :=
  leadingEdgeLoop_done (Or.inl hpos) h

end Search

/-! ## The arrays of a smoothed waveform -/

section Waveform

variable {wfnormSm : List ℚ} {f : Nat} {wfNoiseMean leIdThreshold leDpThreshold : ℚ}

theorem size_edgeInput :
    (edgeInput wfnormSm f wfNoiseMean leIdThreshold).size = wfnormSm.length * f := by
  simp [edgeInput, EdgeInput.size]

theorem wfBinNumi_getD {j : Nat} (hj : j < wfnormSm.length * f) :
    (edgeInput wfnormSm f wfNoiseMean leIdThreshold).wfBinNumi.getD j 0 =
      binPosition wfnormSm.length f j :=
  getD_map_range _ hj _

/-- A later position is a later sample: positions grow strictly, or there is one
bin only and all are the same. -/
theorem edgeInput_ordered :
    (edgeInput wfnormSm f wfNoiseMean leIdThreshold).Ordered := by
  intro i j hi hj hlt
  rw [size_edgeInput] at hi hj
  rw [wfBinNumi_getD hi, wfBinNumi_getD hj] at hlt
  by_contra hle
  exact absurd hlt (not_lt_of_ge (binPosition_mono (Nat.le_of_not_lt hle)))

theorem wfBinNumi_lt (hf : 0 < f) {i j k : Nat}
    (hk : k < (edgeInput wfnormSm f wfNoiseMean leIdThreshold).size)
    (hpos : (edgeInput wfnormSm f wfNoiseMean leIdThreshold).wfBinNumi.getD i 0 <
      (edgeInput wfnormSm f wfNoiseMean leIdThreshold).wfBinNumi.getD k 0)
    (hij : i < j) (hjk : j ≤ k) :
    (edgeInput wfnormSm f wfNoiseMean leIdThreshold).wfBinNumi.getD i 0 <
      (edgeInput wfnormSm f wfNoiseMean leIdThreshold).wfBinNumi.getD j 0 := by
  rw [size_edgeInput] at hk
  rw [wfBinNumi_getD (by omega), wfBinNumi_getD hk] at hpos
  rw [wfBinNumi_getD (by omega), wfBinNumi_getD (by omega)]
  -- two different positions exist, so there is more than one bin
  have hn : 2 ≤ wfnormSm.length := by
    by_contra hlt
    have hzero : wfnormSm.length - 1 = 0 := by omega
    simp [binPosition, hzero] at hpos
  exact binPosition_lt_binPosition hn hf hij

/-- The rise of an edge is a number: its start lies above the noise, and its peak
has a gradient. -/
theorem leDp_num (hf : 2 ≤ f) {previousLeInd : Nat} {edge : Edge}
    (h : (edgeInput wfnormSm f wfNoiseMean leIdThreshold).leadingEdgeRound previousLeInd =
      .inr edge) : ∃ q, edge.leDp = .num q := by
  obtain ⟨hle, hpeak, -, hdp⟩ := leadingEdgeRound_inr h
  obtain ⟨hpeak_lt, hgrad, -, -⟩ := findFirstPeak_some hpeak
  obtain ⟨-, habove, -, -⟩ := findLeIndex_some hle
  obtain ⟨_, a, -, ha, -⟩ := WithNan.exists_num_of_lt habove
  obtain ⟨g, _, hg, -, -⟩ := WithNan.exists_num_of_le hgrad
  rw [size_edgeInput] at hpeak_lt
  have hnum : (oversample (zeroToNan wfnormSm) f).getD edge.firstPeakInd .nan ≠ .nan := by
    refine gradient_num hf (h := 1 / f) (by simpa [sampleCount] using hpeak_lt) ?_
    show (edgeInput wfnormSm f wfNoiseMean leIdThreshold).dWfSm.getD _ _ ≠ _
    rw [hg]
    intro hnan
    cases hnan
  rw [hdp, ha]
  cases hb : (edgeInput wfnormSm f wfNoiseMean leIdThreshold).wfiSm.getD edge.firstPeakInd .nan with
  | nan => exact absurd hb hnum
  | num b => exact ⟨b - a, rfl⟩

/-- **What an accepted edge is.** -/
theorem accepted_edge (hf : 2 ≤ f) {edge : Edge}
    (h : Accepted (edgeInput wfnormSm f wfNoiseMean leIdThreshold) leDpThreshold edge) :
    IsLeadingEdge (edgeInput wfnormSm f wfNoiseMean leIdThreshold) leDpThreshold edge := by
  obtain ⟨⟨previousLeInd, hround⟩, htest⟩ := h
  obtain ⟨hle, hpeak, hend, hdp⟩ := leadingEdgeRound_inr hround
  obtain ⟨hle_lt, habove, hrise, -⟩ := findLeIndex_some hle
  obtain ⟨hpeak_lt, hgrad, hpos, hfirst⟩ := findFirstPeak_some hpeak
  have hf0 : 0 < f := by omega
  refine ⟨edgeInput_ordered _ _ hle_lt hpeak_lt hpos, hend, habove, hrise, hgrad, ?_, ?_⟩
  · intro j hj hj'
    exact hfirst j hj' (wfBinNumi_lt hf0 hpeak_lt hpos hj (Nat.le_of_lt hj'))
  · obtain ⟨q, hq⟩ := leDp_num hf hround
    rw [← hdp, hq]
    rw [hq, WithNan.num_lt_num] at htest
    exact (WithNan.num_le_num _ _).mpr (le_of_not_gt htest)

end Waveform

/-- **The leading-edge search ends, and ends on an edge.** For every smoothed
waveform: each round that stays in the loop moves `previous_le_ind` on by more
than the oversampling factor; the search ends within as many rounds as there are
samples; and if it ends without a flag it has found an edge that starts above the
noise on a rising sample, stops at the first sample that does not rise, clear of
the end of the waveform, and rises by the threshold or more. -/
theorem leading_edge_search (wfnormSm : List ℚ) (f : Nat)
    (wfNoiseMean leIdThreshold leDpThreshold : ℚ) (hf : 2 ≤ f) (hpos : 0 < leDpThreshold) :
    (∀ previousLeInd edge,
      (edgeInput wfnormSm f wfNoiseMean leIdThreshold).leadingEdgeRound previousLeInd =
        .inr edge → previousLeInd + f < edge.firstPeakInd) ∧
    ∃ r, (∀ fuel, (edgeInput wfnormSm f wfNoiseMean leIdThreshold).size < fuel →
        (edgeInput wfnormSm f wfNoiseMean leIdThreshold).leadingEdge leDpThreshold fuel = some r) ∧
      ((∃ flag, r = .flagged flag) ∨
        ∃ edge, r = .done (some edge) ∧
          IsLeadingEdge (edgeInput wfnormSm f wfNoiseMean leIdThreshold) leDpThreshold edge) := by
  generalize he : edgeInput wfnormSm f wfNoiseMean leIdThreshold = e
  have hord : e.Ordered := he ▸ edgeInput_ordered
  have hfactor : e.wfOversamplingFactor = f := he ▸ rfl
  refine ⟨fun previousLeInd edge h => hfactor ▸ round_moves_on hord h, ?_⟩
  obtain ⟨r, hr⟩ : ∃ r, e.leadingEdge leDpThreshold (e.size + 1) = some r :=
    leadingEdgeLoop_terminates hord (e.size + 1) 0 (.num 0) none (by omega) (by omega)
  refine ⟨r, fun fuel hfuel => leadingEdgeLoop_mono hfuel hr, ?_⟩
  cases r with
  | flagged flag => exact Or.inl ⟨flag, rfl⟩
  | done result =>
      obtain ⟨edge, rfl, hacc⟩ := leadingEdge_done hpos hr
      rw [← he] at hacc ⊢
      exact Or.inr ⟨edge, rfl, accepted_edge hf hacc⟩

/-- A pulse on a flat floor, two samples a bin: the edge runs from the sample
after the third bin to the peak. -/
theorem leading_edge_search_pulse :
    (edgeInput [1 / 10, 1 / 10, 1 / 10, 1 / 5, 1, 1 / 2, 1 / 10] 2 (1 / 10) (1 / 20)).leadingEdge
        (1 / 5) 15 = some (.done (some ⟨6, 9, .num (97 / 130)⟩)) ∧
      IsLeadingEdge
        (edgeInput [1 / 10, 1 / 10, 1 / 10, 1 / 5, 1, 1 / 2, 1 / 10] 2 (1 / 10) (1 / 20)) (1 / 5)
        ⟨6, 9, .num (97 / 130)⟩ := by
  have hrun : (edgeInput [1 / 10, 1 / 10, 1 / 10, 1 / 5, 1, 1 / 2, 1 / 10] 2 (1 / 10)
      (1 / 20)).leadingEdge (1 / 5) 15 = some (.done (some ⟨6, 9, .num (97 / 130)⟩)) := by
    decide +kernel
  refine ⟨hrun, ?_⟩
  obtain ⟨-, r, hr, hend⟩ := leading_edge_search
    [1 / 10, 1 / 10, 1 / 10, 1 / 5, 1, 1 / 2, 1 / 10] 2 (1 / 10) (1 / 20) (1 / 5) (by decide)
    (by decide +kernel)
  have hsome := (hr 15 (by decide)).symm.trans hrun
  obtain rfl := Option.some.inj hsome
  rcases hend with ⟨flag, hflag⟩ | ⟨edge, hedge, his⟩
  · exact absurd hflag nofun
  · cases hedge
    exact his

end Clev2er.Retrack
