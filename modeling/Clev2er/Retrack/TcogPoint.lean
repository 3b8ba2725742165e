import Clev2er.Retrack.MaxCoherence

/-!
# Where the TCOG retracking point lies

The point of a waveform without a flag should be the first sample behind the
start of the leading edge that exceeds the threshold (`tcog_point`). The
search of the raw waveform looks only behind the edge start; that of the smoothed
waveform looks at the samples before it too.
-/

namespace Clev2er.Retrack

open Clev2er.Lib

/-! ## The TCOG point -/

/-- `wfnorm`: the waveform divided by its maximum. -/
def normalised (waveform : List ℚ) : List ℚ :=
  waveform.map (fun q => q / waveform.max?.getD 0)

/-- The samples the threshold search looks at. -/
def tcogSamples (s : TcogSettings) (wfnorm wfnormSm : List ℚ) : List Sample :=
  if s.retrackSmoothWf then oversample (zeroToNan wfnormSm) s.wfOversamplingFactor
  else oversample (wfnorm.map .num) s.wfOversamplingFactor

/-- `bin` is the position of the first sample behind `start` that exceeds the
threshold. -/
def FirstAbove (n f : Nat) (samples : List Sample) (threshold : ℚ) (start bin : Sample) : Prop :=
  ∃ t, t < n * f ∧ bin = .num (binPosition n f t) ∧ start < bin ∧
    .num threshold < samples.getD t .nan ∧
    ∀ j, j < n * f → start < .num (binPosition n f j) → .num (binPosition n f j) < bin →
      ¬ .num threshold < samples.getD j .nan

/-- **The TCOG point of waveform `i` lies on the leading edge**, as the outputs
report both. -/
def TcogPointOnEdge (num : Numerics) (s : TcogSettings) (wfs : WaveformArray) (r : RetrackResult)
    (i : Nat) : Prop :=
  ∃ wfnormSm,
    tcogSmooth num s (wfs.size == 128) (normalised (wfs.rows.getD i [])) = .ok wfnormSm ∧
    FirstAbove wfs.size s.wfOversamplingFactor
      (tcogSamples s (normalised (wfs.rows.getD i [])) wfnormSm)
      (tcogThreshold num s (wfs.size == 128) (normalised (wfs.rows.getD i [])))
      (r.leadingEdgeStart.getD i (.nan, .nan)).1
      (r.drBin.getD i .nan + .num (tcogRefBin s wfs.size))

/-- The arrays the leading edge of a waveform is searched in. -/
def tcogEdgeInput (s : TcogSettings) (wfnorm wfnormSm : List ℚ) : EdgeInput :=
  edgeInput wfnormSm s.wfOversamplingFactor (noiseMean wfnorm) s.leIdThreshold

/-- No smoothed sample up to the start of the leading edge exceeds the
threshold. -/
def QuietBeforeEdge (num : Numerics) (s : TcogSettings) (lrmMode : Bool) (waveform : List ℚ) :
    Prop :=
  ∀ wfnormSm edge, tcogSmooth num s lrmMode (normalised waveform) = .ok wfnormSm →
    searchLeadingEdge (tcogEdgeInput s (normalised waveform) wfnormSm) s.leDpThreshold =
      .done (some edge) →
    ∀ j, j ≤ edge.leIndex → ¬ .num (tcogThreshold num s lrmMode (normalised waveform)) <
      (oversample (zeroToNan wfnormSm) s.wfOversamplingFactor).getD j .nan

/-- **A clean edge** in the smoothed waveform: the first sample behind the first bin that
rises above the noise is `a`; from there the waveform rises up to sample `p`, by the
threshold of an edge or more; and no sample up to `a` exceeds the retracking
threshold. -/
structure CleanEdge (e : EdgeInput) (leDpThreshold threshold : ℚ) (a p : Nat) : Prop where
  behind_first_bin : e.wfOversamplingFactor < a
  start_lt_peak : a < p
  peak_lt : p < e.size
  above_noise : .num (e.wfNoiseMean + e.leIdThreshold) < e.wfiSm.getD a .nan
  rising : .num 0 < e.dWfSm.getD a .nan
  first_rise : ∀ j, e.wfOversamplingFactor < j → j < a →
    ¬ (.num (e.wfNoiseMean + e.leIdThreshold) < e.wfiSm.getD j .nan ∧
      .num 0 < e.dWfSm.getD j .nan)
  peak : e.dWfSm.getD p .nan ≤ .num 0
  first_peak : ∀ j, a < j → j < p → ¬ e.dWfSm.getD j .nan ≤ .num 0
  rise : .num leDpThreshold ≤ e.wfiSm.getD p .nan - e.wfiSm.getD a .nan
  quiet : ∀ j, j ≤ a → ¬ .num threshold < e.wfiSm.getD j .nan

/-- The smoothed waveform has a clean edge. -/
def HasCleanEdge (num : Numerics) (s : TcogSettings) (lrmMode : Bool) (waveform : List ℚ) :
    Prop :=
  ∃ wfnormSm a p, tcogSmooth num s lrmMode (normalised waveform) = .ok wfnormSm ∧
    CleanEdge (tcogEdgeInput s (normalised waveform) wfnormSm) s.leDpThreshold
      (tcogThreshold num s lrmMode (normalised waveform)) a p

section Tcog

variable {num : Numerics} {s : TcogSettings} {lrmMode : Bool} {waveform : List ℚ} {row : Row}

/-- A row without a flag comes from the threshold search. -/
theorem tcogWaveform_noFlag (h : tcogWaveform num s lrmMode waveform = .ok row)
    (hflags : row.flags = [0, 0, 0, 0, 0, 0]) :
    ∃ wfnormSm edge wfMax, tcogSmooth num s lrmMode (normalised waveform) = .ok wfnormSm ∧
      searchLeadingEdge (tcogEdgeInput s (normalised waveform) wfnormSm) s.leDpThreshold =
        .done (some edge) ∧
      row = tcogPoint num s lrmMode (tcogEdgeInput s (normalised waveform) wfnormSm)
        (normalised waveform) wfMax edge := by
  unfold tcogWaveform at h
  cases hmax : waveform.max? with
  | none =>
      rw [hmax] at h
      cases h
  | some wfMax =>
      have hnorm : waveform.map (fun q => q / wfMax) = normalised waveform := by
        rw [normalised, hmax, Option.getD_some]
      rw [hmax] at h
      simp only [hnorm] at h
      split at h
      · exact absurd (Except.ok.inj h) (ne_initial_setFlag hflags (by decide))
      cases hsm : tcogSmooth num s lrmMode (normalised waveform) with
      | error exc =>
          rw [hsm] at h
          cases h
      | ok wfnormSm =>
          rw [hsm] at h
          simp only [] at h
          split at h
          · exact absurd (Except.ok.inj h) (ne_initial_setFlag hflags (by decide))
          split at h
          · next flag _ => exact absurd (Except.ok.inj h) (ne_initial_setFlag hflags flag.index_mem)
          · cases h
          · next edge hedge => exact ⟨wfnormSm, edge, wfMax, rfl, hedge, (Except.ok.inj h).symm⟩

/-- The row of a waveform with a leading edge. -/
theorem tcogWaveform_of_edge {wfnormSm : List ℚ} {wfMax : ℚ} {edge : Edge}
    (hmax : waveform.max? = some wfMax) (hne : wfMax ≠ 0)
    (hsm : tcogSmooth num s lrmMode (waveform.map fun q => q / wfMax) = .ok wfnormSm)
    (hnoise : ¬ s.noiseThreshold < noiseMean (waveform.map fun q => q / wfMax))
    (hedge : searchLeadingEdge (tcogEdgeInput s (waveform.map fun q => q / wfMax) wfnormSm)
      s.leDpThreshold = .done (some edge)) :
    tcogWaveform num s lrmMode waveform =
      .ok (tcogPoint num s lrmMode (tcogEdgeInput s (waveform.map fun q => q / wfMax) wfnormSm)
        (waveform.map fun q => q / wfMax) wfMax edge) := by
  unfold tcogEdgeInput at hedge
  unfold tcogWaveform
  rw [hmax]
  simp only []
  rw [if_neg hne, hsm]
  simp only []
  rw [if_neg hnoise, hedge]
  rfl

/-- The stored point of a row without a flag. -/
theorem tcogPoint_noFlag {e : EdgeInput} {wfnorm : List ℚ} {wfMax : ℚ} {edge : Edge}
    (h : row = tcogPoint num s lrmMode e wfnorm wfMax edge)
    (hflags : row.flags = [0, 0, 0, 0, 0, 0]) :
    ∃ t, tcogIndex s e (oversample (wfnorm.map .num) s.wfOversamplingFactor)
        (tcogThreshold num s lrmMode wfnorm) edge.leIndex = some t ∧
      row.bin = .num (e.wfBinNumi.getD t 0) ∧
      row.leadingEdgeStart.1 = .num (e.wfBinNumi.getD edge.leIndex 0) := by
  subst h
  unfold tcogPoint at hflags ⊢
  simp only [] at hflags ⊢
  split at hflags
  · exact absurd hflags (by decide)
  · next t ht =>
    refine ⟨t, ht, ?_⟩
    rw [storePoint_noFlag rfl hflags]
    exact ⟨rfl, rfl⟩

theorem tcogEdgeInput_position {wfnorm wfnormSm : List ℚ} {n j : Nat} (hlen : wfnormSm.length = n)
    (hj : j < n * s.wfOversamplingFactor) :
    (tcogEdgeInput s wfnorm wfnormSm).wfBinNumi.getD j 0 =
      binPosition n s.wfOversamplingFactor j := by
  rw [tcogEdgeInput, wfBinNumi_getD (by rw [hlen]; exact hj), hlen]

/-- Behind the edge start and above the threshold, in terms of the samples. -/
theorem firstAbove_iff {n f le t : Nat} {samples : List Sample} {threshold : ℚ} (hn : 2 ≤ n)
    (hf : 0 < f) (ht : t < n * f) :
    FirstAbove n f samples threshold (.num (binPosition n f le)) (.num (binPosition n f t)) ↔
      le < t ∧ .num threshold < samples.getD t .nan ∧
        ∀ j, le < j → j < t → ¬ .num threshold < samples.getD j .nan := by
  unfold FirstAbove
  simp only [WithNan.num_lt_num, binPosition_lt_iff hn hf]
  constructor
  · rintro ⟨u, -, heq, hlt, habove, hbetween⟩
    obtain rfl : t = u := binPosition_injective hn hf (WithNan.num.inj heq)
    exact ⟨hlt, habove, fun j hj hjt => hbetween j (by omega) hj hjt⟩
  · rintro ⟨hlt, habove, hbetween⟩
    exact ⟨t, ht, rfl, hlt, habove, fun j _ hj hjt => hbetween j hj hjt⟩

/-- What the threshold search finds: the first sample above the threshold, behind
the edge start unless the smoothed waveform is searched. -/
theorem tcogIndex_first {e : EdgeInput} {wfi : List Sample} {threshold : ℚ} {leIndex t : Nat}
    (h : tcogIndex s e wfi threshold leIndex = some t) :
    (s.retrackSmoothWf = true → ∀ j, j < t → ¬ .num threshold < e.wfiSm.getD j .nan) ∧
    (s.retrackSmoothWf = false → e.wfBinNumi.getD leIndex 0 < e.wfBinNumi.getD t 0 ∧
      ∀ j, j < t → e.wfBinNumi.getD leIndex 0 < e.wfBinNumi.getD j 0 →
        ¬ .num threshold < wfi.getD j .nan) := by
  obtain ⟨hp, -, hfirst⟩ := List.find?_range_eq_some.mp h
  constructor
  · intro hsmooth j hj habove
    have hnot := hfirst j hj
    rw [hsmooth, if_pos rfl, decide_eq_true habove] at hnot
    cases hnot
  · intro hsmooth
    rw [hsmooth, if_neg Bool.false_ne_true, Bool.and_eq_true, decide_eq_true_eq] at hp
    refine ⟨of_decide_eq_true hp.2, ?_⟩
    intro j hj hpos habove
    have hnot := hfirst j hj
    rw [hsmooth, if_neg Bool.false_ne_true, decide_eq_true habove, decide_eq_true hpos] at hnot
    cases hnot

section Search

variable {wfnorm wfnormSm : List ℚ} {threshold : ℚ} {n le t : Nat}

/-- The plain waveform is only searched behind the edge start. -/
theorem tcogIndex_plain (hn : 2 ≤ n) (hlen : wfnormSm.length = n)
    (hbranch : s.retrackSmoothWf = false)
    (ht : tcogIndex s (tcogEdgeInput s wfnorm wfnormSm)
      (oversample (wfnorm.map .num) s.wfOversamplingFactor) threshold le = some t)
    (hle : le < n * s.wfOversamplingFactor) (htlt : t < n * s.wfOversamplingFactor) :
    le < t ∧ .num threshold < (tcogSamples s wfnorm wfnormSm).getD t .nan ∧
      ∀ j, le < j → j < t → ¬ .num threshold < (tcogSamples s wfnorm wfnormSm).getD j .nan := by
  obtain ⟨hafter, hbetween⟩ := (tcogIndex_first ht).2 hbranch
  have habove := (tcogIndex_some ht).2
  rw [hbranch, if_neg Bool.false_ne_true] at habove
  rw [tcogEdgeInput_position hlen hle, tcogEdgeInput_position hlen htlt,
    binPosition_lt_iff hn s.factor_pos] at hafter
  rw [tcogSamples, hbranch, if_neg Bool.false_ne_true]
  refine ⟨hafter, habove, fun j hj hjt => hbetween j hjt ?_⟩
  rw [tcogEdgeInput_position hlen hle, tcogEdgeInput_position hlen (hjt.trans htlt),
    binPosition_lt_iff hn s.factor_pos]
  exact hj

/-- The smoothed waveform is searched from its first sample on. -/
theorem tcogIndex_smoothed (hbranch : s.retrackSmoothWf = true)
    (ht : tcogIndex s (tcogEdgeInput s wfnorm wfnormSm)
      (oversample (wfnorm.map .num) s.wfOversamplingFactor) threshold le = some t) :
    .num threshold < (tcogSamples s wfnorm wfnormSm).getD t .nan ∧
      ∀ j, j < t → ¬ .num threshold < (tcogSamples s wfnorm wfnormSm).getD j .nan := by
  have habove := (tcogIndex_some ht).2
  rw [hbranch, if_pos rfl] at habove
  rw [tcogSamples, hbranch, if_pos rfl]
  exact ⟨habove, (tcogIndex_first ht).1 hbranch⟩

end Search

/-- **One waveform**: its point lies on the edge if the smoothed waveform is not
searched, or is quiet up to the edge. -/
theorem tcog_row_iff {n : Nat} (hlen : waveform.length = n) (hn : 2 ≤ n)
    (h : tcogWaveform num s lrmMode waveform = .ok row)
    (hflags : row.flags = [0, 0, 0, 0, 0, 0]) :
    (∃ wfnormSm, tcogSmooth num s lrmMode (normalised waveform) = .ok wfnormSm ∧
      FirstAbove n s.wfOversamplingFactor (tcogSamples s (normalised waveform) wfnormSm)
        (tcogThreshold num s lrmMode (normalised waveform)) row.leadingEdgeStart.1 row.bin) ↔
      s.retrackSmoothWf = false ∨ QuietBeforeEdge num s lrmMode waveform := by
  obtain ⟨wfnormSm, edge, wfMax, hsm, hedge, hrow⟩ := tcogWaveform_noFlag h hflags
  obtain ⟨t, ht, hbin, hstart⟩ := tcogPoint_noFlag hrow hflags
  have hnorm : (normalised waveform).length = n := by rw [normalised, List.length_map, hlen]
  have hsmlen : wfnormSm.length = n := (tcogSmooth_length hsm).trans hnorm
  have htlt := (tcogIndex_some ht).1
  have hlelt := (searchLeadingEdge_some hedge).leIndex_lt
  rw [tcogEdgeInput, size_edgeInput, hsmlen] at htlt hlelt
  have hone : (∃ wfnormSm', tcogSmooth num s lrmMode (normalised waveform) = .ok wfnormSm' ∧
      FirstAbove n s.wfOversamplingFactor (tcogSamples s (normalised waveform) wfnormSm')
        (tcogThreshold num s lrmMode (normalised waveform)) row.leadingEdgeStart.1 row.bin) ↔
      FirstAbove n s.wfOversamplingFactor (tcogSamples s (normalised waveform) wfnormSm)
        (tcogThreshold num s lrmMode (normalised waveform)) row.leadingEdgeStart.1 row.bin := by
    constructor
    · rintro ⟨wfnormSm', hsm', hfirst⟩
      rw [hsm] at hsm'
      rwa [Except.ok.inj hsm']
    · exact fun hfirst => ⟨wfnormSm, hsm, hfirst⟩
  rw [hone, hbin, hstart, tcogEdgeInput_position hsmlen htlt, tcogEdgeInput_position hsmlen hlelt,
    firstAbove_iff hn s.factor_pos htlt]
  cases hbranch : s.retrackSmoothWf with
  | false => exact iff_of_true (tcogIndex_plain hn hsmlen hbranch ht hlelt htlt) (Or.inl rfl)
  | true =>
      obtain ⟨habove, hbetween⟩ := tcogIndex_smoothed hbranch ht
      have hsamples : tcogSamples s (normalised waveform) wfnormSm =
          oversample (zeroToNan wfnormSm) s.wfOversamplingFactor := by
        rw [tcogSamples, hbranch, if_pos rfl]
      constructor
      · rintro ⟨hafter, -, -⟩
        right
        intro wfnormSm' edge' hsm' hedge' j hj
        obtain rfl : wfnormSm = wfnormSm' := Except.ok.inj (hsm.symm.trans hsm')
        rw [hedge] at hedge'
        obtain rfl : edge = edge' := by simpa using hedge'
        rw [← hsamples]
        exact hbetween j (by omega)
      · rintro (hfalse | hquiet)
        · cases hfalse
        · refine ⟨?_, habove, fun j _ hjt => hbetween j hjt⟩
          by_contra hle
          rw [hsamples] at habove
          exact hquiet wfnormSm edge hsm hedge t (by omega) habove

section CleanEdge

variable {e : EdgeInput} {leDpThreshold threshold : ℚ} {a p : Nat}

theorem CleanEdge.findLeIndex_eq (h : CleanEdge e leDpThreshold threshold a p) :
    e.findLeIndex 0 = some a := by
  refine List.find?_range_eq_some.mpr ⟨?_, List.mem_range.mpr (h.start_lt_peak.trans h.peak_lt), ?_⟩
  · simp only [Bool.and_eq_true, decide_eq_true_eq]
    exact ⟨⟨h.above_noise, h.rising⟩, by rw [Nat.zero_add]; exact h.behind_first_bin⟩
  · intro j hj
    simp only [Bool.not_eq_true', Bool.eq_false_iff, ne_eq, Bool.and_eq_true, decide_eq_true_eq]
    rintro ⟨hboth, hlt⟩
    exact h.first_rise j (by omega) hj hboth

theorem CleanEdge.findFirstPeak_eq (h : CleanEdge e leDpThreshold threshold a p)
    (hpos : ∀ j, j ≤ p → (e.wfBinNumi.getD a 0 < e.wfBinNumi.getD j 0 ↔ a < j)) :
    e.findFirstPeak a = some p := by
  refine List.find?_range_eq_some.mpr ⟨?_, List.mem_range.mpr h.peak_lt, ?_⟩
  · simp only [Bool.and_eq_true, decide_eq_true_eq]
    exact ⟨h.peak, (hpos p le_rfl).mpr h.start_lt_peak⟩
  · intro j hj
    simp only [Bool.not_eq_true', Bool.eq_false_iff, ne_eq, Bool.and_eq_true, decide_eq_true_eq]
    rintro ⟨hle, hlt⟩
    exact h.first_peak j ((hpos j hj.le).mp hlt) hj hle

/-- The rise is not one that the search goes on from. -/
theorem CleanEdge.not_rise_lt (h : CleanEdge e leDpThreshold threshold a p) :
    ¬ e.wfiSm.getD p .nan - e.wfiSm.getD a .nan < .num leDpThreshold := by
  have hle := h.rise
  obtain ⟨_, rise, hthreshold, hnum, -⟩ := WithNan.exists_num_of_le hle
  rw [hnum, WithNan.num_le_num] at hle
  rw [hnum, WithNan.num_lt_num]
  exact not_lt_of_ge hle

end CleanEdge

/-- **The search finds a clean edge** in its first round, if it ends without a flag. -/
theorem CleanEdge.leIndex_eq {wfnorm wfnormSm : List ℚ} {threshold : ℚ} {a p : Nat} {edge : Edge}
    (hn : 2 ≤ wfnormSm.length)
    (h : CleanEdge (tcogEdgeInput s wfnorm wfnormSm) s.leDpThreshold threshold a p)
    (hedge : searchLeadingEdge (tcogEdgeInput s wfnorm wfnormSm) s.leDpThreshold =
      .done (some edge)) : edge.leIndex = a := by
  have hplt : p < wfnormSm.length * s.wfOversamplingFactor := by
    have hlt := h.peak_lt
    rwa [tcogEdgeInput, size_edgeInput] at hlt
  have hpos : ∀ j, j ≤ p → ((tcogEdgeInput s wfnorm wfnormSm).wfBinNumi.getD a 0 <
      (tcogEdgeInput s wfnorm wfnormSm).wfBinNumi.getD j 0 ↔ a < j) := by
    intro j hj
    rw [tcogEdgeInput_position rfl (h.start_lt_peak.trans hplt),
      tcogEdgeInput_position rfl (hj.trans_lt hplt), binPosition_lt_iff hn s.factor_pos]
  generalize tcogEdgeInput s wfnorm wfnormSm = e at h hedge hpos
  obtain ⟨size, hsize⟩ : ∃ size, e.size = size + 1 :=
    Nat.exists_eq_succ_of_ne_zero (Nat.ne_of_gt (Nat.zero_lt_of_lt h.peak_lt))
  rw [searchLeadingEdge, EdgeInput.leadingEdge, EdgeInput.leadingEdgeLoop] at hedge
  split at hedge
  · rw [EdgeInput.leadingEdgeRound, h.findLeIndex_eq] at hedge
    simp only [h.findFirstPeak_eq hpos] at hedge
    split at hedge
    · cases hedge
    · next edge' hround =>
      split at hround
      · cases hround
      · obtain rfl := Sum.inr.inj hround
        rw [hsize, EdgeInput.leadingEdgeLoop, if_neg h.not_rise_lt] at hedge
        cases hedge
        rfl
  · cases hedge

/-- Up to a clean edge the smoothed waveform is quiet. -/
theorem quietBeforeEdge_of_clean (hlen : 2 ≤ waveform.length)
    (h : HasCleanEdge num s lrmMode waveform) : QuietBeforeEdge num s lrmMode waveform := by
  obtain ⟨wfnormSm, a, p, hsm, hclean⟩ := h
  intro wfnormSm' edge hsm' hedge
  obtain rfl : wfnormSm = wfnormSm' := Except.ok.inj (hsm.symm.trans hsm')
  have hn : 2 ≤ wfnormSm.length := by
    rw [tcogSmooth_length hsm, normalised, List.length_map]
    exact hlen
  rw [hclean.leIndex_eq hn hedge]
  exact hclean.quiet

/-- **When the TCOG point lies on the leading edge.** For every call that returns
and every waveform it processes without setting a flag: the retracked bin is
behind the start of the leading edge, the power there exceeds the threshold and
no sample between the two does, if `retrack_smooth_wf` is off or the smoothed waveform
has a clean edge. -/
theorem tcog_point (num : Numerics) (s : TcogSettings) (wfs : WaveformArray)
    (index : Option Nat) (included : Option (List Bool)) (r : RetrackResult) (i : Nat)
    (hr : retrackTcogWaveformsCs2 num s wfs index included = .ok r) (hi : i < wfs.rows.length)
    (hsel : tcogSelected wfs.rows.length index included i = true)
    (hflags : r.retrackFlag.getD i [] = [0, 0, 0, 0, 0, 0])
    (hclean : s.retrackSmoothWf = false ∨
      HasCleanEdge num s (wfs.size == 128) (wfs.rows.getD i [])) :
    TcogPointOnEdge num s wfs r i := by
  obtain ⟨-, hsize, -⟩ := tcog_returns hr
  obtain ⟨row, hrow, hrflags, hrstart, hrbin⟩ := tcog_row hr hi hsel
  rw [hrflags] at hflags
  unfold TcogPointOnEdge
  rw [hrstart, hrbin]
  have hlen := (wfs.row_facts hi).1
  exact (tcog_row_iff hlen (by omega) hrow hflags).mpr
    (hclean.imp_right (quietBeforeEdge_of_clean (by omega)))

end Tcog

/-- A fading first bin and an edge half way: 50 counts, a floor of 1, and 20 and
100 counts at bins 60 and 61. -/
def lateEdge : List ℚ := 50 :: (List.replicate 59 1 ++ [20, 100] ++ List.replicate 66 1)

def lateEdgeWaveforms : WaveformArray where
  size := 128
  rows := [lateEdge]
  length_row w hw := by
    rw [List.mem_singleton.mp hw]
    decide +kernel
  nonneg w hw := by
    rw [List.mem_singleton.mp hw]
    decide +kernel

/-- The default thresholds, without oversampling. -/
def plainTcog (retrackSmoothWf : Bool) : TcogSettings :=
  { defaultTcog with
    retrackSmoothWf := retrackSmoothWf
    wfOversamplingFactor := 1
    factor_pos := Nat.one_pos }

/-- The interpolating filter gives back every waveform that its window fits in. -/
theorem tcogSmooth_interpolating {retrackSmoothWf lrmMode : Bool} {wfnorm : List ℚ}
    (hlen : 3 ≤ wfnorm.length) :
    tcogSmooth interpolatingNumerics (plainTcog retrackSmoothWf) lrmMode wfnorm = .ok wfnorm := by
  have haccepts : SavgolAccepts wfnorm.length 3 2 := ⟨by decide, hlen⟩
  rw [tcogSmooth_savgol (s := plainTcog retrackSmoothWf) rfl haccepts]
  exact congrArg Except.ok (savgolFilter_interpolating wfnorm _ _)

theorem noiseMean_lateEdge : noiseMean (lateEdge.map fun q => q / 100) = 1 / 100 := by
  have hperm : (lateEdge.map fun q => q / 100).Perm
      (List.replicate 125 (1 / 100) ++ [1 / 2, 1 / 5, 1]) := by
    decide +kernel
  exact noiseMean_of_floor (by decide) hperm (by decide +kernel)

/-- The row of the late edge: the smoothed search stores bin 0, the raw one
bin 61. -/
def lateEdgeRow (retrackSmoothWf : Bool) : Row where
  leadingEdgeStart := (.num 60, .num (1 / 5))
  leadingEdgeStop := (.num 61, .num 1)
  bin := .num (if retrackSmoothWf then 0 else 61)
  normPower := .num (if retrackSmoothWf then 1 / 2 else 1)
  power := .num (if retrackSmoothWf then 50 else 100)
  flags := [0, 0, 0, 0, 0, 0]

theorem tcogWaveform_lateEdge (retrackSmoothWf : Bool) :
    tcogWaveform interpolatingNumerics (plainTcog retrackSmoothWf) true lateEdge =
      .ok (lateEdgeRow retrackSmoothWf) := by
  have hmax : lateEdge.max? = some 100 := by decide +kernel
  have hsmooth : tcogSmooth interpolatingNumerics (plainTcog retrackSmoothWf) true
      (lateEdge.map fun q => q / 100) = .ok (lateEdge.map fun q => q / 100) :=
    tcogSmooth_interpolating (by rw [List.length_map]; decide +kernel)
  have hnoise : ¬ (plainTcog retrackSmoothWf).noiseThreshold <
      noiseMean (lateEdge.map fun q => q / 100) := by
    rw [noiseMean_lateEdge]
    cases retrackSmoothWf <;> decide +kernel
  have hedge : searchLeadingEdge (tcogEdgeInput (plainTcog retrackSmoothWf)
      (lateEdge.map fun q => q / 100) (lateEdge.map fun q => q / 100))
      (plainTcog retrackSmoothWf).leDpThreshold = .done (some ⟨60, 61, .num (4 / 5)⟩) := by
    unfold tcogEdgeInput
    rw [noiseMean_lateEdge]
    cases retrackSmoothWf <;> decide +kernel
  refine (tcogWaveform_of_edge hmax (by decide +kernel) hsmooth hnoise hedge).trans ?_
  unfold tcogEdgeInput
  rw [noiseMean_lateEdge, Except.ok.injEq]
  cases retrackSmoothWf <;> decide +kernel

theorem tcog_lateEdge_returns (retrackSmoothWf : Bool) :
    ∃ r, retrackTcogWaveformsCs2 interpolatingNumerics (plainTcog retrackSmoothWf)
        lateEdgeWaveforms none none = .ok r ∧ r.retrackFlag = [[0, 0, 0, 0, 0, 0]] ∧
      r.leadingEdgeStart = [(.num 60, .num (1 / 5))] ∧
      r.drBin = [.num (if retrackSmoothWf then 0 else 61) - .num 64] := by
  have hargs : checkTcogArgs interpolatingNumerics (plainTcog retrackSmoothWf) = .ok () := by
    refine checkTcogArgs_ok_iff.mpr ?_
    unfold TcogSettings.InRange
    cases retrackSmoothWf <;> decide +kernel
  have hloop : retrackLoop (fun _ => tcogWaveform interpolatingNumerics
      (plainTcog retrackSmoothWf) (lateEdgeWaveforms.size == 128))
      (tcogSelected lateEdgeWaveforms.rows.length none none) 0 lateEdgeWaveforms.rows =
      .ok [lateEdgeRow retrackSmoothWf] := by
    rw [show lateEdgeWaveforms.rows = [lateEdge] from rfl,
      show (lateEdgeWaveforms.size == 128) = true from rfl]
    exact retrackLoop_single rfl (tcogWaveform_lateEdge retrackSmoothWf)
  have hsel : checkTcogSelection lateEdgeWaveforms.rows.length none none = .ok () := rfl
  unfold retrackTcogWaveformsCs2
  rw [hargs]
  simp only []
  rw [if_neg (by decide), hsel, hloop]
  exact ⟨_, rfl, rfl, rfl, rfl⟩

/-- With `retrack_smooth_wf` the point of the late edge is bin 0, sixty bins before
the edge starts. -/
theorem tcog_point_before_edge :
    ∃ r, retrackTcogWaveformsCs2 interpolatingNumerics (plainTcog true) lateEdgeWaveforms none
        none = .ok r ∧
      tcogSelected lateEdgeWaveforms.rows.length none none 0 = true ∧
      r.retrackFlag.getD 0 [] = [0, 0, 0, 0, 0, 0] ∧
      ¬ TcogPointOnEdge interpolatingNumerics (plainTcog true) lateEdgeWaveforms r 0 := by
  obtain ⟨r, hr, hflags, hstart, hbin⟩ := tcog_lateEdge_returns true
  refine ⟨r, hr, rfl, by rw [hflags]; rfl, ?_⟩
  rintro ⟨_, -, _, -, -, hlt, -⟩
  rw [hstart, hbin] at hlt
  exact absurd hlt (by decide +kernel)

/-- Without it, the point lies on the edge. -/
theorem tcog_point_on_late_edge :
    ∃ r, retrackTcogWaveformsCs2 interpolatingNumerics (plainTcog false) lateEdgeWaveforms none
        none = .ok r ∧
      TcogPointOnEdge interpolatingNumerics (plainTcog false) lateEdgeWaveforms r 0 := by
  obtain ⟨r, hr, hflags, -, -⟩ := tcog_lateEdge_returns false
  refine ⟨r, hr, ?_⟩
  exact tcog_point interpolatingNumerics (plainTcog false) lateEdgeWaveforms none none r 0 hr
    (by decide) rfl (by rw [hflags]; rfl) (Or.inl rfl)

end Clev2er.Retrack
