import Clev2er.Lib.FirstBest
import Clev2er.Retrack.TcogPoint

/-!
# Where the maximum-coherence retracking point lies

The point of a waveform without a flag is the bin of largest smoothed coherence on
the upper half of the leading edge (`indexOfMaxCoherence_best`). The power
reported with it is that of the bin if the raw waveform is retracked. With
`retrack_smooth_wf` it is read at sample `k * wf_oversampling_factor`, which lies
on bin `k` only in the cases of `sampleAt_mul_eq_iff`.
-/

namespace Clev2er.Retrack

open Clev2er.Lib

/-! ## The maximum-coherence point -/

/-- The bins that are retracked: those of the smoothed waveform, or the plain
ones. -/
def mcBins (num : Numerics) (s : McSettings) (wfnorm : List ℚ) : List Sample :=
  if s.retrackSmoothWf then
    zeroToNan (num.savgolFilter wfnorm s.savitskyGolayWidth s.savitskyGolayPolyOrder)
  else wfnorm.map .num

/-- A bin that a sample of the edge rounds to, more than half way up. -/
def TopBin (n f : Nat) (samples : List Sample) (edge : Edge) (b : Nat) : Prop :=
  ∃ j, j < n * f ∧ edge.leIndex ≤ j ∧ j ≤ edge.firstPeakInd ∧
    .num (1 / 2) * edge.leDp < samples.getD j .nan - samples.getD edge.leIndex .nan ∧
    b = rint (binPosition n f j)

/-- The lowest of the bins more than half way up whose smoothed coherence is
largest. -/
def BestBin (n f : Nat) (samples : List Sample) (edge : Edge) (coherenceSm : List Sample)
    (k : Nat) : Prop :=
  TopBin n f samples edge k ∧ ∀ b, TopBin n f samples edge b →
    coherenceSm.getD b .nan < coherenceSm.getD k .nan ∨
      (coherenceSm.getD b .nan = coherenceSm.getD k .nan ∧ k ≤ b)

/-- **The maximum-coherence point of waveform `i`**, as the outputs report it: the
best bin, between the rounded ends of the edge, with the power of that bin. -/
def McPointOnEdge (num : Numerics) (s : McSettings) (wfs : WaveformArray)
    (coherence : List (List Sample)) (r : RetrackResult) (i : Nat) : Prop :=
  let waveform := wfs.rows.getD i []
  let bins := mcBins num s (normalised waveform)
  ∃ edge coherenceSm start stop, ∃ k : Nat,
    searchLeadingEdge (mcEdgeInput num s (normalised waveform)) s.leDpThreshold =
      .done (some edge) ∧
    fastsmooth (coherence.getD i []) s.coherenceSmoothingWidth = some coherenceSm ∧
    (r.leadingEdgeStart.getD i (.nan, .nan)).1 = .num start ∧
    (r.leadingEdgeStop.getD i (.nan, .nan)).1 = .num stop ∧
    r.drBin.getD i .nan + .num s.refBinIndSin = .num (k : ℚ) ∧
    rint start ≤ k ∧ k ≤ rint stop ∧
    BestBin wfs.size s.wfOversamplingFactor (oversample bins s.wfOversamplingFactor) edge
      coherenceSm k ∧
    r.pwrAtRtrkPoint.getD i .nan = .num (waveform.max?.getD 0) * bins.getD k .nan

/-- Sample `k * wf_oversampling_factor` of the smoothed waveform has the value of
bin `k`, for the best bin `k`: there is one sample a bin, or `k` is the first
bin, or it is NaN, or the bin before has the same value. The waveform, the
coherence and the settings fix `k`; no result of the retracker is read. -/
def ReadBackExact (num : Numerics) (s : McSettings) (waveform : List ℚ)
    (coherence : List Sample) : Prop :=
  ∀ edge coherenceSm k,
    searchLeadingEdge (mcEdgeInput num s (normalised waveform)) s.leDpThreshold =
      .done (some edge) →
    fastsmooth coherence s.coherenceSmoothingWidth = some coherenceSm →
    BestBin waveform.length s.wfOversamplingFactor
      (oversample (mcBins num s (normalised waveform)) s.wfOversamplingFactor) edge coherenceSm k →
    s.wfOversamplingFactor = 1 ∨ k = 0 ∨
      (mcBins num s (normalised waveform)).getD k .nan = .nan ∨
      (mcBins num s (normalised waveform)).getD (k - 1) .nan =
        (mcBins num s (normalised waveform)).getD k .nan

section Numbers

/-- Smoothing numbers gives numbers. -/
theorem num_keepsArithmetic : KeepsArithmetic (WithNan.num : ℚ → Sample) where
  add _ _ := rfl
  sub _ _ := rfl
  div _ _ := rfl
  zero := rfl
  natCast _ := rfl

theorem exists_map_num {xs : List Sample} (h : ∀ x ∈ xs, x ≠ .nan) :
    ∃ qs : List ℚ, xs = qs.map .num := by
  induction xs with
  | nil => exact ⟨[], rfl⟩
  | cons x xs ih =>
      obtain ⟨qs, hqs⟩ := ih (fun y hy => h y (List.mem_cons_of_mem x hy))
      cases x with
      | nan => exact absurd rfl (h .nan List.mem_cons_self)
      | num q => exact ⟨q :: qs, by rw [hqs, List.map_cons]⟩

theorem fastsmooth_num {xs out : List Sample} {width : Nat} (h : ∀ x ∈ xs, x ≠ .nan)
    (hout : fastsmooth xs width = some out) : ∀ x ∈ out, x ≠ .nan := by
  obtain ⟨qs, rfl⟩ := exists_map_num h
  rw [num_keepsArithmetic.fastsmooth] at hout
  obtain ⟨out', -, rfl⟩ := Option.map_eq_some_iff.mp hout
  intro x hx
  obtain ⟨q, -, rfl⟩ := List.mem_map.mp hx
  exact nofun

/-- `np.argmax` of numbers scans as `scanBest` does. -/
theorem argmaxFrom_scan : ∀ (xs : List Sample) (best i : Nat) (v : ℚ), (∀ x ∈ xs, x ≠ .nan) →
    ∃ w, scanBest (fun a b => decide (b < a)) i (some (best, v)) xs =
      some (argmaxFrom best (.num v) i xs, w) := by
  intro xs
  induction xs with
  | nil => exact fun best i v _ => ⟨v, rfl⟩
  | cons x xs ih =>
      intro best i v h
      have hxs : ∀ y ∈ xs, y ≠ .nan := fun y hy => h y (List.mem_cons_of_mem x hy)
      cases x with
      | nan => exact absurd rfl (h .nan List.mem_cons_self)
      | num q =>
          simp only [scanBest, argmaxFrom, WithNan.isNan_num, Bool.false_or, WithNan.num_lt_num,
            decide_eq_true_eq, if_neg Bool.false_ne_true]
          split
          · exact ih i (i + 1) q hxs
          · exact ih best (i + 1) v hxs

theorem argmax_firstBest {xs : List Sample} (hne : xs ≠ []) (h : ∀ x ∈ xs, x ≠ .nan) :
    ∃ v, FirstBest (fun a b : ℚ => decide (b < a)) xs (argmax xs) v := by
  cases xs with
  | nil => exact absurd rfl hne
  | cons x xs =>
      cases x with
      | nan => exact absurd rfl (h .nan List.mem_cons_self)
      | num q =>
          obtain ⟨w, hw⟩ := argmaxFrom_scan xs 0 1 q
            (fun y hy => h y (List.mem_cons_of_mem _ hy))
          rcases scanBest_cases (ranking_gt (K := ℚ)) (.num q :: xs) with
            ⟨-, hnan⟩ | ⟨m, v, hscan, hbest⟩
          · cases hnan _ List.mem_cons_self
          · rw [scanBest, hw] at hscan
            obtain ⟨rfl, rfl⟩ := Prod.mk.inj (Option.some.inj hscan)
            exact ⟨_, hbest⟩

theorem rint_bounds {x : ℚ} : ⌊x⌋₊ ≤ rint x ∧ rint x ≤ ⌊x⌋₊ + 1 := by
  simp only [rint]
  split
  · omega
  · split
    · omega
    · split <;> omega

theorem rint_mono {x y : ℚ} (h : x ≤ y) : rint x ≤ rint y := by
  have hx := rint_bounds (x := x)
  have hy := rint_bounds (x := y)
  rcases Nat.lt_or_eq_of_le (Nat.floor_le_floor h) with hlt | heq
  · omega
  · -- the same floor: compare what is left
    simp only [rint, heq]
    have hrest : x - (⌊y⌋₊ : ℚ) ≤ y - (⌊y⌋₊ : ℚ) := sub_le_sub_right h _
    split
    · split
      · exact Nat.le_refl _
      · split
        · omega
        · split <;> omega
    · next hx1 =>
      have hy1 : ¬ y - (⌊y⌋₊ : ℚ) < 1 / 2 := fun hlt => hx1 (lt_of_le_of_lt hrest hlt)
      rw [if_neg hy1]
      split
      · next hx2 =>
        have hy2 : 1 / 2 < y - (⌊y⌋₊ : ℚ) := lt_of_lt_of_le hx2 hrest
        rw [if_pos hy2]
      · split
        · split
          · omega
          · exact Nat.le_refl _
        · split <;> omega

theorem unique_pairwise (xs : List Nat) : (unique xs).Pairwise (· < ·) := by
  have hle : (xs.mergeSort (fun a b => decide (a ≤ b))).Pairwise (· ≤ ·) :=
    List.pairwise_mergeSort' (· ≤ ·) xs
  have hsorted : (unique xs).Pairwise (· ≤ ·) := hle.sublist (List.dedup_sublist _)
  have hnodup : (unique xs).Nodup := List.nodup_dedup _
  exact hsorted.imp₂ (fun a b hab hne => Nat.lt_of_le_of_ne hab hne) hnodup

end Numbers

section ReadBack

theorem mul_num_eq_iff {a b : Sample} {q : ℚ} (hq : q ≠ 0) :
    a * .num q = .num q * b ↔ a = b := by
  cases a with
  | nan => cases b <;> simp
  | num a =>
      cases b with
      | nan => simp
      | num b => simp [mul_comm q b, hq]

variable {bins : List Sample} {f k : Nat}

/-- A bin's own value at its position. -/
theorem interpBins_natCast (hk : k < bins.length) : interpBins bins (k : ℚ) = bins.getD k .nan := by
  simp only [interpBins, Nat.floor_natCast]
  split
  · rw [show bins.length - 1 = k by omega]
  · exact if_pos trivial

/-- Sample `k * f` lies on bin `k` only if there is one sample a bin, or `k` is
the first bin: it lies strictly between bin `k` and the one before otherwise. -/
theorem binPosition_mul_bounds {n : Nat} (hk0 : 0 < k) (hk : k < n) (hf : 2 ≤ f) :
    ((k - 1 : Nat) : ℚ) < binPosition n f (k * f) ∧ binPosition n f (k * f) < k := by
  have hn : 1 ≤ n * f := Nat.mul_pos (by omega) (by omega)
  have hden : (0 : ℚ) < ((n * f - 1 : Nat) : ℚ) := by
    rw [Nat.cast_pos]
    have : 2 * 2 ≤ n * f := Nat.mul_le_mul (by omega) hf
    omega
  have hden' : ((n * f - 1 : Nat) : ℚ) = n * f - 1 := by
    push_cast [Nat.cast_sub hn]
    ring
  have hnum : ((n - 1 : Nat) : ℚ) = n - 1 := by rw [Nat.cast_sub (by omega), Nat.cast_one]
  have hk1 : ((k - 1 : Nat) : ℚ) = k - 1 := by rw [Nat.cast_sub hk0, Nat.cast_one]
  have hf' : (2 : ℚ) ≤ f := by exact_mod_cast hf
  have hk0' : (1 : ℚ) ≤ k := by exact_mod_cast hk0
  have hkn : (k : ℚ) + 1 ≤ n := by exact_mod_cast hk
  unfold binPosition
  rw [← mul_div_assoc, lt_div_iff₀ hden, div_lt_iff₀ hden, hden', hnum, hk1]
  push_cast
  constructor
  · -- the sample falls short of bin `k` by `k * (f - 1) / (n * f - 1)`, which is below one
    have hshort : (k : ℚ) * (f - 1) ≤ (n - 1) * (f - 1) :=
      mul_le_mul_of_nonneg_right (by linarith) (by linarith)
    nlinarith only [hshort, hf', hkn]
  · nlinarith only [hk0', hf', mul_pos (by linarith : (0 : ℚ) < k) (by linarith : (0 : ℚ) < f - 1)]

/-- **When sample `k * f` has the value of bin `k`.** -/
theorem sampleAt_mul_eq_iff (hk : k < bins.length) (hf : 0 < f) :
    sampleAt bins f (k * f) = bins.getD k .nan ↔
      f = 1 ∨ k = 0 ∨ bins.getD k .nan = .nan ∨ bins.getD (k - 1) .nan = bins.getD k .nan := by
  unfold sampleAt
  rcases Nat.eq_zero_or_pos k with rfl | hk0
  · have hzero : binPosition bins.length f (0 * f) = ((0 : Nat) : ℚ) := by simp [binPosition]
    rw [hzero, interpBins_natCast hk]
    exact iff_of_true rfl (Or.inr (Or.inl rfl))
  by_cases hone : f = 1
  · subst hone
    have hden : ((bins.length - 1 : Nat) : ℚ) ≠ 0 := Nat.cast_ne_zero.mpr (by omega)
    have hpos : binPosition bins.length 1 (k * 1) = (k : ℚ) := by
      rw [binPosition, Nat.mul_one, Nat.mul_one, div_self hden, mul_one]
    rw [hpos, interpBins_natCast hk]
    exact iff_of_true rfl (Or.inl rfl)
  obtain ⟨hlow, hhigh⟩ := binPosition_mul_bounds hk0 hk (by omega : 2 ≤ f)
  generalize binPosition bins.length f (k * f) = x at hlow hhigh
  have hx : 0 ≤ x := le_trans (Nat.cast_nonneg _) hlow.le
  have hfloor : ⌊x⌋₊ = k - 1 := by
    refine (Nat.floor_eq_iff hx).mpr ⟨hlow.le, ?_⟩
    rwa [Nat.cast_sub hk0, Nat.cast_one, sub_add_cancel]
  have hval : interpBins bins x =
      (bins.getD k .nan - bins.getD (k - 1) .nan) * .num (x - (k - 1 : Nat)) +
        bins.getD (k - 1) .nan := by
    simp only [interpBins, hfloor]
    rw [if_neg (by omega), if_neg (ne_of_gt hlow), Nat.sub_add_cancel hk0]
  rw [hval]
  have hone' : ¬ (f = 1) := hone
  have hk0' : ¬ (k = 0) := by omega
  simp only [hone', hk0', false_or]
  cases hb : bins.getD k .nan with
  | nan => simp
  | num b =>
      cases ha : bins.getD (k - 1) .nan with
      | nan => simp
      | num a =>
          have hlt : x - ((k - 1 : Nat) : ℚ) ≠ 1 := by
            rw [Nat.cast_sub hk0, Nat.cast_one]
            intro heq
            linarith
          simp only [WithNan.num_sub_num, WithNan.num_mul_num, WithNan.num_add_num,
            WithNan.num.injEq, reduceCtorEq, false_or]
          constructor
          · intro heq
            by_contra hne
            have hdiff : (b - a) * (x - ((k - 1 : Nat) : ℚ) - 1) = 0 := by linarith
            rcases mul_eq_zero.mp hdiff with h0 | h1
            · exact hne (sub_eq_zero.mp h0).symm
            · exact hlt (sub_eq_zero.mp h1)
          · rintro rfl
            rw [sub_self, zero_mul, zero_add]

end ReadBack

section MaxCoherence

variable {num : Numerics} {s : McSettings} {waveform wfnormSm : List ℚ} {wfNoiseMean : ℚ}
  {row : Row} {edge : Edge} {coherenceSm : List Sample}

theorem mem_topOfLeIndices {wfi : List Sample} {b : Nat} :
    b ∈ topOfLeIndices s
        (edgeInput wfnormSm s.wfOversamplingFactor wfNoiseMean s.leIdThreshold) wfi edge ↔
      TopBin wfnormSm.length s.wfOversamplingFactor
        (if s.retrackSmoothWf then oversample (zeroToNan wfnormSm) s.wfOversamplingFactor else wfi)
        edge b := by
  unfold topOfLeIndices unique TopBin
  simp only [List.mem_dedup, List.mem_mergeSort, List.mem_map, List.mem_filter, List.mem_range,
    size_edgeInput, Bool.and_eq_true, decide_eq_true_eq]
  constructor
  · rintro ⟨j, ⟨hj, ⟨hrise, hle⟩, hpeak⟩, rfl⟩
    exact ⟨j, hj, hle, hpeak, hrise, by rw [wfBinNumi_getD hj]⟩
  · rintro ⟨j, hj, hle, hpeak, hrise, rfl⟩
    exact ⟨j, ⟨hj, ⟨hrise, hle⟩, hpeak⟩, by rw [wfBinNumi_getD hj]⟩

theorem topBin_lt {n f : Nat} {samples : List Sample} {b : Nat} (hn : 0 < n)
    (h : TopBin n f samples edge b) : b < n := by
  obtain ⟨j, hj, -, -, -, rfl⟩ := h
  have hle : rint (binPosition n f j) ≤ n - 1 :=
    rint_le (binPosition_nonneg _ _ _) (binPosition_le_last hj)
  omega

/-- A bin of the edge comes from a sample between its two ends. -/
theorem topBin_between {n f : Nat} {samples : List Sample} {b : Nat}
    (h : TopBin n f samples edge b) : rint (binPosition n f edge.leIndex) ≤ b ∧
      b ≤ rint (binPosition n f edge.firstPeakInd) := by
  obtain ⟨j, -, hle, hpeak, -, rfl⟩ := h
  exact ⟨rint_mono (binPosition_mono hle), rint_mono (binPosition_mono hpeak)⟩

/-- Over ascending bins, `argmax` finds the lowest of the bins with the largest entry. -/
theorem argmax_ascending {top : List Nat} {entry : Nat → Sample} {b : Nat}
    (hsorted : top.Pairwise (· < ·)) (hnum : ∀ c ∈ top, entry c ≠ .nan)
    (h : top[argmax (top.map entry)]? = some b) :
    ∀ c ∈ top, entry c < entry b ∨ entry c = entry b ∧ b ≤ c := by
  have hne : top.map entry ≠ [] := by
    intro hnil
    rw [List.map_eq_nil_iff.mp hnil] at h
    cases h
  have hvalues : ∀ x ∈ top.map entry, x ≠ .nan := by
    intro x hx
    obtain ⟨c, hc, rfl⟩ := List.mem_map.mp hx
    exact hnum c hc
  obtain ⟨v, hbest⟩ := argmax_firstBest hne hvalues
  generalize argmax (top.map entry) = m at h hbest
  have hv : entry b = .num v := by
    have hentry := hbest.entry
    rw [List.getElem?_map, h, Option.map_some] at hentry
    exact Option.some.inj hentry
  intro c hc
  obtain ⟨j, hj⟩ := List.getElem?_of_mem hc
  obtain ⟨w, hw⟩ : ∃ w, entry c = .num w := by
    cases hval : entry c with
    | nan => exact absurd hval (hnum c hc)
    | num w => exact ⟨w, rfl⟩
  have hjw : (top.map entry)[j]? = some (WithNan.num w) := by
    rw [List.getElem?_map, hj, Option.map_some, hw]
  have hle := of_decide_eq_false (hbest.best j w hjw)
  rw [hv, hw, WithNan.num_lt_num, WithNan.num.injEq]
  rcases lt_or_eq_of_le (not_lt.mp hle) with hlt | heq
  · exact Or.inl hlt
  · -- of equal entries the scan keeps the first, which is the lowest bin
    refine Or.inr ⟨heq, ?_⟩
    by_contra hgt
    have hjm : j < m := by
      obtain ⟨hmlt, hmb⟩ := List.getElem?_eq_some_iff.mp h
      obtain ⟨hjlt, hjc⟩ := List.getElem?_eq_some_iff.mp hj
      by_contra hge
      rcases Nat.lt_or_eq_of_le (Nat.le_of_not_lt hge) with hlt' | heq'
      · have := List.pairwise_iff_getElem.mp hsorted m j hmlt hjlt hlt'
        omega
      · subst heq'
        omega
    have hfirst := of_decide_eq_true (hbest.first j w hjm hjw)
    exact absurd heq (ne_of_lt hfirst)

/-- The chosen entry of the sorted bins is the best bin. -/
theorem indexOfMaxCoherence_best {wfi : List Sample} {b : Nat} (hn : 0 < wfnormSm.length)
    (hlen : coherenceSm.length = wfnormSm.length) (hnum : ∀ x ∈ coherenceSm, x ≠ .nan)
    (h : indexOfMaxCoherence (topOfLeIndices s
      (edgeInput wfnormSm s.wfOversamplingFactor wfNoiseMean s.leIdThreshold) wfi edge)
        coherenceSm = some b) :
    BestBin wfnormSm.length s.wfOversamplingFactor
      (if s.retrackSmoothWf then oversample (zeroToNan wfnormSm) s.wfOversamplingFactor else wfi)
      edge coherenceSm b := by
  have hmem : ∀ c, c ∈ topOfLeIndices s
      (edgeInput wfnormSm s.wfOversamplingFactor wfNoiseMean s.leIdThreshold) wfi edge ↔
      TopBin wfnormSm.length s.wfOversamplingFactor
        (if s.retrackSmoothWf then oversample (zeroToNan wfnormSm) s.wfOversamplingFactor else wfi)
        edge c := fun c => mem_topOfLeIndices
  have hsorted : (topOfLeIndices s (edgeInput wfnormSm s.wfOversamplingFactor wfNoiseMean
      s.leIdThreshold) wfi edge).Pairwise (· < ·) := unique_pairwise _
  generalize topOfLeIndices s (edgeInput wfnormSm s.wfOversamplingFactor wfNoiseMean
    s.leIdThreshold) wfi edge = top at h hmem hsorted
  unfold indexOfMaxCoherence at h
  have hentries : ∀ c ∈ top, coherenceSm.getD c .nan ≠ .nan := by
    intro c hc
    have hlt : c < coherenceSm.length := hlen ▸ topBin_lt hn ((hmem c).mp hc)
    exact hnum _ (getD_mem hlt .nan)
  refine ⟨(hmem b).mp (List.mem_of_getElem? h), fun c hc => ?_⟩
  exact argmax_ascending hsorted hentries h c ((hmem c).mpr hc)

theorem BestBin.unique {n f : Nat} {samples : List Sample} {k k' : Nat}
    (h : BestBin n f samples edge coherenceSm k) (h' : BestBin n f samples edge coherenceSm k') :
    k = k' := by
  rcases h.2 k' h'.1 with hlt | ⟨heq, hle⟩
  · rcases h'.2 k h.1 with hlt' | ⟨heq', -⟩
    · obtain ⟨a, b, ha, hb, hab⟩ := WithNan.exists_num_of_lt hlt
      obtain ⟨c, d, hc, hd, hcd⟩ := WithNan.exists_num_of_lt hlt'
      rw [hb] at hc
      rw [ha] at hd
      cases hc
      cases hd
      exact absurd hab (lt_asymm hcd)
    · obtain ⟨a, b, ha, hb, hab⟩ := WithNan.exists_num_of_lt hlt
      rw [ha, hb] at heq'
      cases heq'
      exact absurd hab (lt_irrefl _)
  · rcases h'.2 k h.1 with hlt' | ⟨-, hle'⟩
    · obtain ⟨a, b, ha, hb, hab⟩ := WithNan.exists_num_of_lt hlt'
      rw [ha, hb] at heq
      cases heq
      exact absurd hab (lt_irrefl _)
    · omega

/-- A row without a flag comes from the search for the largest coherence. -/
theorem mcWaveform_noFlag {coherence : List (List Sample)} {i : Nat}
    (h : mcWaveform num s (some coherence) i waveform = .ok row)
    (hflags : row.flags = [0, 0, 0, 0, 0, 0]) :
    ∃ edge coherenceSm wfMax, waveform.max? = some wfMax ∧ wfMax ≠ 0 ∧
      searchLeadingEdge (mcEdgeInput num s (normalised waveform)) s.leDpThreshold =
        .done (some edge) ∧
      fastsmooth (coherence.getD i []) s.coherenceSmoothingWidth = some coherenceSm ∧
      row = mcPoint s (mcEdgeInput num s (normalised waveform)) waveform (normalised waveform)
        wfMax coherenceSm edge := by
  unfold mcWaveform at h
  cases hmax : waveform.max? with
  | none =>
      rw [hmax] at h
      cases h
  | some wfMax =>
      have hnorm : waveform.map (fun q => q / wfMax) = normalised waveform := by
        rw [normalised, hmax, Option.getD_some]
      rw [hmax] at h
      simp only [hnorm] at h
      split at h
      · exact absurd (Except.ok.inj h) (ne_initial_setFlag hflags (by decide))
      next hne =>
      split at h
      · cases h
      split at h
      · exact absurd (Except.ok.inj h) (ne_initial_setFlag hflags (by decide))
      split at h
      · next flag _ => exact absurd (Except.ok.inj h) (ne_initial_setFlag hflags flag.index_mem)
      · cases h
      next edge hedge =>
      split at h
      · cases h
      · next coherenceSm hsm =>
        exact ⟨edge, coherenceSm, wfMax, rfl, hne, hedge, hsm, (Except.ok.inj h).symm⟩

/-- The stored point of a row without a flag. -/
theorem mcPoint_noFlag {e : EdgeInput} {wfnorm : List ℚ} {wfMax : ℚ}
    (h : row = mcPoint s e waveform wfnorm wfMax coherenceSm edge)
    (hflags : row.flags = [0, 0, 0, 0, 0, 0]) :
    ∃ b, indexOfMaxCoherence (topOfLeIndices s e
        (oversample (wfnorm.map .num) s.wfOversamplingFactor) edge) coherenceSm = some b ∧
      row.bin = .num b ∧
      row.leadingEdgeStart.1 = .num (e.wfBinNumi.getD edge.leIndex 0) ∧
      row.leadingEdgeStop.1 = .num (e.wfBinNumi.getD edge.firstPeakInd 0) ∧
      row.power = if s.retrackSmoothWf then
          e.wfiSm.getD (b * s.wfOversamplingFactor) .nan * .num wfMax
        else .num (waveform.getD b 0) := by
  subst h
  unfold mcPoint at hflags ⊢
  simp only [] at hflags ⊢
  split at hflags
  · change [0, 0, 0, 0, 0, 0].set 5 1 = [0, 0, 0, 0, 0, 0] at hflags
    exact absurd hflags (by decide)
  · next b hb =>
    refine ⟨b, hb, ?_⟩
    cases hsmooth : s.retrackSmoothWf with
    | true =>
        rw [hsmooth, if_pos rfl] at hflags
        rw [if_pos rfl, if_pos rfl, storePoint_noFlag rfl hflags]
        exact ⟨rfl, rfl, rfl, rfl⟩
    | false =>
        rw [hsmooth, if_neg Bool.false_ne_true] at hflags
        rw [if_neg Bool.false_ne_true, if_neg Bool.false_ne_true, storePoint_noFlag rfl hflags]
        exact ⟨rfl, rfl, rfl, rfl⟩

/-- The row of a waveform with a leading edge and coherence. -/
theorem mcWaveform_of_edge {coherence : List (List Sample)} {i : Nat} {wfMax : ℚ}
    (hmax : waveform.max? = some wfMax) (hne : wfMax ≠ 0)
    (hsavgol : s.SmoothingAccepted waveform.length)
    (hnoise : ¬ s.noiseThreshold < noiseMean (waveform.map fun q => q / wfMax))
    (hedge : searchLeadingEdge (mcEdgeInput num s (waveform.map fun q => q / wfMax))
      s.leDpThreshold = .done (some edge))
    (hsm : fastsmooth (coherence.getD i []) s.coherenceSmoothingWidth = some coherenceSm) :
    mcWaveform num s (some coherence) i waveform =
      .ok (mcPoint s (mcEdgeInput num s (waveform.map fun q => q / wfMax)) waveform
        (waveform.map fun q => q / wfMax) wfMax coherenceSm edge) := by
  have haccepted : checkSavgol (waveform.map fun q => q / wfMax).length s.savitskyGolayWidth
      s.savitskyGolayPolyOrder = .ok () := by
    rw [List.length_map]
    exact checkSavgol_ok_iff.mpr hsavgol
  unfold mcWaveform
  rw [hmax]
  simp only []
  rw [if_neg hne, haccepted]
  simp only []
  rw [if_neg hnoise, hedge]
  simp only []
  rw [hsm]

theorem mcPoint_flags {e : EdgeInput} {wfnorm : List ℚ} {wfMax : ℚ} {b : Nat}
    (hb : indexOfMaxCoherence (topOfLeIndices s e
      (oversample (wfnorm.map .num) s.wfOversamplingFactor) edge) coherenceSm = some b)
    (hsmooth : e.wfiSm.getD (b * s.wfOversamplingFactor) .nan * .num wfMax ≠ .num 0)
    (hraw : waveform.getD b 0 ≠ 0) :
    (mcPoint s e waveform wfnorm wfMax coherenceSm edge).flags = [0, 0, 0, 0, 0, 0] := by
  simp only [mcPoint, hb]
  split
  · rw [Row.storePoint, if_neg hsmooth]
    rfl
  · have hraw' : (WithNan.num (waveform.getD b 0) : Sample) ≠ .num 0 :=
      fun heq => hraw (WithNan.num.inj heq)
    rw [Row.storePoint, if_neg hraw']
    rfl

/-- What a call returns for a waveform it processes. -/
theorem mc_row {wfs : WaveformArray} {coherence : List (List Sample)} {index : Option Nat}
    {included : Option (List Bool)} {r : RetrackResult} {i : Nat}
    (hr : retrackCs2SinMaxCoherence num s wfs (some coherence) index included = .ok r)
    (hi : i < wfs.rows.length) (hsel : mcSelected index included i = true) :
    ∃ row, mcWaveform num s (some coherence) i (wfs.rows.getD i []) = .ok row ∧
      r.retrackFlag.getD i [] = row.flags ∧
      (r.leadingEdgeStart.getD i (.nan, .nan)).1 = row.leadingEdgeStart.1 ∧
      r.drBin.getD i .nan + .num s.refBinIndSin = row.bin ∧
      (r.leadingEdgeStop.getD i (.nan, .nan)).1 = row.leadingEdgeStop.1 ∧
      r.pwrAtRtrkPoint.getD i .nan = row.power := by
  unfold retrackCs2SinMaxCoherence at hr
  split at hr
  · cases hr
  split at hr
  · cases hr
  split at hr
  · cases hr
  · next rows hrows =>
    obtain ⟨hlen, hentries⟩ := retrackLoop_rows hrows
    have hi' : i < rows.length := hlen ▸ hi
    exact ⟨_, (hentries i hi).2 hsel, finishRetrack_row hr hi'⟩

theorem mcEdgeInput_position {wfnorm : List ℚ} {n j : Nat} (hlen : wfnorm.length = n)
    (hj : j < n * s.wfOversamplingFactor) :
    (mcEdgeInput num s wfnorm).wfBinNumi.getD j 0 = binPosition n s.wfOversamplingFactor j := by
  have hsmlen : (num.savgolFilter wfnorm s.savitskyGolayWidth
      s.savitskyGolayPolyOrder).length = n := by rw [num.length_savgolFilter, hlen]
  rw [mcEdgeInput, wfBinNumi_getD (by rw [hsmlen]; exact hj), hsmlen]

/-- **The power reported with a bin** is that of the bin if the plain waveform is
retracked, or if the sample read for it has the bin's value. -/
theorem mcPower_eq_iff {n b : Nat} {wfMax : ℚ} (hlen : waveform.length = n)
    (hmax : waveform.max? = some wfMax) (hne : wfMax ≠ 0) (hbn : b < n) :
    (if s.retrackSmoothWf then (mcEdgeInput num s (normalised waveform)).wfiSm.getD
          (b * s.wfOversamplingFactor) .nan * .num wfMax
        else .num (waveform.getD b 0)) =
        .num wfMax * (mcBins num s (normalised waveform)).getD b .nan ↔
      s.retrackSmoothWf = false ∨ s.wfOversamplingFactor = 1 ∨ b = 0 ∨
        (mcBins num s (normalised waveform)).getD b .nan = .nan ∨
        (mcBins num s (normalised waveform)).getD (b - 1) .nan =
          (mcBins num s (normalised waveform)).getD b .nan := by
  have hnorm : (normalised waveform).length = n := by rw [normalised, List.length_map, hlen]
  have hsmlen : (num.savgolFilter (normalised waveform) s.savitskyGolayWidth
      s.savitskyGolayPolyOrder).length = n := by rw [num.length_savgolFilter, hnorm]
  cases hsmooth : s.retrackSmoothWf with
  | false =>
      refine iff_of_true ?_ (Or.inl rfl)
      have hlt : b < waveform.length := hlen ▸ hbn
      rw [if_neg Bool.false_ne_true, mcBins, hsmooth, if_neg Bool.false_ne_true,
        getD_map_of_lt _ (by rw [hnorm]; exact hbn) 0, normalised, getD_map_of_lt _ hlt 0, hmax,
        Option.getD_some, WithNan.num_mul_num, mul_div_cancel₀ _ hne]
  | true =>
      have hbins : (mcBins num s (normalised waveform)).length = n := by
        rw [mcBins, hsmooth, if_pos rfl, length_zeroToNan, hsmlen]
      have hsample : (mcEdgeInput num s (normalised waveform)).wfiSm.getD
          (b * s.wfOversamplingFactor) .nan =
          sampleAt (mcBins num s (normalised waveform)) s.wfOversamplingFactor
            (b * s.wfOversamplingFactor) := by
        have hlt : b * s.wfOversamplingFactor < n * s.wfOversamplingFactor :=
          Nat.mul_lt_mul_of_pos_right hbn s.factor_pos
        rw [← oversample_getD _ (by rw [sampleCount, hbins]; exact hlt), mcBins, hsmooth,
          if_pos rfl]
        rfl
      rw [if_pos rfl, hsample, ← sampleAt_mul_eq_iff (by rw [hbins]; exact hbn) s.factor_pos]
      simp only [reduceCtorEq, false_or]
      exact mul_num_eq_iff hne

/-- **One waveform**: the best bin lies between the rounded ends of the edge, and
the power is that of the bin if the plain waveform is retracked or the read-back
is exact. -/
theorem mc_row_iff {coherence : List (List Sample)} {i n : Nat} (hlen : waveform.length = n)
    (hn : 0 < n) (hcohlen : (coherence.getD i []).length = n)
    (hcoh : ∀ x ∈ coherence.getD i [], x ≠ .nan)
    (h : mcWaveform num s (some coherence) i waveform = .ok row)
    (hflags : row.flags = [0, 0, 0, 0, 0, 0]) :
    (∃ edge coherenceSm start stop, ∃ k : Nat,
      searchLeadingEdge (mcEdgeInput num s (normalised waveform)) s.leDpThreshold =
        .done (some edge) ∧
      fastsmooth (coherence.getD i []) s.coherenceSmoothingWidth = some coherenceSm ∧
      row.leadingEdgeStart.1 = .num start ∧ row.leadingEdgeStop.1 = .num stop ∧
      row.bin = .num (k : ℚ) ∧ rint start ≤ k ∧ k ≤ rint stop ∧
      BestBin n s.wfOversamplingFactor
        (oversample (mcBins num s (normalised waveform)) s.wfOversamplingFactor) edge
        coherenceSm k ∧
      row.power = .num (waveform.max?.getD 0) *
        (mcBins num s (normalised waveform)).getD k .nan) ↔
      s.retrackSmoothWf = false ∨ ReadBackExact num s waveform (coherence.getD i []) := by
  obtain ⟨edge, coherenceSm, wfMax, hmax, hne, hedge, hsm, hrow⟩ := mcWaveform_noFlag h hflags
  obtain ⟨b, hb, hbin, hstart, hstop, hpower⟩ := mcPoint_noFlag hrow hflags
  have hnorm : (normalised waveform).length = n := by rw [normalised, List.length_map, hlen]
  have hsmlen : (num.savgolFilter (normalised waveform) s.savitskyGolayWidth
      s.savitskyGolayPolyOrder).length = n := by rw [num.length_savgolFilter, hnorm]
  have hcohSm : coherenceSm.length = n := by rw [length_fastsmooth hsm, hcohlen]
  have hbest : BestBin n s.wfOversamplingFactor
      (oversample (mcBins num s (normalised waveform)) s.wfOversamplingFactor) edge
      coherenceSm b := by
    have hbest' := indexOfMaxCoherence_best (by rw [hsmlen]; exact hn) (by rw [hsmlen, hcohSm])
      (fastsmooth_num hcoh hsm) hb
    rw [hsmlen] at hbest'
    unfold mcBins
    rwa [apply_ite (fun bins => oversample bins s.wfOversamplingFactor)]
  have hpeakLt : edge.firstPeakInd < n * s.wfOversamplingFactor := by
    have hround := (searchLeadingEdge_some hedge).1.choose_spec
    have hlt := (findFirstPeak_some (leadingEdgeRound_inr hround).2.1).1
    rwa [mcEdgeInput, size_edgeInput, hsmlen] at hlt
  have hleLt : edge.leIndex < n * s.wfOversamplingFactor := by
    obtain ⟨j, hj, hle, -, -, -⟩ := hbest.1
    omega
  rw [mcEdgeInput_position hnorm hleLt] at hstart
  rw [mcEdgeInput_position hnorm hpeakLt] at hstop
  obtain ⟨hlow, hhigh⟩ := topBin_between hbest.1
  have hbn : b < n := topBin_lt hn hbest.1
  rw [hmax, Option.getD_some]
  have hread : (row.power = .num wfMax * (mcBins num s (normalised waveform)).getD b .nan) ↔
      s.retrackSmoothWf = false ∨ s.wfOversamplingFactor = 1 ∨ b = 0 ∨
        (mcBins num s (normalised waveform)).getD b .nan = .nan ∨
        (mcBins num s (normalised waveform)).getD (b - 1) .nan =
          (mcBins num s (normalised waveform)).getD b .nan := by
    rw [hpower]
    exact mcPower_eq_iff hlen hmax hne hbn
  constructor
  · rintro ⟨edge', coherenceSm', _, _, k, hedge', hsm', -, -, hk, -, -, hbest', hpower'⟩
    have hkb : b = k := by
      rw [hbin] at hk
      exact_mod_cast WithNan.num.inj hk
    subst hkb
    rcases hread.mp hpower' with hplain | hexact
    · exact Or.inl hplain
    · right
      intro edge'' coherenceSm'' k' hedge'' hsm'' hbest''
      obtain rfl : edge = edge'' := by simpa [hedge] using hedge''
      obtain rfl : coherenceSm = coherenceSm'' := Option.some.inj (hsm.symm.trans hsm'')
      rw [hlen] at hbest''
      rwa [hbest''.unique hbest]
  · intro hcond
    refine ⟨edge, coherenceSm, _, _, b, hedge, hsm, hstart, hstop, hbin, hlow, hhigh, hbest, ?_⟩
    refine hread.mpr (hcond.imp id fun hexact => ?_)
    exact hexact edge coherenceSm b hedge hsm (by rw [hlen]; exact hbest)

end MaxCoherence

/-- **When the maximum-coherence point is what it should be.** For every call that
returns and every waveform it processes without setting a flag: the retracked bin
lies between the rounded ends of the leading edge, is the lowest of the bins more
than half way up whose smoothed coherence is largest, and has the reported power,
exactly if `retrack_smooth_wf` is off or the sample read for the bin has the
bin's value. -/
theorem mc_point_iff (num : Numerics) (s : McSettings) (wfs : WaveformArray)
    (coherence : List (List Sample)) (index : Option Nat) (included : Option (List Bool))
    (r : RetrackResult) (i : Nat)
    (hr : retrackCs2SinMaxCoherence num s wfs (some coherence) index included = .ok r)
    (hi : i < wfs.rows.length) (hsel : mcSelected index included i = true)
    (hshape : (coherence.getD i []).length = wfs.size)
    (hcoh : ∀ x ∈ coherence.getD i [], x ≠ .nan)
    (hflags : r.retrackFlag.getD i [] = [0, 0, 0, 0, 0, 0]) :
    McPointOnEdge num s wfs coherence r i ↔
      s.retrackSmoothWf = false ∨
        ReadBackExact num s (wfs.rows.getD i []) (coherence.getD i []) := by
  have hsize : wfs.size = 1024 := by
    by_contra hne
    unfold retrackCs2SinMaxCoherence at hr
    rw [if_pos hne] at hr
    cases hr
  obtain ⟨row, hrow, hrflags, hrstart, hrbin, hrstop, hrpower⟩ := mc_row hr hi hsel
  rw [hrflags] at hflags
  unfold McPointOnEdge
  rw [hrstart, hrstop, hrbin, hrpower]
  exact mc_row_iff (wfs.row_facts hi).1 (by omega) hshape hcoh hrow hflags

/-! ## A steep edge -/

/-- A floor of 1 with 20 and 100 counts at bins 4 and 5. -/
@[irreducible] def steepEdge : List ℚ := [1, 1, 1, 1, 20, 100] ++ List.replicate 1018 1

def steepEdgeWaveforms : WaveformArray where
  size := 1024
  rows := [steepEdge]
  length_row w hw := by
    rw [List.mem_singleton.mp hw]
    decide +kernel
  nonneg w hw := by
    rw [List.mem_singleton.mp hw]
    decide +kernel

/-- The default thresholds, two samples a bin, coherence not smoothed. -/
def doubleMc (retrackSmoothWf : Bool) : McSettings :=
  { defaultMc with
    retrackSmoothWf := retrackSmoothWf
    wfOversamplingFactor := 2
    coherenceSmoothingWidth := 0
    factor_pos := by decide }

/-- `steepEdge` divided by its maximum, 100 counts. -/
@[irreducible] def steepNorm : List ℚ :=
  [1 / 100, 1 / 100, 1 / 100, 1 / 100, 1 / 5, 1] ++ List.replicate 1018 (1 / 100)

theorem max_steepEdge : steepEdge.max? = some 100 := by
  unfold steepEdge
  refine List.max?_eq_some_iff.mpr ⟨?_, ?_⟩
  · exact List.mem_append_left _ (by simp)
  · intro q hq
    rcases List.mem_append.mp hq with hleft | hright
    · simp only [List.mem_cons, List.not_mem_nil, or_false] at hleft
      rcases hleft with rfl | rfl | rfl | rfl | rfl | rfl <;> norm_num
    · rw [List.eq_of_mem_replicate hright]
      norm_num

theorem map_steepEdge : (steepEdge.map fun q => q / 100) = steepNorm := by
  unfold steepEdge steepNorm
  rw [List.map_append, List.map_replicate]
  norm_num

theorem normalised_steepEdge : normalised steepEdge = steepNorm := by
  rw [normalised, max_steepEdge, Option.getD_some, map_steepEdge]

theorem length_steepNorm : steepNorm.length = 1024 := by
  rw [steepNorm, List.length_append, List.length_replicate]
  rfl

theorem noiseMean_steepNorm : noiseMean steepNorm = 1 / 100 := by
  have hperm : steepNorm.Perm (List.replicate 1018 (1 / 100) ++
      [1 / 100, 1 / 100, 1 / 100, 1 / 100, 1 / 5, 1]) := by
    unfold steepNorm
    exact List.perm_append_comm
  exact noiseMean_of_floor (by decide) hperm (by norm_num)

theorem steepEdge_search (retrackSmoothWf : Bool) :
    searchLeadingEdge (mcEdgeInput interpolatingNumerics (doubleMc retrackSmoothWf) steepNorm)
      (doubleMc retrackSmoothWf).leDpThreshold = .done (some ⟨7, 10, .num (7951 / 8900)⟩) := by
  unfold mcEdgeInput
  rw [noiseMean_steepNorm]
  cases retrackSmoothWf <;> decide +kernel

/-- The samples of the edge. -/
theorem steepEdge_samples :
    (oversample (steepNorm.map .num) 2).getD 7 .nan = .num (21427 / 204700) ∧
    (oversample (steepNorm.map .num) 2).getD 8 .nan = .num (10216 / 51175) ∧
    (oversample (steepNorm.map .num) 2).getD 9 .nan = .num (6123 / 10235) ∧
    (oversample (steepNorm.map .num) 2).getD 10 .nan = .num (2043 / 2047) := by
  have hsample : ∀ j, j < 2048 → (oversample (steepNorm.map .num) 2).getD j .nan =
      sampleAt (steepNorm.map .num) 2 j := by
    intro j hj
    refine oversample_getD _ ?_
    rw [sampleCount, List.length_map, length_steepNorm]
    exact hj
  refine ⟨(hsample 7 (by decide)).trans ?_, (hsample 8 (by decide)).trans ?_,
    (hsample 9 (by decide)).trans ?_, (hsample 10 (by decide)).trans ?_⟩
  all_goals decide +kernel

theorem steepEdge_rounds :
    rint (binPosition 1024 2 9) = 4 ∧ rint (binPosition 1024 2 10) = 5 := by
  decide +kernel

/-- Samples 9 and 10 are more than half way up; they round to bins 4 and 5. -/
theorem steepEdge_topBin (b : Nat) :
    TopBin 1024 2 (oversample (steepNorm.map .num) 2) ⟨7, 10, .num (7951 / 8900)⟩ b ↔
      b = 4 ∨ b = 5 := by
  obtain ⟨h7, h8, h9, h10⟩ := steepEdge_samples
  obtain ⟨hround, hround'⟩ := steepEdge_rounds
  unfold TopBin
  simp only
  rw [h7]
  generalize oversample (steepNorm.map .num) 2 = samples at h7 h8 h9 h10
  constructor
  · rintro ⟨j, -, hle, hpeak, hrise, rfl⟩
    have hcases : j = 7 ∨ j = 8 ∨ j = 9 ∨ j = 10 := by omega
    rcases hcases with rfl | rfl | rfl | rfl
    · rw [h7] at hrise
      norm_num at hrise
    · rw [h8] at hrise
      norm_num at hrise
    · exact Or.inl hround
    · exact Or.inr hround'
  · rintro (rfl | rfl)
    · refine ⟨9, by decide, by decide, by decide, ?_, hround.symm⟩
      rw [h9]
      norm_num
    · refine ⟨10, by decide, by decide, by decide, ?_, hround'.symm⟩
      rw [h10]
      norm_num

/-- Without zero bins, the smoothed waveform is the plain one. -/
theorem zeroToNan_steepNorm : zeroToNan steepNorm = steepNorm.map .num := by
  unfold zeroToNan
  apply List.map_congr_left
  intro q hq
  have hne : q ≠ 0 := by
    unfold steepNorm at hq
    rcases List.mem_append.mp hq with hleft | hright
    · simp only [List.mem_cons, List.not_mem_nil, or_false] at hleft
      rcases hleft with rfl | rfl | rfl | rfl | rfl | rfl <;> norm_num
    · rw [List.eq_of_mem_replicate hright]
      norm_num
  rw [if_neg hne]

/-- Both retrackings choose from bins 4 and 5. -/
theorem steepEdge_top (retrackSmoothWf : Bool) :
    topOfLeIndices (doubleMc retrackSmoothWf)
      (mcEdgeInput interpolatingNumerics (doubleMc retrackSmoothWf) steepNorm)
      (oversample (steepNorm.map .num) 2) ⟨7, 10, .num (7951 / 8900)⟩ = [4, 5] := by
  refine List.Pairwise.eq_of_mem_iff (unique_pairwise _) (by decide) (fun b => ?_)
  refine mem_topOfLeIndices.trans ?_
  have hsamples : (if (doubleMc retrackSmoothWf).retrackSmoothWf then
      oversample (zeroToNan steepNorm) 2 else oversample (steepNorm.map .num) 2) =
      oversample (steepNorm.map .num) 2 := by
    rw [zeroToNan_steepNorm, ite_self]
  show TopBin steepNorm.length 2 (if (doubleMc retrackSmoothWf).retrackSmoothWf then
      oversample (zeroToNan steepNorm) 2 else oversample (steepNorm.map .num) 2) _ b ↔ _
  rw [hsamples, length_steepNorm, steepEdge_topBin]
  simp

/-- The constant coherence is largest at the lower bin first. -/
theorem steepEdge_chosen : indexOfMaxCoherence [4, 5] (List.replicate 1024 (.num (1 / 2))) = some 4 := by
  decide +kernel

theorem steepEdge_bestBin :
    BestBin 1024 2 (oversample (steepNorm.map .num) 2) ⟨7, 10, .num (7951 / 8900)⟩
      (List.replicate 1024 (.num (1 / 2))) 4 := by
  have h4 : (List.replicate 1024 (.num (1 / 2) : Sample)).getD 4 .nan = .num (1 / 2) := rfl
  have h5 : (List.replicate 1024 (.num (1 / 2) : Sample)).getD 5 .nan = .num (1 / 2) := rfl
  refine ⟨(steepEdge_topBin 4).mpr (Or.inl rfl), ?_⟩
  intro b hb
  rcases (steepEdge_topBin b).mp hb with rfl | rfl
  · exact Or.inr ⟨rfl, Nat.le_refl 4⟩
  · exact Or.inr ⟨h5.trans h4.symm, by decide⟩

theorem steepEdge_wfiSm (retrackSmoothWf : Bool) :
    (mcEdgeInput interpolatingNumerics (doubleMc retrackSmoothWf) steepNorm).wfiSm =
      oversample (steepNorm.map .num) 2 := by
  rw [← zeroToNan_steepNorm]
  rfl

theorem steepEdge_coherenceSm (retrackSmoothWf : Bool) :
    fastsmooth ((flatCoherence 1).getD 0 []) (doubleMc retrackSmoothWf).coherenceSmoothingWidth =
      some (List.replicate 1024 (.num (1 / 2))) :=
  if_pos (Or.inl rfl)

/-- Neither retracking flags the steep edge. -/
theorem steepEdge_row (retrackSmoothWf : Bool) :
    ∃ row, mcWaveform interpolatingNumerics (doubleMc retrackSmoothWf) (some (flatCoherence 1)) 0
        steepEdge = .ok row ∧ row.flags = [0, 0, 0, 0, 0, 0] := by
  have hnoise : ¬ (doubleMc retrackSmoothWf).noiseThreshold <
      noiseMean (steepEdge.map fun q => q / 100) := by
    rw [map_steepEdge, noiseMean_steepNorm]
    norm_num [doubleMc, defaultMc]
  have hedge := steepEdge_search retrackSmoothWf
  rw [← map_steepEdge] at hedge
  have hsavgol : (doubleMc retrackSmoothWf).SmoothingAccepted steepEdge.length := by
    rw [← List.length_map (f := fun q => q / 100), map_steepEdge, length_steepNorm]
    cases retrackSmoothWf <;> exact ⟨by decide, by decide⟩
  refine ⟨_, mcWaveform_of_edge max_steepEdge (by norm_num) hsavgol hnoise hedge
    (steepEdge_coherenceSm retrackSmoothWf), ?_⟩
  rw [map_steepEdge]
  have hchosen : indexOfMaxCoherence (topOfLeIndices (doubleMc retrackSmoothWf)
      (mcEdgeInput interpolatingNumerics (doubleMc retrackSmoothWf) steepNorm)
      (oversample (steepNorm.map .num) (doubleMc retrackSmoothWf).wfOversamplingFactor)
      ⟨7, 10, .num (7951 / 8900)⟩) (List.replicate 1024 (.num (1 / 2))) = some 4 :=
    (congrArg (fun top => indexOfMaxCoherence top _) (steepEdge_top retrackSmoothWf)).trans
      steepEdge_chosen
  refine mcPoint_flags hchosen ?_ ?_
  · -- sample 8 is what the smoothed retracking reads for bin 4
    rw [steepEdge_wfiSm, show 4 * (doubleMc retrackSmoothWf).wfOversamplingFactor = 8 from rfl,
      steepEdge_samples.2.1]
    norm_num
  · unfold steepEdge
    show (20 : ℚ) ≠ 0
    norm_num

theorem mc_steepEdge_returns (retrackSmoothWf : Bool) :
    ∃ r, retrackCs2SinMaxCoherence interpolatingNumerics (doubleMc retrackSmoothWf)
        steepEdgeWaveforms (some (flatCoherence 1)) none none = .ok r ∧
      r.retrackFlag.getD 0 [] = [0, 0, 0, 0, 0, 0] := by
  obtain ⟨row, hrow, hflags⟩ := steepEdge_row retrackSmoothWf
  have hloop : retrackLoop (mcWaveform interpolatingNumerics (doubleMc retrackSmoothWf)
      (some (flatCoherence 1))) (mcSelected none none) 0 steepEdgeWaveforms.rows = .ok [row] :=
    retrackLoop_single rfl hrow
  unfold retrackCs2SinMaxCoherence
  rw [if_neg (by decide), hloop]
  exact ⟨_, rfl, hflags⟩

theorem length_steepCoherence :
    ((flatCoherence 1).getD 0 []).length = steepEdgeWaveforms.size :=
  List.length_replicate

theorem steepCoherence_numbers : ∀ x ∈ (flatCoherence 1).getD 0 [], x ≠ (.nan : Sample) := by
  intro x hx
  have hx' : x ∈ List.replicate 1024 (WithNan.num (1 / 2) : Sample) := hx
  rw [List.eq_of_mem_replicate hx']
  exact nofun

/-- Bins 3 and 4 of the steep edge differ, so the sample read for bin 4 is not it. -/
theorem steepEdge_readBack :
    ¬ ReadBackExact interpolatingNumerics (doubleMc true) steepEdge ((flatCoherence 1).getD 0 []) := by
  have hbins : mcBins interpolatingNumerics (doubleMc true) (normalised steepEdge) =
      steepNorm.map .num := by
    rw [normalised_steepEdge]
    exact zeroToNan_steepNorm
  have h3 : (steepNorm.map .num : List Sample).getD 3 .nan = .num (1 / 100) := by
    unfold steepNorm
    rfl
  have h4 : (steepNorm.map .num : List Sample).getD 4 .nan = .num (1 / 5) := by
    unfold steepNorm
    rfl
  have hlen : steepEdge.length = 1024 := by
    rw [← length_steepNorm, ← map_steepEdge, List.length_map]
  intro hexact
  have hsearch := steepEdge_search true
  rw [← normalised_steepEdge] at hsearch
  have hbest : BestBin steepEdge.length 2
      (oversample (mcBins interpolatingNumerics (doubleMc true) (normalised steepEdge)) 2)
      ⟨7, 10, .num (7951 / 8900)⟩ (List.replicate 1024 (.num (1 / 2))) 4 := by
    rw [hlen, hbins]
    exact steepEdge_bestBin
  have hcases := hexact _ _ 4 hsearch (steepEdge_coherenceSm true) hbest
  rw [hbins, h4, h3] at hcases
  rcases hcases with hone | hzero | hnan | hequal
  · exact absurd hone (by decide)
  · exact absurd hzero (by decide)
  · cases hnan
  · norm_num at hequal

/-- With `retrack_smooth_wf` the power of bin 4 is read a little before it, on the
way up from bin 3. -/
theorem mc_point_off_bin :
    ∃ r, retrackCs2SinMaxCoherence interpolatingNumerics (doubleMc true) steepEdgeWaveforms
        (some (flatCoherence 1)) none none = .ok r ∧
      mcSelected none none 0 = true ∧
      r.retrackFlag.getD 0 [] = [0, 0, 0, 0, 0, 0] ∧
      ¬ McPointOnEdge interpolatingNumerics (doubleMc true) steepEdgeWaveforms (flatCoherence 1)
        r 0 := by
  obtain ⟨r, hr, hflags⟩ := mc_steepEdge_returns true
  refine ⟨r, hr, rfl, hflags, ?_⟩
  have hone : 0 < steepEdgeWaveforms.rows.length := by decide
  obtain ⟨row, hrow, hrflags, hrstart, hrbin, hrstop, hrpower⟩ := mc_row hr hone rfl
  unfold McPointOnEdge
  rw [hrstart, hrstop, hrbin, hrpower]
  intro hpoint
  rcases (mc_row_iff (steepEdgeWaveforms.row_facts hone).1 (by decide) length_steepCoherence
    steepCoherence_numbers hrow (hrflags.symm.trans hflags)).mp hpoint with hraw | hexact
  · cases hraw
  · exact steepEdge_readBack hexact

/-- Without it, the power is that of the bin. -/
theorem mc_point_on_bin :
    ∃ r, retrackCs2SinMaxCoherence interpolatingNumerics (doubleMc false) steepEdgeWaveforms
        (some (flatCoherence 1)) none none = .ok r ∧
      McPointOnEdge interpolatingNumerics (doubleMc false) steepEdgeWaveforms (flatCoherence 1)
        r 0 := by
  obtain ⟨r, hr, hflags⟩ := mc_steepEdge_returns false
  refine ⟨r, hr, ?_⟩
  exact (mc_point_iff interpolatingNumerics (doubleMc false) steepEdgeWaveforms (flatCoherence 1)
    none none r 0 hr (by decide) rfl length_steepCoherence steepCoherence_numbers hflags).mpr
    (Or.inl rfl)

end Clev2er.Retrack
