import Clev2er.Lib.FirstBest
import Clev2er.Lib.Slice
import Clev2er.Python
import Clev2er.Retrack.Oversample

/-!
# `phase_fit_sample`

The sample-window phase fitter of `sarin_phase.py`. The window about the retracked
bin is cut out of the coherence with a Python slice, whose upper bound is clipped
to the waveform and whose lower bound, where it is negative, counts from the end.
`phase_fit_sample_max_iff` says when the phase returned is that of the first bin
of largest coherence in the window.
-/

namespace Clev2er.Cryotempo

open Clev2er.Lib Clev2er.Retrack

/-! ## Python indices -/

/-- Where `xs[a:b]` begins or ends, for an array of `n` entries. -/
def clampIndex (n : Nat) (i : Int) : Nat :=
  if i < 0 then (i + n).toNat else min i.toNat n

/-- `xs[a:b]`, for any integers. -/
def pySlice {α : Type} (xs : List α) (a b : Int) : List α :=
  slice xs (clampIndex xs.length a) (clampIndex xs.length b)

/-- `xs[i]`. -/
def pyIndex {α : Type} (xs : List α) (i : Int) : Except PyExc α :=
  let j := if i < 0 then i + xs.length else i
  match (if j < 0 then none else xs[j.toNat]?) with
  | some x => .ok x
  | none => .error ⟨.other "IndexError",
      "index " ++ toString i ++ " is out of bounds for axis 0 with size " ++ toString xs.length⟩

/-- `int(np.rint(x))`: halves go to the even neighbour. -/
def rintInt (x : ℚ) : Int :=
  let k := ⌊x⌋
  if x - k < 1 / 2 then k
  else if 1 / 2 < x - k then k + 1
  else if k % 2 = 0 then k else k + 1

/-- `np.nanmean`. -/
def nanmean (xs : List Sample) : Sample :=
  let numbers := xs.filterMap fun x => match x with
    | .num q => some q
    | .nan => none
  if numbers.isEmpty then .nan else .num (numbers.sum / numbers.length)

/-! ## The function -/

/-- `config["sin_geolocation"]["window_method"]`; any text but the first three is
the mean. -/
inductive WindowMethod where
  | max
  | interp
  | sample
  | mean
deriving DecidableEq, Repr

/-- `config["sin_geolocation"]`, as far as the fitter reads it; `none` is a missing
entry. -/
structure PhaseConfig where
  phaseWindowWidth : Nat
  windowMethod : Option WindowMethod
  mask : Option Bool
  maskCohThs : Option ℚ

/-- What the fitter returns: without a configuration the start of the phase array,
otherwise the phase and the three counters. -/
inductive PhaseFit where
  | values (phase : List Sample)
  | fit (ppp : Sample) (bad1 bad2 bad3 : Nat)
deriving DecidableEq, Repr

/-- A `SINLocateError`. -/
def sinLocateError (text : String) : PyExc := ⟨.other "SINLocateError", text⟩

/-- `ppp` and `ccc` of the window. -/
def sampleWindow (method : WindowMethod) (phase coherence : List Sample) (position : ℚ)
    (ttt wstart wend : Int) : Except PyExc (Sample × Sample) :=
  match method with
  | .max =>
      -- `np.nanmax` and `np.nanargmax` raise a ValueError, which is caught, if there is no number
      match scanBest (fun a b : ℚ => decide (b < a)) 0 none (pySlice coherence wstart wend) with
      | none => .ok (.nan, .nan)
      | some (pos, ccc) => do
          let ppp ← pyIndex phase (wstart + pos)
          .ok (ppp, .num ccc)
  | .interp => do
      let low := ⌊position⌋
      let high := ⌈position⌉
      let frac : ℚ := position - low
      let cohLow ← pyIndex coherence low
      let cohHigh ← pyIndex coherence high
      let phaseLow ← pyIndex phase low
      let phaseHigh ← pyIndex phase high
      .ok (.num (1 - frac) * phaseLow + .num frac * phaseHigh,
        .num (1 - frac) * cohLow + .num frac * cohHigh)
  | .sample => do
      let ccc ← pyIndex coherence ttt
      let ppp ← pyIndex phase ttt
      .ok (ppp, ccc)
  | .mean => .ok (nanmean (pySlice phase wstart wend), nanmean (pySlice coherence wstart wend))

/-- `phase_fit_sample`; a position `none` is masked. -/
def phaseFitSample (phase coherence : List Sample) (position : Option Sample)
    (bad1 bad2 bad3 : Nat) (config : Option PhaseConfig) : Except PyExc PhaseFit :=
  match position with
  | none => .error (sinLocateError "Bad retrack")
  | some .nan => .error ⟨.valueError, "cannot convert float NaN to integer"⟩
  | some (.num position) =>
      let ttt := rintInt position
      match config with
      | none => .ok (.values (pySlice phase 0 ttt))
      | some cfg =>
          let half : Int := (cfg.phaseWindowWidth / 2 : Nat)
          match cfg.windowMethod with
          | none => .error ⟨.valueError,
              "Invalid config: window phase extraction requested without a method"⟩
          | some method =>
              match sampleWindow method phase coherence position ttt (ttt - half) (ttt + half) with
              | .error e => .error e
              | .ok (ppp, ccc) =>
                  if cfg.mask = some true ∧ ccc < .num (cfg.maskCohThs.getD (8 / 10)) then
                    .error (sinLocateError "Phase retrieval failed due to coherence threshold")
                  else .ok (.fit ppp bad1 bad2 bad3)

/-! ## The first bin of largest coherence -/

/-- `k` is the first bin of largest coherence among the bins of the waveform in
`[a, b)`. -/
structure FirstMaxIn (coherence : List Sample) (a b k : Nat) : Prop where
  low : a ≤ k
  high : k < b
  lt_length : k < coherence.length
  largest : ∀ j, a ≤ j → j < b → j < coherence.length →
    coherence.getD j .nan ≤ coherence.getD k .nan
  first : ∀ j, a ≤ j → j < k → coherence.getD j .nan < coherence.getD k .nan

section Window

variable {phase coherence : List Sample} {a b k : Nat}

theorem FirstMaxIn.unique {k' : Nat} (h : FirstMaxIn coherence a b k)
    (h' : FirstMaxIn coherence a b k') : k = k' := by
  have hirrefl : ∀ x y : Sample, x < y → ¬ y ≤ x := by
    intro x y hlt hle
    obtain ⟨p, q, rfl, rfl, hpq⟩ := WithNan.exists_num_of_lt hlt
    exact absurd hle (not_le_of_gt hpq)
  rcases Nat.lt_trichotomy k k' with hlt | heq | hgt
  · exact absurd (h.largest k' h'.low h'.high h'.lt_length) (hirrefl _ _ (h'.first k h.low hlt))
  · exact heq
  · exact absurd (h'.largest k h.low h.high h.lt_length) (hirrefl _ _ (h.first k' h'.low hgt))

/-- An upper bound behind the waveform is clipped. -/
theorem FirstMaxIn.of_clipped (h : FirstMaxIn coherence a (min b coherence.length) k) :
    FirstMaxIn coherence a b k where
  low := h.low
  high := lt_of_lt_of_le h.high (Nat.min_le_left _ _)
  lt_length := h.lt_length
  largest j hj hjb hjl := h.largest j hj (Nat.lt_min.mpr ⟨hjb, hjl⟩) hjl
  first := h.first

/-- What the scan of a slice of numbers finds. -/
theorem firstBest_slice {m : Nat} {v : ℚ} (hnum : ∀ x ∈ coherence, x ≠ .nan)
    (h : FirstBest (fun p q : ℚ => decide (q < p)) (slice coherence a b) m v) :
    FirstMaxIn coherence a b (a + m) := by
  have hentry := h.entry
  rw [getElem?_slice] at hentry
  split at hentry
  swap
  · cases hentry
  next hb =>
  have hlt : a + m < coherence.length := (List.getElem?_eq_some_iff.mp hentry).1
  have hget : ∀ j, j < coherence.length → ∃ q, coherence[j]? = some (WithNan.num q) ∧
      coherence.getD j .nan = .num q := by
    intro j hj
    cases hx : coherence.getD j .nan with
    | nan => exact absurd hx (hnum _ (getD_mem hj .nan))
    | num q =>
        refine ⟨q, ?_, rfl⟩
        rw [List.getElem?_eq_getElem hj, ← hx, List.getD_eq_getElem _ _ hj]
  have hval : coherence.getD (a + m) .nan = .num v := by
    obtain ⟨q, hq, hq'⟩ := hget _ hlt
    rw [hentry] at hq
    rw [hq', ← WithNan.num.inj (Option.some.inj hq)]
  refine ⟨Nat.le_add_right a m, hb, hlt, ?_, ?_⟩
  · intro j hja hjb hj
    obtain ⟨q, hq, hq'⟩ := hget j hj
    have hslice : (slice coherence a b)[j - a]? = some (WithNan.num q) := by
      rw [getElem?_slice, Nat.add_sub_cancel' hja, if_pos hjb, hq]
    rw [hq', hval, WithNan.num_le_num]
    exact not_lt.mp (of_decide_eq_false (h.best (j - a) q hslice))
  · intro j hja hjk
    obtain ⟨q, hq, hq'⟩ := hget j (by omega)
    have hslice : (slice coherence a b)[j - a]? = some (WithNan.num q) := by
      rw [getElem?_slice, Nat.add_sub_cancel' hja, if_pos (by omega), hq]
    rw [hq', hval, WithNan.num_lt_num]
    exact of_decide_eq_true (h.first (j - a) q (by omega) hslice)

/-- A window with a bin of the waveform in it has a first best bin, and an empty
one has none. -/
theorem scan_slice_cases (hnum : ∀ x ∈ coherence, x ≠ .nan) (a b : Nat) :
    (b ≤ a ∨ coherence.length ≤ a) ∧
        scanBest (fun p q : ℚ => decide (q < p)) 0 none (slice coherence a b) = none ∨
      ∃ m v, scanBest (fun p q : ℚ => decide (q < p)) 0 none (slice coherence a b) = some (m, v) ∧
        FirstMaxIn coherence a b (a + m) := by
  rcases scanBest_cases (ranking_gt (K := ℚ)) (slice coherence a b) with
    ⟨hnone, hnan⟩ | ⟨m, v, hsome, hbest⟩
  · left
    refine ⟨?_, hnone⟩
    by_contra hne
    have hlt : a < b ∧ a < coherence.length := by omega
    have hget : (slice coherence a b)[0]? = some coherence[a] := by
      rw [getElem?_slice, Nat.add_zero, if_pos hlt.1, List.getElem?_eq_getElem hlt.2]
    exact hnum _ (List.getElem_mem hlt.2) (hnan _ (List.mem_of_getElem? hget))
  · exact Or.inr ⟨m, v, hsome, firstBest_slice hnum hbest⟩

end Window

/-! ## The phase at the window's best bin -/

section Fit

variable {phase coherence : List Sample} {position : ℚ} {bad1 bad2 bad3 : Nat} {cfg : PhaseConfig}
  {t half m : Nat}

/-- The fitter with method `max` and the mask off: the scan of the window, and
the phase read at the position found. -/
theorem phaseFitSample_max (hmethod : cfg.windowMethod = some .max) (hmask : cfg.mask ≠ some true)
    (ht : rintInt position = t) :
    phaseFitSample phase coherence (some (.num position)) bad1 bad2 bad3 (some cfg) =
      match scanBest (fun p q : ℚ => decide (q < p)) 0 none (slice coherence
        (clampIndex coherence.length (t - (cfg.phaseWindowWidth / 2 : Nat)))
        (clampIndex coherence.length (t + (cfg.phaseWindowWidth / 2 : Nat)))) with
      | none => .ok (.fit .nan bad1 bad2 bad3)
      | some (pos, _) =>
          match pyIndex phase (t - (cfg.phaseWindowWidth / 2 : Nat) + pos) with
          | .error e => .error e
          | .ok ppp => .ok (.fit ppp bad1 bad2 bad3) := by
  simp only [phaseFitSample, hmethod, ht, sampleWindow, pySlice]
  generalize scanBest (fun p q : ℚ => decide (q < p)) 0 none (slice coherence
    (clampIndex coherence.length (t - (cfg.phaseWindowWidth / 2 : Nat)))
    (clampIndex coherence.length (t + (cfg.phaseWindowWidth / 2 : Nat)))) = found
  cases found with
  | none => exact if_neg (fun h => hmask h.1)
  | some best =>
      simp only []
      cases pyIndex phase (t - (cfg.phaseWindowWidth / 2 : Nat) + best.1) with
      | error e => rfl
      | ok ppp => exact if_neg (fun h => hmask h.1)

theorem clampIndex_natCast (n i : Nat) : clampIndex n (i : Int) = min i n := by
  unfold clampIndex
  rw [if_neg (by omega), Int.toNat_natCast]

theorem clampIndex_neg {n i h : Nat} (hi : i < h) : clampIndex n ((i : Int) - h) = n + i - h := by
  unfold clampIndex
  rw [if_pos (by omega)]
  omega

theorem pyIndex_natCast {i : Nat} (hi : i < phase.length) :
    pyIndex phase (i : Int) = .ok (phase.getD i .nan) := by
  unfold pyIndex
  simp only
  rw [if_neg (by omega), if_neg (by omega), Int.toNat_natCast, List.getElem?_eq_getElem hi,
    List.getD_eq_getElem _ _ hi]

/-- A negative index counts from the end. -/
theorem pyIndex_neg {i : Int} {m : Nat} (hi : i < 0) (hm : i + phase.length = m) :
    pyIndex phase i = .ok (phase.getD m .nan) := by
  have hlt : m < phase.length := by omega
  unfold pyIndex
  simp only
  rw [if_pos hi, hm, if_neg (by omega), Int.toNat_natCast, List.getElem?_eq_getElem hlt,
    List.getD_eq_getElem _ _ hlt]

theorem pyIndex_error {i : Int} (hi : i + phase.length < 0) : ∃ e, pyIndex phase i = .error e := by
  have hneg : i < 0 := by omega
  unfold pyIndex
  simp only
  rw [if_pos hneg, if_pos hi]
  exact ⟨_, rfl⟩

/-- **The phase sampled is that of the window's best bin**: the first of largest
coherence among the bins of `[t - half, t + half)` that exist. -/
def SamplesBestPhase (phase coherence : List Sample) (position : ℚ) (bad1 bad2 bad3 : Nat)
    (cfg : PhaseConfig) (t : Nat) : Prop :=
  ∃ k, FirstMaxIn coherence (t - cfg.phaseWindowWidth / 2) (t + cfg.phaseWindowWidth / 2) k ∧
    phaseFitSample phase coherence (some (.num position)) bad1 bad2 bad3 (some cfg) =
      .ok (.fit (phase.getD k .nan) bad1 bad2 bad3)

/-- The bin whose phase is read when the window starts before the waveform, which
has to be shorter than the window then. The lower bound counts from the end. If it
is one of the waveform, the window is the rest of it; otherwise the window is the
whole waveform, and the index read counts from the end. -/
def WrapsTo (coherence : List Sample) (t half m : Nat) : Prop :=
  coherence.length < 2 * half ∧
    ((half - t ≤ coherence.length ∧
        FirstMaxIn coherence (coherence.length + t - half) (t + half) m) ∨
      (coherence.length < half - t ∧
        ∃ k, FirstMaxIn coherence 0 (t + half) k ∧ m + (half - t) = coherence.length + k))

/-- A window that starts inside the waveform. -/
theorem samplesBestPhase_inside (hmethod : cfg.windowMethod = some .max)
    (hmask : cfg.mask ≠ some true) (hwidth : 2 ≤ cfg.phaseWindowWidth)
    (hlen : phase.length = coherence.length) (hnum : ∀ x ∈ coherence, x ≠ .nan)
    (ht : rintInt position = t) (htlt : t < coherence.length)
    (hin : cfg.phaseWindowWidth / 2 ≤ t) :
    SamplesBestPhase phase coherence position bad1 bad2 bad3 cfg t := by
  unfold SamplesBestPhase
  rw [phaseFitSample_max hmethod hmask ht]
  generalize hhalf : cfg.phaseWindowWidth / 2 = half at hin
  have hpos : 0 < half := by omega
  have hstart : ((t : Int) - (half : Nat)) = ((t - half : Nat) : Int) := by omega
  have hstop : ((t : Int) + (half : Nat)) = ((t + half : Nat) : Int) := by omega
  rw [hstart, hstop, clampIndex_natCast, clampIndex_natCast, Nat.min_eq_left (by omega)]
  rcases scan_slice_cases hnum (t - half) (min (t + half) coherence.length) with
    ⟨hempty, -⟩ | ⟨m, v, hscan, hbest⟩
  · omega
  · refine ⟨t - half + m, hbest.of_clipped, ?_⟩
    rw [hscan]
    simp only []
    rw [← Int.natCast_add, pyIndex_natCast (by rw [hlen]; exact hbest.lt_length)]

/-- The rest of the waveform, where the lower bound counts to a bin of it. -/
theorem wrapsTo_rest {m' : Nat} (hshort : coherence.length < 2 * half)
    (hwraps : half - t ≤ coherence.length)
    (h : FirstMaxIn coherence (coherence.length + t - half) (t + half) m) :
    WrapsTo coherence t half m' ↔ m' = m := by
  constructor
  · rintro ⟨-, ⟨-, h'⟩ | ⟨hlong, -⟩⟩
    · exact h'.unique h
    · omega
  · rintro rfl
    exact ⟨hshort, Or.inl ⟨hwraps, h⟩⟩

/-- The whole waveform, and an index that counts from the end. -/
theorem wrapsTo_whole {m' : Nat} (hshort : coherence.length < 2 * half)
    (hwraps : coherence.length < half - t) (h : FirstMaxIn coherence 0 (t + half) m) :
    WrapsTo coherence t half m' ↔ m' + (half - t) = coherence.length + m := by
  constructor
  · rintro ⟨-, ⟨hrest, -⟩ | ⟨-, m'', h'', hm'⟩⟩
    · omega
    · rwa [h''.unique h] at hm'
  · exact fun hm' => ⟨hshort, Or.inr ⟨hwraps, m, h, hm'⟩⟩

/-- The fit of a window that starts before the waveform: the phase at the bin it leads to,
if there is one. -/
theorem phaseFitSample_before {p : Sample} (hmethod : cfg.windowMethod = some .max)
    (hmask : cfg.mask ≠ some true) (hlen : phase.length = coherence.length)
    (hnum : ∀ x ∈ coherence, x ≠ .nan) (ht : rintInt position = t) (htlt : t < coherence.length)
    (hout : t < cfg.phaseWindowWidth / 2) (hp : p ≠ .nan) :
    phaseFitSample phase coherence (some (.num position)) bad1 bad2 bad3 (some cfg) =
        .ok (.fit p bad1 bad2 bad3) ↔
      ∃ m, WrapsTo coherence t (cfg.phaseWindowWidth / 2) m ∧ phase.getD m .nan = p := by
  rw [phaseFitSample_max hmethod hmask ht]
  generalize cfg.phaseWindowWidth / 2 = half at hout
  have hstop : ((t : Int) + (half : Nat)) = ((t + half : Nat) : Int) := by omega
  rw [clampIndex_neg hout, hstop, clampIndex_natCast]
  -- the phase is read at the one bin that the window leads to
  have hread : ∀ m, (∀ m', WrapsTo coherence t half m' ↔ m' = m) →
      ((Except.ok (PhaseFit.fit (phase.getD m .nan) bad1 bad2 bad3) : Except PyExc PhaseFit) =
          .ok (.fit p bad1 bad2 bad3) ↔
        ∃ m, WrapsTo coherence t half m ∧ phase.getD m .nan = p) := by
    intro m hm
    constructor
    · intro heq
      injection Except.ok.inj heq with hphase
      exact ⟨m, (hm m).mpr rfl, hphase⟩
    · rintro ⟨m', hm', hphase⟩
      rw [(hm m').mp hm'] at hphase
      rw [hphase]
  rcases scan_slice_cases hnum (coherence.length + t - half) (min (t + half) coherence.length) with
    ⟨hempty, hscan⟩ | ⟨m, v, hscan, hbest⟩
  · -- the slice is empty and the phase NaN: the waveform is as long as the window or longer
    rw [hscan]
    refine iff_of_false ?_ ?_
    · intro heq
      injection Except.ok.inj heq with hnan
      exact hp hnan.symm
    · rintro ⟨m, ⟨hshort, -⟩, -⟩
      omega
  · rw [hscan]
    simp only []
    have hhigh := hbest.high
    have hlt := hbest.lt_length
    have hshort : coherence.length < 2 * half := by omega
    by_cases hwraps : half - t ≤ coherence.length
    · have hindex : pyIndex phase ((t : Int) - (half : Nat) + (m : Nat)) =
          .ok (phase.getD (coherence.length + t - half + m) .nan) :=
        pyIndex_neg (by omega) (by rw [hlen]; omega)
      rw [hindex]
      exact hread _ fun m' => wrapsTo_rest hshort hwraps hbest.of_clipped
    · have hzero : coherence.length + t - half = 0 := by omega
      rw [hzero, Nat.zero_add] at hbest
      have hwhole : ∀ m', WrapsTo coherence t half m' ↔
          m' + (half - t) = coherence.length + m :=
        fun m' => wrapsTo_whole hshort (by omega) hbest.of_clipped
      by_cases hfits : half - t ≤ coherence.length + m
      · have hindex : pyIndex phase ((t : Int) - (half : Nat) + (m : Nat)) =
            .ok (phase.getD (coherence.length + m - (half - t)) .nan) :=
          pyIndex_neg (by omega) (by rw [hlen]; omega)
        rw [hindex]
        exact hread _ fun m' => (hwhole m').trans (by omega)
      · obtain ⟨e, he⟩ : ∃ e, pyIndex phase ((t : Int) - (half : Nat) + (m : Nat)) = .error e :=
          pyIndex_error (by rw [hlen]; omega)
        rw [he]
        refine iff_of_false ?_ ?_
        · intro h
          cases h
        · rintro ⟨m', hm', -⟩
          have := (hwhole m').mp hm'
          omega

/-- A window that starts before the waveform. -/
theorem samplesBestPhase_before (hmethod : cfg.windowMethod = some .max)
    (hmask : cfg.mask ≠ some true) (hlen : phase.length = coherence.length)
    (hnum : ∀ x ∈ coherence, x ≠ .nan) (hphase : ∀ x ∈ phase, x ≠ .nan)
    (ht : rintInt position = t) (htlt : t < coherence.length)
    (hout : t < cfg.phaseWindowWidth / 2) :
    SamplesBestPhase phase coherence position bad1 bad2 bad3 cfg t ↔
      ∃ m k, WrapsTo coherence t (cfg.phaseWindowWidth / 2) m ∧
        FirstMaxIn coherence 0 (t + cfg.phaseWindowWidth / 2) k ∧
        phase.getD m .nan = phase.getD k .nan := by
  have hknum : ∀ {k}, FirstMaxIn coherence 0 (t + cfg.phaseWindowWidth / 2) k →
      phase.getD k .nan ≠ .nan :=
    fun hk => hphase _ (getD_mem (by rw [hlen]; exact hk.lt_length) WithNan.nan)
  rw [SamplesBestPhase, Nat.sub_eq_zero_of_le hout.le]
  constructor
  · rintro ⟨k, hk, hfit⟩
    obtain ⟨m, hm, hread⟩ :=
      (phaseFitSample_before hmethod hmask hlen hnum ht htlt hout (hknum hk)).mp hfit
    exact ⟨m, k, hm, hk, hread⟩
  · rintro ⟨m, k, hm, hk, hread⟩
    exact ⟨k, hk,
      (phaseFitSample_before hmethod hmask hlen hnum ht htlt hout (hknum hk)).mpr ⟨m, hm, hread⟩⟩

end Fit

/-- **When the phase sampled is that of the window's best bin.** For every
waveform without NaN, every even window width and every retracking position that
rounds to a bin `t` of the waveform: exactly if the window does not start before
the waveform, or the waveform is shorter than the window and the bin that the
negative lower bound leads to has the same phase. -/
theorem phase_fit_sample_max_iff (phase coherence : List Sample) (position : ℚ)
    (bad1 bad2 bad3 : Nat) (cfg : PhaseConfig) (t : Nat)
    (hmethod : cfg.windowMethod = some .max) (hmask : cfg.mask ≠ some true)
    (heven : cfg.phaseWindowWidth % 2 = 0) (hwidth : 2 ≤ cfg.phaseWindowWidth)
    (hlen : phase.length = coherence.length) (hnum : ∀ x ∈ coherence, x ≠ .nan)
    (hphase : ∀ x ∈ phase, x ≠ .nan) (ht : rintInt position = t) (htlt : t < coherence.length) :
    SamplesBestPhase phase coherence position bad1 bad2 bad3 cfg t ↔
      cfg.phaseWindowWidth ≤ 2 * t ∨
        ∃ m k, WrapsTo coherence t (cfg.phaseWindowWidth / 2) m ∧
          FirstMaxIn coherence 0 (t + cfg.phaseWindowWidth / 2) k ∧
          phase.getD m .nan = phase.getD k .nan := by
  by_cases hin : cfg.phaseWindowWidth ≤ 2 * t
  · exact iff_of_true (samplesBestPhase_inside hmethod hmask hwidth hlen hnum ht htlt (by omega))
      (Or.inl hin)
  · rw [samplesBestPhase_before hmethod hmask hlen hnum hphase ht htlt (by omega)]
    exact ⟨Or.inr, fun h => h.resolve_left hin⟩

/-- The window of the configuration: ten bins, method `max`, no mask. -/
def tenBins : PhaseConfig := ⟨10, some .max, some false, none⟩

/-- A waveform of `n` bins with coherence one half, and a phase of one. -/
def evenCoherence (n : Nat) : List Sample := List.replicate n (.num (1 / 2))

def evenPhase (n : Nat) : List Sample := List.replicate n (.num 1)

theorem evenCoherence_num (n : Nat) : ∀ x ∈ evenCoherence n, x ≠ .nan := by
  intro x hx
  rw [List.eq_of_mem_replicate hx]
  exact nofun

theorem evenPhase_num (n : Nat) : ∀ x ∈ evenPhase n, x ≠ .nan := by
  intro x hx
  rw [List.eq_of_mem_replicate hx]
  exact nofun

/-- Retracked at bin 2 of 1024, the fitter returns NaN. -/
theorem phase_fit_sample_before_waveform :
    rintInt 2 = (2 : Nat) ∧
    ¬ SamplesBestPhase (evenPhase 1024) (evenCoherence 1024) 2 0 0 0 tenBins 2 := by
  have hrint : rintInt 2 = (2 : Nat) := by decide +kernel
  have hlen : (evenCoherence 1024).length = 1024 := List.length_replicate
  refine ⟨hrint, ?_⟩
  rw [samplesBestPhase_before rfl (by decide) (by rw [hlen]; exact List.length_replicate)
    (evenCoherence_num 1024) (evenPhase_num 1024) hrint (by rw [hlen]; decide) (by decide)]
  rintro ⟨m, k, ⟨hshort, -⟩, -, -⟩
  rw [hlen] at hshort
  exact absurd hshort (by decide)

/-- Retracked at bin 500, it returns the phase of bin 495. -/
theorem phase_fit_sample_inside_waveform :
    rintInt 500 = (500 : Nat) ∧
    SamplesBestPhase (evenPhase 1024) (evenCoherence 1024) 500 0 0 0 tenBins 500 := by
  have hrint : rintInt 500 = (500 : Nat) := by decide +kernel
  have hlen : (evenCoherence 1024).length = 1024 := List.length_replicate
  refine ⟨hrint, ?_⟩
  exact (phase_fit_sample_max_iff (evenPhase 1024) (evenCoherence 1024) 500 0 0 0 tenBins 500 rfl
    (by decide) rfl (by decide) (by rw [hlen]; exact List.length_replicate)
    (evenCoherence_num 1024) (evenPhase_num 1024) hrint (by rw [hlen]; decide)).mpr
    (Or.inl (by decide))

end Clev2er.Cryotempo
