import Clev2er.Cryotempo.Retracking
import Clev2er.RunChain.Isolation

/-!
# Waveforms that end the whole run

`alg_waveform_quality` and `alg_retrack` as classes of the run control, over any
list of files. The quality checks call `sys.exit()` on a file without a count,
and `alg_retrack` divides by the number of included waveforms; neither exception
is one that the run control catches. `runChain_isolates_files_iff` says exactly
which files the run survives.
-/

namespace Clev2er.Cryotempo

open Clev2er.Lib Clev2er.Retrack Clev2er.RunChain

/-! ## The chain -/

/-- The settings of the two algorithms, as a configuration of the chain has them:
positive power thresholds, retracker thresholds inside their ranges, and smoothing
windows that fit the waveforms. -/
structure WaveformSettings where
  sinTests : SinQualityTests
  lrmTests : LrmQualityTests
  retrack : RetrackConfig
  sin_power_pos : 0 < sinTests.totalPowerThreshold
  lrm_power_pos : 0 < lrmTests.totalPowerThreshold
  mc_dp_pos : 0 < retrack.mc.leDpThreshold
  mc_smoothing : retrack.mc.SmoothingAccepted InstrMode.sin.numBins
  tcog_dp_pos : 0 < retrack.tcog.leDpThreshold
  tcog_smoothing : retrack.tcog.SmoothingAccepted InstrMode.lrm.numBins
  tcog_inRange : retrack.tcog.InRange

/-- A file as the algorithms before these two leave it: its variables, and the
mask and the corrections they stored. -/
structure TrackInput where
  file : L1bFile
  dilatedSurfaceMask : List Bool
  sumCor : List Sample
  length_mask : dilatedSurfaceMask.length = file.numRecords
  length_sumCor : sumCor.length = file.numRecords

/-- The shared dictionary, as far as the two algorithms go. -/
structure TrackDict where
  input : TrackInput
  waveformsToInclude : Option (List Bool)
  retracked : Option RetrackEntries

section

variable (num : Numerics) (d : Doubles) (s : WaveformSettings)

def algWaveformQuality : AlgClass TrackDict where
  construct _ := none
  init _ := ⟨[], .ok (true, "")⟩
  body _ dict :=
    match waveformQuality d s.sinTests s.lrmTests dict.input.file
        dict.input.dilatedSurfaceMask with
    | .error e => (dict, .error e)
    | .ok included => ({ dict with waveformsToInclude := some included }, .ok (true, ""))
  finalize _ := none

def algRetrack : AlgClass TrackDict where
  construct _ := none
  init _ := ⟨[], .ok (true, "")⟩
  body _ dict :=
    match dict.waveformsToInclude with
    | none => (dict, .error ⟨.keyError, "waveforms_to_include"⟩)
    | some included =>
        match Cryotempo.retrack num s.retrack dict.input.file included dict.input.sumCor with
        | .error e => (dict, .error e)
        | .ok entries => ({ dict with retracked := some entries }, .ok (true, ""))
  finalize _ := none

/-- The chain of the two algorithms over some files. A file that cannot be opened
raises `OSError`. -/
def trackEnv (openError : String → Option String) (content : String → TrackInput) :
    Env TrackDict where
  modules alg :=
    if alg = "alg_waveform_quality" then .ok (algWaveformQuality d s)
    else if alg = "alg_retrack" then .ok (algRetrack num s)
    else .error ⟨.importError, "No module named " ++ alg⟩
  openDataset file := (openError file).map (fun text => ⟨.osError, text⟩)
  hashName name := name
  newDict file := ⟨content file, none, none⟩
  l1bFileName _ := none
  createNetcdfFile _ _ := none

/-- Record `i` passes the quality checks of its mode and lies inside the dilated
mask. -/
def Included (t : TrackInput) (i : Nat) : Prop :=
  i < t.file.numRecords ∧
    recordOk d s.sinTests s.lrmTests t.file i (t.file.pwrWaveform.rows.getD i []) = .ok true ∧
    t.dilatedSurfaceMask.getD i false = true

end

/-! ## Range errors -/

section

variable {d : Doubles} {s : WaveformSettings}

theorem numpyOp_ok_iff {α : Type} {op : String} {result : Except RangeError α} {v : α} :
    numpyOp op result = .ok v ↔ result = .ok v := by
  unfold numpyOp
  cases result <;> simp [Except.mapError]

theorem numpyOp_error {α : Type} {op : String} {result : Except RangeError α} {e : PyExc}
    (h : numpyOp op result = .error e) : e.caught = false := by
  unfold numpyOp at h
  cases result with
  | error err =>
      obtain rfl := Except.error.inj h
      cases err <;> rfl
  | ok v => cases h

/-- The power of each bin at the scale `2.0 ** echo_scale_pwr`. -/
def wattsAt (waveform : List ℚ) (echoScaleFactor scale : ℚ) : List ℚ :=
  waveform.map fun count => count * echoScaleFactor * scale

/-- The power above a noise floor. -/
def aboveNoise (watts : List ℚ) (floor : ℚ) : List ℚ :=
  watts.map fun p => if p - floor < 0 then 0 else p - floor

theorem sum_wattsAt (waveform : List ℚ) (echoScaleFactor scale : ℚ) :
    (wattsAt waveform echoScaleFactor scale).sum = waveform.sum * (echoScaleFactor * scale) := by
  unfold wattsAt
  induction waveform with
  | nil => simp
  | cons count waveform ih =>
      rw [List.map_cons, List.sum_cons, ih, List.sum_cons]
      ring

/-- Doubles hold the power of a waveform, bin by bin and in total. -/
structure PowerInRange (d : Doubles) (waveform : List ℚ) (echoScaleFactor : ℚ)
    (echoScalePwr : ℤ) (scale : ℚ) : Prop where
  power : d.pow 2 echoScalePwr = .ok scale
  scaled : ∀ count ∈ waveform, d.InRange (count * echoScaleFactor)
  watts : ∀ count ∈ waveform, d.InRange (count * echoScaleFactor * scale)
  total : d.overflows (wattsAt waveform echoScaleFactor scale).sum = false

/-- Doubles hold the noise floor, and what is left of the power above it. -/
structure NoiseInRange (d : Doubles) (watts : List ℚ) (noisePower floor : ℚ) : Prop where
  exponent : d.InRange (noisePower / 10)
  power : d.pow 10 (noisePower / 10) = .ok floor
  rest : ∀ p ∈ watts, d.overflows (p - floor) = false
  total : d.overflows (aboveNoise watts floor).sum = false

/-- Doubles hold what the checks of the mode compute from record `i`; the noise of
a SARIn record counts only where its power reaches the threshold. -/
def RecordInRange (d : Doubles) (s : WaveformSettings) (f : L1bFile) (i : Nat)
    (waveform : List ℚ) : Prop :=
  ∃ scale, PowerInRange d waveform (f.echoScaleFactor.getD i 0) (f.echoScalePwr.getD i 0) scale ∧
    (f.mode = .sin →
      s.sinTests.totalPowerThreshold ≤
        (wattsAt waveform (f.echoScaleFactor.getD i 0) scale).sum →
      ∃ floor, NoiseInRange d (wattsAt waveform (f.echoScaleFactor.getD i 0) scale)
        (f.noisePower.getD i 0) floor)

/-! ## One record -/

section

variable {waveform watts out : List ℚ} {echoScaleFactor noisePower power scale : ℚ}
  {echoScalePwr : ℤ} {e : PyExc}

theorem powerWatts_ok_iff :
    powerWatts d waveform echoScaleFactor echoScalePwr = .ok watts ↔
      ∃ scale, d.pow 2 echoScalePwr = .ok scale ∧
        (∀ count ∈ waveform, d.InRange (count * echoScaleFactor)) ∧
        (∀ count ∈ waveform, d.InRange (count * echoScaleFactor * scale)) ∧
        wattsAt waveform echoScaleFactor scale = watts := by
  unfold powerWatts wattsAt
  simp only [except_bind_ok_iff, numpyOp_ok_iff, Doubles.products_ok_iff, List.forall_mem_map]
  constructor
  · rintro ⟨_, ⟨hscaled, rfl⟩, scale, hpow, hwatts, rfl⟩
    rw [List.forall_mem_map] at hwatts
    refine ⟨scale, hpow, hscaled, hwatts, ?_⟩
    rw [List.map_map]
    rfl
  · rintro ⟨scale, hpow, hscaled, hwatts, rfl⟩
    refine ⟨_, ⟨hscaled, rfl⟩, scale, hpow, List.forall_mem_map.mpr hwatts, ?_⟩
    rw [List.map_map]
    rfl

theorem totalPower_ok_iff :
    totalPower d watts = .ok power ↔ d.overflows watts.sum = false ∧ watts.sum = power := by
  rw [totalPower, numpyOp_ok_iff, Doubles.sum_ok_iff]

theorem removeNoise_ok_iff :
    removeNoise d watts noisePower = .ok out ↔
      ∃ floor, d.InRange (noisePower / 10) ∧ d.pow 10 (noisePower / 10) = .ok floor ∧
        (∀ p ∈ watts, d.overflows (p - floor) = false) ∧ aboveNoise watts floor = out := by
  unfold removeNoise aboveNoise
  simp only [except_bind_ok_iff, numpyOp_ok_iff, Doubles.product_ok_iff, Doubles.sums_ok_iff,
    List.forall_mem_map]
  constructor
  · rintro ⟨_, ⟨hexponent, rfl⟩, floor, hpow, _, ⟨hrest, rfl⟩, hout⟩
    rw [← Except.ok.inj hout, List.map_map]
    exact ⟨floor, hexponent, hpow, hrest, rfl⟩
  · rintro ⟨floor, hexponent, hpow, hrest, rfl⟩
    refine ⟨_, ⟨hexponent, rfl⟩, floor, hpow, _, ⟨hrest, rfl⟩, ?_⟩
    rw [List.map_map]
    rfl

theorem powerWatts_error (h : powerWatts d waveform echoScaleFactor echoScalePwr = .error e) :
    e.caught = false := by
  unfold powerWatts at h
  rcases except_bind_error h with h | ⟨_, -, h⟩
  · exact numpyOp_error h
  · rcases except_bind_error h with h | ⟨_, -, h⟩ <;> exact numpyOp_error h

theorem removeNoise_error (h : removeNoise d watts noisePower = .error e) :
    e.caught = false := by
  unfold removeNoise at h
  rcases except_bind_error h with h | ⟨_, -, h⟩
  · exact numpyOp_error h
  · rcases except_bind_error h with h | ⟨_, -, h⟩
    · exact numpyOp_error h
    · rcases except_bind_error h with h | ⟨_, -, h⟩
      · exact numpyOp_error h
      · cases h

theorem peakiness_ok (peakScale : ℚ) (hsum : waveform.sum ≠ 0) :
    peakiness peakScale waveform = .ok (peakScale * waveform.max?.getD 0 / waveform.sum) := by
  rw [peakiness, if_neg hsum]

theorem peakiness_error {peakScale : ℚ} (h : peakiness peakScale waveform = .error e) :
    e.caught = false := by
  unfold peakiness at h
  split at h
  · obtain rfl := Except.error.inj h
    rfl
  · cases h

/-- A waveform with enough power has a count. -/
theorem sum_ne_zero_of_power {threshold : ℚ} (hpos : 0 < threshold)
    (hpower : ¬ (wattsAt waveform echoScaleFactor scale).sum < threshold) : waveform.sum ≠ 0 := by
  intro hzero
  rw [sum_wattsAt, hzero, zero_mul] at hpower
  exact hpower hpos

/-- What the first steps of both checks compute from a waveform in range. -/
theorem PowerInRange.computed (h : PowerInRange d waveform echoScaleFactor echoScalePwr scale) :
    powerWatts d waveform echoScaleFactor echoScalePwr =
        .ok (wattsAt waveform echoScaleFactor scale) ∧
      totalPower d (wattsAt waveform echoScaleFactor scale) =
        .ok (wattsAt waveform echoScaleFactor scale).sum :=
  ⟨powerWatts_ok_iff.mpr ⟨scale, h.power, h.scaled, h.watts, rfl⟩,
    totalPower_ok_iff.mpr ⟨h.total, rfl⟩⟩

/-- If the first steps of both checks return, then the waveform is in range. -/
theorem PowerInRange.of_computed
    (hwatts : powerWatts d waveform echoScaleFactor echoScalePwr = .ok watts)
    (hpower : totalPower d watts = .ok power) :
    ∃ scale, PowerInRange d waveform echoScaleFactor echoScalePwr scale ∧
      wattsAt waveform echoScaleFactor scale = watts ∧
      (wattsAt waveform echoScaleFactor scale).sum = power := by
  obtain ⟨scale, hpow, hscaled, hrange, rfl⟩ := powerWatts_ok_iff.mp hwatts
  obtain ⟨htotal, rfl⟩ := totalPower_ok_iff.mp hpower
  exact ⟨scale, ⟨hpow, hscaled, hrange, htotal⟩, rfl, rfl⟩

theorem sarinWaveformOk_isOk_iff {tests : SinQualityTests}
    (hpos : 0 < tests.totalPowerThreshold) :
    (∃ ok, sarinWaveformOk d tests waveform echoScaleFactor echoScalePwr noisePower = .ok ok) ↔
      ∃ scale, PowerInRange d waveform echoScaleFactor echoScalePwr scale ∧
        (tests.totalPowerThreshold ≤ (wattsAt waveform echoScaleFactor scale).sum →
          ∃ floor, NoiseInRange d (wattsAt waveform echoScaleFactor scale) noisePower floor) := by
  unfold sarinWaveformOk
  constructor
  · rintro ⟨ok, h⟩
    obtain ⟨watts, hwatts, h⟩ := except_bind_ok h
    obtain ⟨power, hpower, h⟩ := except_bind_ok h
    obtain ⟨scale, hrange, rfl, rfl⟩ := PowerInRange.of_computed hwatts hpower
    refine ⟨scale, hrange, fun hthreshold => ?_⟩
    rw [if_neg (not_lt.mpr hthreshold)] at h
    obtain ⟨denoised, hdenoised, h⟩ := except_bind_ok h
    obtain ⟨rest, hrest, -⟩ := except_bind_ok h
    obtain ⟨floor, hexponent, hfloor, hdifference, rfl⟩ := removeNoise_ok_iff.mp hdenoised
    exact ⟨floor, hexponent, hfloor, hdifference, (totalPower_ok_iff.mp hrest).1⟩
  · rintro ⟨scale, hrange, hnoise⟩
    obtain ⟨hwatts, hpower⟩ := hrange.computed
    simp only [hwatts, hpower, bind, Except.bind]
    split
    · exact ⟨false, rfl⟩
    · next hthreshold =>
      obtain ⟨floor, hexponent, hfloor, hdifference, htotal⟩ := hnoise (not_lt.mp hthreshold)
      have hdenoised := removeNoise_ok_iff.mpr ⟨floor, hexponent, hfloor, hdifference, rfl⟩
      have hrest : totalPower d (aboveNoise (wattsAt waveform echoScaleFactor scale) floor) =
          .ok (aboveNoise (wattsAt waveform echoScaleFactor scale) floor).sum :=
        totalPower_ok_iff.mpr ⟨htotal, rfl⟩
      simp only [hdenoised, hrest, peakiness_ok _ (sum_ne_zero_of_power hpos hthreshold)]
      -- the checks one by one
      split
      · exact ⟨false, rfl⟩
      · split
        · exact ⟨false, rfl⟩
        · split
          · exact ⟨false, rfl⟩
          · exact ⟨true, rfl⟩

theorem lrmWaveformOk_isOk_iff {tests : LrmQualityTests}
    (hpos : 0 < tests.totalPowerThreshold) :
    (∃ ok, lrmWaveformOk d tests waveform echoScaleFactor echoScalePwr = .ok ok) ↔
      ∃ scale, PowerInRange d waveform echoScaleFactor echoScalePwr scale := by
  unfold lrmWaveformOk
  constructor
  · rintro ⟨ok, h⟩
    obtain ⟨watts, hwatts, h⟩ := except_bind_ok h
    obtain ⟨power, hpower, h⟩ := except_bind_ok h
    obtain ⟨scale, hrange, -, -⟩ := PowerInRange.of_computed hwatts hpower
    exact ⟨scale, hrange⟩
  · rintro ⟨scale, hrange⟩
    obtain ⟨hwatts, hpower⟩ := hrange.computed
    simp only [hwatts, hpower, bind, Except.bind]
    split
    · exact ⟨false, rfl⟩
    · next hthreshold =>
      simp only [peakiness_ok _ (sum_ne_zero_of_power hpos hthreshold)]
      split
      · exact ⟨false, rfl⟩
      · split
        · exact ⟨false, rfl⟩
        · split
          · exact ⟨false, rfl⟩
          · exact ⟨true, rfl⟩

theorem sarinWaveformOk_error {tests : SinQualityTests}
    (h : sarinWaveformOk d tests waveform echoScaleFactor echoScalePwr noisePower = .error e) :
    e.caught = false := by
  unfold sarinWaveformOk at h
  rcases except_bind_error h with h | ⟨watts, -, h⟩
  · exact powerWatts_error h
  rcases except_bind_error h with h | ⟨power, -, h⟩
  · exact numpyOp_error h
  split at h
  · cases h
  rcases except_bind_error h with h | ⟨denoised, -, h⟩
  · exact removeNoise_error h
  rcases except_bind_error h with h | ⟨rest, -, h⟩
  · exact numpyOp_error h
  split at h
  · cases h
  rcases except_bind_error h with h | ⟨peak, -, h⟩
  · exact peakiness_error h
  split at h
  · cases h
  · simp only at h
    split at h <;> cases h

theorem lrmWaveformOk_error {tests : LrmQualityTests}
    (h : lrmWaveformOk d tests waveform echoScaleFactor echoScalePwr = .error e) :
    e.caught = false := by
  unfold lrmWaveformOk at h
  rcases except_bind_error h with h | ⟨watts, -, h⟩
  · exact powerWatts_error h
  rcases except_bind_error h with h | ⟨power, -, h⟩
  · exact numpyOp_error h
  split at h
  · cases h
  rcases except_bind_error h with h | ⟨peak, -, h⟩
  · exact peakiness_error h
  split at h
  · cases h
  · split at h
    · cases h
    · simp only at h
      split at h <;> cases h

end

variable (d s) (f : L1bFile) (i : Nat) (waveform : List ℚ)

/-- **The checks on a record** return exactly if doubles hold what they compute. -/
theorem recordOk_isOk_iff :
    (∃ ok, recordOk d s.sinTests s.lrmTests f i waveform = .ok ok) ↔
      RecordInRange d s f i waveform := by
  unfold recordOk RecordInRange
  cases f.mode with
  | sin =>
      refine (sarinWaveformOk_isOk_iff s.sin_power_pos).trans (exists_congr fun scale => ?_)
      simp only [forall_const]
  | lrm =>
      refine (lrmWaveformOk_isOk_iff s.lrm_power_pos).trans (exists_congr fun scale => ?_)
      simp

variable {d s f i waveform}

/-- What the checks accept has a count. -/
theorem recordOk_accepted (h : recordOk d s.sinTests s.lrmTests f i waveform = .ok true) :
    waveform.sum ≠ 0 := by
  unfold recordOk at h
  split at h
  · unfold sarinWaveformOk at h
    obtain ⟨watts, hwatts, h⟩ := except_bind_ok h
    obtain ⟨power, hpower, h⟩ := except_bind_ok h
    obtain ⟨scale, -, rfl, rfl⟩ := PowerInRange.of_computed hwatts hpower
    split at h
    · cases h
    · next hthreshold => exact sum_ne_zero_of_power s.sin_power_pos hthreshold
  · unfold lrmWaveformOk at h
    obtain ⟨watts, hwatts, h⟩ := except_bind_ok h
    obtain ⟨power, hpower, h⟩ := except_bind_ok h
    obtain ⟨scale, -, rfl, rfl⟩ := PowerInRange.of_computed hwatts hpower
    split at h
    · cases h
    · next hthreshold => exact sum_ne_zero_of_power s.lrm_power_pos hthreshold

/-- No exception of the checks is one that the run control catches. -/
theorem recordOk_error {e : PyExc}
    (h : recordOk d s.sinTests s.lrmTests f i waveform = .error e) : e.caught = false := by
  unfold recordOk at h
  split at h
  · exact sarinWaveformOk_error h
  · exact lrmWaveformOk_error h

/-! ## The quality checks of a file -/

theorem count_true_eq_zero_iff {xs : List Bool} :
    xs.count true = 0 ↔ ∀ i, xs.getD i false = false := by
  rw [List.count_eq_zero]
  constructor
  · intro h i
    rw [List.getD_eq_getElem?_getD]
    cases hi : xs[i]? with
    | none => rfl
    | some b =>
        cases b with
        | false => rfl
        | true => exact absurd (List.mem_of_getElem? hi) h
  · intro h hmem
    obtain ⟨i, hi, htrue⟩ := List.getElem_of_mem hmem
    have := h i
    rw [List.getD_eq_getElem?_getD, List.getElem?_eq_getElem hi, htrue] at this
    cases this

/-- A file with an included record has a count. -/
theorem noCounts_false_of_included {t : TrackInput} {i : Nat} (h : Included d s t i) :
    noCounts t.file.pwrWaveform = false := by
  obtain ⟨hi, hok, -⟩ := h
  have hne := recordOk_accepted hok
  by_contra hcounts
  rw [Bool.not_eq_false] at hcounts
  unfold noCounts at hcounts
  have hmem : t.file.pwrWaveform.rows.getD i [] ∈ t.file.pwrWaveform.rows := getD_mem hi []
  have hzero := List.all_eq_true.mp (List.all_eq_true.mp hcounts _ hmem)
  exact hne (List.sum_eq_zero (fun q hq => by simpa using hzero q hq))

variable (d s) in
/-- Doubles hold what the checks compute from the records of a file. -/
def AllInRange (t : TrackInput) : Prop :=
  ∀ i, i < t.file.numRecords →
    RecordInRange d s t.file i (t.file.pwrWaveform.rows.getD i [])

variable (t : TrackInput)

theorem waveformQuality_noCounts (hcounts : noCounts t.file.pwrWaveform = true) :
    waveformQuality d s.sinTests s.lrmTests t.file t.dilatedSurfaceMask = .error systemExit := by
  simp [waveformQuality, waveformQcChecks, hcounts]

/-- On a file with a count, the checks are made record by record. -/
theorem waveformQcChecks_counts (check : Nat → List ℚ → Except PyExc Bool)
    (hcounts : noCounts t.file.pwrWaveform = false) :
    waveformQcChecks t.file.mode.numBins check t.file.pwrWaveform =
      forEach check 0 t.file.pwrWaveform.rows := by
  have hsize : ¬ (t.file.pwrWaveform.size ≠ 128 ∧ t.file.pwrWaveform.size ≠ 1024) := by
    rw [t.file.size_eq]
    cases t.file.mode <;> simp [InstrMode.numBins]
  unfold waveformQcChecks
  rw [hcounts, if_neg (by simp), if_neg hsize, if_neg (not_not.mpr t.file.size_eq)]

/-- A record out of range ends the algorithm by an exception that is not caught. -/
theorem waveformQuality_raises (hcounts : noCounts t.file.pwrWaveform = false)
    (hrange : ¬ AllInRange d s t) :
    ∃ e, waveformQuality d s.sinTests s.lrmTests t.file t.dilatedSurfaceMask = .error e ∧
      e.caught = false := by
  unfold waveformQuality
  rw [waveformQcChecks_counts t _ hcounts]
  cases hoks : forEach (recordOk d s.sinTests s.lrmTests t.file) 0 t.file.pwrWaveform.rows with
  | error e =>
      obtain ⟨i, waveform, hraises⟩ := forEach_error hoks
      exact ⟨e, rfl, recordOk_error hraises⟩
  | ok oks =>
      refine absurd (fun i hi => ?_) hrange
      have hentry := (forEach_ok [] false hoks).2 i hi
      rw [Nat.zero_add] at hentry
      exact (recordOk_isOk_iff d s t.file i _).mp ⟨_, hentry⟩

/-- An entry of the conjunction of two masks of one length. -/
theorem getD_zipWith_and {as bs : List Bool} (hlen : as.length = bs.length) (i : Nat) :
    (List.zipWith (fun a b => a && b) as bs).getD i false =
      (as.getD i false && bs.getD i false) := by
  simp only [List.getD_eq_getElem?_getD, List.getElem?_zipWith]
  by_cases hi : i < as.length
  · rw [List.getElem?_eq_getElem hi, List.getElem?_eq_getElem (hlen ▸ hi)]
    rfl
  · rw [List.getElem?_eq_none (Nat.le_of_not_lt hi)]
    rfl

/-- On a file in range with a count, the algorithm marks the included records. -/
theorem waveformQuality_marks (hcounts : noCounts t.file.pwrWaveform = false)
    (hrange : AllInRange d s t) :
    ∃ included,
      waveformQuality d s.sinTests s.lrmTests t.file t.dilatedSurfaceMask = .ok included ∧
      included.length = t.file.numRecords ∧ 0 < t.file.numRecords ∧
      ∀ i, included.getD i false = true ↔ Included d s t i := by
  obtain ⟨oks, hoks⟩ : ∃ oks,
      forEach (recordOk d s.sinTests s.lrmTests t.file) 0 t.file.pwrWaveform.rows = .ok oks := by
    refine forEach_of_ok [] t.file.pwrWaveform.rows 0 fun i hi => ?_
    rw [Nat.zero_add]
    exact (recordOk_isOk_iff d s t.file i _).mpr (hrange i hi)
  obtain ⟨hlen, hentries⟩ := forEach_ok [] false hoks
  -- a file without records has no count either
  have hpos : 0 < t.file.numRecords := by
    apply Nat.pos_of_ne_zero
    intro hzero
    have hnil : t.file.pwrWaveform.rows = [] := List.eq_nil_of_length_eq_zero hzero
    simp [noCounts, hnil] at hcounts
  have hne : oks.length ≠ 0 := by
    rw [hlen]
    exact Nat.pos_iff_ne_zero.mp hpos
  refine ⟨List.zipWith (fun a b => a && b) oks t.dilatedSurfaceMask, ?_, ?_, hpos, ?_⟩
  · unfold waveformQuality
    rw [waveformQcChecks_counts t _ hcounts]
    simp only [hoks, if_neg hne]
  · rw [List.length_zipWith, hlen, t.length_mask]
    exact Nat.min_self _
  · intro i
    rw [getD_zipWith_and (hlen.trans t.length_mask.symm), Bool.and_eq_true, Included]
    by_cases hi : i < t.file.numRecords
    · have hentry := hentries i hi
      rw [Nat.zero_add] at hentry
      rw [hentry, Except.ok.injEq, and_iff_right hi]
    · have hout : oks.getD i false = false := by
        rw [List.getD_eq_getElem?_getD, List.getElem?_eq_none (by rw [hlen]; exact not_lt.mp hi)]
        rfl
      rw [hout]
      exact iff_of_false (fun h => Bool.false_ne_true h.1) fun h => hi h.1

end

/-! ## Retracking a file -/

section

variable (num : Numerics) (d : Doubles) (s : WaveformSettings)

/-- The retracker of the mode returns. -/
theorem callRetracker_ok (t : TrackInput) {included : List Bool}
    (hlen : included.length = t.file.numRecords) (hpos : 0 < t.file.numRecords) :
    ∃ r, callRetracker num s.retrack t.file included = .ok r := by
  have hfits : (Selection.includeArray included).Fits t.file.pwrWaveform.rows.length := hlen
  unfold callRetracker
  cases hmode : t.file.mode with
  | sin =>
      have hsize : t.file.pwrWaveform.size = 1024 := by rw [t.file.size_eq, hmode]; rfl
      obtain ⟨rows, hrows, hcall, -⟩ :=
        mc_rows num (t.file.sameShape hmode) s.mc_dp_pos hsize hfits
          (fun i _ _ _ => by rw [hsize]; exact s.mc_smoothing)
      have hne : rows ≠ [] := by
        rintro rfl
        rw [List.length_nil] at hrows
        exact absurd hpos (by unfold L1bFile.numRecords; omega)
      obtain ⟨r, hr, -⟩ := finishRetrack_ok (fun _ => true) s.retrack.mc.refBinIndSin rbinSizeSin hne
      exact ⟨r, hcall.trans hr⟩
  | lrm =>
      have hsize : t.file.pwrWaveform.size = 128 := by rw [t.file.size_eq, hmode]; rfl
      obtain ⟨r, hr, -⟩ := @tcog_dichotomy num _ _ _ hfits s.tcog_dp_pos s.tcog_inRange (.inl hsize)
        hpos (fun _ => by rw [hsize]; exact s.tcog_smoothing)
      exact ⟨r, hr⟩

/-- **`alg_retrack`** stores its entries if a waveform is included, and divides by
zero otherwise. -/
theorem retrack_spec (t : TrackInput) {included : List Bool}
    (hlen : included.length = t.file.numRecords) (hpos : 0 < t.file.numRecords) :
    if included.count true = 0 then
      Cryotempo.retrack num s.retrack t.file included t.sumCor = .error zeroDivision
    else
      ∃ entries, Cryotempo.retrack num s.retrack t.file included t.sumCor = .ok entries := by
  obtain ⟨r, hr⟩ := callRetracker_ok num s t hlen hpos
  unfold Cryotempo.retrack
  simp only [hr]
  split
  · rfl
  · exact ⟨_, rfl⟩

/-! ## The run -/

variable (openError : String → Option String) (content : String → TrackInput)

/-- What the two algorithms come to on a file. -/
theorem fileResult_track {cfg : ChainConfig} (hseq : cfg.useMultiProcessing = false)
    {file : String} (hopen : openError file = none) (filenum : Nat) :
    fileResult cfg (trackEnv num d s openError content)
        [algWaveformQuality d s, algRetrack num s] file filenum =
      match waveformQuality d s.sinTests s.lrmTests (content file).file
          (content file).dilatedSurfaceMask with
      | .error e => .error e
      | .ok included =>
          match Cryotempo.retrack num s.retrack (content file).file included
              (content file).sumCor with
          | .error e => .error e
          | .ok _ => .ok (true, "") := by
  have hopen' : (trackEnv num d s openError content).openDataset file = none := by
    simp [trackEnv, hopen]
  unfold fileResult
  rw [hopen']
  simp only [chainResult, processResult, hseq, Bool.false_eq_true, if_false, algWaveformQuality,
    algRetrack, trackEnv]
  cases waveformQuality d s.sinTests s.lrmTests (content file).file
      (content file).dilatedSurfaceMask with
  | error e => rfl
  | ok included =>
      simp only
      cases Cryotempo.retrack num s.retrack (content file).file included (content file).sumCor with
      | error e => rfl
      | ok entries => rfl

/-- The two algorithms on a file end in a result that the run control can take
exactly if the file cannot be opened, or doubles hold what the checks compute and
a record is included. -/
theorem fileResult_settled_iff {cfg : ChainConfig} (hseq : cfg.useMultiProcessing = false)
    (file : String) (filenum : Nat) :
    Settled (fileResult cfg (trackEnv num d s openError content)
        [algWaveformQuality d s, algRetrack num s] file filenum) ↔
      (openError file = none →
        AllInRange d s (content file) ∧ ∃ i, Included d s (content file) i) := by
  cases hopen : openError file with
  | some text =>
      refine ⟨fun _ h => absurd h nofun, fun _ e he => ?_⟩
      simp only [fileResult, trackEnv, hopen, Option.map_some, Except.error.injEq] at he
      rw [← he]
      rfl
  | none =>
      rw [fileResult_track num d s openError content hseq hopen]
      cases hcounts : noCounts (content file).file.pwrWaveform with
      -- `sys.exit()`, and no record is included without a count
      | true =>
          rw [waveformQuality_noCounts _ hcounts]
          refine ⟨fun h => absurd (h systemExit rfl) (by decide), fun h => ?_⟩
          obtain ⟨-, i, hi⟩ := h rfl
          rw [noCounts_false_of_included hi] at hcounts
          cases hcounts
      | false =>
          by_cases hrange : AllInRange d s (content file)
          · obtain ⟨included, hok, hlen, hpos, hmem⟩ := waveformQuality_marks _ hcounts hrange
            have hretrack := retrack_spec num s (content file) hlen hpos
            rw [hok]
            by_cases hnone : included.count true = 0
            -- no record is included: the percentage divides by zero
            · rw [if_pos hnone] at hretrack
              simp only [hretrack]
              refine ⟨fun h => absurd (h zeroDivision rfl) (by decide), fun h => ?_⟩
              obtain ⟨-, i, hi⟩ := h trivial
              rw [← hmem, count_true_eq_zero_iff.mp hnone i] at hi
              cases hi
            · rw [if_neg hnone] at hretrack
              obtain ⟨entries, hentries⟩ := hretrack
              simp only [hentries]
              refine ⟨fun _ _ => ⟨hrange, ?_⟩, fun _ e he => by cases he⟩
              rw [count_true_eq_zero_iff] at hnone
              simp only [not_forall, Bool.not_eq_false] at hnone
              obtain ⟨i, hi⟩ := hnone
              exact ⟨i, (hmem i).mp hi⟩
          -- `FloatingPointError`
          · obtain ⟨e, hraises, huncaught⟩ := waveformQuality_raises _ hcounts hrange
            rw [hraises]
            refine ⟨fun h => ?_, fun h => absurd (h rfl).1 hrange⟩
            rw [h e rfl] at huncaught
            cases huncaught

/-- What failure isolation asks of a sequential run: on every file the two
algorithms return or raise an exception that is caught, and the run returns
counts that cover every file. -/
def IsolatesFiles (cfg : ChainConfig) (live files : List String) : Prop :=
  (∀ job ∈ files.zipIdx, Settled (fileResult cfg (trackEnv num d s openError content)
    [algWaveformQuality d s, algRetrack num s] job.1 job.2)) ∧
  (runChain cfg (trackEnv num d s openError content) live files
    ["alg_waveform_quality", "alg_retrack"] none).Counted files.length

/-- **Files that end the run.** Sequential and without stop on error, the two
algorithms are isolated from file to file exactly if in every file that can be
opened, doubles hold what the checks compute from each record, and a record
passes the checks and lies inside the dilated mask. -/
theorem runChain_isolates_files_iff {cfg : ChainConfig} (hseq : cfg.useMultiProcessing = false)
    (hstop : cfg.stopOnError = false) (live files : List String) :
    IsolatesFiles num d s openError content cfg live files ↔
      ∀ file ∈ files, openError file = none →
        AllInRange d s (content file) ∧ ∃ i, Included d s (content file) i := by
  have hall : ∀ alg ∈ ["alg_waveform_quality", "alg_retrack"],
      Constructible cfg (trackEnv num d s openError content) alg := by
    intro alg halg
    have hshm : usesSharedMemory cfg = false := by simp [usesSharedMemory, hseq]
    rcases List.mem_cons.mp halg with rfl | halg
    · exact ⟨algWaveformQuality d s, rfl, by simp [newRaises, algWaveformQuality],
        fun h => by rw [hshm] at h; cases h⟩
    · obtain rfl := List.mem_singleton.mp halg
      exact ⟨algRetrack num s, rfl, by simp [newRaises, algRetrack],
        fun h => by rw [hshm] at h; cases h⟩
  have isGiven_none : isGiven none = false := rfl
  have hclasses : algClasses cfg (trackEnv num d s openError content)
      ["alg_waveform_quality", "alg_retrack"] =
        [algWaveformQuality d s, algRetrack num s] := rfl
  have hfin : ∀ cls ∈ algClasses cfg (trackEnv num d s openError content)
      ["alg_waveform_quality", "alg_retrack"], ∀ stage, cls.finalize stage = none := by
    rw [hclasses]
    intro cls hcls stage
    rcases List.mem_cons.mp hcls with rfl | hcls
    · rfl
    · obtain rfl := List.mem_singleton.mp hcls
      rfl
  have hiff := runChain_sequential_isolates_iff hseq hstop isGiven_none hall hfin live files
  rw [hclasses] at hiff
  unfold IsolatesFiles
  rw [hiff, and_self]
  simp only [fileResult_settled_iff num d s openError content hseq]
  constructor
  · intro h file hfile
    obtain ⟨i, hi, hget⟩ := List.getElem_of_mem hfile
    have hmem : (file, i) ∈ files.zipIdx := by
      rw [List.mem_zipIdx_iff_getElem?, List.getElem?_eq_getElem hi, hget]
    exact h (file, i) hmem
  · intro h job hjob
    exact h job.1 (List.fst_mem_of_mem_zipIdx hjob)

end

/-! ## Files of one record -/

/-- The settings of the configuration files. -/
def cryotempoSettings : WaveformSettings where
  sinTests := ⟨5 / 10 ^ 17, 9 / 10, 2, 1011⟩
  lrmTests := ⟨3 / 10 ^ 16, 17 / 20, 14 / 5⟩
  retrack := ⟨defaultMc, defaultTcog, 299792458⟩
  sin_power_pos := by norm_num
  lrm_power_pos := by norm_num
  mc_dp_pos := by decide +kernel
  mc_smoothing := ⟨by decide, by decide⟩
  tcog_dp_pos := by decide +kernel
  tcog_smoothing _ := ⟨by decide, by decide⟩
  tcog_inRange := by
    unfold TcogSettings.InRange
    decide +kernel

/-- An LRM record without power in its first half and with the same count in all
bins of its second half. -/
def stepWaveforms (count : Nat) : WaveformArray where
  size := 128
  rows := [List.replicate 64 0 ++ List.replicate 64 (count : ℚ)]
  length_row w hw := by
    rw [List.mem_singleton.mp hw]
    simp
  nonneg w hw q hq := by
    rw [List.mem_singleton.mp hw] at hq
    rcases List.mem_append.mp hq with hq | hq
    · rw [List.eq_of_mem_replicate hq]
    · rw [List.eq_of_mem_replicate hq]
      exact Nat.cast_nonneg count

/-- The file of the record at the scale `2 ** echoScalePwr`, over the mask or
outside of it. -/
def stepInput (count : Nat) (echoScalePwr : ℤ) (inMask : Bool) : TrackInput where
  file :=
    { mode := .lrm
      pwrWaveform := stepWaveforms count
      coherenceWaveform := []
      echoScaleFactor := [1]
      echoScalePwr := [echoScalePwr]
      noisePower := [0]
      windowDel := [.num 0]
      size_eq := rfl
      sameShape := nofun
      length_echoScaleFactor := by simp [stepWaveforms]
      length_echoScalePwr := by simp [stepWaveforms]
      length_noisePower := by simp [stepWaveforms]
      length_windowDel := by simp [stepWaveforms] }
  dilatedSurfaceMask := [inMask]
  sumCor := [.num 0]
  length_mask := rfl
  length_sumCor := by simp [L1bFile.numRecords, stepWaveforms]

/-- `empty.nc` holds no count, `ocean.nc` lies outside the mask, the scale of
`faint.nc` is below the least double, and the others are retracked. -/
def stepContent (file : String) : TrackInput :=
  if file = "empty.nc" then stepInput 0 0 true
  else if file = "ocean.nc" then stepInput 1 0 false
  else if file = "faint.nc" then stepInput 1 (-2000) true
  else stepInput 1 0 true

theorem allInRange_step : AllInRange binary64 cryotempoSettings (stepInput 1 0 true) := by
  intro i hi
  obtain rfl : i = 0 := Nat.lt_one_iff.mp hi
  exact (recordOk_isOk_iff _ _ _ _ _).mp ⟨true, by decide +kernel⟩

theorem included_step : Included binary64 cryotempoSettings (stepInput 1 0 true) 0 := by
  refine ⟨by decide, ?_, rfl⟩
  decide +kernel

/-- Sequential, without stop on error. -/
def cryotempoChain : ChainConfig := ⟨"cryotempo", false, false, 1, false, none⟩

/-- The chain over these files; `lost.nc` cannot be opened. -/
def stepEnv : Env TrackDict :=
  trackEnv interpolatingNumerics binary64 cryotempoSettings
    (fun file => if file = "lost.nc" then some "No such file" else none) stepContent

theorem runChain_isolates_files_iff_step :
    (runChain cryotempoChain stepEnv [] ["lost.nc", "track.nc"]
      ["alg_waveform_quality", "alg_retrack"] none).Counted 2 := by
  refine ((runChain_isolates_files_iff interpolatingNumerics binary64 cryotempoSettings
    (fun file => if file = "lost.nc" then some "No such file" else none) stepContent rfl rfl []
    ["lost.nc", "track.nc"]).mpr ?_).2
  intro file hfile hopen
  rcases List.mem_cons.mp hfile with rfl | hfile
  · cases hopen
  · obtain rfl := List.mem_singleton.mp hfile
    exact ⟨allInRange_step, 0, included_step⟩

/-- What `2.0 ** -2000` raises. -/
def scaleUnderflow : PyExc := rangeException "scalar power" .underflow

/-- The run over `file` and a file behind it that would be retracked. -/
def stepRun (file : String) : ChainRun TrackDict :=
  runChain cryotempoChain stepEnv [] [file, "track.nc"] ["alg_waveform_quality", "alg_retrack"]
    none

/-- A file without a count, one whose only record lies outside the mask, and one
whose scale is below the least double, each end the run before the file behind it. -/
theorem runChain_ends_at_file :
    (stepRun "empty.nc").outcome = .error systemExit ∧
    (stepRun "ocean.nc").outcome = .error zeroDivision ∧
    (stepRun "faint.nc").outcome = .error scaleUnderflow ∧
    ∀ file ∈ ["empty.nc", "ocean.nc", "faint.nc"], ¬ (stepRun file).Counted 2 := by
  have hempty : (stepRun "empty.nc").outcome = .error systemExit := by decide +kernel
  have hocean : (stepRun "ocean.nc").outcome = .error zeroDivision := by decide +kernel
  have hfaint : (stepRun "faint.nc").outcome = .error scaleUnderflow := by decide +kernel
  refine ⟨hempty, hocean, hfaint, ?_⟩
  rintro file hfile ⟨success, errors, skipped, hout⟩
  have hends : ∃ e, (stepRun file).outcome = .error e := by
    simp only [List.mem_cons, List.not_mem_nil, or_false] at hfile
    obtain rfl | rfl | rfl := hfile
    · exact ⟨_, hempty⟩
    · exact ⟨_, hocean⟩
    · exact ⟨_, hfaint⟩
  obtain ⟨e, he⟩ := hends
  rw [hout] at he
  cases he

end Clev2er.Cryotempo
