import Clev2er.Lib.Doubles
import Clev2er.Lib.ForEach
import Clev2er.Retrack.MaxCoherence

/-!
# Waveform quality and retracking of a file

`alg_waveform_quality` and `alg_retrack` on the waveforms of one L1b file: the
quality checks, the choice of the waveforms to include, the call of the retracker
of the instrument mode, and what is stored in the shared dictionary. Both can end
without a result: the checks leave the program by `sys.exit()` when no waveform
holds a count, and the percentage of retracker failures divides by the number of
included waveforms. `alg_retrack` imports the retrackers, which switch numpy to
raising (`np.seterr("raise")`), so that a peakiness of `0 / 0` raises as well, and
a power in watts that a double cannot hold.

Values are exact. `Doubles` says which of them raise, in the state that
`np.seterr` has when the function runs; the counts themselves, and sums of them,
are in range.
-/

namespace Clev2er.Cryotempo

open Clev2er.Lib Clev2er.Retrack

/-! ## The file -/

/-- `shared_dict["instr_mode"]`. -/
inductive InstrMode where
  | lrm
  | sin
deriving DecidableEq, Repr

/-- The number of range bins of a waveform. -/
def InstrMode.numBins : InstrMode → Nat
  | .lrm => 128
  | .sin => 1024

/-- The variables of an L1b file that the two algorithms read. -/
structure L1bFile where
  mode : InstrMode
  pwrWaveform : WaveformArray
  coherenceWaveform : List (List Sample)
  echoScaleFactor : List ℚ
  echoScalePwr : List ℤ
  noisePower : List ℚ
  windowDel : List Sample
  size_eq : pwrWaveform.size = mode.numBins
  sameShape : mode = .sin → SameShape pwrWaveform coherenceWaveform
  length_echoScaleFactor : echoScaleFactor.length = pwrWaveform.rows.length
  length_echoScalePwr : echoScalePwr.length = pwrWaveform.rows.length
  length_noisePower : noisePower.length = pwrWaveform.rows.length
  length_windowDel : windowDel.length = pwrWaveform.rows.length

/-- The number of records. -/
def L1bFile.numRecords (f : L1bFile) : Nat := f.pwrWaveform.rows.length

/-! ## `waveform_qc_checks.py` -/

/-- `config["sin_waveform_quality_tests"]`. -/
structure SinQualityTests where
  totalPowerThreshold : ℚ
  lowPeakinessThreshold : ℚ
  lowPositionMaxPower : Nat
  highPositionMaxPower : Nat

/-- `config["lrm_waveform_quality_tests"]`. -/
structure LrmQualityTests where
  totalPowerThreshold : ℚ
  lowPeakinessThreshold : ℚ
  highPeakinessThreshold : ℚ

/-- `sys.exit()`. -/
def systemExit : PyExc := ⟨.other "SystemExit", ""⟩

/-- A division by zero of Python floats. -/
def zeroDivision : PyExc := ⟨.other "ZeroDivisionError", "float division by zero"⟩

/-- `FloatingPointError`, with the text numpy gives the operation. -/
def rangeException (op : String) : RangeError → PyExc
  | .overflow => ⟨.other "FloatingPointError", "overflow encountered in " ++ op⟩
  | .underflow => ⟨.other "FloatingPointError", "underflow encountered in " ++ op⟩

/-- The numpy operation `op`. -/
def numpyOp {α : Type} (op : String) (result : Except RangeError α) : Except PyExc α :=
  result.mapError (rangeException op)

/-- `pwr_waveform * echo_scale_factor * (2.0**echo_scale_pwr)`: the power of a
waveform in watts, from its counts. -/
def powerWatts (d : Doubles) (waveform : List ℚ) (echoScaleFactor : ℚ) (echoScalePwr : ℤ) :
    Except PyExc (List ℚ) := do
  let scaled ← numpyOp "multiply" (d.products (waveform.map fun count => count * echoScaleFactor))
  let scale ← numpyOp "scalar power" (d.pow 2 echoScalePwr)
  numpyOp "multiply" (d.products (scaled.map fun q => q * scale))

/-- `np.sum` of an array of powers. -/
def totalPower (d : Doubles) (watts : List ℚ) : Except PyExc ℚ :=
  numpyOp "reduce" (d.sum watts.sum)

/-- The power above the noise: the noise is subtracted, and a negative rest
cleared. -/
def removeNoise (d : Doubles) (watts : List ℚ) (noisePower : ℚ) : Except PyExc (List ℚ) := do
  let exponent ← numpyOp "scalar divide" (d.product (noisePower / 10))
  let dPowerThreshold ← numpyOp "scalar power" (d.pow 10 exponent)
  let rest ← numpyOp "subtract" (d.sums (watts.map fun p => p - dPowerThreshold))
  return rest.map fun p => if p < 0 then 0 else p

/-- `scale * np.max(pwr_waveform) / np.sum(pwr_waveform)`. -/
def peakiness (scale : ℚ) (waveform : List ℚ) : Except PyExc ℚ :=
  if waveform.sum = 0 then
    .error ⟨.other "FloatingPointError", "invalid value encountered in scalar divide"⟩
  else .ok (scale * waveform.max?.getD 0 / waveform.sum)

/-- The checks of `sarin_waveform_qc_checks` on one waveform. -/
def sarinWaveformOk (d : Doubles) (tests : SinQualityTests) (waveform : List ℚ)
    (echoScaleFactor : ℚ) (echoScalePwr : ℤ) (noisePower : ℚ) : Except PyExc Bool := do
  let watts ← powerWatts d waveform echoScaleFactor echoScalePwr
  let power ← totalPower d watts
  if power < tests.totalPowerThreshold then return false
  else
    let denoised ← removeNoise d watts noisePower
    let power ← totalPower d denoised
    if power < tests.totalPowerThreshold then return false
    else
      let peak ← peakiness (1024 - 256) waveform
      if peak < tests.lowPeakinessThreshold then return false
      else
        let pos := argmax (waveform.map .num)
        if pos < tests.lowPositionMaxPower ∨ tests.highPositionMaxPower < pos then return false
        else return true

/-- The checks of `lrm_waveform_qc_checks` on one waveform. -/
def lrmWaveformOk (d : Doubles) (tests : LrmQualityTests) (waveform : List ℚ)
    (echoScaleFactor : ℚ) (echoScalePwr : ℤ) : Except PyExc Bool := do
  let watts ← powerWatts d waveform echoScaleFactor echoScalePwr
  let power ← totalPower d watts
  if power < tests.totalPowerThreshold then return false
  else
    let peak ← peakiness 64 waveform
    if peak < tests.lowPeakinessThreshold then return false
    else if tests.highPeakinessThreshold < peak then return false
    else
      let left := (slice waveform 0 32).sum
      let right := (slice waveform 32 128).sum
      if 1 / 2 * right < left then return false else return true

/-- `not np.any(pwr_waveform_20_ku)`. -/
def noCounts (wfs : WaveformArray) : Bool := wfs.rows.all (fun w => w.all (fun q => q = 0))

/-- The two functions of `waveform_qc_checks.py`: the checks are made on the
waveforms of `checkedSize` bins, and those of the other size are passed. -/
def waveformQcChecks (checkedSize : Nat) (check : Nat → List ℚ → Except PyExc Bool)
    (wfs : WaveformArray) : Except PyExc (List Bool) :=
  if noCounts wfs then .error systemExit
  else if wfs.size ≠ 128 ∧ wfs.size ≠ 1024 then .error systemExit
  else if wfs.size ≠ checkedSize then .ok (List.replicate wfs.rows.length true)
  else forEach check 0 wfs.rows

section

variable (d : Doubles)

/-- The checks of the mode of a file on its record `i`. -/
def recordOk (sinTests : SinQualityTests) (lrmTests : LrmQualityTests) (f : L1bFile) (i : Nat)
    (waveform : List ℚ) : Except PyExc Bool :=
  match f.mode with
  | .sin =>
      sarinWaveformOk d sinTests waveform (f.echoScaleFactor.getD i 0)
        (f.echoScalePwr.getD i 0) (f.noisePower.getD i 0)
  | .lrm =>
      lrmWaveformOk d lrmTests waveform (f.echoScaleFactor.getD i 0) (f.echoScalePwr.getD i 0)

/-! ## `alg_waveform_quality` -/

/-- `process()`: `shared_dict["waveforms_to_include"]`. -/
def waveformQuality (sinTests : SinQualityTests) (lrmTests : LrmQualityTests) (f : L1bFile)
    (dilatedSurfaceMask : List Bool) : Except PyExc (List Bool) :=
  match waveformQcChecks f.mode.numBins (recordOk d sinTests lrmTests f) f.pwrWaveform with
  | .error e => .error e
  | .ok waveformsOk =>
      -- the percentage in the log
      if waveformsOk.length = 0 then .error zeroDivision
      else .ok (List.zipWith (fun a b => a && b) waveformsOk dilatedSurfaceMask)

end

/-! ## `alg_retrack` -/

/-- The settings `alg_retrack` passes to the retrackers. -/
structure RetrackConfig where
  mc : McSettings
  tcog : TcogSettings
  speedLight : ℚ

/-- What `alg_retrack` stores in the shared dictionary. -/
structure RetrackEntries where
  indWfmRetrack : List Sample
  pwrAtRtrkPoint : List Sample
  leadingEdgeStart : List (Sample × Sample)
  leadingEdgeStop : List (Sample × Sample)
  geoCorrectedTrackerRange : List Sample
  retrackerCorrection : List Sample
  rangeCor : List Sample
  numRetrackerFailures : Nat
  percentRetrackerFailure : ℚ
deriving DecidableEq

/-- The fill value of a retracking index. -/
def fillIndex : ℚ := -32768

/-- The retracker of the mode. -/
def callRetracker (num : Numerics) (c : RetrackConfig) (f : L1bFile)
    (waveformsToInclude : List Bool) : Except PyExc RetrackResult :=
  match f.mode with
  | .sin =>
      retrackCs2SinMaxCoherence num c.mc f.pwrWaveform (some f.coherenceWaveform) none
        (some waveformsToInclude)
  | .lrm => retrackTcogWaveformsCs2 num c.tcog f.pwrWaveform none (some waveformsToInclude)

/-- `ref_bin_index`. -/
def refBinIndex (c : RetrackConfig) (f : L1bFile) : ℚ :=
  match f.mode with
  | .sin => c.mc.refBinIndSin
  | .lrm => c.tcog.refBinIndLrm

/-- `ind_wfm_retrack_20_ku` of one record. -/
def indWfmRetrackOf (refBin : ℚ) (drBin : Sample) : Sample :=
  if (.num refBin + drBin).isNan then .num fillIndex else .num refBin + drBin

/-- `process()`. -/
def retrack (num : Numerics) (c : RetrackConfig) (f : L1bFile) (waveformsToInclude : List Bool)
    (sumCor : List Sample) : Except PyExc RetrackEntries :=
  let nWaveformsToInclude := waveformsToInclude.count true
  match callRetracker num c f waveformsToInclude with
  | .error e => .error e
  | .ok r =>
      -- the percentage in the log, and again at the end
      if nWaveformsToInclude = 0 then .error zeroDivision
      else
        let geoCorrected := List.zipWith (fun w s => .num (1 / 2 * c.speedLight) * w + s)
          f.windowDel sumCor
        .ok
          { indWfmRetrack := r.drBin.map (indWfmRetrackOf (refBinIndex c f))
            pwrAtRtrkPoint := r.pwrAtRtrkPoint
            leadingEdgeStart := r.leadingEdgeStart
            leadingEdgeStop := r.leadingEdgeStop
            geoCorrectedTrackerRange := geoCorrected
            retrackerCorrection := r.drMeters
            rangeCor := List.zipWith (fun a b => a + b) geoCorrected r.drMeters
            numRetrackerFailures := r.nRetrackerFailures
            percentRetrackerFailure := 100 * r.nRetrackerFailures / nWaveformsToInclude }

end Clev2er.Cryotempo
