import Clev2er.Lib.ForEach
import Clev2er.Lib.Slice
import Clev2er.Python
import Clev2er.Retrack.FastSmooth
import Clev2er.Retrack.LeadingEdge

/-!
# What the two retrackers have in common

`retrack_tcog_waveforms_cs2` and `retrack_cs2_sin_max_coherence` fill, waveform by
waveform, a row of outputs (leading edge, retracking point, six flags) and turn
the rows into offsets, powers and a failure count. This module has the rows, the
loop over the waveforms and the final arrays, and `Dichotomy`: the statement that
every waveform was either left out, or failed with a flag, or was retracked.

A retracker uses three things that are not part of the repository: the
Savitzky-Golay filter, the square root and the text of a float. They are the
fields of `Numerics`.
-/

namespace Clev2er.Retrack

open Clev2er.Lib

/-! ## Inputs -/

/-- `np.ndarray` of power waveforms, one row a measurement: all rows of the same
size, no count negative. -/
structure WaveformArray where
  size : Nat
  rows : List (List ℚ)
  length_row : ∀ w ∈ rows, w.length = size
  nonneg : ∀ w ∈ rows, ∀ q ∈ w, 0 ≤ q

/-- The library functions a retracker calls, with what it relies on. -/
structure Numerics where
  /-- `scipy.signal.savgol_filter(x, window_length, polyorder)`, of a window it
  accepts (`checkSavgol`). -/
  savgolFilter : List ℚ → Nat → Nat → List ℚ
  length_savgolFilter : ∀ x width order, (savgolFilter x width order).length = x.length
  /-- `math.sqrt`. -/
  sqrt : ℚ → ℚ
  sqrt_nonneg : ∀ q, 0 ≤ sqrt q
  /-- A float in an f-string. -/
  floatText : ℚ → String

/-- The checks of `savgol_filter` for an array of `n` samples. -/
def checkSavgol (n width order : Nat) : Except PyExc Unit :=
  if width ≤ order then .error ⟨.valueError, "polyorder must be less than window_length."⟩
  else if n < width then
    .error ⟨.valueError,
      "If mode is 'interp', window_length must be less than or equal to the size of x."⟩
  else .ok ()

/-- A window of at most `n` samples, and a polynomial of a lower order. -/
def SavgolAccepts (n width order : Nat) : Prop := order < width ∧ width ≤ n

theorem checkSavgol_ok_iff {n width order : Nat} :
    checkSavgol n width order = .ok () ↔ SavgolAccepts n width order := by
  unfold checkSavgol SavgolAccepts
  split
  · next hle => exact iff_of_false nofun fun h => absurd h.1 (not_lt_of_ge hle)
  · next hle =>
    split
    · next hlt => exact iff_of_false nofun fun h => absurd h.2 (not_le_of_gt hlt)
    · next hlt => exact iff_of_true rfl ⟨Nat.lt_of_not_le hle, Nat.le_of_not_lt hlt⟩

/-- Which waveforms to retrack: the two ways a caller can say so. -/
inductive Selection where
  | includeArray (included : List Bool)
  | measurementIndex (index : Nat)
deriving DecidableEq, Repr

namespace Selection

/-- The argument `measurement_index`. -/
def index? : Selection → Option Nat
  | .includeArray _ => none
  | .measurementIndex index => some index

/-- The argument `include_measurements_array`. -/
def included? : Selection → Option (List Bool)
  | .includeArray included => some included
  | .measurementIndex _ => none

/-- A selection that fits an array of `n` waveforms. -/
def Fits (n : Nat) : Selection → Prop
  | .includeArray included => included.length = n
  | .measurementIndex index => index < n

/-- The waveforms the caller asks for. -/
def chosen : Selection → Nat → Bool
  | .includeArray included, i => included.getD i false
  | .measurementIndex index, i => decide (i = index)

/-- A waveform asked for has a count. -/
def HasCounts (sel : Selection) (wfs : WaveformArray) : Prop :=
  ∃ i, i < wfs.rows.length ∧ sel.chosen i = true ∧ ∃ q ∈ wfs.rows.getD i [], q ≠ 0

end Selection

/-! ## Rows -/

/-- The outputs for one waveform: `leading_edge_start[i]`, `leading_edge_stop[i]`,
the retracking point (bin, normalised power, power) and `retrack_flag[i]`. -/
structure Row where
  leadingEdgeStart : Sample × Sample
  leadingEdgeStop : Sample × Sample
  bin : Sample
  normPower : Sample
  power : Sample
  flags : List Nat
deriving DecidableEq, Repr

namespace Row

/-- Preallocated: NaN everywhere, no flag. -/
def initial : Row :=
  { leadingEdgeStart := (.nan, .nan)
    leadingEdgeStop := (.nan, .nan)
    bin := .nan
    normPower := .nan
    power := .nan
    flags := [0, 0, 0, 0, 0, 0] }

/-- `retrack_flag[i][k] = 1`. -/
def setFlag (r : Row) (k : Nat) : Row := { r with flags := r.flags.set k 1 }

/-- Storing the retracking point: a power of zero is taken back and flagged. -/
def storePoint (r : Row) (bin normPower power : Sample) : Row :=
  if power = .num 0 then
    { r with bin := .nan, normPower := .nan, power := .nan }.setFlag 5
  else { r with bin := bin, normPower := normPower, power := power }

/-- A waveform that was not retracked: one of the flags is set, the point is
NaN. -/
def Failed (r : Row) : Prop :=
  (∃ k ∈ [0, 1, 2, 3, 5], r.flags = [0, 0, 0, 0, 0, 0].set k 1) ∧ r.bin = .nan ∧ r.power = .nan

/-- A retracked waveform of `size` bins: no flag, a bin of the waveform and a
positive power. -/
def Retracked (r : Row) (size : Nat) : Prop :=
  r.flags = [0, 0, 0, 0, 0, 0] ∧
    (∃ b : ℚ, r.bin = .num b ∧ 0 ≤ b ∧ b ≤ ((size - 1 : Nat) : ℚ)) ∧
    ∃ p : ℚ, r.power = .num p ∧ 0 < p

/-- The test of the failure count; flag 4 is unused. -/
def countsAsFailure (r : Row) : Bool :=
  r.flags.getD 5 0 ≠ 0 || r.flags.getD 3 0 ≠ 0 || r.flags.getD 2 0 ≠ 0 ||
    r.flags.getD 1 0 ≠ 0 || r.flags.getD 0 0 ≠ 0

end Row

/-- The flag index of a failed search. -/
def EdgeFlag.index : EdgeFlag → Nat
  | .noSampleAboveNoise => 1
  | .noPeak => 2
  | .endOfWaveform => 3

/-- One pass of the loop body: waveforms not selected are skipped. -/
def retrackOne (process : Nat → List ℚ → Except PyExc Row) (selected : Nat → Bool) (i : Nat)
    (w : List ℚ) : Except PyExc Row :=
  if selected i then process i w else .ok Row.initial

/-- The loop over the waveforms, from index `i` on. -/
def retrackLoop (process : Nat → List ℚ → Except PyExc Row) (selected : Nat → Bool) :
    Nat → List (List ℚ) → Except PyExc (List Row)
  | _, [] => .ok []
  | i, w :: ws => do
      let row ← retrackOne process selected i w
      let rows ← retrackLoop process selected (i + 1) ws
      .ok (row :: rows)

/-- `np.mean(sorted(wfnorm)[0:6])`. -/
def noiseMean (wfnorm : List ℚ) : ℚ :=
  let lowest := slice (wfnorm.mergeSort (fun a b => decide (a ≤ b))) 0 6
  lowest.sum / (lowest.length : ℚ)

/-- The leading-edge search; `size + 1` rounds are enough
(`leadingEdgeLoop_terminates`). -/
def searchLeadingEdge (e : EdgeInput) (leDpThreshold : ℚ) : EdgeSearch :=
  (e.leadingEdge leDpThreshold (e.size + 1)).getD (.done none)

/-- `UnboundLocalError` of `le_index`, for a threshold that the loop test never
lets in. -/
def leIndexUnbound : PyExc := ⟨.nameError, "local variable 'le_index' referenced before assignment"⟩

/-! ## Results -/

/-- The returned tuple. -/
structure RetrackResult where
  drBin : List Sample
  drMeters : List Sample
  leadingEdgeStart : List (Sample × Sample)
  leadingEdgeStop : List (Sample × Sample)
  pwrAtRtrkPoint : List Sample
  nRetrackerFailures : Nat
  retrackFlag : List (List Nat)
deriving DecidableEq, Repr

/-- `np.array(retrack_point)[:, 0]` of no rows. -/
def tooManyIndices : PyExc :=
  ⟨.other "IndexError",
    "too many indices for array: array is 1-dimensional, but 2 were indexed"⟩

/-- From the rows to the returned tuple; `counted` are the waveforms the failure
count looks at. -/
def finishRetrack (rows : List Row) (counted : Nat → Bool) (refBinInd rbinSize : ℚ) :
    Except PyExc RetrackResult :=
  if rows = [] then .error tooManyIndices
  else
    let drBin := rows.map (fun r => r.bin - .num refBinInd)
    .ok
      { drBin := drBin
        drMeters := drBin.map (fun d => d * .num rbinSize)
        leadingEdgeStart := rows.map Row.leadingEdgeStart
        leadingEdgeStop := rows.map Row.leadingEdgeStop
        pwrAtRtrkPoint := rows.map Row.power
        nRetrackerFailures :=
          ((List.range rows.length).filter (fun i =>
            counted i && (rows.getD i Row.initial).countsAsFailure)).length
        retrackFlag := rows.map Row.flags }

/-- **The outcome dichotomy.** A waveform not asked for keeps NaN and no flag; one
asked for has failed with a flag and NaN, or has no flag, a bin of the waveform
and a positive power; and the failures are counted. -/
def Dichotomy (n size : Nat) (chosen : Nat → Bool) (refBinInd : ℚ) (r : RetrackResult) : Prop :=
  (∀ i, i < n → chosen i = false →
    r.drBin.getD i (.num 0) = .nan ∧ r.drMeters.getD i (.num 0) = .nan ∧
      r.pwrAtRtrkPoint.getD i (.num 0) = .nan ∧ r.retrackFlag.getD i [] = [0, 0, 0, 0, 0, 0]) ∧
  (∀ i, i < n → chosen i = true →
    (1 ∈ r.retrackFlag.getD i [] ∧ r.drBin.getD i (.num 0) = .nan ∧
      r.drMeters.getD i (.num 0) = .nan ∧ r.pwrAtRtrkPoint.getD i (.num 0) = .nan) ∨
    (r.retrackFlag.getD i [] = [0, 0, 0, 0, 0, 0] ∧
      (∃ b : ℚ, r.drBin.getD i .nan + .num refBinInd = .num b ∧
        0 ≤ b ∧ b ≤ ((size - 1 : Nat) : ℚ)) ∧
      r.drMeters.getD i .nan ≠ .nan ∧
      ∃ p : ℚ, r.pwrAtRtrkPoint.getD i .nan = .num p ∧ 0 < p)) ∧
  r.nRetrackerFailures =
    ((List.range n).filter (fun i => chosen i && (r.drBin.getD i .nan).isNan)).length

/-! ## From the rows to the dichotomy -/

section Rows

section Loop

variable {process : Nat → List ℚ → Except PyExc Row} {selected : Nat → Bool}

theorem retrackLoop_eq_forEach : ∀ (ws : List (List ℚ)) (i : Nat),
    retrackLoop process selected i ws = forEach (retrackOne process selected) i ws
  | [], _ => rfl
  | w :: ws, i => by
      rw [retrackLoop, forEach, retrackLoop_eq_forEach ws (i + 1)]
      cases retrackOne process selected i w with
      | error e => rfl
      | ok row => cases forEach (retrackOne process selected) (i + 1) ws <;> rfl

/-- A pass leaves the row of a waveform that is not selected as it was. -/
theorem retrackOne_ok {i : Nat} {w : List ℚ} {row : Row}
    (h : retrackOne process selected i w = .ok row) :
    (selected i = false → row = Row.initial) ∧ (selected i = true → process i w = .ok row) := by
  unfold retrackOne at h
  constructor
  · intro hsel
    rw [hsel, if_neg Bool.false_ne_true] at h
    exact (Except.ok.inj h).symm
  · intro hsel
    rwa [hsel, if_pos rfl] at h

/-- A finished loop has a row for each waveform: that of its pass, and an
untouched one where the waveform is not selected. -/
theorem retrackLoop_rows {ws : List (List ℚ)} {rows : List Row}
    (h : retrackLoop process selected 0 ws = .ok rows) :
    rows.length = ws.length ∧ ∀ j, j < ws.length →
      (selected j = false → rows.getD j Row.initial = Row.initial) ∧
      (selected j = true → process j (ws.getD j []) = .ok (rows.getD j Row.initial)) := by
  rw [retrackLoop_eq_forEach] at h
  obtain ⟨hlen, hentries⟩ := forEach_ok [] Row.initial h
  refine ⟨hlen, fun j hj => ?_⟩
  have hpass := hentries j hj
  rw [Nat.zero_add] at hpass
  exact retrackOne_ok hpass

theorem retrackLoop_single {w : List ℚ} {row : Row} (hsel : selected 0 = true)
    (hrow : process 0 w = .ok row) : retrackLoop process selected 0 [w] = .ok [row] := by
  rw [retrackLoop, retrackOne, if_pos hsel, hrow]
  rfl

/-- The loop returns if every selected waveform does. -/
theorem retrackLoop_returns {ws : List (List ℚ)}
    (h : ∀ j, j < ws.length → selected j = true → ∃ row, process j (ws.getD j []) = .ok row) :
    ∃ rows, retrackLoop process selected 0 ws = .ok rows := by
  rw [retrackLoop_eq_forEach]
  apply forEach_of_ok []
  intro j hj
  rw [Nat.zero_add]
  unfold retrackOne
  split
  · next hsel => exact h j hj hsel
  · exact ⟨_, rfl⟩

end Loop

/-- The noise mean, once the samples are sorted. -/
theorem noiseMean_of_sorted {wfnorm sorted : List ℚ} (hperm : wfnorm.Perm sorted)
    (hsorted : sorted.Pairwise (· ≤ ·)) :
    noiseMean wfnorm = (slice sorted 0 6).sum / ((slice sorted 0 6).length : ℚ) := by
  have hle : (wfnorm.mergeSort (fun a b => decide (a ≤ b))).Pairwise (· ≤ ·) :=
    List.pairwise_mergeSort' (· ≤ ·) wfnorm
  have heq : wfnorm.mergeSort (fun a b => decide (a ≤ b)) = sorted :=
    ((List.mergeSort_perm wfnorm _).trans hperm).eq_of_pairwise
      (fun a b _ _ hab hba => le_antisymm hab hba) hle hsorted
  unfold noiseMean
  rw [heq]

/-- A waveform with six or more bins on the floor. -/
theorem noiseMean_of_floor {wfnorm rest : List ℚ} {m : Nat} {c : ℚ} (h6 : 6 ≤ m)
    (hperm : wfnorm.Perm (List.replicate m c ++ rest)) (hle : ∀ q ∈ rest, c ≤ q) :
    noiseMean wfnorm = c := by
  have hsort : rest.Perm (rest.mergeSort fun a b => decide (a ≤ b)) := (List.mergeSort_perm _ _).symm
  have hsorted : (List.replicate m c ++ rest.mergeSort fun a b => decide (a ≤ b)).Pairwise
      (· ≤ ·) := by
    refine List.pairwise_append.mpr ⟨?_, ?_, ?_⟩
    · exact List.pairwise_replicate.mpr (Or.inr (le_refl c))
    · exact List.pairwise_mergeSort' (· ≤ ·) rest
    · intro a ha b hb
      rw [List.eq_of_mem_replicate ha]
      exact hle b (hsort.mem_iff.mpr hb)
  have hslice : slice (List.replicate m c ++ rest.mergeSort fun a b => decide (a ≤ b)) 0 6 =
      List.replicate 6 c := by
    unfold slice
    rw [List.drop_zero, List.take_append_of_le_length (by simpa using h6), List.take_replicate,
      Nat.min_eq_left h6]
  rw [noiseMean_of_sorted (hperm.trans (hsort.append_left _)) hsorted, hslice]
  simp only [List.sum_replicate, List.length_replicate, nsmul_eq_mul]
  exact mul_div_cancel_left₀ c (by norm_num)

theorem WaveformArray.row_facts (wfs : WaveformArray) {j : Nat} (hj : j < wfs.rows.length) :
    (wfs.rows.getD j []).length = wfs.size ∧ ∀ q ∈ wfs.rows.getD j [], 0 ≤ q :=
  ⟨wfs.length_row _ (getD_mem hj []), wfs.nonneg _ (getD_mem hj [])⟩

variable {rows : List Row} {n size : Nat} {chosen counted : Nat → Bool} {refBinInd rbinSize : ℚ}

/-- What `finishRetrack` returns for at least one row, entry by entry. -/
theorem finishRetrack_ok (counted : Nat → Bool) (refBinInd rbinSize : ℚ) (hne : rows ≠ []) :
    ∃ r, finishRetrack rows counted refBinInd rbinSize = .ok r ∧
      (∀ i d, i < rows.length → r.drBin.getD i d =
        (rows.getD i Row.initial).bin - .num refBinInd) ∧
      (∀ i d, i < rows.length → r.drMeters.getD i d =
        ((rows.getD i Row.initial).bin - .num refBinInd) * .num rbinSize) ∧
      (∀ i d, i < rows.length → r.pwrAtRtrkPoint.getD i d = (rows.getD i Row.initial).power) ∧
      (∀ i d, i < rows.length → r.retrackFlag.getD i d = (rows.getD i Row.initial).flags) ∧
      r.nRetrackerFailures = ((List.range rows.length).filter (fun i =>
        counted i && (rows.getD i Row.initial).countsAsFailure)).length := by
  unfold finishRetrack
  rw [if_neg hne]
  refine ⟨_, rfl, ?_, ?_, ?_, ?_, rfl⟩
  · intro i d hi
    exact getD_map_of_lt _ hi _ _
  · intro i d hi
    rw [getD_map_of_lt _ (by simpa using hi) (.num 0), getD_map_of_lt _ hi Row.initial]
  · intro i d hi
    exact getD_map_of_lt _ hi _ _
  · intro i d hi
    exact getD_map_of_lt _ hi _ _

/-- One row of the returned arrays. -/
theorem finishRetrack_row {r : RetrackResult}
    (h : finishRetrack rows counted refBinInd rbinSize = .ok r) {i : Nat} (hi : i < rows.length) :
    r.retrackFlag.getD i [] = (rows.getD i Row.initial).flags ∧
      (r.leadingEdgeStart.getD i (.nan, .nan)).1 = (rows.getD i Row.initial).leadingEdgeStart.1 ∧
      r.drBin.getD i .nan + .num refBinInd = (rows.getD i Row.initial).bin ∧
      (r.leadingEdgeStop.getD i (.nan, .nan)).1 = (rows.getD i Row.initial).leadingEdgeStop.1 ∧
      r.pwrAtRtrkPoint.getD i .nan = (rows.getD i Row.initial).power := by
  unfold finishRetrack at h
  split at h
  · cases h
  · obtain rfl := Except.ok.inj h
    refine ⟨getD_map_of_lt _ hi _ _, ?_, ?_, ?_, getD_map_of_lt _ hi _ _⟩
    · rw [getD_map_of_lt _ hi Row.initial]
    · rw [getD_map_of_lt _ hi Row.initial]
      cases (rows.getD i Row.initial).bin with
      | nan => rfl
      | num b => rw [WithNan.num_sub_num, WithNan.num_add_num, sub_add_cancel]
    · rw [getD_map_of_lt _ hi Row.initial]

theorem Row.Failed.countsAsFailure {r : Row} (h : r.Failed) : r.countsAsFailure = true := by
  obtain ⟨⟨k, hk, hflags⟩, -, -⟩ := h
  simp only [List.mem_cons, List.not_mem_nil, or_false] at hk
  unfold Row.countsAsFailure
  rw [hflags]
  rcases hk with rfl | rfl | rfl | rfl | rfl <;> rfl

theorem Row.Failed.one_mem {r : Row} (h : r.Failed) : 1 ∈ r.flags := by
  obtain ⟨⟨k, hk, hflags⟩, -, -⟩ := h
  simp only [List.mem_cons, List.not_mem_nil, or_false] at hk
  rw [hflags]
  rcases hk with rfl | rfl | rfl | rfl | rfl <;> decide

theorem countsAsFailure_of_no_flag {r : Row} (h : r.flags = [0, 0, 0, 0, 0, 0]) :
    r.countsAsFailure = false := by
  unfold Row.countsAsFailure
  rw [h]
  rfl

/-- With a positive threshold the search always ends, with a flag or with an
edge. -/
theorem searchLeadingEdge_cases {e : EdgeInput} {leDpThreshold : ℚ} (hord : e.Ordered)
    (hpos : 0 < leDpThreshold) :
    (∃ flag, searchLeadingEdge e leDpThreshold = .flagged flag) ∨
      ∃ edge, searchLeadingEdge e leDpThreshold = .done (some edge) ∧
        Accepted e leDpThreshold edge := by
  obtain ⟨r, hr⟩ : ∃ r, e.leadingEdge leDpThreshold (e.size + 1) = some r :=
    leadingEdgeLoop_terminates hord (e.size + 1) 0 (.num 0) none (by omega) (by omega)
  have heq : searchLeadingEdge e leDpThreshold = r := by
    unfold searchLeadingEdge
    rw [hr]
    rfl
  cases r with
  | flagged flag => exact Or.inl ⟨flag, heq⟩
  | done result =>
      obtain ⟨edge, rfl, hacc⟩ := leadingEdge_done hpos hr
      exact Or.inr ⟨edge, heq, hacc⟩

/-- An edge the search ends on has passed the loop test. -/
theorem searchLeadingEdge_some {e : EdgeInput} {leDpThreshold : ℚ} {edge : Edge}
    (h : searchLeadingEdge e leDpThreshold = .done (some edge)) : Accepted e leDpThreshold edge := by
  unfold searchLeadingEdge at h
  cases hrun : e.leadingEdge leDpThreshold (e.size + 1) with
  | none =>
      rw [hrun] at h
      cases h
  | some r =>
      rw [hrun, Option.getD_some] at h
      subst h
      by_cases hpos : 0 < leDpThreshold
      · obtain ⟨edge', heq, hacc⟩ := leadingEdge_done hpos hrun
        rw [Option.some.inj heq]
        exact hacc
      · -- the loop test fails at once, before there is an edge
        unfold EdgeInput.leadingEdge EdgeInput.leadingEdgeLoop at hrun
        rw [if_neg (by simpa using hpos)] at hrun
        cases hrun

theorem Accepted.leIndex_lt {e : EdgeInput} {leDpThreshold : ℚ} {edge : Edge}
    (h : Accepted e leDpThreshold edge) : edge.leIndex < e.size := by
  obtain ⟨⟨_, hround⟩, -⟩ := h
  exact (findLeIndex_some (leadingEdgeRound_inr hround).1).1

theorem EdgeFlag.index_mem (flag : EdgeFlag) : flag.index ∈ [0, 1, 2, 3, 5] := by
  cases flag <;> decide

/-- A flag on a row without point and flags. -/
theorem failed_setFlag {r : Row} {k : Nat} (hk : k ∈ [0, 1, 2, 3, 5]) (hbin : r.bin = .nan)
    (hpower : r.power = .nan) (hflags : r.flags = [0, 0, 0, 0, 0, 0]) : (r.setFlag k).Failed :=
  ⟨⟨k, hk, by rw [Row.setFlag, hflags]⟩, hbin, hpower⟩

/-- A waveform that is given up at once. -/
theorem failed_initial {k : Nat} (hk : k ∈ [0, 1, 2, 3, 5]) : (Row.initial.setFlag k).Failed :=
  failed_setFlag hk rfl rfl rfl

/-- A row without a flag is not one that was flagged at once. -/
theorem ne_initial_setFlag {r : Row} (hflags : r.flags = [0, 0, 0, 0, 0, 0]) {k : Nat}
    (hk : k ∈ [0, 1, 2, 3, 5]) : Row.initial.setFlag k ≠ r := by
  rintro rfl
  simp only [List.mem_cons, List.not_mem_nil, or_false] at hk
  rcases hk with rfl | rfl | rfl | rfl | rfl <;> exact absurd hflags (by decide)

/-- A point with a power that is not negative is stored, or flagged if the power
is zero. -/
theorem storePoint_outcome {r : Row} {b p : ℚ} (normPower : Sample)
    (hflags : r.flags = [0, 0, 0, 0, 0, 0]) (hb : 0 ≤ b) (hb' : b ≤ ((size - 1 : Nat) : ℚ))
    (hp : 0 ≤ p) :
    (r.storePoint (.num b) normPower (.num p)).Failed ∨
      (r.storePoint (.num b) normPower (.num p)).Retracked size := by
  unfold Row.storePoint
  split
  · left
    exact failed_setFlag (by decide) rfl rfl hflags
  · rename_i hne
    right
    refine ⟨hflags, ⟨b, rfl, hb, hb'⟩, p, rfl, lt_of_le_of_ne hp ?_⟩
    rintro rfl
    exact hne rfl

/-- A point that is stored without a flag is stored as it is. -/
theorem storePoint_noFlag {r : Row} {bin normPower power : Sample}
    (hr : r.flags = [0, 0, 0, 0, 0, 0])
    (h : (r.storePoint bin normPower power).flags = [0, 0, 0, 0, 0, 0]) :
    r.storePoint bin normPower power =
      { r with bin := bin, normPower := normPower, power := power } := by
  unfold Row.storePoint at h ⊢
  split at h
  · rw [Row.setFlag] at h
    simp only [hr] at h
    exact absurd h (by decide)
  · next hpower => rw [if_neg hpower]

/-- **Good rows give the dichotomy.** The failure count may look at every
waveform, since one that is not chosen has no flag. -/
theorem finishRetrack_dichotomy (hlen : rows.length = n) (hn : 0 < n)
    (hnot : ∀ i, i < n → chosen i = false → rows.getD i Row.initial = Row.initial)
    (hyes : ∀ i, i < n → chosen i = true →
      (rows.getD i Row.initial).Failed ∨ (rows.getD i Row.initial).Retracked size)
    (hcounted : ∀ i, i < n → chosen i = true → counted i = true) :
    ∃ r, finishRetrack rows counted refBinInd rbinSize = .ok r ∧
      Dichotomy n size chosen refBinInd r := by
  subst hlen
  obtain ⟨r, hr, hbin, hmeters, hpwr, hflags, hcount⟩ :=
    finishRetrack_ok counted refBinInd rbinSize (List.ne_nil_of_length_pos hn)
  refine ⟨r, hr, ?_, ?_, ?_⟩
  · intro i hi hch
    rw [hbin i _ hi, hmeters i _ hi, hpwr i _ hi, hflags i _ hi, hnot i hi hch]
    exact ⟨rfl, rfl, rfl, rfl⟩
  · intro i hi hch
    rw [hbin i _ hi, hbin i _ hi, hmeters i _ hi, hmeters i _ hi, hpwr i _ hi, hpwr i _ hi,
      hflags i _ hi]
    rcases hyes i hi hch with hfail | ⟨hzero, ⟨b, hb, hb0, hb1⟩, p, hp, hp0⟩
    · left
      rw [hfail.2.1, hfail.2.2]
      exact ⟨hfail.one_mem, rfl, rfl, rfl⟩
    · right
      rw [hb]
      refine ⟨hzero, ⟨b, ?_, hb0, hb1⟩, nofun, p, hp, hp0⟩
      rw [WithNan.num_sub_num, WithNan.num_add_num, sub_add_cancel]
  · rw [hcount]
    congr 1
    apply List.filter_congr
    intro i hi
    have hi' := List.mem_range.mp hi
    rw [hbin i _ hi']
    cases hch : chosen i with
    | false =>
        rw [hnot i hi' hch, countsAsFailure_of_no_flag rfl, Bool.and_false, Bool.false_and]
    | true =>
        rw [hcounted i hi' hch, Bool.true_and, Bool.true_and]
        rcases hyes i hi' hch with hfail | ⟨hzero, ⟨b, hb, -, -⟩, -⟩
        · rw [hfail.countsAsFailure, hfail.2.1]
          rfl
        · rw [countsAsFailure_of_no_flag hzero, hb]
          rfl

end Rows

end Clev2er.Retrack
