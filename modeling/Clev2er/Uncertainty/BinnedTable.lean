import Clev2er.Lib.Binning
import Clev2er.Lib.ForEach
import Clev2er.Python
import Mathlib.Algebra.Field.Defs
import Mathlib.Algebra.Order.Group.Unbundled.Abs
import Mathlib.Data.Nat.Cast.Defs
import Mathlib.Tactic.NormNum

/-!
# The table of uncertainties by slope and roughness

`calculate_binned_median` builds the table and `get_binned_values` reads it. Building
bins with `pd.cut`, reading with `np.digitize`, so a slope or roughness at an edge
between two bins is read from another cell than the one it was put into.
-/

namespace Clev2er.Uncertainty

open Clev2er.Lib

/-- A pivot table: the labels of its rows and of its columns, and its values. -/
structure BinnedTable (K : Type) where
  index : List K
  columns : List K
  values : List (List (WithNan K))

/-- A row of the data frame of elevation differences. -/
structure DifferenceRow (K : Type) where
  deltaElevation : WithNan K
  slope : WithNan K
  roughness : WithNan K

section Code

variable {K : Type} [Field K] [LinearOrder K]

/-! ## Building the table -/

/-- `pd.DataFrame`, with the absolute elevation differences. -/
def dataFrame (deltaElevation slope roughness : List (WithNan K)) :
    Except PyExc (List (DifferenceRow K)) :=
  if deltaElevation.length = slope.length ∧ slope.length = roughness.length then
    .ok (List.zipWith (fun delta terrain => ⟨delta.map (fun x => |x|), terrain.1, terrain.2⟩)
      deltaElevation (slope.zip roughness))
  else .error ⟨.valueError, "All arrays must be of the same length"⟩

/-- The numbers of an array, in ascending order. -/
def sortedNumbers (values : List (WithNan K)) : List K :=
  (values.filterMap fun value =>
    match value with
    | .num x => some x
    | .nan => none).mergeSort fun x y => decide (x ≤ y)

/-- `median()` of a group, which skips NaN. -/
def median (values : List (WithNan K)) : WithNan K :=
  let xs := sortedNumbers values
  match xs[(xs.length - 1) / 2]?, xs[xs.length / 2]? with
  | some low, some high => .num ((low + high) / (2 : ℕ))
  | _, _ => .nan

/-- The rows of the group of slope bin `i` and roughness bin `j`. -/
def cellRows (slopeBins roughnessBins : Axis K) (data : List (DifferenceRow K)) (i j : Nat) :
    List (DifferenceRow K) :=
  data.filter fun row => decide (slopeBins.cutBin row.slope = some i) &&
    decide (roughnessBins.cutBin row.roughness = some j)

/-- The median of a group. -/
def cellMedian (slopeBins roughnessBins : Axis K) (data : List (DifferenceRow K)) (i j : Nat) :
    WithNan K :=
  median ((cellRows slopeBins roughnessBins data i j).map fun row =>
    row.deltaElevation.map fun x => |x|)

/-- An index past the end of an array. -/
def outOfBounds : PyExc := ⟨.other "IndexError", "index is out of bounds for axis 0"⟩

def calculateBinnedMedian (deltaElevation slope roughness : List (WithNan K))
    (slopeBins roughnessBins : Axis K) : Except PyExc (BinnedTable K) := do
  let data ← dataFrame deltaElevation slope roughness
  -- `include_lowest` reads the first edge
  if slopeBins.length = 0 ∨ roughnessBins.length = 0 then .error outOfBounds
  else
    .ok {
      index := slopeBins.labels
      columns := roughnessBins.labels
      values := (List.range (slopeBins.length - 1)).map fun i =>
        (List.range (roughnessBins.length - 1)).map fun j =>
          cellMedian slopeBins roughnessBins data i j }

/-! ## Reading the table -/

/-- `get_loc(label)`. -/
def getLoc (labels : List K) (label : K) : Except PyExc Nat :=
  if label ∈ labels then .ok (labels.idxOf label)
  else .error ⟨.keyError, "label not in index"⟩

/-- The positions in an index of the bins of some values. -/
def binPositions (labels : List K) (bins : Axis K) (values : List (WithNan K)) :
    Except PyExc (List Nat) :=
  forEach (fun _ value =>
    if bins.length = 0 then .error outOfBounds
    else getLoc labels (bins.node (bins.binIndex value))) 0 values

/-- Two index arrays as one array of positions; one index is repeated. -/
def broadcast (rows cols : List Nat) : Except PyExc (List (Nat × Nat)) :=
  match rows, cols with
  | [row], cols => .ok (cols.map (row, ·))
  | rows, [col] => .ok (rows.map (·, col))
  | rows, cols =>
      if rows.length = cols.length then .ok (rows.zip cols)
      else .error ⟨.other "IndexError",
        "shape mismatch: indexing arrays could not be broadcast together"⟩

/-- The cells that `get_binned_values` reads. -/
def binnedCells (slopeValues roughnessValues : List (WithNan K)) (binnedTable : BinnedTable K)
    (slopeBins roughnessBins : Axis K) : Except PyExc (List (Nat × Nat)) := do
  let rowIndices ← binPositions binnedTable.index slopeBins slopeValues
  let colIndices ← binPositions binnedTable.columns roughnessBins roughnessValues
  broadcast rowIndices colIndices

/-- `values[row, col]`. -/
def BinnedTable.valueAt (binnedTable : BinnedTable K) (cell : Nat × Nat) :
    Except PyExc (WithNan K) :=
  match binnedTable.values[cell.1]?.bind (·[cell.2]?) with
  | some value => .ok value
  | none => .error outOfBounds

def getBinnedValues (slopeValues roughnessValues : List (WithNan K)) (binnedTable : BinnedTable K)
    (slopeBins roughnessBins : Axis K) : Except PyExc (List (WithNan K)) := do
  let cells ← binnedCells slopeValues roughnessValues binnedTable slopeBins roughnessBins
  forEach (fun _ => binnedTable.valueAt) 0 cells

end Code

/-! ## The cells that are read -/

section Cells

variable {K : Type} [LinearOrder K] {a : Axis K}

theorem length_labels (a : Axis K) : a.labels.length = a.length - 1 := by
  rw [Axis.labels, List.length_map, List.length_range]

theorem getElem_labels {k : Nat} (hk : k < a.labels.length) : a.labels[k] = a.node k := by
  simp only [Axis.labels, List.getElem_map, List.getElem_range]

theorem nodup_labels (a : Axis K) : a.labels.Nodup := by
  rw [List.nodup_iff_pairwise_ne, List.pairwise_iff_getElem]
  intro i j hi hj hij
  rw [getElem_labels hi, getElem_labels hj]
  rw [length_labels] at hj
  exact ne_of_lt (a.ascending i j hij (by omega))

/-- The label of a bin leads back to the bin. -/
theorem getLoc_labels {k : Nat} (hk : k + 1 < a.length) : getLoc a.labels (a.node k) = .ok k := by
  have hlt : k < a.labels.length := by
    rw [length_labels]
    omega
  have hmem : a.node k ∈ a.labels := getElem_labels hlt ▸ List.getElem_mem hlt
  rw [getLoc, if_pos hmem]
  conv_lhs => rw [← getElem_labels hlt]
  rw [(nodup_labels a).idxOf_getElem]

theorem binPositions_eq (hlen : 2 ≤ a.length) (values : List (WithNan K)) :
    binPositions a.labels a values = .ok (values.map a.binIndex) := by
  refine forEach_eq_map values 0 fun _ value _ => ?_
  rw [if_neg (by omega), getLoc_labels (Axis.binIndex_lt hlen value)]

/-- An axis of one edge has no bins to look up. -/
theorem two_le_of_binPositions {value : WithNan K} {values : List (WithNan K)}
    {positions : List Nat} (h : binPositions a.labels a (value :: values) = .ok positions) :
    2 ≤ a.length := by
  by_contra hshort
  rw [binPositions, forEach] at h
  have hnone : a.labels = [] := List.length_eq_zero_iff.mp (by rw [length_labels]; omega)
  split at h
  · cases h
  · next hbody =>
    split at hbody
    · cases hbody
    · rw [getLoc, hnone, if_neg List.not_mem_nil] at hbody
      cases hbody

theorem broadcast_same {rows cols : List Nat} (h : rows.length = cols.length) :
    broadcast rows cols = .ok (rows.zip cols) := by
  unfold broadcast
  split
  · obtain ⟨col, rfl⟩ := List.length_eq_one_iff.mp h.symm
    rfl
  · obtain ⟨row, rfl⟩ := List.length_eq_one_iff.mp h
    rfl
  · exact if_pos h

end Cells

/-! ## Reading what was built -/

section Reading

variable {K : Type} [LinearOrder K] {slopeBins roughnessBins : Axis K}

/-- A table over the bins that the reader uses. -/
structure TableOver (slopeBins roughnessBins : Axis K) (binnedTable : BinnedTable K)
    (cell : Nat → Nat → WithNan K) : Prop where
  index : binnedTable.index = slopeBins.labels
  columns : binnedTable.columns = roughnessBins.labels
  values : binnedTable.values = (List.range (slopeBins.length - 1)).map fun i =>
    (List.range (roughnessBins.length - 1)).map (cell i)

theorem TableOver.binnedCells_eq {binnedTable : BinnedTable K} {cell : Nat → Nat → WithNan K}
    (h : TableOver slopeBins roughnessBins binnedTable cell) (hslope : 2 ≤ slopeBins.length)
    (hroughness : 2 ≤ roughnessBins.length) {slopeValues roughnessValues : List (WithNan K)}
    (hlength : slopeValues.length = roughnessValues.length) :
    binnedCells slopeValues roughnessValues binnedTable slopeBins roughnessBins =
      .ok ((slopeValues.zip roughnessValues).map fun pair =>
        (slopeBins.binIndex pair.1, roughnessBins.binIndex pair.2)) := by
  rw [binnedCells, h.index, h.columns, binPositions_eq hslope, binPositions_eq hroughness]
  show broadcast (slopeValues.map slopeBins.binIndex)
    (roughnessValues.map roughnessBins.binIndex) = _
  rw [broadcast_same (by rw [List.length_map, List.length_map, hlength]), List.zip_map]
  rfl

theorem TableOver.valueAt_eq {binnedTable : BinnedTable K} {cell : Nat → Nat → WithNan K}
    (h : TableOver slopeBins roughnessBins binnedTable cell) {i j : Nat}
    (hi : i + 1 < slopeBins.length) (hj : j + 1 < roughnessBins.length) :
    binnedTable.valueAt (i, j) = .ok (cell i j) := by
  rw [BinnedTable.valueAt, h.values]
  simp [show i < slopeBins.length - 1 by omega,
    show j < roughnessBins.length - 1 by omega]

/-- **The values that `get_binned_values` returns**, for any values, NaN included. -/
theorem TableOver.getBinnedValues_eq {binnedTable : BinnedTable K} {cell : Nat → Nat → WithNan K}
    (h : TableOver slopeBins roughnessBins binnedTable cell) (hslope : 2 ≤ slopeBins.length)
    (hroughness : 2 ≤ roughnessBins.length) {slopeValues roughnessValues : List (WithNan K)}
    (hlength : slopeValues.length = roughnessValues.length) :
    getBinnedValues slopeValues roughnessValues binnedTable slopeBins roughnessBins =
      .ok ((slopeValues.zip roughnessValues).map fun pair =>
        cell (slopeBins.binIndex pair.1) (roughnessBins.binIndex pair.2)) := by
  rw [getBinnedValues, h.binnedCells_eq hslope hroughness hlength]
  show forEach (fun _ => binnedTable.valueAt) 0 _ = _
  rw [forEach_eq_map (g := fun position => cell position.1 position.2), List.map_map]
  · rfl
  · intro _ position hposition
    obtain ⟨pair, -, rfl⟩ := List.mem_map.mp hposition
    exact h.valueAt_eq (Axis.binIndex_lt hslope _) (Axis.binIndex_lt hroughness _)

theorem mem_cellRows {data : List (DifferenceRow K)} {i j : Nat} {row : DifferenceRow K} :
    row ∈ cellRows slopeBins roughnessBins data i j ↔
      row ∈ data ∧ slopeBins.cutBin row.slope = some i ∧
        roughnessBins.cutBin row.roughness = some j := by
  simp only [cellRows, List.mem_filter, Bool.and_eq_true, decide_eq_true_eq]

end Reading

variable {K : Type} [Field K] [LinearOrder K] {slopeBins roughnessBins : Axis K}

/-- The table that `calculate_binned_median` builds. -/
theorem tableOver_calculateBinnedMedian {deltaElevation slope roughness : List (WithNan K)}
    {data : List (DifferenceRow K)} {binnedTable : BinnedTable K}
    (hdata : dataFrame deltaElevation slope roughness = .ok data)
    (h : calculateBinnedMedian deltaElevation slope roughness slopeBins roughnessBins =
      .ok binnedTable) :
    TableOver slopeBins roughnessBins binnedTable (cellMedian slopeBins roughnessBins data) := by
  rw [calculateBinnedMedian, hdata] at h
  change (if _ then _ else _) = _ at h
  split at h
  · cases h
  · obtain rfl := Except.ok.inj h
    exact ⟨rfl, rfl, rfl⟩

theorem exists_calculateBinnedMedian {deltaElevation slope roughness : List (WithNan K)}
    {data : List (DifferenceRow K)}
    (hdata : dataFrame deltaElevation slope roughness = .ok data)
    (hslope : slopeBins.length ≠ 0) (hroughness : roughnessBins.length ≠ 0) :
    ∃ binnedTable, calculateBinnedMedian deltaElevation slope roughness slopeBins roughnessBins =
      .ok binnedTable := by
  rw [calculateBinnedMedian, hdata]
  exact ⟨_, if_neg (not_or.mpr ⟨hslope, hroughness⟩)⟩

/-- **The table is read the way it is built**, for one slope and roughness: whatever
samples with the pair the table was built from, and whatever array the pair is read in,
the cell that is read is the one the samples are in, and its median is returned. -/
def ReadAsBuilt (slopeBins roughnessBins : Axis K) (s r : K) : Prop :=
  ∀ (deltaElevation slope roughness : List (WithNan K)) (data : List (DifferenceRow K))
    (binnedTable : BinnedTable K),
    dataFrame deltaElevation slope roughness = .ok data →
    calculateBinnedMedian deltaElevation slope roughness slopeBins roughnessBins =
      .ok binnedTable →
    ∀ row : DifferenceRow K, row ∈ data → row.slope = .num s → row.roughness = .num r →
    ∀ slopeValues roughnessValues : List (WithNan K),
      slopeValues.length = roughnessValues.length →
    ∀ k : ℕ, slopeValues[k]? = some (.num s) → roughnessValues[k]? = some (.num r) →
      ∃ (cells : List (ℕ × ℕ)) (values : List (WithNan K)) (i j : ℕ),
        binnedCells slopeValues roughnessValues binnedTable slopeBins roughnessBins = .ok cells ∧
        cells[k]? = some (i, j) ∧ row ∈ cellRows slopeBins roughnessBins data i j ∧
        getBinnedValues slopeValues roughnessValues binnedTable slopeBins roughnessBins =
          .ok values ∧
        values[k]? = some (cellMedian slopeBins roughnessBins data i j)

theorem readAsBuilt_of_eq {s r : K} (hslope : 2 ≤ slopeBins.length)
    (hroughness : 2 ≤ roughnessBins.length)
    (hs : slopeBins.cutBin (.num s) = some (slopeBins.binIndex (.num s)))
    (hr : roughnessBins.cutBin (.num r) = some (roughnessBins.binIndex (.num r))) :
    ReadAsBuilt slopeBins roughnessBins s r := by
  intro deltaElevation slope roughness data binnedTable hdata hbuilt row hrow hrowSlope
    hrowRoughness slopeValues roughnessValues hlength k hk hk'
  have htable := tableOver_calculateBinnedMedian hdata hbuilt
  have hzip : (slopeValues.zip roughnessValues)[k]? = some (WithNan.num s, WithNan.num r) :=
    List.getElem?_zip_eq_some.mpr ⟨hk, hk'⟩
  refine ⟨_, _, slopeBins.binIndex (.num s), roughnessBins.binIndex (.num r),
    htable.binnedCells_eq hslope hroughness hlength, ?_, ?_,
    htable.getBinnedValues_eq hslope hroughness hlength, ?_⟩
  · rw [List.getElem?_map, hzip]
    rfl
  · exact mem_cellRows.mpr ⟨hrow, hrowSlope ▸ hs, hrowRoughness ▸ hr⟩
  · rw [List.getElem?_map, hzip]
    rfl

/-- One sample is enough to see whether the cells agree. -/
theorem eq_of_readAsBuilt {s r : K} (hs : slopeBins.inside s = true)
    (hr : roughnessBins.inside r = true) (h : ReadAsBuilt slopeBins roughnessBins s r) :
    (2 ≤ slopeBins.length ∧ slopeBins.cutBin (.num s) = some (slopeBins.binIndex (.num s))) ∧
      (2 ≤ roughnessBins.length ∧
        roughnessBins.cutBin (.num r) = some (roughnessBins.binIndex (.num r))) := by
  have hslopePos : slopeBins.length ≠ 0 := (Axis.inside_iff.mp hs).1.ne'
  have hroughnessPos : roughnessBins.length ≠ 0 := (Axis.inside_iff.mp hr).1.ne'
  let row : DifferenceRow K := ⟨.num |0|, .num s, .num r⟩
  have hdata : dataFrame [.num 0] [.num s] [.num r] = .ok [row] := rfl
  obtain ⟨binnedTable, hbuilt⟩ := exists_calculateBinnedMedian hdata hslopePos hroughnessPos
  have htable := tableOver_calculateBinnedMedian hdata hbuilt
  obtain ⟨cells, values, i, j, hcells, hcell, hrow, -⟩ := h _ _ _ _ _ hdata hbuilt row
    (List.mem_singleton_self row) rfl rfl [.num s] [.num r] rfl 0 rfl rfl
  rw [binnedCells, htable.index, htable.columns] at hcells
  have hlengths : 2 ≤ slopeBins.length ∧ 2 ≤ roughnessBins.length := by
    obtain ⟨rows, hrows, hcells⟩ := except_bind_ok hcells
    obtain ⟨cols, hcols, -⟩ := except_bind_ok hcells
    exact ⟨two_le_of_binPositions hrows, two_le_of_binPositions hcols⟩
  obtain ⟨hslope, hroughness⟩ := hlengths
  rw [binPositions_eq hslope, binPositions_eq hroughness] at hcells
  obtain rfl := Except.ok.inj hcells
  obtain ⟨rfl, rfl⟩ := Prod.mk.inj (Option.some.inj hcell)
  obtain ⟨-, hcutSlope, hcutRoughness⟩ := mem_cellRows.mp hrow
  exact ⟨⟨hslope, hcutSlope⟩, ⟨hroughness, hcutRoughness⟩⟩

/-- **When a table is read the way it is built**: there are bins, and neither value is
an edge between two of them. -/
theorem readAsBuilt_iff {s r : K} (hs : slopeBins.inside s = true)
    (hr : roughnessBins.inside r = true) :
    ReadAsBuilt slopeBins roughnessBins s r ↔
      (2 ≤ slopeBins.length ∧ ¬ slopeBins.IsInteriorEdge s) ∧
        (2 ≤ roughnessBins.length ∧ ¬ roughnessBins.IsInteriorEdge r) := by
  constructor
  · intro h
    obtain ⟨⟨hslope, hcutSlope⟩, hroughness, hcutRoughness⟩ := eq_of_readAsBuilt hs hr h
    exact ⟨⟨hslope, (Axis.cutBin_eq_binIndex_iff hslope hs).mp hcutSlope⟩,
      ⟨hroughness, (Axis.cutBin_eq_binIndex_iff hroughness hr).mp hcutRoughness⟩⟩
  · rintro ⟨⟨hslope, hedgeSlope⟩, hroughness, hedgeRoughness⟩
    exact readAsBuilt_of_eq hslope hroughness
      ((Axis.cutBin_eq_binIndex_iff hslope hs).mpr hedgeSlope)
      ((Axis.cutBin_eq_binIndex_iff hroughness hr).mpr hedgeRoughness)

/-! ## The bins of the Antarctic table -/

/-- `np.arange(0, 2.1, 0.1)`. -/
def antBins : Axis ℚ where
  length := 21
  node k := k / (10 : ℕ)
  ascending i j hij _ := by
    have hij : (i : ℚ) < j := Nat.cast_lt.mpr hij
    exact div_lt_div_of_pos_right hij (Nat.cast_pos.mpr (Nat.succ_pos 9))

theorem two_le_antBins : 2 ≤ antBins.length := by
  norm_num [antBins]

/-- In the middle of the first slope bin, and at the upper end of the roughness bins. -/
theorem readAsBuilt_iff_antBins :
    ReadAsBuilt antBins antBins (1 / 20) 2 ↔
      (2 ≤ antBins.length ∧ ¬ antBins.IsInteriorEdge (1 / 20)) ∧
        (2 ≤ antBins.length ∧ ¬ antBins.IsInteriorEdge 2) :=
  readAsBuilt_iff (Axis.inside_iff.mpr (by norm_num [antBins]))
    (Axis.inside_iff.mpr (by norm_num [antBins]))

/-- A slope of 0.1 degrees is put into the first slope bin and read from the second. -/
theorem not_readAsBuilt_antBins :
    antBins.inside (1 / 10) = true ∧ antBins.inside (1 / 20) = true ∧
      ¬ ReadAsBuilt antBins antBins (1 / 10) (1 / 20) := by
  have hs : antBins.inside (1 / 10) = true := Axis.inside_iff.mpr (by norm_num [antBins])
  have hr : antBins.inside (1 / 20) = true := Axis.inside_iff.mpr (by norm_num [antBins])
  refine ⟨hs, hr, fun h => ?_⟩
  obtain ⟨⟨-, hcut⟩, -⟩ := eq_of_readAsBuilt hs hr h
  have hedge : antBins.node 1 = 1 / 10 := by norm_num [antBins]
  obtain ⟨hbefore, hafter⟩ := Axis.bins_of_interiorEdge (a := antBins) Nat.one_pos
    (by norm_num [antBins])
  rw [← hedge, hbefore, hafter] at hcut
  cases hcut

end Clev2er.Uncertainty
