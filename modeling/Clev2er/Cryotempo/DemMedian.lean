import Clev2er.Cryotempo.GeolocateRoemer
import Clev2er.Lib.OrderStatistic
import Clev2er.Uncertainty.BinnedTable

/-!
# `median_dem_height_around_a_point`

The median height of the DEM about a point. Bad heights are to be removed with
`zdem[np.where(mask)[0]]`, which for an array with two axes takes a whole row once for
each good cell of the row. So a cell counts as often as its row has good cells, in both
filters, and the bad cells of the row stay. `medianOfGood_iff` says when the median is
right all the same, and `medianOfGood_of_uniformRows` gives a shape of the segment
that is enough for it.
-/

namespace Clev2er.Cryotempo

open Clev2er.Lib Clev2er.Retrack Clev2er.Uncertainty

/-! ## The median of a segment -/

/-- `np.where(mask)[0]` of a mask with two axes: the row of each cell that is true. -/
def whereRows (mask : Sample → Bool) (zdem : List (List Sample)) : List ℕ :=
  zdem.zipIdx.flatMap fun entry => (entry.1.filter mask).map fun _ => entry.2

/-- `zdem[indices]`. -/
def takeRows (zdem : List (List Sample)) (indices : List ℕ) : List (List Sample) :=
  indices.filterMap fun i => zdem[i]?

/-- A height in a sensible range; a fill value is a high number. -/
def isSensible (z : Sample) : Bool := decide (z < .num 5000)

/-- `median_dem_height_around_a_point`, from the segment on; `np.nanmedian` skips NaN. -/
def medianOfSegment (zdem : List (List Sample)) : Option Sample :=
  let includeOnlyGood := whereRows (fun z => !z.isNan) zdem
  if includeOnlyGood.length < 1 then none
  else
    let zdem := takeRows zdem includeOnlyGood
    let validDemHeights := whereRows isSensible zdem
    if validDemHeights.length < 1 then none
    else some (median (takeRows zdem validDemHeights).flatten)

/-- `median_dem_height_around_a_point`; whatever `get_segment` raises is caught. -/
def medianDemHeightAroundAPoint (thisdem : Dem) (xpos ypos : Sample)
    (pulseLimitedFootprintSize : ℚ) : Option Sample :=
  match thisdem.getSegment
    (squareAbout xpos ypos (pulseLimitedFootprintSize / 2 + thisdem.binsize)) with
  | .error _ => none
  | .ok (_, _, zdem) => medianOfSegment zdem

/-! ## What it should be -/

/-- The cells that are not NaN and below 5000. -/
def goodCells (zdem : List (List Sample)) : List Sample := zdem.flatten.filter isSensible

/-- **The median of the good cells**, each counted once, and `None` without one. -/
def MedianOfGood (thisdem : Dem) (xpos ypos : Sample) (pulseLimitedFootprintSize : ℚ) : Prop :=
  ∀ xdem ydem zdem, thisdem.getSegment
      (squareAbout xpos ypos (pulseLimitedFootprintSize / 2 + thisdem.binsize)) =
        .ok (xdem, ydem, zdem) →
    medianDemHeightAroundAPoint thisdem xpos ypos pulseLimitedFootprintSize =
      if goodCells zdem = [] then none else some (median (goodCells zdem))

/-! ## The weight of a row -/

/-- The numbers of a list. -/
def numbers (values : List Sample) : List ℚ :=
  values.filterMap fun value =>
    match value with
    | .num x => some x
    | .nan => none

/-- How often a cell of a row counts. -/
def rowWeight (row : List Sample) : ℕ := (numbers row).length * row.countP isSensible

/-- The number of heights with a property, each counted with the weight of its row. -/
def weightedCount (zdem : List (List Sample)) (p : ℚ → Bool) : ℕ :=
  (zdem.map fun row => rowWeight row * (numbers row).countP p).sum

/-- The number of good heights with a property. -/
def goodCount (zdem : List (List Sample)) (p : ℚ → Bool) : ℕ := (numbers (goodCells zdem)).countP p

/-- **The weights do not move the middle**: there is no good cell, or the two heights in
the middle by weight have the sum of the two good heights in the middle. -/
def SameMiddle (zdem : List (List Sample)) : Prop :=
  goodCells zdem = [] ∨ ∃ low high low' high', Middle (weightedCount zdem) low high ∧
    Middle (goodCount zdem) low' high' ∧ low + high = low' + high'

section Rows

variable {zdem : List (List Sample)}

/-- A row is taken once for each cell of the mask. -/
theorem takeRows_whereRows (mask : Sample → Bool) (zdem : List (List Sample)) :
    takeRows zdem (whereRows mask zdem) =
      zdem.flatMap fun row => List.replicate (row.countP mask) row := by
  have hrow : ∀ entry ∈ zdem.zipIdx, (((entry.1.filter mask).map fun _ => entry.2).filterMap
      fun i => zdem[i]?) = List.replicate (entry.1.countP mask) entry.1 := by
    intro entry hentry
    have hget : zdem[entry.2]? = some entry.1 := List.mem_zipIdx_iff_getElem?.mp hentry
    rw [List.map_const', List.filterMap_replicate_of_some hget, List.countP_eq_length_filter]
  rw [takeRows, whereRows, List.filterMap_flatMap, List.flatMap_congr hrow]
  conv_rhs => rw [← List.zipIdx_map_fst 0 zdem, List.flatMap_map]

theorem length_whereRows_eq_zero {mask : Sample → Bool} :
    (whereRows mask zdem).length = 0 ↔ ∀ row ∈ zdem, row.countP mask = 0 := by
  rw [whereRows, List.length_eq_zero_iff, List.flatMap_eq_nil_iff]
  constructor
  · intro h row hrow
    obtain ⟨i, hi, rfl⟩ := List.mem_iff_getElem.mp hrow
    have hnil := h (zdem[i], i) (List.mem_zipIdx_iff_getElem?.mpr (List.getElem?_eq_getElem hi))
    rw [List.map_eq_nil_iff] at hnil
    rw [List.countP_eq_length_filter, hnil, List.length_nil]
  · intro h entry hentry
    have hrow := h entry.1 (List.mem_of_getElem? (List.mem_zipIdx_iff_getElem?.mp hentry))
    rw [List.countP_eq_length_filter, List.length_eq_zero_iff] at hrow
    rw [hrow, List.map_nil]

theorem goodCells_eq_nil : goodCells zdem = [] ↔ ∀ row ∈ zdem, row.countP isSensible = 0 := by
  simp only [goodCells, List.filter_eq_nil_iff, List.mem_flatten, List.countP_eq_zero]
  constructor
  · exact fun h row hrow z hz => h z ⟨row, hrow, hz⟩
  · rintro h z ⟨row, hrow, hz⟩
    exact h row hrow z hz

theorem length_numbers (row : List Sample) :
    (numbers row).length = row.countP fun z => !z.isNan := by
  induction row with
  | nil => rfl
  | cons z row ih =>
      cases z with
      | nan => simpa [numbers] using ih
      | num x => simpa [numbers] using ih

theorem countP_isSensible_le (row : List Sample) : row.countP isSensible ≤ (numbers row).length := by
  rw [length_numbers]
  refine List.countP_mono_left fun z _ hz => ?_
  obtain ⟨x, y, rfl, -, -⟩ := WithNan.exists_num_of_lt (of_decide_eq_true hz)
  rfl

/-- The rows that are left behind both filters. -/
def weightedRows (zdem : List (List Sample)) : List (List Sample) :=
  zdem.flatMap fun row => List.replicate (rowWeight row) row

/-- **What the two filters keep**: each row by its weight. -/
theorem medianOfSegment_eq (zdem : List (List Sample)) :
    medianOfSegment zdem =
      if goodCells zdem = [] then none else some (median (weightedRows zdem).flatten) := by
  have hrows : takeRows (takeRows zdem (whereRows (fun z => !z.isNan) zdem))
      (whereRows isSensible (takeRows zdem (whereRows (fun z => !z.isNan) zdem))) =
      weightedRows zdem := by
    rw [takeRows_whereRows, takeRows_whereRows, List.flatMap_assoc]
    refine List.flatMap_congr fun row _ => ?_
    rw [List.flatMap_replicate, List.flatten_replicate_replicate, rowWeight, length_numbers]
  have hgood : goodCells zdem = [] ↔ (whereRows (fun z => !z.isNan) zdem).length = 0 ∨
      (whereRows isSensible (takeRows zdem (whereRows (fun z => !z.isNan) zdem))).length = 0 := by
    simp only [goodCells_eq_nil, length_whereRows_eq_zero, takeRows_whereRows, List.mem_flatMap,
      List.mem_replicate]
    constructor
    · rintro h
      right
      rintro row ⟨row', hrow, -, rfl⟩
      exact h row hrow
    · rintro (h | h) row hrow
      · have hle := countP_isSensible_le row
        rw [length_numbers, h row hrow] at hle
        omega
      · by_contra hne
        have hle := countP_isSensible_le row
        rw [length_numbers] at hle
        exact hne (h row ⟨row, hrow, by omega, rfl⟩)
  simp only [medianOfSegment, Nat.lt_one_iff, hrows]
  by_cases hnil : goodCells zdem = []
  · rw [if_pos hnil]
    rcases hgood.mp hnil with h | h
    · rw [if_pos h]
    · rw [if_pos h, ite_self]
  · rw [if_neg hnil, if_neg fun h => hnil (hgood.mpr (.inl h)),
      if_neg fun h => hnil (hgood.mpr (.inr h))]

/-- There is no median exactly where there is no good cell. -/
theorem medianOfSegment_eq_none_iff : medianOfSegment zdem = none ↔ goodCells zdem = [] := by
  rw [medianOfSegment_eq]
  split
  · next hnil => exact iff_of_true rfl hnil
  · next hgood => exact iff_of_false nofun hgood

theorem numbers_flatten (rows : List (List Sample)) :
    numbers rows.flatten = (rows.map numbers).flatten := List.filterMap_flatten

theorem numbers_append (xs ys : List Sample) : numbers (xs ++ ys) = numbers xs ++ numbers ys :=
  List.filterMap_append

/-- The counts of what is kept. -/
theorem weightedCount_eq (zdem : List (List Sample)) :
    weightedCount zdem = ((numbers (weightedRows zdem).flatten).countP ·) := by
  funext p
  induction zdem with
  | nil => rfl
  | cons row rest ih =>
      have hrow : (numbers (List.replicate (rowWeight row) row).flatten).countP p =
          rowWeight row * (numbers row).countP p := by
        rw [numbers_flatten, List.countP_flatten, List.map_map, List.map_replicate,
          List.sum_replicate_nat]
        rfl
      rw [weightedRows, List.flatMap_cons, List.flatten_append, numbers_append,
        List.countP_append, hrow, ← weightedRows, ← ih]
      rfl

/-! ## Medians by counts -/

theorem sortedNumbers_perm (values : List Sample) :
    (sortedNumbers values).Perm (numbers values) := by
  rw [sortedNumbers, numbers]
  refine (List.mergeSort_perm _ _).trans (.of_eq (List.filterMap_congr fun z _ => ?_))
  cases z <;> rfl

theorem middle_iff_sorted (values : List Sample) {low high : ℚ} :
    Middle ((numbers values).countP ·) low high ↔
      (sortedNumbers values)[((sortedNumbers values).length - 1) / 2]? = some low ∧
        (sortedNumbers values)[(sortedNumbers values).length / 2]? = some high :=
  middle_iff (List.pairwise_mergeSort' (· ≤ ·) _) (sortedNumbers_perm values)

/-- The median is the mean of the two numbers in the middle. -/
theorem median_of_middle {values : List Sample} {low high : ℚ}
    (h : Middle ((numbers values).countP ·) low high) :
    median values = .num ((low + high) / (2 : ℕ)) := by
  obtain ⟨hlow, hhigh⟩ := (middle_iff_sorted values).mp h
  rw [median]
  simp only [hlow, hhigh]

theorem exists_middle {values : List Sample} (h : numbers values ≠ []) :
    ∃ low high, Middle ((numbers values).countP ·) low high := by
  have hlength : 0 < (sortedNumbers values).length := by
    rw [(sortedNumbers_perm values).length_eq]
    exact List.length_pos_iff.mpr h
  exact ⟨_, _, (middle_iff_sorted values).mpr
    ⟨List.getElem?_eq_getElem (by omega), List.getElem?_eq_getElem (by omega)⟩⟩

/-- A good cell is a number of its row, and the row has a weight. -/
theorem exists_good (h : goodCells zdem ≠ []) :
    ∃ row ∈ zdem, 0 < row.countP isSensible ∧ 0 < rowWeight row := by
  rw [ne_eq, goodCells_eq_nil] at h
  push Not at h
  obtain ⟨row, hrow, hne⟩ := h
  have hpos : 0 < row.countP isSensible := Nat.pos_of_ne_zero hne
  exact ⟨row, hrow, hpos, Nat.mul_pos (lt_of_lt_of_le hpos (countP_isSensible_le row)) hpos⟩

theorem numbers_weightedRows_ne_nil (h : goodCells zdem ≠ []) :
    numbers (weightedRows zdem).flatten ≠ [] := by
  obtain ⟨row, hrow, hpos, hweight⟩ := exists_good h
  have hlength : 0 < (numbers row).length := lt_of_lt_of_le hpos (countP_isSensible_le row)
  intro hnil
  have hcount : weightedCount zdem (fun _ => true) = 0 := by
    rw [weightedCount_eq, hnil]
    rfl
  have hzero := List.sum_eq_zero_iff_forall_eq_nat.mp hcount _ (List.mem_map.mpr ⟨row, hrow, rfl⟩)
  rw [List.countP_true] at hzero
  exact absurd hzero (Nat.mul_pos hweight hlength).ne'

theorem numbers_goodCells_ne_nil (h : goodCells zdem ≠ []) : numbers (goodCells zdem) ≠ [] := by
  intro hnil
  have hnone := length_numbers (goodCells zdem)
  rw [hnil, List.length_nil, eq_comm, List.countP_eq_zero] at hnone
  obtain ⟨z, hz⟩ := List.exists_mem_of_ne_nil _ h
  obtain ⟨x, y, rfl, -, -⟩ := WithNan.exists_num_of_lt (of_decide_eq_true (List.mem_filter.mp hz).2)
  exact hnone _ hz rfl

end Rows

/-! ## When the median is right -/

theorem medianOfSegment_iff (zdem : List (List Sample)) :
    medianOfSegment zdem = (if goodCells zdem = [] then none else some (median (goodCells zdem))) ↔
      SameMiddle zdem := by
  rw [medianOfSegment_eq, SameMiddle]
  by_cases hnil : goodCells zdem = []
  · rw [if_pos hnil, if_pos hnil]
    exact ⟨fun _ => .inl hnil, fun _ => rfl⟩
  rw [if_neg hnil, if_neg hnil, or_iff_right hnil, Option.some.injEq]
  obtain ⟨low, high, hkept⟩ := exists_middle (numbers_weightedRows_ne_nil hnil)
  obtain ⟨low', high', hgood⟩ := exists_middle (numbers_goodCells_ne_nil hnil)
  constructor
  · intro h
    rw [median_of_middle hkept, median_of_middle hgood] at h
    refine ⟨low, high, low', high', weightedCount_eq zdem ▸ hkept, hgood, ?_⟩
    exact (div_left_inj' (by norm_num)).mp (WithNan.num.inj h)
  · rintro ⟨low, high, low', high', hkept, hgood, hsum⟩
    rw [weightedCount_eq] at hkept
    rw [median_of_middle hkept, median_of_middle hgood, hsum]

/-- The median is right exactly where the weights of the rows do not move the middle of
the heights. -/
theorem medianOfGood_iff (thisdem : Dem) (xpos ypos : Sample) (pulseLimitedFootprintSize : ℚ) :
    MedianOfGood thisdem xpos ypos pulseLimitedFootprintSize ↔
      ∀ xdem ydem zdem, thisdem.getSegment
          (squareAbout xpos ypos (pulseLimitedFootprintSize / 2 + thisdem.binsize)) =
            .ok (xdem, ydem, zdem) →
        SameMiddle zdem := by
  constructor
  · intro h xdem ydem zdem hsegment
    have hmedian := h xdem ydem zdem hsegment
    rw [medianDemHeightAroundAPoint, hsegment] at hmedian
    exact (medianOfSegment_iff zdem).mp hmedian
  · intro h xdem ydem zdem hsegment
    rw [medianDemHeightAroundAPoint, hsegment]
    exact (medianOfSegment_iff zdem).mpr (h xdem ydem zdem hsegment)

/-- Rows without a good cell apart, every row has `n` numbers, all of them good. -/
def UniformRows (n : ℕ) (zdem : List (List Sample)) : Prop :=
  ∀ row ∈ zdem, row.countP isSensible = 0 ∨
    (numbers row).length = n ∧ row.countP isSensible = n

theorem goodCount_cons (row : List Sample) (rest : List (List Sample)) (p : ℚ → Bool) :
    goodCount (row :: rest) p =
      (numbers (row.filter isSensible)).countP p + goodCount rest p := by
  rw [goodCount, goodCells, List.flatten_cons, List.filter_append, numbers_append,
    List.countP_append]
  rfl

/-- Where all numbers of a row are good, the filter keeps them. -/
theorem numbers_filter {row : List Sample} (h : row.countP isSensible = (numbers row).length) :
    numbers (row.filter isSensible) = numbers row := by
  have hsub : (numbers (row.filter isSensible)).Sublist (numbers row) :=
    List.filter_sublist.filterMap _
  apply hsub.eq_of_length
  apply le_antisymm hsub.length_le
  rw [← h, List.countP_eq_length_filter]
  refine le_trans (le_of_eq ?_) (countP_isSensible_le _)
  rw [List.countP_filter, List.countP_eq_length_filter]
  simp only [Bool.and_self]

/-- **A segment with uniform rows** has the right median: there every height counts the
same number of times. -/
theorem sameMiddle_of_uniformRows {n : ℕ} {zdem : List (List Sample)} (h : UniformRows n zdem) :
    SameMiddle zdem := by
  have hscale : weightedCount zdem = fun p => n * n * goodCount zdem p := by
    funext p
    induction zdem with
    | nil => rfl
    | cons row rest ih =>
        have hrest := ih fun row hrow => h row (List.mem_cons_of_mem _ hrow)
        have hcons : weightedCount (row :: rest) p =
            rowWeight row * (numbers row).countP p + weightedCount rest p := rfl
        rw [hcons, hrest, goodCount_cons, Nat.mul_add, rowWeight]
        rcases h row List.mem_cons_self with hzero | ⟨hlength, hall⟩
        · have hnone : row.filter isSensible = [] := by
            rw [← List.length_eq_zero_iff, ← List.countP_eq_length_filter, hzero]
          rw [hzero, hnone, Nat.mul_zero, Nat.zero_mul]
          simp [numbers]
        · rw [hlength, hall, numbers_filter (hall.trans hlength.symm)]
  by_cases hnil : goodCells zdem = []
  · exact .inl hnil
  obtain ⟨low, high, hgood⟩ := exists_middle (numbers_goodCells_ne_nil hnil)
  obtain ⟨row, hrow, hpos, -⟩ := exists_good hnil
  have hn : 0 < n := by
    rcases h row hrow with hzero | ⟨-, hall⟩
    · omega
    · omega
  exact .inr ⟨low, high, low, high, hscale ▸ hgood.scale (Nat.mul_pos hn hn), hgood, rfl⟩

/-- **When the median is right**: it is if the rows of the segment that have a good cell
hold no fill value and have equally many numbers. -/
theorem medianOfGood_of_uniformRows (thisdem : Dem) (xpos ypos : Sample)
    (pulseLimitedFootprintSize : ℚ)
    (huniform : ∀ xdem ydem zdem, thisdem.getSegment
        (squareAbout xpos ypos (pulseLimitedFootprintSize / 2 + thisdem.binsize)) =
          .ok (xdem, ydem, zdem) → ∃ n, UniformRows n zdem) :
    MedianOfGood thisdem xpos ypos pulseLimitedFootprintSize := by
  refine (medianOfGood_iff thisdem xpos ypos pulseLimitedFootprintSize).mpr ?_
  intro xdem ydem zdem hsegment
  obtain ⟨n, hrows⟩ := huniform xdem ydem zdem hsegment
  exact sameMiddle_of_uniformRows hrows

/-! ## A height beside another, or beside a fill value -/

/-- A DEM of two rows about the origin: the height 1000 beside some value, and a void
row. -/
def coastDem (beside : ℚ) : Dem where
  xdem := [-100, 0, 100]
  ydem := [100, 0, -100]
  zdem := [[.num 1000, .num beside, .nan], [.nan, .nan, .nan], [.nan, .nan, .nan]]
  binsize := 50

/-- The segment of that DEM about the origin. -/
def coastSegment (beside : ℚ) : List (List Sample) := [[.num 1000, .num beside], [.nan, .nan]]

theorem getSegment_coast (beside : ℚ) : (coastDem beside).getSegment
    (squareAbout (.num 0) (.num 0) (100 / 2 + (coastDem beside).binsize)) =
      .ok ([-100, 0], [100, 0], coastSegment beside) := by
  have hwest : nearestNode (.num (-100)) [-100, 0, 100] = .ok 0 := by
    norm_num [nearestNode, argmin, argminFrom]
  have heast : nearestNode (.num 100) [-100, 0, 100] = .ok 2 := by
    norm_num [nearestNode, argmin, argminFrom]
  have hsouth : nearestNode (.num (-100)) [100, 0, -100] = .ok 2 := by
    norm_num [nearestNode, argmin, argminFrom]
  have hnorth : nearestNode (.num 100) [100, 0, -100] = .ok 0 := by
    norm_num [nearestNode, argmin, argminFrom]
  have hsquare : squareAbout (.num 0) (.num 0) (100 / 2 + (coastDem beside).binsize) =
      ⟨.num (-100), .num 100, .num (-100), .num 100⟩ := by
    norm_num [squareAbout, coastDem]
  rw [hsquare]
  simp only [Dem.getSegment, coastDem, hwest, heast, hsouth, hnorth, bind, Except.bind]
  rfl

/-- Beside another height, the median is that of the two. -/
theorem medianOfGood_coast : MedianOfGood (coastDem 1200) (.num 0) (.num 0) 100 := by
  refine medianOfGood_of_uniformRows (coastDem 1200) (.num 0) (.num 0) 100 ?_
  intro xdem ydem zdem hsegment
  rw [getSegment_coast] at hsegment
  obtain ⟨-, -, rfl⟩ : [-100, 0] = xdem ∧ [100, 0] = ydem ∧ coastSegment 1200 = zdem := by
    simpa using hsegment
  refine ⟨2, fun row hrow => ?_⟩
  rcases List.mem_cons.mp hrow with rfl | hrow
  · exact .inr ⟨by decide, by decide⟩
  · obtain rfl := List.mem_singleton.mp hrow
    exact .inl (by decide)

/-- **A fill value gets into the median**: of the cells 1000 and 9999 only the first is
good, and the code returns their mean. -/
theorem medianDemHeight_fill_value :
    medianDemHeightAroundAPoint (coastDem 9999) (.num 0) (.num 0) 100 =
        some (.num ((1000 + 9999) / (2 : ℕ))) ∧
      goodCells (coastSegment 9999) = [.num 1000] ∧
      ¬ MedianOfGood (coastDem 9999) (.num 0) (.num 0) 100 := by
  have hgood : goodCells (coastSegment 9999) = [.num 1000] := by decide
  have hkept : Middle ((numbers (weightedRows (coastSegment 9999)).flatten).countP ·)
      1000 9999 := by
    rw [← weightedCount_eq]
    refine ⟨⟨?_, ?_⟩, ⟨?_, ?_⟩⟩ <;> decide
  have hone : Middle ((numbers [.num 1000]).countP ·) 1000 1000 := by
    refine ⟨⟨?_, ?_⟩, ⟨?_, ?_⟩⟩ <;> decide
  have hmedian : medianDemHeightAroundAPoint (coastDem 9999) (.num 0) (.num 0) 100 =
      some (.num ((1000 + 9999) / (2 : ℕ))) := by
    rw [medianDemHeightAroundAPoint, getSegment_coast]
    show medianOfSegment (coastSegment 9999) = _
    rw [medianOfSegment_eq, hgood, if_neg (List.cons_ne_nil _ _), median_of_middle hkept]
  refine ⟨hmedian, hgood, fun h => ?_⟩
  have hequal := h _ _ _ (getSegment_coast 9999)
  rw [hmedian, hgood, if_neg (List.cons_ne_nil _ _), median_of_middle hone] at hequal
  norm_num at hequal

end Clev2er.Cryotempo
