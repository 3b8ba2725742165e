import Clev2er.Lib.IndexArray
import Clev2er.Lib.PiecewiseLinear
import Clev2er.Lib.WithNan
import Clev2er.Python
import Mathlib.Analysis.Normed.Field.Lemmas

/-!
# `calc_uncertainty`

The uncertainty at a slope, from a table with one value for each of a number of
equally wide slope bands. `calcUncertainty` fills its result with three overlapping
index-array updates. They come to one function of the slope, the polyline through
the table values at the lower ends of the bands.
-/

namespace Clev2er.Uncertainty

open Clev2er.Lib

/-! ## The function -/

/-- `interp1d(x, y)`: a function on arrays of points. -/
abbrev Interp1d (K : Type) :=
  List K → List K → Except PyExc (List (WithNan K) → Except PyExc (List (WithNan K)))

section Code

variable {K : Type} [Field K] [LinearOrder K]

/-- The lower end of band `k`. -/
def bandNode (minSlope maxSlope : K) (tableSize k : ℕ) : K :=
  minSlope + k * ((maxSlope - minSlope) / tableSize)

/-- `min_slope + np.arange(0, table_size + 1) * band`. -/
def bandNodes (minSlope maxSlope : K) (tableSize : ℕ) : List K :=
  (List.range (tableSize + 1)).map (bandNode minSlope maxSlope tableSize)

/-- `np.where((slopes >= min_slope) & (slopes <= max_slope))[0]`. -/
def slopesInRange (minSlope maxSlope : K) (slopes : List (WithNan K)) : List ℕ :=
  positionsWhere (fun s => decide (.num minSlope ≤ s) && decide (s ≤ .num maxSlope)) slopes

/-- `slopes[indices]`. -/
def slopesAt (slopes : List (WithNan K)) (indices : List ℕ) : List (WithNan K) :=
  indices.map fun i => slopes.getD i .nan

/-- `if slope_ok.size > 0: uncertainty[slope_ok] = interp_func(slopes[slope_ok])`. -/
def assignInterpolated (interpFunc : List (WithNan K) → Except PyExc (List (WithNan K)))
    (slopes : List (WithNan K)) (slopeOk : List ℕ) (uncertainty : List (WithNan K)) :
    Except PyExc (List (WithNan K)) :=
  if 0 < slopeOk.length then do
    .ok (assignEach slopeOk (← interpFunc (slopesAt slopes slopeOk)) uncertainty)
  else .ok uncertainty

/-- An empty table has no last value `y[-1]`. -/
def emptyTable : PyExc := ⟨.other "IndexError", "index -1 is out of bounds for axis 0 with size 0"⟩

def calcUncertainty (interp1d : Interp1d K) (slopes : List (WithNan K))
    (uncertaintyTable : List K) (minSlope maxSlope : K) : Except PyExc (List (WithNan K)) :=
  match uncertaintyTable.getLast? with
  | none => .error emptyTable
  | some last => do
      let x := bandNodes minSlope maxSlope uncertaintyTable.length
      -- one value more, so that both arrays have the same length
      let y := uncertaintyTable ++ [last]
      let interpFunc ← interp1d x y
      let uncertainty := List.replicate slopes.length .nan
      let slopeOk := slopesInRange minSlope maxSlope slopes
      let uncertainty ← assignInterpolated interpFunc slopes slopeOk uncertainty
      let slopeOk := positionsWhere (fun s => decide (.num maxSlope ≤ s)) slopes
      let uncertainty := assignAt slopeOk (.num last) uncertainty
      let slopeOk := positionsWhere (fun s => decide (s ≤ .num minSlope)) slopes
      .ok (assignAt slopeOk (.num (uncertaintyTable.getD 0 last)) uncertainty)

/-! ## The interpolator -/

/-- The value at a point is that of the straight line between two neighbouring nodes. -/
def OnLine (x y : List K) (point value : WithNan K) : Prop :=
  ∃ (k : ℕ) (s : K), k + 1 < x.length ∧ point = .num s ∧ x.getD k 0 ≤ s ∧ s ≤ x.getD (k + 1) 0 ∧
    value = .num (lineThrough (x.getD · 0) (y.getD · 0) k s)

/-- A point in the range of the nodes. -/
def InNodeRange (x : List K) (point : WithNan K) : Prop :=
  ∃ s, point = .num s ∧ x.getD 0 0 ≤ s ∧ s ≤ x.getD (x.length - 1) 0

/-- `interp1d` is linear between its nodes. Nothing is assumed about points outside. -/
def InterpolatesLinearly (interp1d : Interp1d K) : Prop :=
  ∀ x y : List K, x.length = y.length → 2 ≤ x.length → x.Pairwise (· < ·) →
    ∃ interpFunc, interp1d x y = .ok interpFunc ∧
      ∀ points : List (WithNan K), (∀ point ∈ points, InNodeRange x point) →
        ∃ values, interpFunc points = .ok values ∧ List.Forall₂ (OnLine x y) points values

end Code

/-! ## The bands -/

/-- The value at node `k`: that of band `k`, and at the last node that of the last band. -/
def nodeValue {K : Type} [Zero K] (uncertaintyTable : List K) (k : ℕ) : K :=
  uncertaintyTable.getD (min k (uncertaintyTable.length - 1)) 0

theorem getD_paddedTable {K : Type} [Zero K] {uncertaintyTable : List K} {last : K}
    (hlast : uncertaintyTable.getLast? = some last) {k : ℕ} (hk : k ≤ uncertaintyTable.length) :
    (uncertaintyTable ++ [last]).getD k 0 = nodeValue uncertaintyTable k := by
  rw [nodeValue]
  rcases Nat.lt_or_eq_of_le hk with hlt | rfl
  · rw [List.getD_append _ _ _ _ hlt, Nat.min_eq_left (by omega)]
  · rw [List.getLast?_eq_getElem?] at hlast
    rw [List.getD_append_right _ _ _ _ (le_refl _), Nat.sub_self, Nat.min_eq_right (by omega)]
    simp [List.getD_eq_getElem?_getD, hlast]

theorem nodeValue_mem {K : Type} [Zero K] {uncertaintyTable : List K} (hne : uncertaintyTable ≠ [])
    (k : ℕ) : nodeValue uncertaintyTable k ∈ uncertaintyTable := by
  have hlength : 0 < uncertaintyTable.length := List.length_pos_iff.mpr hne
  exact getD_mem (lt_of_le_of_lt (Nat.min_le_right _ _) (Nat.sub_lt hlength Nat.one_pos)) 0

theorem bandNode_zero {K : Type} [Field K] (minSlope maxSlope : K) (n : ℕ) :
    bandNode minSlope maxSlope n 0 = minSlope := by
  rw [bandNode, Nat.cast_zero, zero_mul, add_zero]

theorem getD_bandNodes {K : Type} [Field K] {minSlope maxSlope : K} {n k : ℕ} (hk : k ≤ n) :
    (bandNodes minSlope maxSlope n).getD k 0 = bandNode minSlope maxSlope n k :=
  getD_map_range _ (Nat.lt_succ_of_le hk) 0

/-- Without a slope in range there is nothing to write. -/
theorem assignInterpolated_eq {K : Type}
    {interpFunc : List (WithNan K) → Except PyExc (List (WithNan K))}
    {slopes uncertainty : List (WithNan K)} {slopeOk : List ℕ} {g : WithNan K → WithNan K}
    (h : interpFunc (slopesAt slopes slopeOk) = .ok ((slopesAt slopes slopeOk).map g)) :
    assignInterpolated interpFunc slopes slopeOk uncertainty =
      .ok (assignEach slopeOk (slopeOk.map fun i => g (slopes.getD i .nan)) uncertainty) := by
  rw [assignInterpolated]
  cases slopeOk with
  | nil => rfl
  | cons i slopeOk =>
      rw [if_pos (show 0 < (i :: slopeOk).length from Nat.succ_pos _), h, slopesAt, List.map_map]
      rfl

variable {K : Type} [Field K] [LinearOrder K] [IsStrictOrderedRing K] {minSlope maxSlope : K}
  {uncertaintyTable : List K}

theorem bandNode_last (minSlope maxSlope : K) {n : ℕ} (hn : 0 < n) :
    bandNode minSlope maxSlope n n = maxSlope := by
  have hne : (n : K) ≠ 0 := Nat.cast_ne_zero.mpr hn.ne'
  rw [bandNode, mul_div_cancel₀ _ hne, add_sub_cancel]

theorem bandNode_lt (hlt : minSlope < maxSlope) {n i j : ℕ} (hn : 0 < n) (hij : i < j) :
    bandNode minSlope maxSlope n i < bandNode minSlope maxSlope n j := by
  have hband : 0 < (maxSlope - minSlope) / n := div_pos (sub_pos.mpr hlt) (Nat.cast_pos.mpr hn)
  exact add_lt_add_right (mul_lt_mul_of_pos_right (Nat.cast_lt.mpr hij) hband) minSlope

/-- The uncertainty as a function of the slope. -/
def curve (uncertaintyTable : List K) (minSlope maxSlope : K) : K → K :=
  polyline (bandNode minSlope maxSlope uncertaintyTable.length) (nodeValue uncertaintyTable)
    uncertaintyTable.length

theorem ascending_bandNode (hlt : minSlope < maxSlope) (n : ℕ) :
    Ascending (bandNode minSlope maxSlope n) n :=
  fun _ hk => bandNode_lt hlt (Nat.zero_lt_of_lt hk) (Nat.lt_succ_self _)

theorem curve_of_le (hlt : minSlope < maxSlope) {s : K} (hs : s ≤ minSlope) :
    curve uncertaintyTable minSlope maxSlope s = uncertaintyTable.getD 0 0 := by
  rw [curve, polyline_of_le_first (ascending_bandNode hlt _) (by rwa [bandNode_zero]), nodeValue,
    Nat.zero_min]

theorem curve_of_ge (hlt : minSlope < maxSlope) (hne : uncertaintyTable ≠ []) {s : K}
    (hs : maxSlope ≤ s) :
    curve uncertaintyTable minSlope maxSlope s =
      uncertaintyTable.getD (uncertaintyTable.length - 1) 0 := by
  have hlength : 0 < uncertaintyTable.length := List.length_pos_iff.mpr hne
  rw [curve, polyline_of_le (ascending_bandNode hlt _) (by rwa [bandNode_last _ _ hlength]),
    nodeValue, Nat.min_eq_right (Nat.sub_le _ _)]

/-- In a band the uncertainty lies between the value of the band and that of the next. -/
theorem curve_mem (hlt : minSlope < maxSlope) {k : ℕ} (hk : k < uncertaintyTable.length) {s : K}
    (hlow : bandNode minSlope maxSlope uncertaintyTable.length k ≤ s)
    (hhigh : s ≤ bandNode minSlope maxSlope uncertaintyTable.length (k + 1)) :
    min (nodeValue uncertaintyTable k) (nodeValue uncertaintyTable (k + 1)) ≤
        curve uncertaintyTable minSlope maxSlope s ∧
      curve uncertaintyTable minSlope maxSlope s ≤
        max (nodeValue uncertaintyTable k) (nodeValue uncertaintyTable (k + 1)) := by
  have hascending := ascending_bandNode hlt uncertaintyTable.length
  rw [curve, polyline_eq_lineThrough hascending hk hlow hhigh]
  exact lineThrough_mem (hascending k hk) hlow hhigh

theorem monotone_curve (hlt : minSlope < maxSlope) (hsorted : uncertaintyTable.Pairwise (· ≤ ·)) :
    Monotone (curve uncertaintyTable minSlope maxSlope) := by
  refine monotone_polyline (ascending_bandNode hlt _) fun k hk => ?_
  rw [nodeValue, nodeValue, Nat.min_eq_left (by omega),
    List.getD_eq_getElem _ _ hk, List.getD_eq_getElem _ _ (by omega)]
  rcases Nat.lt_or_ge (k + 1) uncertaintyTable.length with hnext | hlast
  · simp only [Nat.min_eq_left (show k + 1 ≤ uncertaintyTable.length - 1 by omega)]
    exact List.pairwise_iff_getElem.mp hsorted k (k + 1) hk hnext (Nat.lt_succ_self k)
  · simp only [Nat.min_eq_right (show uncertaintyTable.length - 1 ≤ k + 1 by omega)]
    exact le_of_eq (getElem_congr_idx (by omega))

/-- The curve stays between the values of the table, for any slope. -/
theorem curve_between (hlt : minSlope < maxSlope) (hne : uncertaintyTable ≠ []) (s : K) :
    ∃ a ∈ uncertaintyTable, ∃ b ∈ uncertaintyTable,
      a ≤ curve uncertaintyTable minSlope maxSlope s ∧
        curve uncertaintyTable minSlope maxSlope s ≤ b := by
  have hlength : 0 < uncertaintyTable.length := List.length_pos_iff.mpr hne
  rcases le_total s minSlope with hlow | hlow
  · have hfirst : curve uncertaintyTable minSlope maxSlope s = _ := curve_of_le hlt hlow
    exact ⟨_, getD_mem hlength 0, _, getD_mem hlength 0, hfirst.ge, hfirst.le⟩
  rcases le_total maxSlope s with hhigh | hhigh
  · have hlast := curve_of_ge hlt hne hhigh
    have hmem := getD_mem (Nat.sub_lt hlength Nat.one_pos) 0
    exact ⟨_, hmem, _, hmem, hlast.ge, hlast.le⟩
  have hfirst := bandNode_zero minSlope maxSlope uncertaintyTable.length
  have hlast := bandNode_last minSlope maxSlope hlength
  obtain ⟨k, hk, hpiece⟩ := exists_piece (x := bandNode minSlope maxSlope uncertaintyTable.length)
    hlength (hfirst.le.trans hlow) (hhigh.trans hlast.ge)
  obtain ⟨hge, hle⟩ := curve_mem hlt hk hpiece.1 hpiece.2
  rcases le_total (nodeValue uncertaintyTable k) (nodeValue uncertaintyTable (k + 1)) with h | h
  · rw [min_eq_left h] at hge
    rw [max_eq_right h] at hle
    exact ⟨_, nodeValue_mem hne k, _, nodeValue_mem hne (k + 1), hge, hle⟩
  · rw [min_eq_right h] at hge
    rw [max_eq_left h] at hle
    exact ⟨_, nodeValue_mem hne (k + 1), _, nodeValue_mem hne k, hge, hle⟩

/-! ## The three updates -/

/-- What the interpolator returns is on the curve. -/
theorem OnLine.eq_curve (hlt : minSlope < maxSlope) {last : K}
    (hlast : uncertaintyTable.getLast? = some last) {point value : WithNan K}
    (h : OnLine (bandNodes minSlope maxSlope uncertaintyTable.length) (uncertaintyTable ++ [last])
      point value) :
    value = point.map (curve uncertaintyTable minSlope maxSlope) := by
  obtain ⟨k, s, hk, rfl, hlow, hhigh, rfl⟩ := h
  rw [bandNodes, List.length_map, List.length_range] at hk
  rw [getD_bandNodes (by omega)] at hlow hhigh
  rw [WithNan.map_num, curve,
    polyline_eq_lineThrough (ascending_bandNode hlt _) (by omega) hlow hhigh]
  simp only [lineThrough, progress, getD_bandNodes (show k ≤ uncertaintyTable.length by omega),
    getD_bandNodes (show k + 1 ≤ uncertaintyTable.length by omega),
    getD_paddedTable hlast (show k ≤ uncertaintyTable.length by omega),
    getD_paddedTable hlast (show k + 1 ≤ uncertaintyTable.length by omega)]

/-- **Only points in the range of the nodes are interpolated.** -/
theorem inNodeRange_slopesAt (minSlope maxSlope : K) {n : ℕ} (hn : 0 < n)
    (slopes : List (WithNan K)) :
    ∀ point ∈ slopesAt slopes (slopesInRange minSlope maxSlope slopes),
      InNodeRange (bandNodes minSlope maxSlope n) point := by
  intro point hpoint
  obtain ⟨i, hi, rfl⟩ := List.mem_map.mp hpoint
  have hlength : i < slopes.length := List.mem_range.mp (List.mem_filter.mp hi).1
  rw [slopesInRange, mem_positionsWhere (d := .nan) hlength, Bool.and_eq_true, decide_eq_true_eq,
    decide_eq_true_eq] at hi
  obtain ⟨low, s, hlow, hs, hle⟩ := WithNan.exists_num_of_le hi.1
  rw [hs, WithNan.num_le_num] at hi
  refine ⟨s, hs, ?_, ?_⟩
  · rw [getD_bandNodes (Nat.zero_le n), bandNode_zero]
    cases hlow
    exact hle
  · rw [bandNodes, List.length_map, List.length_range, Nat.add_sub_cancel, ← bandNodes,
      getD_bandNodes (le_refl n), bandNode_last _ _ hn]
    exact hi.2

/-- The values that the interpolator returns for the slopes in range. -/
theorem interpolated_eq {interp1d : Interp1d K} (hinterp : InterpolatesLinearly interp1d)
    (hlt : minSlope < maxSlope) {last : K} (hlast : uncertaintyTable.getLast? = some last)
    (slopes : List (WithNan K)) :
    ∃ interpFunc,
      interp1d (bandNodes minSlope maxSlope uncertaintyTable.length)
        (uncertaintyTable ++ [last]) = .ok interpFunc ∧
      interpFunc (slopesAt slopes (slopesInRange minSlope maxSlope slopes)) =
        .ok ((slopesAt slopes (slopesInRange minSlope maxSlope slopes)).map
          (WithNan.map (curve uncertaintyTable minSlope maxSlope))) := by
  have hn : 0 < uncertaintyTable.length := by
    rw [List.length_pos_iff]
    rintro rfl
    cases hlast
  have hlength : (bandNodes minSlope maxSlope uncertaintyTable.length).length =
      uncertaintyTable.length + 1 := by
    rw [bandNodes, List.length_map, List.length_range]
  have hsorted : (bandNodes minSlope maxSlope uncertaintyTable.length).Pairwise (· < ·) := by
    rw [bandNodes, List.pairwise_map]
    exact List.Pairwise.imp (fun hij => bandNode_lt hlt hn hij) List.pairwise_lt_range
  obtain ⟨interpFunc, hfunc, hpoints⟩ := hinterp _ (uncertaintyTable ++ [last])
    (by rw [hlength, List.length_append, List.length_singleton]) (by omega) hsorted
  obtain ⟨values, hvalues, honLine⟩ :=
    hpoints _ (inNodeRange_slopesAt minSlope maxSlope hn slopes)
  refine ⟨interpFunc, hfunc, hvalues.trans (congrArg Except.ok ?_)⟩
  clear hvalues
  generalize slopesAt slopes _ = points at honLine ⊢
  induction honLine with
  | nil => rfl
  | cons hhead _ ih => rw [List.map_cons, ← hhead.eq_curve hlt hlast, ← ih]

/-- **The three updates come to the curve**: where two of them write, they agree. -/
theorem calcUncertainty_eq {interp1d : Interp1d K} (hinterp : InterpolatesLinearly interp1d)
    (hlt : minSlope < maxSlope) (hne : uncertaintyTable ≠ []) (slopes : List (WithNan K)) :
    calcUncertainty interp1d slopes uncertaintyTable minSlope maxSlope =
      .ok (slopes.map (WithNan.map (curve uncertaintyTable minSlope maxSlope))) := by
  obtain ⟨last, hlast⟩ : ∃ last, uncertaintyTable.getLast? = some last :=
    ⟨_, List.getLast?_eq_some_getLast hne⟩
  obtain ⟨interpFunc, hfunc, hvalues⟩ := interpolated_eq hinterp hlt hlast slopes
  rw [calcUncertainty]
  simp only [hlast, hfunc, assignInterpolated_eq hvalues, bind, Except.bind]
  refine congrArg Except.ok (List.ext_getElem (by simp) fun i hi _ => ?_)
  have hlen : 0 < uncertaintyTable.length := List.length_pos_iff.mpr hne
  have hlength : i < slopes.length := by simpa using hi
  rw [← List.getD_eq_getElem _ .nan, getD_assignAt (by simpa using hlength),
    getD_assignAt (by simpa using hlength), getD_assignEach (by simpa using hlength),
    List.getElem_map, ← List.getD_eq_getElem _ .nan]
  simp only [slopesInRange, mem_positionsWhere (d := .nan) hlength, Bool.and_eq_true,
    decide_eq_true_eq]
  cases slopes.getD i .nan with
  | nan => simp [hlength]
  | num s =>
      simp only [WithNan.num_le_num, WithNan.map_num]
      by_cases hlow : s ≤ minSlope
      · rw [if_pos hlow, curve_of_le hlt hlow, List.getD_eq_getElem _ _ hlen,
          List.getD_eq_getElem _ _ hlen]
      · rw [if_neg hlow]
        by_cases hhigh : maxSlope ≤ s
        · rw [if_pos hhigh, curve_of_ge hlt hne hhigh]
          rw [List.getLast?_eq_getElem?] at hlast
          simp [List.getD_eq_getElem?_getD, hlast]
        · rw [if_neg hhigh, if_pos ⟨(not_le.mp hlow).le, (not_le.mp hhigh).le⟩]

/-- A curve through the values of a table: between the values of neighbouring bands,
the first value below the bands and the last above, continuous, and rising where the
table does. -/
structure InterpolatesTable [TopologicalSpace K] (uncertaintyTable : List K)
    (minSlope maxSlope : K) (f : K → K) : Prop where
  between : ∀ k < uncertaintyTable.length, ∀ s,
    bandNode minSlope maxSlope uncertaintyTable.length k ≤ s →
    s ≤ bandNode minSlope maxSlope uncertaintyTable.length (k + 1) →
    min (nodeValue uncertaintyTable k) (nodeValue uncertaintyTable (k + 1)) ≤ f s ∧
      f s ≤ max (nodeValue uncertaintyTable k) (nodeValue uncertaintyTable (k + 1))
  first : ∀ s ≤ minSlope, f s = uncertaintyTable.getD 0 0
  last : ∀ s, maxSlope ≤ s → f s = uncertaintyTable.getD (uncertaintyTable.length - 1) 0
  continuous : Continuous f
  monotone : uncertaintyTable.Pairwise (· ≤ ·) → Monotone f

theorem interpolatesTable_curve [TopologicalSpace K] [OrderTopology K]
    (hlt : minSlope < maxSlope) (hne : uncertaintyTable ≠ []) :
    InterpolatesTable uncertaintyTable minSlope maxSlope
      (curve uncertaintyTable minSlope maxSlope) where
  between _ hk _ hlow hhigh := curve_mem hlt hk hlow hhigh
  first _ hs := curve_of_le hlt hs
  last _ hs := curve_of_ge hlt hne hs
  continuous := continuous_polyline
  monotone hsorted := monotone_curve hlt hsorted

/-- **`calc_uncertainty` interpolates its table**, NaN where the slope is NaN, and asks
its interpolator only for points in the range of the nodes. -/
theorem calcUncertainty_interpolates [TopologicalSpace K] [OrderTopology K]
    {interp1d : Interp1d K} (hinterp : InterpolatesLinearly interp1d)
    (hlt : minSlope < maxSlope) (hne : uncertaintyTable ≠ []) :
    (∀ slopes : List (WithNan K),
      ∀ point ∈ slopesAt slopes (slopesInRange minSlope maxSlope slopes),
        InNodeRange (bandNodes minSlope maxSlope uncertaintyTable.length) point) ∧
      ∃ f, InterpolatesTable uncertaintyTable minSlope maxSlope f ∧
        ∀ slopes, calcUncertainty interp1d slopes uncertaintyTable minSlope maxSlope =
          .ok (slopes.map (WithNan.map f)) :=
  ⟨inNodeRange_slopesAt minSlope maxSlope (List.length_pos_iff.mpr hne),
    curve uncertaintyTable minSlope maxSlope, interpolatesTable_curve hlt hne,
    calcUncertainty_eq hinterp hlt hne⟩

/-! ## An interpolator -/

/-- The polyline in the range of the nodes, and a `ValueError` outside. -/
def polylineInterp1d : Interp1d K := fun x y =>
  if x.length ≠ y.length then
    .error ⟨.valueError, "x and y arrays must be equal in length along interpolation axis."⟩
  else
    .ok fun points => forEach (fun _ point =>
      match point with
      | .nan => .ok .nan
      | .num s =>
          if s < x.getD 0 0 then
            .error ⟨.valueError, "A value in x_new is below the interpolation range."⟩
          else if x.getD (x.length - 1) 0 < s then
            .error ⟨.valueError, "A value in x_new is above the interpolation range."⟩
          else .ok (.num (polyline (x.getD · 0) (y.getD · 0) (x.length - 1) s))) 0 points

theorem interpolatesLinearly_polyline : InterpolatesLinearly (K := K) polylineInterp1d := by
  intro x y hlength htwo hsorted
  have hascending : Ascending (x.getD · 0) (x.length - 1) := by
    intro k hk
    simp only [List.getD_eq_getElem _ _ (show k < x.length by omega),
      List.getD_eq_getElem _ _ (show k + 1 < x.length by omega)]
    exact List.pairwise_iff_getElem.mp hsorted k (k + 1) (by omega) (by omega) (Nat.lt_succ_self k)
  refine ⟨_, if_neg (not_not.mpr hlength), fun points hpoints => ?_⟩
  refine ⟨points.map (WithNan.map (polyline (x.getD · 0) (y.getD · 0) (x.length - 1))), ?_, ?_⟩
  · refine forEach_eq_map points 0 fun _ point hpoint => ?_
    obtain ⟨s, rfl, hlow, hhigh⟩ := hpoints point hpoint
    simp only [not_lt.mpr hlow, not_lt.mpr hhigh, if_false, WithNan.map_num]
  · rw [List.forall₂_map_right_iff, List.forall₂_same]
    intro point hpoint
    obtain ⟨s, rfl, hlow, hhigh⟩ := hpoints point hpoint
    obtain ⟨k, hk, hlow, hhigh⟩ :=
      exists_piece (x := (x.getD · 0)) (show 0 < x.length - 1 by omega) hlow hhigh
    exact ⟨k, s, by omega, rfl, hlow, hhigh,
      congrArg WithNan.num (polyline_eq_lineThrough hascending hk hlow hhigh)⟩

/-- The uncertainties of three slope bands. -/
def threeBands : List ℚ := [1, 2, 4]

theorem calcUncertainty_interpolates_threeBands :
    (∀ slopes : List (WithNan ℚ), ∀ point ∈ slopesAt slopes (slopesInRange 0 3 slopes),
        InNodeRange (bandNodes 0 3 threeBands.length) point) ∧
      ∃ f, InterpolatesTable threeBands 0 3 f ∧
        ∀ slopes, calcUncertainty polylineInterp1d slopes threeBands 0 3 =
          .ok (slopes.map (WithNan.map f)) :=
  calcUncertainty_interpolates interpolatesLinearly_polyline three_pos (List.cons_ne_nil _ _)

end Clev2er.Uncertainty
