import Clev2er.Masks.Mask
import Mathlib.Data.List.Count

/-!
# The two look-ups of a grid mask

`points_inside` and `grid_mask_values` find the cell of a point by the same
arithmetic, and differ around it. `points_inside` rounds coordinates that are not
finite, and it counts a point once for each match with a basin number;
`pointsInside_finite` and `gridMaskValues_finite` are what they return elsewhere.
-/

namespace Clev2er.Masks

open Clev2er.Lib Clev2er.Retrack

/-! ## The cell of a point -/

/-- The position of a point lies in the grid. -/
def MaskGrid.Inside (g : MaskGrid) (position : Coord × Coord) : Prop :=
  ∃ x y, position = (.finite x, .finite y) ∧
    (0 ≤ around ((x - g.minxm) / g.binsize) ∧ around ((x - g.minxm) / g.binsize) < g.numX) ∧
    (0 ≤ around ((y - g.minym) / g.binsize) ∧ around ((y - g.minym) / g.binsize) < g.numY)

/-- Both coordinates are finite. -/
def FinitePosition (position : Coord × Coord) : Prop :=
  ∃ x y, position = (.finite x, .finite y)

/-- The value of the cell of a position, `none` outside the grid. -/
def MaskGrid.cellOf (g : MaskGrid) (position : Coord × Coord) : Option Nat :=
  match g.cellAt position.1 position.2 with
  | .ok cell => cell
  | .error _ => none

variable {g : MaskGrid} {position : Coord × Coord}

theorem MaskGrid.cellAt_finite (h : FinitePosition position) :
    g.cellAt position.1 position.2 = .ok (g.cellOf position) := by
  obtain ⟨x, y, rfl⟩ := h
  simp only [MaskGrid.cellOf, MaskGrid.cellAt, Coord.toIndex]
  split
  · rfl
  · split <;> rfl

/-- Rounding raises for a coordinate that is not finite. -/
theorem MaskGrid.finite_of_cellAt {cell : Option Nat}
    (h : g.cellAt position.1 position.2 = .ok cell) : FinitePosition position := by
  obtain ⟨x, y⟩ := position
  cases x with
  | infinite => cases h
  | nan => cases h
  | finite x =>
      cases y with
      | infinite => cases h
      | nan => cases h
      | finite y => exact ⟨x, y, rfl⟩

theorem MaskGrid.cellOf_eq_some (h : FinitePosition position) :
    (∃ cell, g.cellOf position = some cell) ↔ g.Inside position := by
  have hcell := MaskGrid.cellAt_finite (g := g) h
  obtain ⟨x, y, rfl⟩ := h
  simp only [MaskGrid.cellAt, Coord.toIndex] at hcell
  constructor
  · rintro ⟨cell, hsome⟩
    rw [hsome] at hcell
    by_cases hx : around ((x - g.minxm) / g.binsize) < 0 ∨
        g.numX ≤ around ((x - g.minxm) / g.binsize)
    · rw [if_pos hx] at hcell
      cases hcell
    · by_cases hy : around ((y - g.minym) / g.binsize) < 0 ∨
          g.numY ≤ around ((y - g.minym) / g.binsize)
      · rw [if_neg hx, if_pos hy] at hcell
        cases hcell
      · exact ⟨x, y, rfl, by omega, by omega⟩
  · rintro ⟨x', y', heq, ⟨hx, hx'⟩, ⟨hy, hy'⟩⟩
    simp only [Prod.mk.injEq, Coord.finite.injEq] at heq
    obtain ⟨rfl, rfl⟩ := heq
    rw [if_neg (by omega), if_neg (by omega)] at hcell
    exact ⟨_, (Except.ok.inj hcell).symm⟩

/-! ## What the look-ups return -/

/-- The position of a point in the coordinates of the mask. -/
def Mask.positionOf (m : Mask) (point : Sample × Sample) : Coord × Coord :=
  m.latlonToXy point.1 point.2

variable {m : Mask} {points : List (Sample × Sample)} {basinNumbers : List Nat}

theorem zip_fst_snd (points : List (Sample × Sample)) :
    (points.map Prod.fst).zip (points.map Prod.snd) = points := by
  simp [List.zip_map']

/-- One pass of the loop of `points_inside`. -/
theorem Mask.pointInside_grid (harea : m.area = .grid g) (hbasins : basinNumbers ≠ [])
    (point : Sample × Sample) :
    m.pointInside basinNumbers point =
      match g.cellAt (m.positionOf point).1 (m.positionOf point).2 with
      | .error e => .error e
      | .ok cell => .ok (cell.any basinNumbers.contains, cell.elim 0 basinNumbers.count) := by
  have hempty : basinNumbers.isEmpty = false := List.isEmpty_eq_false_iff.mpr hbasins
  simp only [Mask.pointInside, Mask.positionOf, harea, hempty]
  rcases g.cellAt (m.latlonToXy point.1 point.2).1 (m.latlonToXy point.1 point.2).2
    with e | _ | cell <;> rfl

theorem Mask.pointsInside_finite (harea : m.area = .grid g) (hbasins : basinNumbers ≠ [])
    (hfinite : ∀ point ∈ points, FinitePosition (m.positionOf point)) :
    m.pointsInside (points.map Prod.fst) (points.map Prod.snd) basinNumbers =
      .ok (points.map fun point => (g.cellOf (m.positionOf point)).any basinNumbers.contains,
        (points.map fun point =>
          (g.cellOf (m.positionOf point)).elim 0 basinNumbers.count).sum) := by
  have hempty : basinNumbers.isEmpty = false := List.isEmpty_eq_false_iff.mpr hbasins
  have hloop : forEach (fun _ => m.pointInside basinNumbers) 0 points =
      .ok (points.map fun point => ((g.cellOf (m.positionOf point)).any basinNumbers.contains,
        (g.cellOf (m.positionOf point)).elim 0 basinNumbers.count)) := by
    apply forEach_eq_map
    intro _ point hpoint
    rw [Mask.pointInside_grid harea hbasins, MaskGrid.cellAt_finite (hfinite point hpoint)]
  simp only [Mask.pointsInside, hempty, Bool.false_eq_true, if_false, zip_fst_snd, hloop,
    List.map_map, Function.comp_def]

theorem Mask.gridMaskValues_finite (harea : m.area = .grid g)
    (hfinite : ∀ point ∈ points, FinitePosition (m.positionOf point)) (unknownValue : Nat) :
    m.gridMaskValues (points.map Prod.fst) (points.map Prod.snd) unknownValue =
      .ok (points.map fun point => (g.cellOf (m.positionOf point)).getD (unknownValue % 256)) := by
  simp only [Mask.gridMaskValues, harea, zip_fst_snd]
  apply forEach_eq_map
  intro _ point hpoint
  have hcell := MaskGrid.cellAt_finite (g := g) (hfinite point hpoint)
  obtain ⟨x, y, hxy⟩ := hfinite point hpoint
  rw [Mask.positionOf] at hxy hcell
  simp only [Mask.positionOf, hxy, Coord.isFinite] at hcell ⊢
  rw [hcell]
  rfl

/-- `points_inside` finishes only for points with finite coordinates. -/
theorem Mask.finite_of_pointsInside (harea : m.area = .grid g) (hbasins : basinNumbers ≠ [])
    {found : List Bool × Nat}
    (h : m.pointsInside (points.map Prod.fst) (points.map Prod.snd) basinNumbers = .ok found) :
    ∀ point ∈ points, FinitePosition (m.positionOf point) := by
  have hempty : basinNumbers.isEmpty = false := List.isEmpty_eq_false_iff.mpr hbasins
  simp only [Mask.pointsInside, hempty, Bool.false_eq_true, if_false, zip_fst_snd] at h
  rcases hloop : forEach (fun _ => m.pointInside basinNumbers) 0 points with e | entries
  · simp only [hloop] at h
    cases h
  · intro point hpoint
    obtain ⟨entry, hentry⟩ := forEach_ok_mem hloop point hpoint
    rw [Mask.pointInside_grid harea hbasins] at hentry
    rcases hcell : g.cellAt (m.positionOf point).1 (m.positionOf point).2 with e | cell
    · rw [hcell] at hentry
      cases hentry
    · exact MaskGrid.finite_of_cellAt hcell

/-! ## Agreement -/

theorem countP_pos_le_sum : ∀ ws : List Nat, ws.countP (0 < ·) ≤ ws.sum
  | [] => le_refl 0
  | w :: ws => by
      have hrest := countP_pos_le_sum ws
      rw [List.countP_cons, List.sum_cons]
      by_cases hw : 0 < w
      · simp only [hw, decide_true, if_true]
        omega
      · simp only [hw, decide_false, Bool.false_eq_true, if_false]
        omega

/-- A sum is the number of its positive entries just if none is above one. -/
theorem sum_eq_countP_pos_iff :
    ∀ ws : List Nat, ws.sum = ws.countP (0 < ·) ↔ ∀ w ∈ ws, w ≤ 1
  | [] => by simp
  | w :: ws => by
      have hle := countP_pos_le_sum ws
      have hrest := sum_eq_countP_pos_iff ws
      rw [List.forall_mem_cons, ← hrest, List.countP_cons, List.sum_cons]
      by_cases hw : 0 < w
      · simp only [hw, decide_true, if_true]
        omega
      · simp only [hw, decide_false, Bool.false_eq_true, if_false]
        omega

/-- **The look-ups agree** on a list of points: both return, a point is marked just if
it lies in the grid with a value among the basin numbers, and `n_inside` is the number
of marked points. -/
def LookupsAgree (m : Mask) (g : MaskGrid) (points : List (Sample × Sample))
    (basinNumbers : List Nat) (unknownValue : Nat) : Prop :=
  ∃ inmask nInside values,
    m.pointsInside (points.map Prod.fst) (points.map Prod.snd) basinNumbers =
      .ok (inmask, nInside) ∧
    m.gridMaskValues (points.map Prod.fst) (points.map Prod.snd) unknownValue = .ok values ∧
    inmask.length = points.length ∧ values.length = points.length ∧
    (∀ i point, points[i]? = some point →
      (inmask.getD i false = true ↔
        g.Inside (m.positionOf point) ∧ values.getD i 0 ∈ basinNumbers)) ∧
    nInside = inmask.count true

/-- The mark of a point says whether its weight in `n_inside` is positive. -/
theorem any_contains_eq (cell : Option Nat) :
    cell.any basinNumbers.contains = decide (0 < cell.elim 0 basinNumbers.count) := by
  cases cell with
  | none => rfl
  | some cell =>
      rw [Bool.eq_iff_iff, decide_eq_true_eq]
      show basinNumbers.contains cell = true ↔ 0 < basinNumbers.count cell
      rw [List.contains_iff_mem, List.count_pos_iff]

/-- **The look-ups agree just on points with finite coordinates** whose cells have no
basin number that the list repeats. -/
theorem lookupsAgree_iff (harea : m.area = .grid g) (hbasins : basinNumbers ≠ [])
    (points : List (Sample × Sample)) (unknownValue : Fin 256) :
    LookupsAgree m g points basinNumbers unknownValue ↔
      (∀ point ∈ points, FinitePosition (m.positionOf point)) ∧
        ∀ point ∈ points, ∀ cell, g.cellOf (m.positionOf point) = some cell →
          basinNumbers.count cell ≤ 1 := by
  -- the marks and the sum, once every coordinate is finite
  have hsum : ((points.map fun point =>
        (g.cellOf (m.positionOf point)).elim 0 basinNumbers.count).sum =
      (points.map fun point =>
        (g.cellOf (m.positionOf point)).any basinNumbers.contains).count true) ↔
      ∀ point ∈ points, ∀ cell, g.cellOf (m.positionOf point) = some cell →
        basinNumbers.count cell ≤ 1 := by
    have hcount : (points.map fun point =>
          (g.cellOf (m.positionOf point)).any basinNumbers.contains).count true =
        (points.map fun point =>
          (g.cellOf (m.positionOf point)).elim 0 basinNumbers.count).countP (0 < ·) := by
      rw [List.count, List.countP_map, List.countP_map]
      congr 1
      funext point
      simp only [Function.comp_apply, any_contains_eq, beq_true]
    rw [hcount, sum_eq_countP_pos_iff, List.forall_mem_map]
    refine forall₂_congr fun point _ => ?_
    cases g.cellOf (m.positionOf point) with
    | none => simp
    | some cell => simp
  constructor
  · rintro ⟨inmask, nInside, values, hmarks, -, -, -, -, hcount⟩
    have hfinite := Mask.finite_of_pointsInside harea hbasins hmarks
    refine ⟨hfinite, hsum.mp ?_⟩
    rw [Mask.pointsInside_finite harea hbasins hfinite] at hmarks
    obtain ⟨rfl, rfl⟩ := Prod.mk.inj (Except.ok.inj hmarks)
    exact hcount
  · rintro ⟨hfinite, hunique⟩
    refine ⟨_, _, _, Mask.pointsInside_finite harea hbasins hfinite,
      Mask.gridMaskValues_finite harea hfinite unknownValue, List.length_map .., List.length_map ..,
      ?_, hsum.mpr hunique⟩
    intro i point hpoint
    have hposition := hfinite point (List.mem_of_getElem? hpoint)
    rw [List.getD_eq_getElem?_getD, List.getD_eq_getElem?_getD, List.getElem?_map,
      List.getElem?_map, hpoint]
    simp only [Option.map_some, Option.getD_some]
    rw [← MaskGrid.cellOf_eq_some hposition]
    cases g.cellOf (m.positionOf point) with
    | none => simp
    | some cell => simp

/-! ## Two basins in a row -/

/-- One row of two cells. -/
def basinGrid : MaskGrid where
  minxm := 0
  minym := 0
  binsize := 1
  numX := 2
  numY := 1
  cells := [[2, 3]]
  length_cells := List.length_singleton
  length_row := by simp
  cell_lt := by simp

/-- A projection that keeps numbers, and has no finite value for NaN. -/
def planeCoord : Sample → Coord
  | .num x => .finite x
  | .nan => .infinite

def basinMask : Mask where
  area := .grid basinGrid
  basinNumbers := []
  latlonToXy lat lon := (planeCoord lat, planeCoord lon)

theorem cellOf_basinGrid :
    basinGrid.cellOf (.finite 0, .finite 0) = some 2 ∧
      basinGrid.cellOf (.finite 1, .finite 0) = some 3 ∧
      basinGrid.cellOf (.finite 9, .finite 0) = none := by
  refine ⟨?_, ?_, ?_⟩ <;>
    norm_num [MaskGrid.cellOf, MaskGrid.cellAt, Coord.toIndex, basinGrid, around]

/-- A point in each basin and one outside. -/
theorem lookupsAgree_basinMask :
    LookupsAgree basinMask basinGrid [(.num 0, .num 0), (.num 1, .num 0), (.num 9, .num 0)] [2, 7]
      (0 : Fin 256) := by
  obtain ⟨hfirst, hsecond, hoff⟩ := cellOf_basinGrid
  refine (lookupsAgree_iff rfl (List.cons_ne_nil 2 [7]) _ 0).mpr ⟨?_, ?_⟩
  · simp only [List.forall_mem_cons, List.not_mem_nil, false_imp_iff, implies_true, and_true]
    exact ⟨⟨0, 0, rfl⟩, ⟨1, 0, rfl⟩, ⟨9, 0, rfl⟩⟩
  · simp only [List.forall_mem_cons, List.not_mem_nil, false_imp_iff, implies_true, and_true,
      Mask.positionOf, basinMask, planeCoord, hfirst, hsecond, hoff]
    simp

/-- **The look-ups disagree** at a point that the projection does not map, and with a
repeated basin number. -/
theorem lookups_disagree :
    ¬ LookupsAgree basinMask basinGrid [(.nan, .num 0)] [2] (0 : Fin 256) ∧
      ¬ LookupsAgree basinMask basinGrid [(.num 0, .num 0)] [2, 2] (0 : Fin 256) := by
  constructor
  · rintro ⟨inmask, nInside, values, hmarks, -⟩
    cases hmarks
  · rintro ⟨inmask, nInside, values, hmarks, -, -, -, -, hcount⟩
    have hrun : basinMask.pointsInside [.num 0] [.num 0] [2, 2] = .ok ([true], 2) := by
      norm_num [Mask.pointsInside, Mask.pointInside, forEach, basinMask, planeCoord, basinGrid,
        MaskGrid.cellAt, Coord.toIndex, around]
    obtain ⟨rfl, rfl⟩ := Prod.mk.inj (Except.ok.inj (hrun.symm.trans hmarks))
    simp at hcount

end Clev2er.Masks
