import Clev2er.Lib.ForEach
import Clev2er.Retrack.Retracker

/-!
# Area masks

`Mask.points_inside` and `Mask.grid_mask_values`. A mask is a rectangle in the
coordinates of its projection, or a grid of small numbers. The projection is the
field `latlonToXy`; outside its domain it yields coordinates that are not finite,
which `grid_mask_values` looks for and `points_inside` does not.
-/

namespace Clev2er.Masks

open Clev2er.Lib Clev2er.Retrack

/-- A coordinate out of a projection. -/
inductive Coord where
  | finite (x : ℚ)
  | infinite
  | nan
deriving DecidableEq, Repr

/-- `np.isfinite`. -/
def Coord.isFinite : Coord → Bool
  | .finite _ => true
  | _ => false

/-- `lo <= x and x <= hi`. -/
def Coord.within (lo hi : ℚ) : Coord → Bool
  | .finite x => decide (lo ≤ x ∧ x ≤ hi)
  | _ => false

/-- `np.around`: halves go to the even neighbour. -/
def around (x : ℚ) : ℤ :=
  let k := ⌊x⌋
  if x - k < 1 / 2 then k
  else if 1 / 2 < x - k then k + 1
  else if k % 2 = 0 then k else k + 1

/-- `int(np.around((x - start) / binsize))`. -/
def Coord.toIndex (start binsize : ℚ) : Coord → Except PyExc ℤ
  | .finite x => .ok (around ((x - start) / binsize))
  | .nan => .error ⟨.valueError, "cannot convert float NaN to integer"⟩
  | .infinite => .error ⟨.other "OverflowError", "cannot convert float infinity to integer"⟩

/-- `mask_grid`, with its place. -/
structure MaskGrid where
  minxm : ℚ
  minym : ℚ
  binsize : ℚ
  numX : Nat
  numY : Nat
  cells : List (List Nat)
  length_cells : cells.length = numY
  length_row : ∀ row ∈ cells, row.length = numX
  cell_lt : ∀ row ∈ cells, ∀ cell ∈ row, cell < 256

/-- The value at a position, `none` outside the grid. -/
def MaskGrid.cellAt (g : MaskGrid) (x y : Coord) : Except PyExc (Option Nat) :=
  match x.toIndex g.minxm g.binsize, y.toIndex g.minym g.binsize with
  | .error e, _ => .error e
  | .ok _, .error e => .error e
  | .ok ii, .ok jj =>
      if ii < 0 ∨ g.numX ≤ ii then .ok none
      else if jj < 0 ∨ g.numY ≤ jj then .ok none
      else .ok (some ((g.cells.getD jj.toNat []).getD ii.toNat 0))

/-- `mask_type`, with what it needs. -/
inductive MaskArea where
  | xylimits (xMin xMax yMin yMax : ℚ)
  | grid (g : MaskGrid)

/-- A `Mask` object. -/
structure Mask where
  area : MaskArea
  /-- `self.basin_numbers`, empty for `None`. -/
  basinNumbers : List Nat
  latlonToXy : Sample → Sample → Coord × Coord

/-- What a point adds to `inmask` and to `n_inside`. -/
def Mask.pointInside (m : Mask) (basinNumbers : List Nat) (point : Sample × Sample) :
    Except PyExc (Bool × Nat) :=
  let (x, y) := m.latlonToXy point.1 point.2
  match m.area with
  | .xylimits xMin xMax yMin yMax =>
      if x.within xMin xMax && y.within yMin yMax then .ok (true, 1) else .ok (false, 0)
  | .grid g =>
      match g.cellAt x y with
      | .error e => .error e
      | .ok none => .ok (false, 0)
      | .ok (some cell) =>
          if basinNumbers.isEmpty then
            if 0 < cell then .ok (true, 1) else .ok (false, 0)
          else .ok (basinNumbers.contains cell, basinNumbers.count cell)

/-- `points_inside(lats, lons, basin_numbers)`: `inmask` and `n_inside`. -/
def Mask.pointsInside (m : Mask) (lats lons : List Sample) (basinNumbers : List Nat) :
    Except PyExc (List Bool × Nat) :=
  let chosen := if basinNumbers.isEmpty then m.basinNumbers else basinNumbers
  match forEach (fun _ => m.pointInside chosen) 0 (lats.zip lons) with
  | .error e => .error e
  | .ok found => .ok (found.map Prod.fst, (found.map Prod.snd).sum)

/-- `grid_mask_values(lats, lons, unknown_value)`, an array of `uint8`. -/
def Mask.gridMaskValues (m : Mask) (lats lons : List Sample) (unknownValue : Nat) :
    Except PyExc (List Nat) :=
  match m.area with
  | .xylimits _ _ _ _ =>
      .error ⟨.valueError, "grid_mask_values can only be used on grid mask types. " ++
        "Use points_inside() for other masks"⟩
  | .grid g =>
      forEach (fun _ (point : Sample × Sample) =>
        let (x, y) := m.latlonToXy point.1 point.2
        if !x.isFinite then .ok (unknownValue % 256)
        else
          match g.cellAt x y with
          | .error e => .error e
          | .ok cell => .ok (cell.getD (unknownValue % 256))) 0 (lats.zip lons)

end Clev2er.Masks
