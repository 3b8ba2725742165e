import Clev2er.Lib.GridAxis
import Clev2er.Lib.WithNan
import Mathlib.Order.MinMax
import Mathlib.Tactic.Linarith

/-!
# Interpolating a DEM or a slope grid

`Dem.interp_dem` and `Slopes.interp_slopes` are the same code under two names:
with an in-memory grid they call scipy's `interpn` on the whole of it, with a Zarr
grid they cut out the bounding box of the query points (`chunked_interpolation`)
and interpolate in the piece.

Of scipy, `RegularGridInterpolator` is modelled as far as its documentation goes:
the fill value outside the grid, and otherwise a value that depends on the cell
of the point, its four corners, and the point. How it depends on them is the
parameter `cellValue`.
-/

namespace Clev2er.Grids

open Clev2er.Lib

variable {α V : Type} [LinearOrder α]

/-! ## Grids -/

/-- The interpolation methods in use. -/
inductive Method where
  | linear
  | nearest
deriving DecidableEq, Repr

/-- A loaded grid: `x` ascends, `y` descends (so the flipped `y` ascends), and the
flipped values are the values with their rows reversed. -/
structure Grid (α V : Type) [LinearOrder α] where
  nrows : Nat
  ncols : Nat
  x : Nat → α
  y : Nat → α
  z : Nat → Nat → V
  zFlip : Nat → Nat → V
  two_le_nrows : 2 ≤ nrows
  two_le_ncols : 2 ≤ ncols
  x_ascending : ∀ i j, i < j → j < ncols → x i < x j
  y_descending : ∀ i j, i < j → j < nrows → y j < y i
  zFlip_eq : ∀ r c, r < nrows → c < ncols → zFlip r c = z (nrows - 1 - r) c

namespace Grid

variable (g : Grid α V)

def xAxis : Axis α where
  length := g.ncols
  node := g.x
  ascending := g.x_ascending

/-- `np.flip(self.ydem)`. -/
def yAxis : Axis α where
  length := g.nrows
  node i := g.y (g.nrows - 1 - i)
  ascending i j hij hj := g.y_descending _ _ (by omega) (by omega)

theorem two_le_xAxis : 2 ≤ g.xAxis.length := g.two_le_ncols

theorem two_le_yAxis : 2 ≤ g.yAxis.length := g.two_le_nrows

/-- `np.flip(self.zdem, 0)`. -/
def flipped (r c : Nat) : V := g.z (g.nrows - 1 - r) c

end Grid

/-- A query point; either coordinate may be NaN. An infinite one is a value of `α`
beyond every node. -/
abbrev Query (α : Type) := WithNan α × WithNan α

/-- What the interpolation makes of a cell: its bounds, the values of its corners
(row by row) and the point. -/
abbrev CellValue (α V : Type) :=
  Method → (yLow yHigh xLow xHigh : α) → (v00 v01 v10 v11 : V) → (y x : α) → WithNan V

/-! ## scipy -/

/-- `RegularGridInterpolator((ys, xs), values, method, bounds_error=False,
fill_value=np.nan)` at one point. An axis of one node is its own upper node. -/
def regularGridInterpolator (cellValue : CellValue α V) (method : Method) (ys xs : Axis α)
    (values : Nat → Nat → V) (y x : α) : WithNan V :=
  if ys.inside y && xs.inside x then
    let i := ys.cellIndex y
    let j := xs.cellIndex x
    let i' := if ys.length = 1 then i else i + 1
    let j' := if xs.length = 1 then j else j + 1
    cellValue method (ys.node i) (ys.node i') (xs.node j) (xs.node j')
      (values i j) (values i j') (values i' j) (values i' j') y x
  else .nan

/-- `interpn` at one point: a NaN coordinate gives NaN. -/
def interpn (cellValue : CellValue α V) (method : Method) (ys xs : Axis α)
    (values : Nat → Nat → V) : Query α → WithNan V
  | (.num x, .num y) => regularGridInterpolator cellValue method ys xs values y x
  | _ => .nan

/-! ## The two classes -/

/-- The query points without a NaN coordinate: `x[valid_mask], y[valid_mask]`. -/
def validPoints (queries : List (Query α)) : List (α × α) :=
  queries.filterMap fun
    | (.num x, .num y) => some (x, y)
    | _ => none

/-- `chunked_interpolation`. -/
def chunkedInterpolation (cellValue : CellValue α V) (g : Grid α V) (queries : List (Query α))
    (method : Method) : List (WithNan V) :=
  let xs := (validPoints queries).map Prod.fst
  let ys := (validPoints queries).map Prod.snd
  match xs.min?, xs.max?, ys.min?, ys.max? with
  | some xMin, some xMax, some yMin, some yMax =>
      let subX := g.xAxis.cut xMin xMax g.two_le_xAxis
      let subY := g.yAxis.cut yMin yMax g.two_le_yAxis
      let subZ := fun r c => g.zFlip (g.yAxis.cutLow yMin + r) (g.xAxis.cutLow xMin + c)
      queries.map (interpn cellValue method subY subX subZ)
  | _, _, _, _ =>
      -- no valid point
      queries.map fun _ => .nan

/-- `interpn` over the whole grid, with the rows flipped in memory. -/
def wholeInterpolation (cellValue : CellValue α V) (g : Grid α V) (queries : List (Query α))
    (method : Method) : List (WithNan V) :=
  queries.map (interpn cellValue method g.yAxis g.xAxis g.flipped)

/-- A `Dem` after loading: its grid, and whether `zdem` is a Zarr array. -/
structure Dem (α V : Type) [LinearOrder α] where
  grid : Grid α V
  zarrType : Bool

/-- `Dem.chunked_interpolation`. -/
def Dem.chunkedInterpolation (cellValue : CellValue α V) (d : Dem α V) (queries : List (Query α))
    (method : Method) : List (WithNan V) :=
  Grids.chunkedInterpolation cellValue d.grid queries method

/-- `Dem.interp_dem(x, y, method)`. -/
def Dem.interpDem (cellValue : CellValue α V) (d : Dem α V) (queries : List (Query α))
    (method : Method) : List (WithNan V) :=
  if d.zarrType then d.chunkedInterpolation cellValue queries method
  else wholeInterpolation cellValue d.grid queries method

/-- A `Slopes` after loading. -/
structure Slopes (α V : Type) [LinearOrder α] where
  grid : Grid α V
  zarrType : Bool

/-- `Slopes.chunked_interpolation`. -/
def Slopes.chunkedInterpolation (cellValue : CellValue α V) (s : Slopes α V)
    (queries : List (Query α)) (method : Method) : List (WithNan V) :=
  Grids.chunkedInterpolation cellValue s.grid queries method

/-- `Slopes.interp_slopes(x, y, method)`. -/
def Slopes.interpSlopes (cellValue : CellValue α V) (s : Slopes α V) (queries : List (Query α))
    (method : Method) : List (WithNan V) :=
  if s.zarrType then s.chunkedInterpolation cellValue queries method
  else wholeInterpolation cellValue s.grid queries method

/-! ## One point in the piece -/

section Piece

variable {cellValue : CellValue α V} {method : Method} {g : Grid α V}

/-- **A point in the bounding box gets the value of the whole grid.** -/
theorem interpolator_cut {xMin xMax yMin yMax x y : α} (hx : xMin ≤ x) (hx' : x ≤ xMax)
    (hy : yMin ≤ y) (hy' : y ≤ yMax) :
    regularGridInterpolator cellValue method (g.yAxis.cut yMin yMax g.two_le_yAxis)
        (g.xAxis.cut xMin xMax g.two_le_xAxis)
        (fun r c => g.zFlip (g.yAxis.cutLow yMin + r) (g.xAxis.cutLow xMin + c)) y x =
      regularGridInterpolator cellValue method g.yAxis g.xAxis g.flipped y x := by
  have hxlen := g.two_le_xAxis
  have hylen := g.two_le_yAxis
  have hxin : (g.xAxis.cut xMin xMax g.two_le_xAxis).inside x = g.xAxis.inside x :=
    Bool.eq_iff_iff.mpr (Axis.cut_inside_iff hxlen hx hx')
  have hyin : (g.yAxis.cut yMin yMax g.two_le_yAxis).inside y = g.yAxis.inside y :=
    Bool.eq_iff_iff.mpr (Axis.cut_inside_iff hylen hy hy')
  unfold regularGridInterpolator
  rw [hxin, hyin]
  by_cases hin : (g.yAxis.inside y && g.xAxis.inside x) = true
  swap
  · rw [if_neg hin, if_neg hin]
  rw [if_pos hin, if_pos hin]
  obtain ⟨hyi, hxi⟩ := Bool.and_eq_true_iff.mp hin
  have hxcell := Axis.cut_cellIndex hxlen hx hx' hxi
  have hycell := Axis.cut_cellIndex hylen hy hy' hyi
  have hxcut := Axis.two_le_cut_length hxlen hx hx' hxi
  have hycut := Axis.two_le_cut_length hylen hy hy' hyi
  obtain ⟨hxk, -⟩ := Axis.isCell_cellIndex hxlen hxi
  obtain ⟨hyk, -⟩ := Axis.isCell_cellIndex hylen hyi
  -- the flipped Zarr array is the array flipped in memory
  have hflip : ∀ r c, r < g.nrows → c < g.ncols → g.zFlip r c = g.flipped r c := g.zFlip_eq
  have hyk' : g.yAxis.cellIndex y + 1 < g.nrows := hyk
  have hxk' : g.xAxis.cellIndex x + 1 < g.ncols := hxk
  simp only [Axis.cut_node]
  rw [if_neg (by omega : ¬ g.yAxis.length = 1), if_neg (by omega : ¬ g.xAxis.length = 1),
    if_neg (by omega : ¬ (g.yAxis.cut yMin yMax g.two_le_yAxis).length = 1),
    if_neg (by omega : ¬ (g.xAxis.cut xMin xMax g.two_le_xAxis).length = 1)]
  rw [← Nat.add_assoc, ← Nat.add_assoc, ← hycell, ← hxcell]
  rw [hflip _ _ (by omega) (by omega), hflip _ _ (by omega) (by omega),
    hflip _ _ (by omega) (by omega), hflip _ _ (by omega) (by omega)]

omit [LinearOrder α] in
theorem mem_validPoints {queries : List (Query α)} {x y : α}
    (h : ((.num x, .num y) : Query α) ∈ queries) : (x, y) ∈ validPoints queries :=
  List.mem_filterMap.mpr ⟨_, h, rfl⟩

/-- No bounding box, no valid point. -/
theorem query_nan_of_no_valid {queries : List (Query α)} (h : validPoints queries = []) {q : Query α}
    (hq : q ∈ queries) (ys xs : Axis α) (values : Nat → Nat → V) :
    interpn cellValue method ys xs values q = .nan := by
  obtain ⟨qx, qy⟩ := q
  cases qx with
  | nan => rfl
  | num x =>
      cases qy with
      | nan => rfl
      | num y =>
          have hmem := mem_validPoints hq
          rw [h] at hmem
          exact absurd hmem List.not_mem_nil

/-- **The piece gives what the whole grid gives**, at every query point. -/
theorem chunkedInterpolation_eq_whole (queries : List (Query α)) :
    chunkedInterpolation cellValue g queries method =
      wholeInterpolation cellValue g queries method := by
  unfold chunkedInterpolation wholeInterpolation
  by_cases hvalid : validPoints queries = []
  · rw [hvalid]
    apply List.map_congr_left
    intro q hq
    exact (query_nan_of_no_valid hvalid hq _ _ _).symm
  · have hxs : (validPoints queries).map Prod.fst ≠ [] := by simpa using hvalid
    have hys : (validPoints queries).map Prod.snd ≠ [] := by simpa using hvalid
    -- with a valid point there is a bounding box, and every valid point is inside it
    obtain ⟨xMin, hxMin⟩ := Option.isSome_iff_exists.mp (List.isSome_min?_of_ne_nil hxs)
    obtain ⟨xMax, hxMax⟩ := Option.isSome_iff_exists.mp (List.isSome_max?_of_ne_nil hxs)
    obtain ⟨yMin, hyMin⟩ := Option.isSome_iff_exists.mp (List.isSome_min?_of_ne_nil hys)
    obtain ⟨yMax, hyMax⟩ := Option.isSome_iff_exists.mp (List.isSome_max?_of_ne_nil hys)
    simp only [hxMin, hxMax, hyMin, hyMax]
    apply List.map_congr_left
    rintro ⟨qx, qy⟩ hq
    cases qx with
    | nan => rfl
    | num x =>
        cases qy with
        | nan => rfl
        | num y =>
            have hmem := mem_validPoints hq
            have hx : x ∈ (validPoints queries).map Prod.fst := List.mem_map_of_mem hmem
            have hy : y ∈ (validPoints queries).map Prod.snd := List.mem_map_of_mem hmem
            exact interpolator_cut ((List.min?_eq_some_iff.mp hxMin).2 x hx)
              ((List.max?_eq_some_iff.mp hxMax).2 x hx) ((List.min?_eq_some_iff.mp hyMin).2 y hy)
              ((List.max?_eq_some_iff.mp hyMax).2 y hy)

end Piece

/-- **Zarr and in-memory interpolation agree**, for DEMs and for slopes: on every
grid of two rows and two columns or more, for every list of query points and both
methods, whatever the interpolation makes of a cell. What a Zarr grid returns is
`chunked_interpolation`, which has at every query point the value of `interpn` over
the whole grid, and that is what a grid in memory returns. -/
theorem zarr_interpolation_eq (cellValue : CellValue α V) (queries : List (Query α))
    (method : Method) {d : Dem α V} {s : Slopes α V} (hd : d.zarrType = true)
    (hs : s.zarrType = true) :
    (d.interpDem cellValue queries method = d.chunkedInterpolation cellValue queries method ∧
      d.chunkedInterpolation cellValue queries method =
        queries.map (interpn cellValue method d.grid.yAxis d.grid.xAxis d.grid.flipped) ∧
      (Dem.mk d.grid false).interpDem cellValue queries method =
        queries.map (interpn cellValue method d.grid.yAxis d.grid.xAxis d.grid.flipped)) ∧
    (s.interpSlopes cellValue queries method = s.chunkedInterpolation cellValue queries method ∧
      s.chunkedInterpolation cellValue queries method =
        queries.map (interpn cellValue method s.grid.yAxis s.grid.xAxis s.grid.flipped) ∧
      (Slopes.mk s.grid false).interpSlopes cellValue queries method =
        queries.map (interpn cellValue method s.grid.yAxis s.grid.xAxis s.grid.flipped)) := by
  refine ⟨⟨?_, chunkedInterpolation_eq_whole queries, rfl⟩,
    ⟨?_, chunkedInterpolation_eq_whole queries, rfl⟩⟩
  · rw [Dem.interpDem, if_pos hd]
  · rw [Slopes.interpSlopes, if_pos hs]

/-- Linear interpolation in a cell, and the nearest corner. -/
def cellInterpolation : CellValue ℚ (WithNan ℚ)
  | .linear, yLow, yHigh, xLow, xHigh, v00, v01, v10, v11, y, x =>
      let p := (y - yLow) / (yHigh - yLow)
      let q := (x - xLow) / (xHigh - xLow)
      .num (v00 * .num ((1 - p) * (1 - q)) + v01 * .num ((1 - p) * q) +
        v10 * .num (p * (1 - q)) + v11 * .num (p * q))
  | .nearest, yLow, yHigh, xLow, xHigh, v00, v01, v10, v11, y, x =>
      let row := if y - yLow ≤ yHigh - y then (v00, v01) else (v10, v11)
      .num (if x - xLow ≤ xHigh - x then row.1 else row.2)

/-- Three rows and four columns of a kilometre; the heights rise to the east, and one
in the first row is missing. -/
def slopingGrid : Grid ℚ (WithNan ℚ) where
  nrows := 3
  ncols := 4
  x c := c * 1000
  y r := -(r * 1000)
  z r c := if r = 0 ∧ c = 3 then .nan else .num (c * 100)
  zFlip r c := if 2 - r = 0 ∧ c = 3 then .nan else .num (c * 100)
  two_le_nrows := by decide
  two_le_ncols := by decide
  x_ascending i j hij _ := by
    have hcast : (i : ℚ) < j := by exact_mod_cast hij
    linarith
  y_descending i j hij _ := by
    have hcast : (i : ℚ) < j := by exact_mod_cast hij
    linarith
  zFlip_eq _ _ _ _ := rfl

/-- A point in a cell, one on an outer node, one in a cell with a missing height, one
outside the grid and one without a coordinate. -/
def slopingQueries : List (Query ℚ) :=
  [(.num 500, .num (-500)), (.num 3000, .num (-2000)), (.num 2500, .num (-250)),
    (.num 4000, .num (-500)), (.nan, .num (-500))]

theorem zarr_interpolation_eq_sloping :
    (Dem.mk slopingGrid true).interpDem cellInterpolation slopingQueries .linear =
      [.num (.num 50), .num (.num 300), .num .nan, .nan, .nan] ∧
    (Slopes.mk slopingGrid true).interpSlopes cellInterpolation slopingQueries .nearest =
      [.num (.num 0), .num (.num 300), .num (.num 200), .nan, .nan] := by
  obtain ⟨⟨hdem, hdem', -⟩, -⟩ := zarr_interpolation_eq cellInterpolation slopingQueries .linear
    (d := Dem.mk slopingGrid true) (s := Slopes.mk slopingGrid true) rfl rfl
  obtain ⟨-, hslopes, hslopes', -⟩ := zarr_interpolation_eq cellInterpolation slopingQueries
    .nearest (d := Dem.mk slopingGrid true) (s := Slopes.mk slopingGrid true) rfl rfl
  rw [hdem, hdem', hslopes, hslopes']
  constructor
  · decide +kernel
  · decide +kernel

end Clev2er.Grids
