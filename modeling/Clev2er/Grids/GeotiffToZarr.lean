import Clev2er.Grids.Geotiff
import Clev2er.Lib.GridWrites
import Clev2er.Lib.WithNan

/-!
# `DEMConverter.convert_geotiff_to_zarr`

The tile loop that copies a single-band raster into a Zarr array and into a
second one with the rows reversed. The lengths of a tile come from the opposite
dimensions: `chunk_x`, computed from the columns, is the step over the rows. Both
arrays have the data type of the band, so an integer band cannot take the NaN of a
void cell: with a `void_value` its conversion ends at the first tile.

What is assumed of the libraries: `src.read` clips a window at the raster's edge
(`tileLength`), and a Zarr slice assignment stores the block given
(`Block.write`).
-/

namespace Clev2er.Grids

open Clev2er.Lib

variable {K : Type} [DecidableEq K]

/-! ## The conversion -/

/-- The band of the GeoTIFF, with its mask (`none` is `np.ma.nomask`: all cells are
valid). -/
structure Raster (K : Type) extends Profile where
  cell : Nat → Nat → WithNan K
  mask : Option (Nat → Nat → Bool)
  integer_num : dtype.isInteger = true → ∀ r c, cell r c ≠ .nan

/-- `int(ncols * binsize / chunk_width)` and the like. -/
def chunkLength (cells : Nat) (binsize : ℚ) (chunkWidth : Int) : Int :=
  truncInt ((cells : ℚ) * binsize / (chunkWidth : ℚ))

/-- A cell as it is stored: with a `void_value` the masked and the void cells
become NaN, without one the masked array is stored as its data. -/
def storedCell (voidValue : Option K) (raster : Raster K) (r c : Nat) : WithNan K :=
  match voidValue with
  | none => raster.cell r c
  | some v =>
      if raster.mask.any (fun masked => masked r c) then .nan
      else if raster.cell r c = .num v then .nan else raster.cell r c

/-- `data`: the window at row `i`, column `j`, clipped at the raster's edge. -/
def readWindow (voidValue : Option K) (raster : Raster K) (chunkX chunkY i j : Nat) :
    Block (WithNan K) :=
  { row := i
    col := j
    height := tileLength raster.height chunkX i
    width := tileLength raster.width chunkY j
    cell := fun r c => storedCell voidValue raster (i + r) (j + c) }

/-- `range(0, n, step)`. -/
def pyRangeOf (n : Nat) (step : Int) : Except PyExc (List Nat) :=
  if step = 0 then .error ⟨.valueError, "range() arg 3 must not be zero"⟩
  else if step < 0 then .ok []
  else .ok (pyRange n step.toNat)

/-- The corners `(i, j)` of the two loops. -/
def tileCorners (raster : Raster K) (chunkX chunkY : Int) : Except PyExc (List (Nat × Nat)) :=
  match pyRangeOf raster.height chunkX with
  | .error e => .error e
  | .ok [] => .ok []
  | .ok rows =>
      match pyRangeOf raster.width chunkY with
      | .error e => .error e
      | .ok cols => .ok (gridTiles rows cols)

/-- The exception of `data.filled(np.nan)` (of a masked array) or of the assignment of
`np.nan` into `data`, for a band of integers. -/
def voidError (voidValue : Option K) (raster : Raster K) : Option PyExc :=
  if voidValue.isSome && raster.dtype.isInteger then
    match raster.mask with
    | some _ => some ⟨.typeError, "Cannot convert fill_value nan to dtype " ++ raster.dtype.name⟩
    | none => some nanToInteger
  else none

/-- `data` after the void values have been handled. -/
def readTile (voidValue : Option K) (raster : Raster K) (chunkX chunkY : Nat)
    (corner : Nat × Nat) : Except PyExc (Block (WithNan K)) :=
  match voidError voidValue raster with
  | some e => .error e
  | none => .ok (readWindow voidValue raster chunkX chunkY corner.1 corner.2)

/-- `data[::-1, :]`, assigned to the mirrored rows. -/
def flipBlock (nrows : Nat) (b : Block (WithNan K)) : Block (WithNan K) :=
  { b with
    row := nrows - b.row - b.height
    cell := fun r c => b.cell (b.height - 1 - r) c }

/-- The slice assignments of the loop, in order, to both arrays. -/
structure ZarrWrites (K : Type) where
  zarr : List (Block (WithNan K))
  flipped : List (Block (WithNan K))

/-- The tile loop. -/
def copyTiles (voidValue : Option K) (raster : Raster K) (chunkX chunkY : Int) :
    Except PyExc (ZarrWrites K) :=
  match tileCorners raster chunkX chunkY with
  | .error e => .error e
  | .ok corners =>
      match corners.mapM (readTile voidValue raster chunkX.toNat chunkY.toNat) with
      | .error e => .error e
      | .ok data => .ok { zarr := data, flipped := data.map (flipBlock raster.height) }

/-- `convert_geotiff_to_zarr`: what fails from the opening of the arrays on becomes an
`IOError`, what `get_geotiff_extent` raises does not. -/
def convertGeotiffToZarr (voidValue : Option K) (raster : Raster K) (chunkWidth : Int) :
    Except PyExc (ZarrWrites K) :=
  match getGeotiffExtent raster.toProfile with
  | .error e => .error e
  | .ok extent =>
      if chunkWidth = 0 then .error ⟨.other "ZeroDivisionError", "float division by zero"⟩
      else
        match copyTiles voidValue raster (chunkLength extent.width extent.pixelWidth chunkWidth)
            (chunkLength extent.height extent.pixelWidth chunkWidth) with
        | .error e => .error ⟨.osError, "Failed to convert GeoTIFF to Zarr: " ++ e.text⟩
        | .ok writes => .ok writes

/-! ## Coverage -/

section Tiles

variable {voidValue : Option K} {raster : Raster K} {chunkX chunkY : Nat}

/-- The windows the loop reads, in order. -/
def windows (voidValue : Option K) (raster : Raster K) (chunkX chunkY : Nat) :
    List (Block (WithNan K)) :=
  (gridTiles (pyRange raster.height chunkX) (pyRange raster.width chunkY)).map fun t =>
    readWindow voidValue raster chunkX chunkY t.1 t.2

/-- **Every cell is read in exactly one window.** -/
theorem countP_windows (hx : 0 < chunkX) (hy : 0 < chunkY) {r c : Nat} (hr : r < raster.height)
    (hc : c < raster.width) :
    (windows voidValue raster chunkX chunkY).countP (fun b => b.covers r c) = 1 := by
  unfold windows
  rw [List.countP_map]
  have hcov : ((fun b : Block (WithNan K) => b.covers r c) ∘ fun t : Nat × Nat =>
      readWindow voidValue raster chunkX chunkY t.1 t.2) = fun t =>
        decide (t.1 ≤ r ∧ r < t.1 + tileLength raster.height chunkX t.1) &&
        decide (t.2 ≤ c ∧ c < t.2 + tileLength raster.width chunkY t.2) := rfl
  rw [hcov, countP_grid (fun i => decide (i ≤ r ∧ r < i + tileLength raster.height chunkX i))
    (fun j => decide (j ≤ c ∧ c < j + tileLength raster.width chunkY j)),
    countP_pyRange hx hr, countP_pyRange hy hc]

theorem windows_height_le {b : Block (WithNan K)}
    (hb : b ∈ windows voidValue raster chunkX chunkY) :
    b.height = 0 ∨ b.row + b.height ≤ raster.height := by
  unfold windows at hb
  obtain ⟨t, -, rfl⟩ := List.mem_map.mp hb
  show tileLength raster.height chunkX t.1 = 0 ∨
    t.1 + tileLength raster.height chunkX t.1 ≤ raster.height
  unfold tileLength
  omega

omit [DecidableEq K] in
/-- A flipped window has the mirrored rows. -/
theorem flipBlock_covers {b : Block (WithNan K)} {nrows r c : Nat} (hr : r < nrows)
    (hb : b.height = 0 ∨ b.row + b.height ≤ nrows) :
    (flipBlock nrows b).covers r c = b.covers (nrows - 1 - r) c := by
  show (decide (nrows - b.row - b.height ≤ r ∧ r < nrows - b.row - b.height + b.height) && _) =
    (decide (b.row ≤ nrows - 1 - r ∧ nrows - 1 - r < b.row + b.height) && _)
  congr 1
  rw [decide_eq_decide]
  omega

/-- **And every cell of the flipped array is written from exactly one.** -/
theorem countP_flipped (hx : 0 < chunkX) (hy : 0 < chunkY) {r c : Nat} (hr : r < raster.height)
    (hc : c < raster.width) :
    ((windows voidValue raster chunkX chunkY).map (flipBlock raster.height)).countP
      (fun b => b.covers r c) = 1 := by
  rw [List.countP_map, ← countP_windows hx hy (by omega : raster.height - 1 - r < raster.height) hc]
  apply List.countP_congr
  intro b hb
  rw [Function.comp_apply, flipBlock_covers hr (windows_height_le hb)]

/-- A window holds the cells of the raster at its place. -/
theorem windows_cell {b : Block (WithNan K)} (hb : b ∈ windows voidValue raster chunkX chunkY)
    {r c : Nat} (hcov : b.covers r c = true) :
    b.cell (r - b.row) (c - b.col) = storedCell voidValue raster r c := by
  unfold windows at hb
  obtain ⟨t, -, rfl⟩ := List.mem_map.mp hb
  simp only [Block.covers, Bool.and_eq_true, decide_eq_true_eq] at hcov
  have hrow : t.1 ≤ r := hcov.1.1
  have hcol : t.2 ≤ c := hcov.2.1
  show storedCell voidValue raster (t.1 + (r - t.1)) (t.2 + (c - t.2)) = _
  rw [Nat.add_sub_cancel' hrow, Nat.add_sub_cancel' hcol]

theorem flipped_cell {b : Block (WithNan K)} (hb : b ∈ windows voidValue raster chunkX chunkY)
    {r c : Nat} (hr : r < raster.height) (hcov : (flipBlock raster.height b).covers r c = true) :
    (flipBlock raster.height b).cell (r - (flipBlock raster.height b).row)
      (c - (flipBlock raster.height b).col) =
        storedCell voidValue raster (raster.height - 1 - r) c := by
  have hfit := windows_height_le hb
  rw [flipBlock_covers hr hfit] at hcov
  rw [← windows_cell hb hcov]
  simp only [Block.covers, Bool.and_eq_true, decide_eq_true_eq] at hcov
  -- the row inside the window is counted from its other end
  show b.cell (b.height - 1 - (r - (raster.height - b.row - b.height))) (c - b.col) = _
  congr 1
  omega

end Tiles

/-! ## The whole conversion -/

section Conversion

variable {voidValue : Option K} {raster : Raster K}

theorem pyRangeOf_pos {n : Nat} {step : Int} (h : 1 ≤ step) :
    pyRangeOf n step = .ok (pyRange n step.toNat) := by
  rw [pyRangeOf, if_neg (by omega), if_neg (by omega)]

omit [DecidableEq K] in
theorem tileCorners_eq {chunkX chunkY : Int} (hx : 1 ≤ chunkX) (hy : 1 ≤ chunkY) :
    tileCorners raster chunkX chunkY =
      .ok (gridTiles (pyRange raster.height chunkX.toNat) (pyRange raster.width chunkY.toNat)) := by
  rw [tileCorners, pyRangeOf_pos hx]
  cases pyRange raster.height chunkX.toNat with
  | nil => rfl
  | cons row rows =>
      simp only [pyRangeOf_pos hy]

/-- **The tile loop**, where no cell has to become NaN in a band of integers. -/
theorem copyTiles_eq {chunkX chunkY : Int} (hx : 1 ≤ chunkX) (hy : 1 ≤ chunkY)
    (hvoid : voidError voidValue raster = none) :
    copyTiles voidValue raster chunkX chunkY =
      .ok ⟨windows voidValue raster chunkX.toNat chunkY.toNat,
        (windows voidValue raster chunkX.toNat chunkY.toNat).map (flipBlock raster.height)⟩ := by
  have hread : readTile voidValue raster chunkX.toNat chunkY.toNat = fun corner =>
      pure (readWindow voidValue raster chunkX.toNat chunkY.toNat corner.1 corner.2) := by
    funext corner
    rw [readTile, hvoid]
    rfl
  have hdata : (gridTiles (pyRange raster.height chunkX.toNat)
      (pyRange raster.width chunkY.toNat)).mapM
        (readTile voidValue raster chunkX.toNat chunkY.toNat) =
      .ok (windows voidValue raster chunkX.toNat chunkY.toNat) := by
    rw [hread, List.mapM_pure]
    rfl
  rw [copyTiles, tileCorners_eq hx hy]
  simp only [hdata]

omit [DecidableEq K] in
theorem voidError_eq_none (h : voidValue.isSome = true → raster.dtype.isInteger = false) :
    voidError voidValue raster = none := by
  rw [voidError, if_neg]
  intro hboth
  obtain ⟨hsome, hinteger⟩ := Bool.and_eq_true_iff.mp hboth
  rw [h hsome] at hinteger
  cases hinteger

/-- A chunk length of one or more is not one of a chunk width of zero. -/
theorem chunkWidth_ne_zero {cells : Nat} {binsize : ℚ} {chunkWidth : Int}
    (h : 1 ≤ chunkLength cells binsize chunkWidth) : chunkWidth ≠ 0 := by
  rintro rfl
  rw [chunkLength, Int.cast_zero, div_zero] at h
  exact absurd h (by decide +kernel)

/-- With square pixels, the conversion is the tile loop. -/
theorem convertGeotiffToZarr_square {chunkWidth : Int} (hsquare : raster.SquarePixels)
    (hx : 1 ≤ chunkLength raster.width raster.transform.a chunkWidth) :
    convertGeotiffToZarr voidValue raster chunkWidth =
      match copyTiles voidValue raster (chunkLength raster.width raster.transform.a chunkWidth)
          (chunkLength raster.height raster.transform.a chunkWidth) with
      | .error e => .error ⟨.osError, "Failed to convert GeoTIFF to Zarr: " ++ e.text⟩
      | .ok writes => .ok writes := by
  rw [convertGeotiffToZarr, getGeotiffExtent_square hsquare]
  exact if_neg (chunkWidth_ne_zero hx)

/-- **A band of integers** cannot be converted with a `void_value`. -/
theorem convertGeotiffToZarr_integer {v : K} {chunkWidth : Int} (hsquare : raster.SquarePixels)
    (hinteger : raster.dtype.isInteger = true)
    (hx : 1 ≤ chunkLength raster.width raster.transform.a chunkWidth)
    (hy : 1 ≤ chunkLength raster.height raster.transform.a chunkWidth)
    (hheight : 0 < raster.height) (hwidth : 0 < raster.width) :
    ∃ text, convertGeotiffToZarr (some v) raster chunkWidth = .error ⟨.osError, text⟩ := by
  obtain ⟨e, he⟩ : ∃ e, voidError (some v) raster = some e := by
    rw [voidError, if_pos (by simp [hinteger])]
    cases raster.mask with
    | none => exact ⟨_, rfl⟩
    | some _ => exact ⟨_, rfl⟩
  -- the first tile is there, and it raises
  have hfirst : ∀ n (step : Nat), 0 < n → 0 < step → ∃ rest, pyRange n step = 0 :: rest := by
    intro n step hn hstep
    obtain ⟨k, hk⟩ : ∃ k, (n + step - 1) / step = k + 1 :=
      Nat.exists_eq_succ_of_ne_zero (Nat.div_pos (by omega) hstep).ne'
    rw [pyRange, hk, List.range_succ_eq_map, List.map_cons, Nat.zero_mul]
    exact ⟨_, rfl⟩
  rw [convertGeotiffToZarr_square hsquare hx, copyTiles, tileCorners_eq hx hy]
  generalize hchunkX : chunkLength raster.width raster.transform.a chunkWidth = chunkX at hx ⊢
  generalize hchunkY : chunkLength raster.height raster.transform.a chunkWidth = chunkY at hy ⊢
  obtain ⟨rows, hrows⟩ := hfirst raster.height chunkX.toNat hheight (by omega)
  obtain ⟨cols, hcols⟩ := hfirst raster.width chunkY.toNat hwidth (by omega)
  have hraises : (gridTiles (pyRange raster.height chunkX.toNat)
      (pyRange raster.width chunkY.toNat)).mapM
        (readTile (some v) raster chunkX.toNat chunkY.toNat) = .error e := by
    rw [hrows, hcols, gridTiles, List.flatMap_cons, List.map_cons, List.cons_append,
      List.mapM_cons, readTile, he]
    rfl
  simp only [hraises]
  exact ⟨_, rfl⟩

end Conversion

/-- **The conversion writes every cell of both arrays once, and writes the
raster.** For every raster with square pixels, of a floating type if a `void_value` is
given, and every chunk width that gives chunk lengths of at least one, whatever the
arrays held before: the plain array ends as the raster, the flipped one as the raster
with its rows reversed. Pixels that are not square are refused. -/
theorem convertGeotiffToZarr_exact (voidValue : Option K) (raster : Raster K) (chunkWidth : Int)
    (hx : 1 ≤ chunkLength raster.width raster.transform.a chunkWidth)
    (hy : 1 ≤ chunkLength raster.height raster.transform.a chunkWidth) :
    (raster.SquarePixels → (voidValue.isSome = true → raster.dtype.isInteger = false) →
      ∃ w, convertGeotiffToZarr voidValue raster chunkWidth = .ok w ∧
        ∀ r c, r < raster.height → c < raster.width →
          w.zarr.countP (fun b => b.covers r c) = 1 ∧
          w.flipped.countP (fun b => b.covers r c) = 1 ∧
          ∀ before : Nat → Nat → WithNan K,
            writeAll before w.zarr r c = storedCell voidValue raster r c ∧
            writeAll before w.flipped r c =
              storedCell voidValue raster (raster.height - 1 - r) c) ∧
    (¬ raster.SquarePixels →
      ∃ text, convertGeotiffToZarr voidValue raster chunkWidth = .error ⟨.valueError, text⟩) := by
  constructor
  swap
  · intro hnot
    obtain ⟨text, htext⟩ := getGeotiffExtent_notSquare hnot
    exact ⟨text, by rw [convertGeotiffToZarr, htext]⟩
  intro hsquare hdtype
  rw [convertGeotiffToZarr_square hsquare hx, copyTiles_eq hx hy (voidError_eq_none hdtype)]
  generalize hchunkX : (chunkLength raster.width raster.transform.a chunkWidth).toNat = chunkX
  generalize hchunkY : (chunkLength raster.height raster.transform.a chunkWidth).toNat = chunkY
  refine ⟨_, rfl, ?_⟩
  intro r c hr hc
  have honce : (windows voidValue raster chunkX chunkY).countP (fun b => b.covers r c) = 1 :=
    countP_windows (by omega) (by omega) hr hc
  have honce' : ((windows voidValue raster chunkX chunkY).map (flipBlock raster.height)).countP
      (fun b => b.covers r c) = 1 :=
    countP_flipped (by omega) (by omega) hr hc
  refine ⟨honce, honce', ?_⟩
  intro before
  refine ⟨?_, ?_⟩
  · apply writeAll_of_agree
    · apply List.countP_pos_iff.mp
      rw [honce]
      exact Nat.one_pos
    · intro b hb hcov
      exact windows_cell hb hcov
  · apply writeAll_of_agree
    · apply List.countP_pos_iff.mp
      rw [honce']
      exact Nat.one_pos
    · intro b hb hcov
      obtain ⟨data, hdata, rfl⟩ := List.mem_map.mp hb
      exact flipped_cell hdata hr hcov

/-- A raster of three rows and two columns of a given type, one cell of it masked; its
pixels are 100 m wide. -/
def smallRaster (dtype : DType) (pixelHeight : ℚ) : Raster ℚ where
  width := 2
  height := 3
  transform := ⟨100, 0, 0, 0, -pixelHeight, 0⟩
  dtype := dtype
  cell r c := .num ((r * 2 + c : Nat) : ℚ)
  mask := some fun r c => r == 1 && c == 1
  integer_num _ _ _ := by simp

/-- The raster cut into tiles of two rows and three columns: the second row of tiles is
a partial one. -/
theorem convertGeotiffToZarr_exact_small :
    ∃ w, convertGeotiffToZarr (some (-9999)) (smallRaster .float32 100) 100 = .ok w ∧
      writeAll (fun _ _ => .num 0) w.zarr 2 1 = .num 5 ∧
      writeAll (fun _ _ => .num 0) w.flipped 2 1 = .num 1 ∧
      writeAll (fun _ _ => .num 0) w.flipped 1 1 = .nan := by
  obtain ⟨w, hw, h⟩ := (convertGeotiffToZarr_exact (some (-9999)) (smallRaster .float32 100) 100
    (by decide +kernel) (by decide +kernel)).1 (by unfold Profile.SquarePixels; decide +kernel)
    (fun _ => rfl)
  refine ⟨w, hw, ?_, ?_, ?_⟩
  · rw [((h 2 1 (by decide) (by decide)).2.2 _).1]
    decide +kernel
  · rw [((h 2 1 (by decide) (by decide)).2.2 _).2]
    decide +kernel
  · rw [((h 1 1 (by decide) (by decide)).2.2 _).2]
    decide +kernel

/-- The same cells with pixels 50 m high, and as 16 bit integers: nothing is
written. -/
theorem convertGeotiffToZarr_refuses :
    1 ≤ chunkLength 2 100 100 ∧ 1 ≤ chunkLength 3 100 100 ∧
    (∃ text, convertGeotiffToZarr (some (-9999)) (smallRaster .float32 50) 100 =
      .error ⟨.valueError, text⟩) ∧
    ∃ text, convertGeotiffToZarr (some (-9999)) (smallRaster .int16 100) 100 =
      .error ⟨.osError, text⟩ := by
  have hx : 1 ≤ chunkLength 2 100 100 := by decide +kernel
  have hy : 1 ≤ chunkLength 3 100 100 := by decide +kernel
  refine ⟨hx, hy, ?_, ?_⟩
  · have hnot : ¬ (smallRaster .float32 50).SquarePixels := by
      unfold Profile.SquarePixels
      decide +kernel
    obtain ⟨text, htext⟩ := getGeotiffExtent_notSquare hnot
    exact ⟨text, by rw [convertGeotiffToZarr, htext]⟩
  · exact convertGeotiffToZarr_integer (by unfold Profile.SquarePixels; decide +kernel) rfl hx hy
      (by decide) (by decide)

end Clev2er.Grids
