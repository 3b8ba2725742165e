import Clev2er.Grids.Geotiff
import Clev2er.Grids.Interpolation
import Clev2er.Lib.UniformAxis

/-!
# `Dem.load_geotiff`

The node coordinates of a DEM are made with `np.linspace` from one corner of the
raster to the other, as many as there are pixels. `loadGeotiff_offset` says how far
they lie from the pixel centres: half a pixel outwards at both ends, with the
offset changing evenly in between, so only a middle node is a pixel centre.
-/

namespace Clev2er.Grids

open Clev2er.Lib

/-! ## The DEM -/

/-- A GeoTIFF with one band. -/
structure GeoTiff extends Profile where
  band : Nat → Nat → ℚ

/-- `np.linspace(start, stop, n, endpoint=True)`. -/
def linspace (start stop : ℚ) (n : Nat) : List ℚ :=
  uniformAxis start ((stop - start) / ((n : ℚ) - 1)) n

/-- The attributes that `load_geotiff` sets. -/
structure LoadedDem where
  nrows : Nat
  ncols : Nat
  xdem : List ℚ
  ydem : List ℚ
  zdem : Nat → Nat → WithNan ℚ
  mindemx : Option ℚ
  mindemy : Option ℚ
  binsize : ℚ

/-- `np.any(void_data)`: of the row and column indices of the void pixels, one is not
zero. -/
def anyVoid (dataset : GeoTiff) (voidValue : ℚ) : Bool :=
  (List.range dataset.height).any fun r => (List.range dataset.width).any fun c =>
    decide (dataset.band r c = voidValue) && (decide (r ≠ 0) || decide (c ≠ 0))

/-- NaN is assigned to the void pixels of a band of integers. -/
def voidInIntegers (voidValue : Option ℚ) (dataset : GeoTiff) : Bool :=
  dataset.dtype.isInteger && voidValue.any fun v => decide (v ≠ 0) && anyVoid dataset v

/-- The heights, with void pixels set to NaN. -/
def voidToNan (voidValue : Option ℚ) (dataset : GeoTiff) (r c : Nat) : WithNan ℚ :=
  match voidValue with
  | none => .num (dataset.band r c)
  | some v =>
      if v ≠ 0 ∧ anyVoid dataset v = true ∧ dataset.band r c = v then .nan
      else .num (dataset.band r c)

/-- The DEM made of a file with a given extent. -/
def loadedDem (voidValue : Option ℚ) (dataset : GeoTiff) (extent : Extent) : LoadedDem :=
  let xdem := linspace extent.topLeft.1 extent.topRight.1 extent.width
  let ydem := linspace extent.bottomLeft.2 extent.topLeft.2 extent.height
  { nrows := extent.height
    ncols := extent.width
    xdem := xdem
    ydem := ydem.reverse
    zdem := voidToNan voidValue dataset
    mindemx := xdem.min?
    mindemy := ydem.reverse.min?
    binsize := extent.pixelWidth }

/-- `load_geotiff`, without shared memory. -/
def loadGeotiff (voidValue : Option ℚ) (dataset : GeoTiff) : Except PyExc LoadedDem :=
  match getGeotiffExtent dataset.toProfile with
  | .error e => .error e
  | .ok extent =>
      if voidInIntegers voidValue dataset then .error nanToInteger
      else .ok (loadedDem voidValue dataset extent)

/-! ## North-up files -/

/-- A north-up file with square pixels, from its upper-left corner. -/
structure NorthUp where
  x0 : ℚ
  y0 : ℚ
  pixelSize : ℚ
  nrows : Nat
  ncols : Nat
  dtype : DType
  band : Nat → Nat → ℚ
  pixelSize_pos : 0 < pixelSize
  two_le_nrows : 2 ≤ nrows
  two_le_ncols : 2 ≤ ncols

namespace NorthUp

variable (t : NorthUp) (voidValue : Option ℚ)

def geotiff : GeoTiff where
  width := t.ncols
  height := t.nrows
  transform := ⟨t.pixelSize, 0, t.x0, 0, -t.pixelSize, t.y0⟩
  dtype := t.dtype
  band := t.band

/-- The centre of the pixels in a column. -/
def centreX (c : Nat) : ℚ := t.x0 + (c + 1 / 2) * t.pixelSize

/-- The centre of the pixels in a row. -/
def centreY (r : Nat) : ℚ := t.y0 - (r + 1 / 2) * t.pixelSize

/-- The distance of two columns of nodes. -/
def spacingX : ℚ := t.ncols * t.pixelSize / ((t.ncols : ℚ) - 1)

/-- The distance of two rows of nodes. -/
def spacingY : ℚ := t.nrows * t.pixelSize / ((t.nrows : ℚ) - 1)

/-- The DEM after loading. -/
def loaded : LoadedDem where
  nrows := t.nrows
  ncols := t.ncols
  xdem := uniformAxis t.x0 t.spacingX t.ncols
  ydem := uniformAxis t.y0 (-t.spacingY) t.nrows
  zdem := voidToNan voidValue t.geotiff
  mindemx := (uniformAxis t.x0 t.spacingX t.ncols).min?
  mindemy := (uniformAxis t.y0 (-t.spacingY) t.nrows).min?
  binsize := t.pixelSize

theorem one_lt_ncols : (1 : ℚ) < t.ncols := by exact_mod_cast t.two_le_ncols

theorem one_lt_nrows : (1 : ℚ) < t.nrows := by exact_mod_cast t.two_le_nrows

/-- **Loading a north-up file** gives nodes from corner to corner, unless NaN has to be
stored in a band of integers. -/
theorem loadGeotiff_eq :
    loadGeotiff voidValue t.geotiff =
      if voidInIntegers voidValue t.geotiff then .error nanToInteger
      else .ok (t.loaded voidValue) := by
  have hx : linspace (t.pixelSize * 0 + 0 * 0 + t.x0) (t.pixelSize * t.ncols + 0 * 0 + t.x0)
      t.ncols = uniformAxis t.x0 t.spacingX t.ncols := by
    rw [linspace, spacingX]
    congr 1 <;> ring
  have hy : (linspace (0 * 0 + -t.pixelSize * t.nrows + t.y0) (0 * 0 + -t.pixelSize * 0 + t.y0)
      t.nrows).reverse = uniformAxis t.y0 (-t.spacingY) t.nrows := by
    have hne : (t.nrows : ℚ) - 1 ≠ 0 := ne_of_gt (sub_pos.mpr t.one_lt_nrows)
    rw [linspace, uniformAxis_reverse, spacingY]
    congr 1
    · field_simp
      ring
    · ring
  have hsquare : t.geotiff.SquarePixels := by
    simp only [Profile.SquarePixels, geotiff, neg_neg]
  have hloaded : loadedDem voidValue t.geotiff t.geotiff.extent = t.loaded voidValue := by
    rw [loadedDem, loaded]
    simp only [Profile.extent, geotiff, Affine.apply]
    rw [hx, hy]
  rw [loadGeotiff, getGeotiffExtent_square hsquare, ← hloaded]

/-- A column of nodes, and how far from the pixel centres it lies. -/
theorem xdem_offset {c : Nat} (hc : c < t.ncols) :
    (t.loaded voidValue).xdem.getD c 0 =
      t.centreX c + (c / ((t.ncols : ℚ) - 1) - 1 / 2) * t.pixelSize := by
  have hne : (t.ncols : ℚ) - 1 ≠ 0 := ne_of_gt (sub_pos.mpr t.one_lt_ncols)
  rw [loaded, uniformAxis_getD hc, centreX, spacingX]
  field_simp
  ring

theorem ydem_offset {r : Nat} (hr : r < t.nrows) :
    (t.loaded voidValue).ydem.getD r 0 =
      t.centreY r - (r / ((t.nrows : ℚ) - 1) - 1 / 2) * t.pixelSize := by
  have hne : (t.nrows : ℚ) - 1 ≠ 0 := ne_of_gt (sub_pos.mpr t.one_lt_nrows)
  rw [loaded, uniformAxis_getD hr, centreY, spacingY]
  field_simp
  ring

/-! ## Interpolation -/

theorem spacingX_pos : 0 < t.spacingX :=
  div_pos (mul_pos (by linarith [t.one_lt_ncols]) t.pixelSize_pos) (sub_pos.mpr t.one_lt_ncols)

theorem spacingY_pos : 0 < t.spacingY :=
  div_pos (mul_pos (by linarith [t.one_lt_nrows]) t.pixelSize_pos) (sub_pos.mpr t.one_lt_nrows)

/-- The grid that `interp_dem` reads. -/
def grid : Grid ℚ (WithNan ℚ) where
  nrows := t.nrows
  ncols := t.ncols
  x c := (t.loaded voidValue).xdem.getD c 0
  y r := (t.loaded voidValue).ydem.getD r 0
  z := (t.loaded voidValue).zdem
  zFlip r c := (t.loaded voidValue).zdem (t.nrows - 1 - r) c
  two_le_nrows := t.two_le_nrows
  two_le_ncols := t.two_le_ncols
  x_ascending i j hij hj := by
    have hcast : (i : ℚ) < j := by exact_mod_cast hij
    rw [loaded, uniformAxis_getD (by omega), uniformAxis_getD hj]
    have := mul_lt_mul_of_pos_right hcast t.spacingX_pos
    linarith
  y_descending i j hij hj := by
    have hcast : (i : ℚ) < j := by exact_mod_cast hij
    rw [loaded, uniformAxis_getD hj, uniformAxis_getD (by omega)]
    have := mul_lt_mul_of_pos_right hcast t.spacingY_pos
    linarith
  zFlip_eq _ _ _ _ := rfl

/-- The DEM object; a GeoTIFF is not a Zarr array. -/
def dem : Dem ℚ (WithNan ℚ) := ⟨t.grid voidValue, false⟩

/-- **The nodes are the pixel centres**, and interpolating at the centre of a pixel
gives its height. -/
structure PixelCentred (cellValue : CellValue ℚ (WithNan ℚ)) : Prop where
  xdem : ∀ c, c < t.ncols → (t.loaded voidValue).xdem.getD c 0 = t.centreX c
  ydem : ∀ r, r < t.nrows → (t.loaded voidValue).ydem.getD r 0 = t.centreY r
  interpDem : ∀ r c, r < t.nrows → c < t.ncols →
    (t.dem voidValue).interpDem cellValue [(.num (t.centreX c), .num (t.centreY r))] .linear =
      [.num ((t.loaded voidValue).zdem r c)]

/-- The offset of node `k` of `n` is zero only in the middle of the axis. -/
theorem offset_eq_zero_iff {n k : Nat} (hn : (1 : ℚ) < n) :
    (k / ((n : ℚ) - 1) - 1 / 2) = 0 ↔ 2 * k + 1 = n := by
  have hpos : 0 < (n : ℚ) - 1 := sub_pos.mpr hn
  rw [sub_eq_zero, div_eq_iff (ne_of_gt hpos)]
  constructor
  · intro h
    have hcast : ((2 * k + 1 : Nat) : ℚ) = n := by
      push_cast
      linarith
    exact_mod_cast hcast
  · intro h
    rw [← h]
    push_cast
    ring

/-- A column of nodes lies on pixel centres only in the middle of the grid. -/
theorem xdem_eq_centre_iff {c : Nat} (hc : c < t.ncols) :
    (t.loaded voidValue).xdem.getD c 0 = t.centreX c ↔ 2 * c + 1 = t.ncols := by
  rw [t.xdem_offset voidValue hc, add_eq_left, mul_eq_zero, or_iff_left (ne_of_gt t.pixelSize_pos)]
  exact offset_eq_zero_iff t.one_lt_ncols

theorem ydem_eq_centre_iff {r : Nat} (hr : r < t.nrows) :
    (t.loaded voidValue).ydem.getD r 0 = t.centreY r ↔ 2 * r + 1 = t.nrows := by
  rw [t.ydem_offset voidValue hr, sub_eq_self, mul_eq_zero, or_iff_left (ne_of_gt t.pixelSize_pos)]
  exact offset_eq_zero_iff t.one_lt_nrows

/-- **Where the nodes of a north-up file lie**: every file loads, unless NaN has to be
stored in a band of integers; its nodes are offset from the pixel centres by half a
pixel at the ends and by nothing in the middle; and so no file has its nodes at the
pixel centres. -/
theorem loadGeotiff_offset (t : NorthUp) (voidValue : Option ℚ)
    (cellValue : CellValue ℚ (WithNan ℚ)) :
    loadGeotiff voidValue t.geotiff =
        (if voidInIntegers voidValue t.geotiff then .error nanToInteger
        else .ok (t.loaded voidValue)) ∧
      (∀ c, c < t.ncols →
        ((t.loaded voidValue).xdem.getD c 0 =
            t.centreX c + (c / ((t.ncols : ℚ) - 1) - 1 / 2) * t.pixelSize ∧
          ((t.loaded voidValue).xdem.getD c 0 = t.centreX c ↔ 2 * c + 1 = t.ncols))) ∧
      (∀ r, r < t.nrows →
        ((t.loaded voidValue).ydem.getD r 0 =
            t.centreY r - (r / ((t.nrows : ℚ) - 1) - 1 / 2) * t.pixelSize ∧
          ((t.loaded voidValue).ydem.getD r 0 = t.centreY r ↔ 2 * r + 1 = t.nrows))) ∧
      ¬ t.PixelCentred voidValue cellValue := by
  refine ⟨t.loadGeotiff_eq voidValue, ?_, ?_, ?_⟩
  · exact fun c hc => ⟨t.xdem_offset voidValue hc, t.xdem_eq_centre_iff voidValue hc⟩
  · exact fun r hr => ⟨t.ydem_offset voidValue hr, t.ydem_eq_centre_iff voidValue hr⟩
  · intro hcentred
    have hpos : 0 < t.ncols := by have := t.two_le_ncols; omega
    have hfirst := (t.xdem_eq_centre_iff voidValue hpos).mp (hcentred.xdem 0 hpos)
    have := t.two_le_ncols
    omega

/-- Two by two pixels of a kilometre; the heights rise to the east. -/
def twoByTwo : NorthUp where
  x0 := 0
  y0 := 0
  pixelSize := 1000
  nrows := 2
  ncols := 2
  dtype := .float32
  band _ c := if c = 0 then 0 else 100
  pixelSize_pos := by decide
  two_le_nrows := by decide
  two_le_ncols := by decide

/-- The first pixel has height zero; at its centre a quarter of the rise is found. -/
theorem interpDem_first_pixel :
    (twoByTwo.loaded none).zdem 0 0 = .num 0 ∧
      (twoByTwo.dem none).interpDem cellInterpolation
        [(.num (twoByTwo.centreX 0), .num (twoByTwo.centreY 0))] .linear = [.num (.num 25)] ∧
      ¬ twoByTwo.PixelCentred none cellInterpolation := by
  have hvalue : (twoByTwo.dem none).interpDem cellInterpolation
      [(.num (twoByTwo.centreX 0), .num (twoByTwo.centreY 0))] .linear = [.num (.num 25)] := by
    decide +kernel
  refine ⟨by decide +kernel, hvalue, ?_⟩
  intro hcentred
  have h := hcentred.interpDem 0 0 (by decide) (by decide)
  rw [hvalue] at h
  exact absurd h (by decide +kernel)

end NorthUp

end Clev2er.Grids
