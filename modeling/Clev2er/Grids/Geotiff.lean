import Clev2er.Python
import Mathlib.Data.Rat.Floor

/-!
# GeoTIFF files

What rasterio tells of a file with one band, and `get_geotiff_extent`, which
`DEMConverter` and `Dem` have in the same words. It refuses pixels that are not square,
as far as the integer parts of their width and height go.
-/

namespace Clev2er.Grids

/-- The data type of a band, `src.dtypes[0]`. -/
inductive DType where
  | int8
  | int16
  | int32
  | int64
  | uint8
  | uint16
  | uint32
  | uint64
  | float32
  | float64
deriving DecidableEq, Repr

def DType.name : DType → String
  | .int8 => "int8"
  | .int16 => "int16"
  | .int32 => "int32"
  | .int64 => "int64"
  | .uint8 => "uint8"
  | .uint16 => "uint16"
  | .uint32 => "uint32"
  | .uint64 => "uint64"
  | .float32 => "float32"
  | .float64 => "float64"

/-- An integer type, which has no NaN. -/
def DType.isInteger : DType → Bool
  | .float32 | .float64 => false
  | _ => true

/-- `np.nan` assigned into an array of integers. -/
def nanToInteger : PyExc := ⟨.valueError, "cannot convert float NaN to integer"⟩

/-- An affine transform, its coefficients in the order of rasterio. -/
structure Affine where
  a : ℚ
  b : ℚ
  c : ℚ
  d : ℚ
  e : ℚ
  f : ℚ

/-- `transform * (col, row)`. -/
def Affine.apply (t : Affine) (col row : ℚ) : ℚ × ℚ :=
  (t.a * col + t.b * row + t.c, t.d * col + t.e * row + t.f)

/-- A file, its band apart. -/
structure Profile where
  width : Nat
  height : Nat
  transform : Affine
  dtype : DType

/-- What `get_geotiff_extent` returns. -/
structure Extent where
  width : Nat
  height : Nat
  topLeft : ℚ × ℚ
  topRight : ℚ × ℚ
  bottomLeft : ℚ × ℚ
  bottomRight : ℚ × ℚ
  pixelWidth : ℚ

/-- `int(q)`: towards zero. -/
def truncInt (q : ℚ) : Int := if 0 ≤ q then ⌊q⌋ else ⌈q⌉

/-- `int(pixel_width) == int(pixel_height)`. -/
def Profile.SquarePixels (dataset : Profile) : Prop :=
  truncInt dataset.transform.a = truncInt (-dataset.transform.e)

/-- The extent of a file with square pixels. -/
def Profile.extent (dataset : Profile) : Extent :=
  let transform := dataset.transform
  { width := dataset.width
    height := dataset.height
    topLeft := transform.apply 0 0
    topRight := transform.apply dataset.width 0
    bottomLeft := transform.apply 0 dataset.height
    bottomRight := transform.apply dataset.width dataset.height
    pixelWidth := transform.a }

/-- `get_geotiff_extent` of a file that can be read. -/
def getGeotiffExtent (dataset : Profile) : Except PyExc Extent :=
  let pixelWidth := dataset.transform.a
  let pixelHeight := -dataset.transform.e
  if truncInt pixelWidth ≠ truncInt pixelHeight then
    .error ⟨.valueError, s!"pixel_width {pixelWidth} != pixel_height {pixelHeight}"⟩
  else .ok dataset.extent

theorem getGeotiffExtent_square {dataset : Profile} (h : dataset.SquarePixels) :
    getGeotiffExtent dataset = .ok dataset.extent :=
  if_neg (not_not.mpr h)

theorem getGeotiffExtent_notSquare {dataset : Profile} (h : ¬ dataset.SquarePixels) :
    ∃ text, getGeotiffExtent dataset = .error ⟨.valueError, text⟩ :=
  ⟨_, if_pos h⟩

end Clev2er.Grids
