import Clev2er.Areas.Area
import Clev2er.Lib.Columns
import Clev2er.Masks.Mask

/-!
# What a plot shows of its data sets

`inside_latlon_bounds`, `inside_xy_extent` and `inside_mask` of an area, and the loop of
`plot_points` that passes the data sets through them. Latitudes, longitudes and values are
arrays of their own, and each filter takes elements of all three by an array of indices.

`plotDataSets_shown` says what is left: the arrays are the columns of the records that all
filters accept, split into those without a value, those outside the valid range, the fill
values and those shown.
-/

namespace Clev2er.Areas

open Clev2er.Lib Clev2er.Masks Clev2er.Retrack

/-! ## Settings as numbers -/

/-- A setting in a comparison or in arithmetic. -/
def AreaValue.toNum : AreaValue → Except PyExc ℚ
  | .num q => .ok q
  | .bool b => .ok (if b then 1 else 0)
  | _ => .error ⟨.typeError, "a number is required"⟩

/-- A setting as a condition. -/
def AreaValue.truth : AreaValue → Bool
  | .none => false
  | .bool b => b
  | .num q => decide (q ≠ 0)
  | .str s => decide (s ≠ "")
  | .ints ns => !ns.isEmpty

/-- A scalar among the cells of a mask. They are bytes, so 256 equals none of them. -/
def AreaValue.cell : AreaValue → Nat
  | .bool b => b.toNat
  | .num q => if q.den = 1 ∧ 0 ≤ q then q.num.toNat else 256
  | _ => 256

/-- `basin_numbers`, a scalar turned into a list. -/
def AreaValue.basins : AreaValue → List Nat
  | .ints ns => ns
  | v => if v.truth then [v.cell] else []

/-- What is outside the package. -/
structure AreaLib where
  /-- `latlon_to_xy`; a position outside the projection is at positive infinity. -/
  latlonToXy : Sample → Sample → Coord × Coord
  /-- `Mask(maskname, basin_numbers)`, `none` for a mask without a name. -/
  loadMask : AreaValue → AreaValue → Except PyExc (Option Mask)

/-- `a <= b`. -/
def leCoord : Coord → Coord → Bool
  | .finite a, .finite b => decide (a ≤ b)
  | .finite _, .infinite => true
  | .infinite, .infinite => true
  | _, _ => false

/-- `a + d`. -/
def addCoord (a : Coord) (d : ℚ) : Coord :=
  match a with
  | .finite x => .finite (x + d)
  | c => c

structure Bounds where
  minlat : ℚ
  maxlat : ℚ
  minlon : ℚ
  maxlon : ℚ

def Area.bounds (area : Area) : Except PyExc Bounds := do
  let minlat ← area.minlat.toNum
  let maxlat ← area.maxlat.toNum
  let minlon ← area.minlon.toNum
  let maxlon ← area.maxlon.toNum
  .ok ⟨minlat, maxlat, minlon, maxlon⟩

structure Extent where
  xmin : Coord
  xmax : Coord
  ymin : Coord
  ymax : Coord

/-- The extent of an area, `none` where it is specified by a bounding latitude. -/
def Area.extent (lib : AreaLib) (area : Area) : Except PyExc (Option Extent) :=
  if area.specifyByCentre.truth then do
    let centreLat ← area.centreLat.toNum
    let centreLon ← area.centreLon.toNum
    let centre := lib.latlonToXy (.num centreLat) (.num centreLon)
    let widthKm ← area.widthKm.toNum
    let heightKm ← area.heightKm.toNum
    .ok (some ⟨addCoord centre.1 (-(widthKm * 1000 / 2)), addCoord centre.1 (widthKm * 1000 / 2),
      addCoord centre.2 (-(heightKm * 1000 / 2)), addCoord centre.2 (heightKm * 1000 / 2)⟩)
  else if area.specifyPlotAreaByLowerleftCorner.truth then do
    let llcornerLat ← area.llcornerLat.toNum
    let llcornerLon ← area.llcornerLon.toNum
    let ll := lib.latlonToXy (.num llcornerLat) (.num llcornerLon)
    let widthKm ← area.widthKm.toNum
    let heightKm ← area.heightKm.toNum
    .ok (some ⟨ll.1, addCoord ll.1 (widthKm * 1000), ll.2, addCoord ll.2 (heightKm * 1000)⟩)
  else if area.specifyByBoundingLat.truth then .ok none
  else .error ⟨.other "AssertionError", "area must specify by centre,lower left, or bounding lat"⟩

/-! ## The filters of an area -/

/-- `inside_latlon_bounds`. -/
def insideLatlonBounds (area : Area) (lats lons : List Sample) :
    Except PyExc (List Sample × List Sample × List Nat × Nat) := do
  let bounds ← area.bounds
  let inLatArea := both (lats.map fun lat => decide (.num bounds.minlat ≤ lat))
    (lats.map fun lat => decide (lat ≤ .num bounds.maxlat))
  let inLonArea := both (lons.map fun lon => decide (.num bounds.minlon ≤ lon))
    (lons.map fun lon => decide (lon ≤ .num bounds.maxlon))
  let boundedIndices := trueIndices (both inLatArea inLonArea)
  if 0 < boundedIndices.length then
    .ok (gather .nan lats boundedIndices, gather .nan lons boundedIndices, boundedIndices,
      boundedIndices.length)
  else .ok ([], [], [], 0)

/-- What `inside_xy_extent` returns. -/
structure InsideExtent where
  lats : List Sample
  lons : List Sample
  x : List Coord
  y : List Coord
  indices : List Nat
  nInside : Nat

/-- `inside_xy_extent`, of latitudes and longitudes. -/
def insideXyExtent (lib : AreaLib) (area : Area) (lats lons : List Sample) :
    Except PyExc InsideExtent := do
  let xy := List.zipWith lib.latlonToXy lats lons
  let x := xy.map Prod.fst
  let y := xy.map Prod.snd
  match ← area.extent lib with
  | none => .ok ⟨lats, lons, x, y, List.range lats.length, lats.length⟩
  | some e =>
      let insideArea := both (both (x.map fun v => leCoord e.xmin v) (x.map fun v => leCoord v e.xmax))
        (both (y.map fun v => leCoord e.ymin v) (y.map fun v => leCoord v e.ymax))
      let indicesInside := trueIndices insideArea
      .ok ⟨gather .nan lats indicesInside, gather .nan lons indicesInside,
        gather .nan x indicesInside, gather .nan y indicesInside, indicesInside,
        indicesInside.length⟩

/-- `points_inside(x, y, basin_numbers, inputs_are_xy=True)`, at one point. -/
def xyInside (m : Mask) (basinNumbers : List Nat) (xy : Coord × Coord) : Except PyExc Bool :=
  let chosen := if basinNumbers.isEmpty then m.basinNumbers else basinNumbers
  ({ m with latlonToXy := fun _ _ => xy }.pointInside chosen (.nan, .nan)).map Prod.fst

/-- `self.mask`, loaded if it is not. -/
def currentMask (lib : AreaLib) (area : Area) (mask : Option (Option Mask)) :
    Except PyExc (Option Mask) :=
  match mask with
  | some m => .ok m
  | none => lib.loadMask area.maskname area.basinNumbers

/-- `inside_mask`. The attribute `self.mask` is `none` as long as no mask is loaded, and
`some none` for a mask without a name. -/
def insideMask (lib : AreaLib) (area : Area) (mask : Option (Option Mask)) (x y : List Coord) :
    Except PyExc (Option (Option Mask) × List Nat × Nat) :=
  if mask = none ∧ area.masktype = .none then .ok (none, List.range x.length, x.length)
  else do
    match ← currentMask lib area mask with
    | none => .ok (some none, List.range x.length, x.length)
    | some m => do
        let inmask ← forEach (fun _ xy => xyInside m area.basinNumbers.basins xy) 0 (x.zip y)
        let indices := trueIndices inmask
        .ok (some (some m), indices, indices.length)

/-! ## Data sets -/

structure DataSet where
  lats : List Sample
  lons : List Sample
  vals : List Sample
  flagValues : List ℚ
  validRange : Option (List (Option ℚ))
  fillValue : Option ℚ
  /-- `None` if the key is missing. -/
  applyAreaMaskToData : Option AreaValue

/-- `lon % 360`. -/
def mod360 (lon : Sample) : Sample := lon.map fun x => x - 360 * ⌊x / 360⌋

/-- `valid_lat & valid_long`. -/
def validPosition (lat lon : Sample) : Bool :=
  (decide (.num (-90) ≤ lat) && decide (lat ≤ .num 90) && !lat.isNan) &&
    (decide (.num 0 ≤ lon) && decide (lon ≤ .num 360) && !lon.isNan)

/-- `np.mean(flags) * 100.0`. -/
def percent (flags : List Bool) : ℚ := (flags.count true : ℚ) / flags.length * 100

/-- A value outside the flag values, or outside the valid range. -/
def outsideRange (ds : DataSet) (v : Sample) : Bool :=
  match ds.flagValues.min?, ds.flagValues.max? with
  | some lo, some hi => decide (v < .num lo) || decide (.num hi < v)
  | _, _ =>
      match ds.validRange with
      | some [lo, hi] =>
          lo.any (fun lo => decide (v < .num lo)) || hi.any (fun hi => decide (.num hi < v))
      | _ => false

def isFill (ds : DataSet) (v : Sample) : Bool := ds.fillValue.any fun fill => decide (v = .num fill)

/-- What is drawn of a data set. -/
structure PlotData where
  lats : List Sample
  lons : List Sample
  vals : List Sample
  nanLats : List Sample
  nanLons : List Sample
  outsideLats : List Sample
  outsideLons : List Sample
  fvLats : List Sample
  fvLons : List Sample
  percentNan : ℚ
  percentOutside : ℚ
  percentFv : ℚ
  percentValid : ℚ

/-- The values that passed the filters. -/
def splitValues (ds : DataSet) (lats lons vals : List Sample) : PlotData :=
  let nanValsBool := vals.map WithNan.isNan
  let outsideValsBool := vals.map (outsideRange ds)
  let fvValsBool := vals.map (isFill ds)
  let validValsBool := both (both (nanValsBool.map not) (fvValsBool.map not))
    (outsideValsBool.map not)
  { lats := gather .nan lats (trueIndices validValsBool)
    lons := gather .nan lons (trueIndices validValsBool)
    vals := gather .nan vals (trueIndices validValsBool)
    nanLats := gather .nan lats (trueIndices nanValsBool)
    nanLons := gather .nan lons (trueIndices nanValsBool)
    outsideLats := gather .nan lats (trueIndices outsideValsBool)
    outsideLons := gather .nan lons (trueIndices outsideValsBool)
    fvLats := gather .nan lats (trueIndices fvValsBool)
    fvLons := gather .nan lons (trueIndices fvValsBool)
    percentNan := percent nanValsBool
    percentOutside := percent outsideValsBool
    percentFv := percent fvValsBool
    percentValid := percent validValsBool }

section Loop

variable (lib : AreaLib) (area : Area)

/-- One pass of the loop over the data sets, with `self.mask` before and after it; `none` for
a data set that is left out. -/
def loadDataSet (dsNum : Nat) (mask : Option (Option Mask)) (ds : DataSet) :
    Except PyExc (Option (Option Mask) × Option PlotData) :=
  let lons := ds.lons.map mod360
  if ds.vals.length ≠ ds.lats.length then
    .error ⟨.valueError,
      "length of vals array must equal lats array in data set " ++ toString dsNum⟩
  else if ds.vals.length ≠ lons.length then
    .error ⟨.valueError,
      "length of vals array must equal lons array in data set " ++ toString dsNum⟩
  else
    let validIndices := trueIndices (List.zipWith validPosition ds.lats lons)
    if validIndices.length = 0 then .ok (mask, none)
    else do
      let lats := gather .nan ds.lats validIndices
      let lons := gather .nan lons validIndices
      let vals := gather .nan ds.vals validIndices
      let (lats, lons, insideArea, nInside) ← insideLatlonBounds area lats lons
      if 0 < nInside then do
        let vals := gather .nan vals insideArea
        let e ← insideXyExtent lib area lats lons
        if 0 < e.nInside then do
          let vals := gather .nan vals e.indices
          if (ds.applyAreaMaskToData.getD area.applyAreaMaskToData).truth then do
            let (mask, insideArea, nInside) ← insideMask lib area mask e.x e.y
            if 0 < nInside then
              .ok (mask, some (splitValues ds (gather .nan e.lats insideArea)
                (gather .nan e.lons insideArea) (gather .nan vals insideArea)))
            else .ok (mask, none)
          else .ok (mask, some (splitValues ds e.lats e.lons vals))
        else .ok (mask, none)
      else .ok (mask, none)

/-- The loop, from number `dsNum` on. -/
def loadDataSets : Nat → Option (Option Mask) → List DataSet →
    Except PyExc (List (Option PlotData))
  | _, _, [] => .ok []
  | dsNum, mask, ds :: dss => do
      let (mask, shown) ← loadDataSet lib area dsNum mask ds
      let rest ← loadDataSets (dsNum + 1) mask dss
      .ok (shown :: rest)

/-- `Area.__init__` loads the mask of an area whose data are to be masked. -/
def initMask : Except PyExc (Option (Option Mask)) :=
  if area.applyAreaMaskToData.truth then
    (lib.loadMask area.maskname area.basinNumbers).map some
  else .ok none

/-- The data sets of a plot of an area. -/
def plotDataSets (dss : List DataSet) : Except PyExc (List (Option PlotData)) := do
  let mask ← initMask lib area
  loadDataSets lib area 0 mask dss

end Loop

/-! ## Records -/

/-- A latitude, a longitude and a value. -/
abbrev PlotRecord := Sample × Sample × Sample

def DataSet.records (ds : DataSet) : List PlotRecord :=
  ds.lats.zip ((ds.lons.map mod360).zip ds.vals)

/-- What the filters of an area compare with. -/
structure Filters where
  bounds : Bounds
  extent : Option Extent
  /-- `none` if the data are not masked. -/
  mask : Option Mask

def Bounds.accepts (b : Bounds) (lat lon : Sample) : Bool :=
  (decide (.num b.minlat ≤ lat) && decide (lat ≤ .num b.maxlat)) &&
    (decide (.num b.minlon ≤ lon) && decide (lon ≤ .num b.maxlon))

def Extent.accepts (e : Extent) (xy : Coord × Coord) : Bool :=
  (leCoord e.xmin xy.1 && leCoord xy.1 e.xmax) && (leCoord e.ymin xy.2 && leCoord xy.2 e.ymax)

/-- The mask has the point. -/
def maskAccepts (m : Mask) (basinNumbers : List Nat) (xy : Coord × Coord) : Bool :=
  (xyInside m basinNumbers xy).toOption.getD false

/-- The mask that `inside_mask` filters with, `none` if with none. -/
def loadedMask (lib : AreaLib) (area : Area) (mask : Option (Option Mask)) :
    Except PyExc (Option Mask) :=
  if mask = none ∧ area.masktype = .none then .ok none else currentMask lib area mask

/-- A record that all filters accept. -/
def Filters.accepts (lib : AreaLib) (area : Area) (f : Filters) (r : PlotRecord) : Bool :=
  validPosition r.1 r.2.1 && f.bounds.accepts r.1 r.2.1 &&
    f.extent.all (fun e => e.accepts (lib.latlonToXy r.1 r.2.1)) &&
    f.mask.all (fun m => maskAccepts m area.basinNumbers.basins (lib.latlonToXy r.1 r.2.1))

/-- A value that is drawn. -/
def isShown (ds : DataSet) (v : Sample) : Bool :=
  (!v.isNan && !isFill ds v) && !outsideRange ds v

/-- The share of the records whose value `p` holds for, in percent. -/
def percentOf (p : Sample → Bool) (rs : List PlotRecord) : ℚ :=
  (rs.countP fun r => p r.2.2 : ℚ) / rs.length * 100

/-- What is drawn of records. -/
def PlotData.ofRecords (ds : DataSet) (rs : List PlotRecord) : PlotData where
  lats := (rs.filter fun r => isShown ds r.2.2).map fun r => r.1
  lons := (rs.filter fun r => isShown ds r.2.2).map fun r => r.2.1
  vals := (rs.filter fun r => isShown ds r.2.2).map fun r => r.2.2
  nanLats := (rs.filter fun r => r.2.2.isNan).map fun r => r.1
  nanLons := (rs.filter fun r => r.2.2.isNan).map fun r => r.2.1
  outsideLats := (rs.filter fun r => outsideRange ds r.2.2).map fun r => r.1
  outsideLons := (rs.filter fun r => outsideRange ds r.2.2).map fun r => r.2.1
  fvLats := (rs.filter fun r => isFill ds r.2.2).map fun r => r.1
  fvLons := (rs.filter fun r => isFill ds r.2.2).map fun r => r.2.1
  percentNan := percentOf WithNan.isNan rs
  percentOutside := percentOf (outsideRange ds) rs
  percentFv := percentOf (isFill ds) rs
  percentValid := percentOf (isShown ds) rs

section Stages

variable {lib : AreaLib} {area : Area} {b : Bounds} {rs : List PlotRecord}

theorem percent_map (p : Sample → Bool) :
    percent (rs.map fun r => p r.2.2) = percentOf p rs := by
  rw [percent, percentOf, List.count_eq_countP, List.countP_map, List.length_map]
  congr 3
  apply List.countP_congr
  intro r _
  simp

/-- The columns of the records, split. -/
theorem splitValues_columns (ds : DataSet) :
    splitValues ds (rs.map fun r => r.1) (rs.map fun r => r.2.1) (rs.map fun r => r.2.2) =
      PlotData.ofRecords ds rs := by
  have hflags : ∀ p : Sample → Bool, (rs.map fun r => r.2.2).map p = rs.map fun r => p r.2.2 :=
    fun p => List.map_map ..
  have hnot : ∀ p : Sample → Bool, (rs.map fun r => p r.2.2).map not = rs.map fun r => !p r.2.2 :=
    fun p => List.map_map ..
  have hshown : percent (rs.map fun r =>
      (!r.2.2.isNan && !isFill ds r.2.2) && !outsideRange ds r.2.2) = percentOf (isShown ds) rs :=
    percent_map (isShown ds)
  simp only [splitValues, hflags, hnot, both_map, gather_trueIndices, percent_map, hshown]
  rfl

theorem insideLatlonBounds_columns (rs : List PlotRecord) (hbounds : area.bounds = .ok b) :
    ∃ indices, insideLatlonBounds area (rs.map fun r => r.1) (rs.map fun r => r.2.1) =
        .ok ((rs.filter fun r => b.accepts r.1 r.2.1).map fun r => r.1,
          (rs.filter fun r => b.accepts r.1 r.2.1).map fun r => r.2.1, indices,
          (rs.filter fun r => b.accepts r.1 r.2.1).length) ∧
      Selects indices rs (rs.filter fun r => b.accepts r.1 r.2.1) := by
  rw [insideLatlonBounds, hbounds]
  simp only [bind, Except.bind, List.map_map, Function.comp_def, both_map, gather_trueIndices,
    length_trueIndices]
  rw [show (fun r : PlotRecord => (decide (.num b.minlat ≤ r.1) && decide (r.1 ≤ .num b.maxlat)) &&
    (decide (.num b.minlon ≤ r.2.1) && decide (r.2.1 ≤ .num b.maxlon))) =
      fun r => b.accepts r.1 r.2.1 from rfl]
  split
  · exact ⟨_, rfl, selects_trueIndices _ rs⟩
  · next hempty =>
    rw [List.length_eq_zero_iff.mp (Nat.eq_zero_of_not_pos hempty)]
    exact ⟨[], rfl, selects_nil rs⟩

/-- The coordinates of a record. -/
def recordXy (lib : AreaLib) (r : PlotRecord) : Coord × Coord := lib.latlonToXy r.1 r.2.1

theorem insideXyExtent_columns (rs : List PlotRecord) {e : Option Extent}
    (hextent : area.extent lib = .ok e) :
    ∃ indices, insideXyExtent lib area (rs.map fun r => r.1) (rs.map fun r => r.2.1) =
        .ok
          { lats := (rs.filter fun r => e.all fun e => e.accepts (recordXy lib r)).map fun r => r.1
            lons := (rs.filter fun r => e.all fun e => e.accepts (recordXy lib r)).map fun r => r.2.1
            x := (rs.filter fun r => e.all fun e => e.accepts (recordXy lib r)).map fun r =>
              (recordXy lib r).1
            y := (rs.filter fun r => e.all fun e => e.accepts (recordXy lib r)).map fun r =>
              (recordXy lib r).2
            indices := indices
            nInside := (rs.filter fun r => e.all fun e => e.accepts (recordXy lib r)).length } ∧
      Selects indices rs (rs.filter fun r => e.all fun e => e.accepts (recordXy lib r)) := by
  have hxy : List.zipWith lib.latlonToXy (rs.map fun r => r.1) (rs.map fun r => r.2.1) =
      rs.map (recordXy lib) := by
    rw [List.zipWith_map, List.zipWith_self]
    rfl
  rw [insideXyExtent, hextent, hxy]
  cases e with
  | none =>
      refine ⟨List.range rs.length, ?_, ?_⟩
      · simp only [bind, Except.bind, List.map_map, Function.comp_def, List.length_map,
          Option.all_none, List.filter_true]
      · simp only [Option.all_none, List.filter_true]
        exact selects_range rs
  | some e =>
      refine ⟨trueIndices (rs.map fun r => e.accepts (recordXy lib r)), ?_, ?_⟩
      · simp only [bind, Except.bind, List.map_map, Function.comp_def, both_map, Option.all_some,
          gather_trueIndices, length_trueIndices]
        rfl
      · simp only [Option.all_some]
        exact selects_trueIndices _ rs

theorem insideMask_columns {mask mask' : Option (Option Mask)} {m : Option Mask}
    {indices : List Nat} {n : Nat}
    (hmask : loadedMask lib area mask = .ok m)
    (h : insideMask lib area mask (rs.map fun r => (recordXy lib r).1)
      (rs.map fun r => (recordXy lib r).2) = .ok (mask', indices, n)) :
    loadedMask lib area mask' = .ok m ∧
    n = (rs.filter fun r => m.all fun m =>
      maskAccepts m area.basinNumbers.basins (recordXy lib r)).length ∧
    Selects indices rs (rs.filter fun r => m.all fun m =>
      maskAccepts m area.basinNumbers.basins (recordXy lib r)) := by
  have hall : (rs.filter fun r => (none : Option Mask).all fun m =>
      maskAccepts m area.basinNumbers.basins (recordXy lib r)) = rs := by
    simp only [Option.all_none, List.filter_true]
  rw [insideMask] at h
  split at h
  · next hnone =>
    obtain ⟨rfl, htype⟩ := hnone
    rw [loadedMask, if_pos ⟨rfl, htype⟩] at hmask
    obtain rfl := Except.ok.inj hmask
    obtain ⟨rfl, hrest⟩ := Prod.mk.inj (Except.ok.inj h)
    obtain ⟨rfl, rfl⟩ := Prod.mk.inj hrest
    rw [hall, List.length_map]
    exact ⟨by rw [loadedMask, if_pos ⟨rfl, htype⟩], rfl, selects_range rs⟩
  · next hloaded =>
    obtain ⟨loaded, hload, h⟩ := except_bind_ok h
    rw [loadedMask, if_neg hloaded, hload] at hmask
    obtain rfl := Except.ok.inj hmask
    cases loaded with
    | none =>
        obtain ⟨rfl, hrest⟩ := Prod.mk.inj (Except.ok.inj h)
        obtain ⟨rfl, rfl⟩ := Prod.mk.inj hrest
        rw [hall, List.length_map]
        exact ⟨rfl, rfl, selects_range rs⟩
    | some m =>
        obtain ⟨inmask, hinmask, h⟩ := except_bind_ok h
        obtain ⟨rfl, hrest⟩ := Prod.mk.inj (Except.ok.inj h)
        obtain ⟨rfl, rfl⟩ := Prod.mk.inj hrest
        -- every point has been found inside or outside
        have hpoints : inmask = rs.map fun r =>
            maskAccepts m area.basinNumbers.basins (recordXy lib r) := by
          have hfound := forEach_ok_mem hinmask
          rw [forEach_eq_map (g := maskAccepts m area.basinNumbers.basins)] at hinmask
          · rw [← Except.ok.inj hinmask, List.zip_map', List.map_map]
            rfl
          · intro _ xy hxy
            obtain ⟨found, hxy⟩ := hfound xy hxy
            rw [maskAccepts, hxy]
            rfl
        rw [hpoints, length_trueIndices]
        exact ⟨rfl, rfl, selects_trueIndices _ rs⟩

end Stages

/-! ## The loop over the data sets -/

/-- The mask of a data set: none if it is not to be masked. -/
def maskFor (lib : AreaLib) (area : Area) (mask : Option (Option Mask)) (ds : DataSet) :
    Except PyExc (Option Mask) :=
  if (ds.applyAreaMaskToData.getD area.applyAreaMaskToData).truth then loadedMask lib area mask
  else .ok none

/-- What is drawn of a data set with these filters: nothing if they accept no record. -/
def shownWith (lib : AreaLib) (area : Area) (f : Filters) (ds : DataSet) : Option PlotData :=
  let accepted := ds.records.filter (f.accepts lib area)
  if accepted.isEmpty then none else some (PlotData.ofRecords ds accepted)

section Run

variable {lib : AreaLib} {area : Area} {b : Bounds} {e : Option Extent}

/-- The filters one after the other. -/
theorem filter_accepts (f : Filters) (rs : List PlotRecord) :
    rs.filter (f.accepts lib area) =
      (((rs.filter fun r => validPosition r.1 r.2.1).filter
        fun r => f.bounds.accepts r.1 r.2.1).filter
        fun r => f.extent.all fun e => e.accepts (recordXy lib r)).filter
        fun r => f.mask.all fun m => maskAccepts m area.basinNumbers.basins (recordXy lib r) := by
  simp only [List.filter_filter]
  apply List.filter_congr
  intro r _
  simp only [Filters.accepts, recordXy]
  ac_rfl

theorem shownWith_nil {f : Filters} {ds : DataSet}
    (h : ds.records.filter (f.accepts lib area) = []) : shownWith lib area f ds = none := by
  rw [shownWith, h]
  rfl

theorem shownWith_records {f : Filters} {ds : DataSet} {rs : List PlotRecord}
    (h : ds.records.filter (f.accepts lib area) = rs) (hne : 0 < rs.length) :
    shownWith lib area f ds = some (PlotData.ofRecords ds rs) := by
  have hempty : rs.isEmpty = false := by
    rw [List.isEmpty_eq_false_iff]
    exact List.ne_nil_of_length_pos hne
  rw [shownWith, h, hempty]
  rfl

/-- **One data set**: it shows the records that all filters accept, and the mask that later
data sets are filtered with is the same. -/
theorem loadDataSet_shown {dsNum : Nat} {mask mask' : Option (Option Mask)} {ds : DataSet}
    {shown : Option PlotData} {m : Option Mask} (hbounds : area.bounds = .ok b)
    (hextent : area.extent lib = .ok e) (hmask : maskFor lib area mask ds = .ok m)
    (h : loadDataSet lib area dsNum mask ds = .ok (mask', shown)) :
    shown = shownWith lib area ⟨b, e, m⟩ ds ∧
      loadedMask lib area mask' = loadedMask lib area mask := by
  rw [loadDataSet] at h
  split at h
  · cases h
  split at h
  · cases h
  next hlats hlons =>
  obtain ⟨rs, hrs, hlatsCol, hlonsCol, hvalsCol⟩ :=
    exists_records (not_not.mp hlats).symm (not_not.mp hlons).symm
  have hrecords : ds.records = rs := hrs.symm
  have hfilter := (congrArg (List.filter (Filters.accepts lib area ⟨b, e, m⟩)) hrecords).trans
    (filter_accepts ⟨b, e, m⟩ rs)
  simp only at hfilter
  simp only [hlatsCol, hlonsCol, hvalsCol, List.zipWith_map, List.zipWith_self, gather_trueIndices,
    length_trueIndices] at h
  generalize rs.filter (fun r => validPosition r.1 r.2.1) = rs1 at h hfilter
  split at h
  · next hempty =>
    obtain ⟨rfl, rfl⟩ := Prod.mk.inj (Except.ok.inj h)
    rw [List.length_eq_zero_iff.mp hempty] at hfilter
    exact ⟨(shownWith_nil hfilter).symm, rfl⟩
  -- the bounds
  obtain ⟨indices2, hinside2, hselects2⟩ := insideLatlonBounds_columns rs1 hbounds
  obtain ⟨_, hinside, h⟩ := except_bind_ok h
  obtain rfl := Except.ok.inj (hinside2.symm.trans hinside)
  simp only [hselects2 .nan fun r => r.2.2] at h
  generalize rs1.filter (fun r => b.accepts r.1 r.2.1) = rs2 at h hfilter
  split at h
  swap
  · next hempty =>
    obtain ⟨rfl, rfl⟩ := Prod.mk.inj (Except.ok.inj h)
    rw [List.length_eq_zero_iff.mp (Nat.eq_zero_of_not_pos hempty)] at hfilter
    exact ⟨(shownWith_nil hfilter).symm, rfl⟩
  -- the extent
  obtain ⟨indices3, hinside3, hselects3⟩ := insideXyExtent_columns rs2 hextent
  obtain ⟨_, hinside, h⟩ := except_bind_ok h
  obtain rfl := Except.ok.inj (hinside3.symm.trans hinside)
  simp only [hselects3 .nan fun r => r.2.2] at h
  generalize rs2.filter (fun r => e.all fun e => e.accepts (recordXy lib r)) = rs3 at h hfilter
  split at h
  swap
  · next hempty =>
    obtain ⟨rfl, rfl⟩ := Prod.mk.inj (Except.ok.inj h)
    rw [List.length_eq_zero_iff.mp (Nat.eq_zero_of_not_pos hempty)] at hfilter
    exact ⟨(shownWith_nil hfilter).symm, rfl⟩
  next hne3 =>
  rw [maskFor] at hmask
  split at h
  · next happly =>
    -- the mask
    rw [if_pos happly] at hmask
    obtain ⟨⟨mask'', indices4, n4⟩, hinside, h⟩ := except_bind_ok h
    obtain ⟨hmask', rfl, hselects4⟩ := insideMask_columns hmask hinside
    have hlat := hselects4 WithNan.nan fun r => r.1
    have hlon := hselects4 WithNan.nan fun r => r.2.1
    have hval := hselects4 WithNan.nan fun r => r.2.2
    simp only [hlat, hlon, hval] at h
    generalize rs3.filter (fun r => m.all fun m =>
      maskAccepts m area.basinNumbers.basins (recordXy lib r)) = rs4 at h hfilter
    split at h
    · next hne4 =>
      obtain ⟨rfl, rfl⟩ := Prod.mk.inj (Except.ok.inj h)
      rw [splitValues_columns, shownWith_records hfilter hne4, hmask, hmask']
      exact ⟨rfl, rfl⟩
    · next hempty =>
      obtain ⟨rfl, rfl⟩ := Prod.mk.inj (Except.ok.inj h)
      rw [List.length_eq_zero_iff.mp (Nat.eq_zero_of_not_pos hempty)] at hfilter
      exact ⟨(shownWith_nil hfilter).symm, hmask'.trans hmask.symm⟩
  · next happly =>
    rw [if_neg happly] at hmask
    obtain rfl := Except.ok.inj hmask
    obtain ⟨rfl, rfl⟩ := Prod.mk.inj (Except.ok.inj h)
    simp only [Option.all_none, List.filter_true] at hfilter
    rw [splitValues_columns, shownWith_records hfilter hne3]
    exact ⟨rfl, rfl⟩

theorem loadDataSets_forall {dsNum : Nat} {mask : Option (Option Mask)} {dss : List DataSet}
    {shown : List (Option PlotData)} (hbounds : area.bounds = .ok b)
    (hextent : area.extent lib = .ok e)
    (hmask : ∀ ds ∈ dss, ∃ m, maskFor lib area mask ds = .ok m)
    (h : loadDataSets lib area dsNum mask dss = .ok shown) :
    List.Forall₂ (fun ds s => ∃ m, maskFor lib area mask ds = .ok m ∧
      s = shownWith lib area ⟨b, e, m⟩ ds) dss shown := by
  induction dss generalizing dsNum mask shown with
  | nil =>
      obtain rfl := Except.ok.inj h
      exact .nil
  | cons ds dss ih =>
      obtain ⟨⟨mask', s⟩, hds, h⟩ := except_bind_ok h
      obtain ⟨rest, hrest, h⟩ := except_bind_ok h
      obtain rfl := Except.ok.inj h
      obtain ⟨m, hm⟩ := hmask ds (List.mem_cons_self ..)
      obtain ⟨hs, hmask'⟩ := loadDataSet_shown hbounds hextent hm hds
      -- the mask is the same for the data sets that follow
      have hsame : ∀ ds, maskFor lib area mask' ds = maskFor lib area mask ds := by
        intro ds
        rw [maskFor, maskFor, hmask']
      have htail := ih (fun ds hds => by
        rw [hsame]
        exact hmask ds (List.mem_cons_of_mem _ hds)) hrest
      simp only [hsame] at htail
      exact .cons ⟨m, hm, hs⟩ htail

/-! ## Percentages -/

/-- No comparison holds for NaN. -/
theorem outsideRange_nan (ds : DataSet) : outsideRange ds .nan = false := by
  unfold outsideRange
  split
  · simp
  · split
    · next lo hi _ => cases lo <;> cases hi <;> simp
    · rfl

theorem isFill_nan (ds : DataSet) : isFill ds .nan = false := by
  unfold isFill
  cases ds.fillValue <;> simp

theorem countP_shown (ds : DataSet) (rs : List PlotRecord) :
    rs.countP (fun r => isShown ds r.2.2) + rs.countP (fun r => r.2.2.isNan) +
      rs.countP (fun r => outsideRange ds r.2.2) + rs.countP (fun r => isFill ds r.2.2) =
        rs.length + rs.countP (fun r => isFill ds r.2.2 && outsideRange ds r.2.2) := by
  induction rs with
  | nil => rfl
  | cons r rs ih =>
      simp only [List.countP_cons, List.length_cons, isShown] at ih ⊢
      cases hv : r.2.2 with
      | nan =>
          simp only [outsideRange_nan, isFill_nan, WithNan.isNan_nan]
          simp
          omega
      | num v =>
          cases hfill : isFill ds (.num v) <;> cases hout : outsideRange ds (.num v) <;>
            simp <;> omega

/-- **The percentages** count a fill value outside the range twice, and every other value
once. -/
theorem percents_ofRecords (ds : DataSet) {rs : List PlotRecord} (hne : rs ≠ []) :
    percentOf (isShown ds) rs + percentOf WithNan.isNan rs + percentOf (outsideRange ds) rs +
      percentOf (isFill ds) rs = 100 + percentOf (fun v => isFill ds v && outsideRange ds v) rs := by
  have hlen : (rs.length : ℚ) ≠ 0 := by
    exact_mod_cast List.length_pos_iff.mpr hne |>.ne'
  have hcount : (rs.countP (fun r => isShown ds r.2.2) + rs.countP (fun r => r.2.2.isNan) +
      rs.countP (fun r => outsideRange ds r.2.2) + rs.countP (fun r => isFill ds r.2.2) : ℚ) =
        rs.length + rs.countP (fun r => isFill ds r.2.2 && outsideRange ds r.2.2) := by
    exact_mod_cast countP_shown ds rs
  simp only [percentOf]
  field_simp
  linarith

/-- Where the mask can be loaded, a data set has its mask. -/
theorem maskFor_ok {loaded : Option Mask}
    (hload : lib.loadMask area.maskname area.basinNumbers = .ok loaded)
    (mask : Option (Option Mask)) (ds : DataSet) : ∃ m, maskFor lib area mask ds = .ok m := by
  rw [maskFor]
  split
  · rw [loadedMask]
    split
    · exact ⟨none, rfl⟩
    · cases mask with
      | some m => exact ⟨m, rfl⟩
      | none => exact ⟨loaded, hload⟩
  · exact ⟨none, rfl⟩

/-- **What a plot shows.** For an area whose bounds, extent and mask can be had, every data
set of a plot shows, whatever the other data sets are, the records that all filters accept,
each with its own latitude, longitude and value. Its percentages add up to 100 and the
percentage of the fill values outside the range. -/
theorem plotDataSets_shown {dss : List DataSet} {shown : List (Option PlotData)}
    {loaded : Option Mask} (hbounds : area.bounds = .ok b) (hextent : area.extent lib = .ok e)
    (hload : lib.loadMask area.maskname area.basinNumbers = .ok loaded)
    (h : plotDataSets lib area dss = .ok shown) :
    ∃ mask, initMask lib area = .ok mask ∧
      List.Forall₂ (fun ds s => ∃ m, maskFor lib area mask ds = .ok m ∧
        s = shownWith lib area ⟨b, e, m⟩ ds ∧
        ∀ p, s = some p → p.percentValid + p.percentNan + p.percentOutside + p.percentFv =
          100 + percentOf (fun v => isFill ds v && outsideRange ds v)
            (ds.records.filter (Filters.accepts lib area ⟨b, e, m⟩))) dss shown := by
  obtain ⟨mask, hinit, h⟩ := except_bind_ok h
  refine ⟨mask, hinit, ?_⟩
  refine (loadDataSets_forall hbounds hextent (fun ds _ => maskFor_ok hload mask ds) h).imp ?_
  rintro ds s ⟨m, hm, hs⟩
  refine ⟨m, hm, hs, ?_⟩
  rintro p rfl
  rw [shownWith] at hs
  split at hs
  · cases hs
  · next hne =>
    obtain rfl := Option.some.inj hs
    exact percents_ofRecords ds fun hnil => hne (List.isEmpty_iff.mpr hnil)

/-- A projection on a plane, about the centre of Greenland, and a mask of 40 km. -/
def planeLib : AreaLib where
  latlonToXy lat lon :=
    match lat, mod360 lon with
    | .num lat, .num lon => (.finite ((lon - 1273 / 4) * 1000), .finite ((lat - 143 / 2) * 1000))
    | _, _ => (.nan, .nan)
  loadMask _ _ := .ok (some
    { area := .xylimits (-20000) 20000 (-20000) 20000
      basinNumbers := []
      latlonToXy := fun _ _ => (.nan, .nan) })

/-- Five heights: one is shown, one is missing, one is the fill value, one lies outside the
area, and one outside the range. -/
def fiveHeights : DataSet where
  lats := [.num 70, .num 70, .num 71, .num 20, .num 72]
  lons := [.num (-40), .num 320, .num (-45), .num (-40), .num (-60)]
  vals := [.num 1, .nan, .num (-9999), .num 5, .num 7]
  flagValues := []
  validRange := some [some 0, some 5]
  fillValue := some (-9999)
  applyAreaMaskToData := none

theorem plotDataSets_shown_fiveHeights :
    ∃ shown, plotDataSets planeLib floatingGreenland [fiveHeights, fiveHeights] = .ok shown ∧
      ∃ b e, floatingGreenland.bounds = .ok b ∧ floatingGreenland.extent planeLib = .ok e ∧
        ∃ mask, initMask planeLib floatingGreenland = .ok mask ∧
          List.Forall₂ (fun ds s => ∃ m, maskFor planeLib floatingGreenland mask ds = .ok m ∧
            s = shownWith planeLib floatingGreenland ⟨b, e, m⟩ ds ∧
            ∀ p, s = some p → p.percentValid + p.percentNan + p.percentOutside + p.percentFv =
              100 + percentOf (fun v => isFill ds v && outsideRange ds v)
                (ds.records.filter (Filters.accepts planeLib floatingGreenland ⟨b, e, m⟩)))
            [fiveHeights, fiveHeights] shown := by
  have hvals : (plotDataSets planeLib floatingGreenland [fiveHeights, fiveHeights]).toOption.map
        (List.map (Option.map fun p => (p.vals, p.percentFv))) =
      some [some ([.num 1], 25), some ([.num 1], 25)] := by
    decide +kernel
  rcases hrun : plotDataSets planeLib floatingGreenland [fiveHeights, fiveHeights] with e | shown
  · rw [hrun] at hvals
    cases hvals
  · exact ⟨shown, rfl, _, _, rfl, rfl, plotDataSets_shown rfl rfl rfl hrun⟩

end Run

end Clev2er.Areas
