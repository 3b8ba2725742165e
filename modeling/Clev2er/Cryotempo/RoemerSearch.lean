import Clev2er.Cryotempo.GeolocateRoemer
import Clev2er.Grids.Georeference
import Clev2er.Lib.FirstBest
import Clev2er.Lib.UniformAxis
import Mathlib.Data.Nat.Sqrt

/-!
# The search of `geolocate_roemer`

What each part of a search finds: `nanargmin_cases` for the closest location,
`usablePoints_eq` for the filters, `findPoca_cases` for `find_poca`, and
`mem_gridSegment` for the piece of the DEM. Together they give
`beamPoca_optimal`: of all nodes of the DEM inside the beam, not only of those in
the segment, the first search finds one that is closest to the satellite.
-/

namespace Clev2er.Cryotempo

open Clev2er.Lib Clev2er.Retrack

/-! ## `argmin` and `np.nanargmin` -/

/-- The comparison of the two scans. -/
def closer (a b : ℚ) : Bool := decide (a < b)

theorem ranking_closer : Ranking closer := ranking_lt

theorem argminFrom_num (xs : List ℚ) (k i : Nat) (v : ℚ) :
    some (argminFrom k (.num v) i (xs.map .num)) =
      (scanBest closer i (some (k, v)) (xs.map .num)).map Prod.fst := by
  induction xs generalizing k i v with
  | nil => rfl
  | cons x xs ih =>
      rw [List.map_cons, argminFrom, scanBest]
      by_cases hlt : x < v
      · simp [closer, hlt, ih]
      · simp [closer, hlt, ih]

/-- On numbers, `argmin` finds the first smallest. -/
theorem argmin_num (xs : List ℚ) (hne : xs ≠ []) :
    ∃ k v, argmin (xs.map .num) = .ok k ∧ FirstBest closer (xs.map .num) k v := by
  cases xs with
  | nil => exact absurd rfl hne
  | cons x xs =>
      have hscan : scanBest closer 0 none ((x :: xs).map .num) =
          scanBest closer 1 (some (0, x)) (xs.map .num) := rfl
      rcases scanBest_cases ranking_closer ((x :: xs).map .num) with ⟨-, hnan⟩ | ⟨k, v, hk, hbest⟩
      · cases hnan (.num x) (by simp)
      · refine ⟨k, v, ?_, hbest⟩
        have hfrom := argminFrom_num xs 0 1 x
        rw [← hscan, hk] at hfrom
        rw [List.map_cons, argmin, Option.some.inj hfrom]

/-- The node that `get_segment` takes for a finite coordinate. -/
theorem nearestNode_spec (v : ℚ) {nodes : List ℚ} (hne : nodes ≠ []) :
    ∃ k, nearestNode (.num v) nodes = .ok k ∧ Nearest nodes v k := by
  have hmap : nodes.map (fun node => ((.num v : Sample) - .num node).map abs) =
      (nodes.map (fun node => |v - node|)).map .num := by
    rw [List.map_map]
    rfl
  obtain ⟨k, d, hk, hbest⟩ := argmin_num (nodes.map (fun node => |v - node|)) (by simpa using hne)
  rw [← hmap] at hk
  have hentry : ∀ j, j < nodes.length →
      ((nodes.map (fun node => |v - node|)).map WithNan.num)[j]? =
        some (.num |v - nodes.getD j 0|) := by
    intro j hj
    rw [List.getElem?_map, List.getElem?_map, List.getElem?_eq_getElem hj,
      List.getD_eq_getElem _ _ hj]
    rfl
  have hlt : k < nodes.length := by simpa using hbest.lt_length
  refine ⟨k, hk, hlt, ?_⟩
  intro j hj
  have hd := hbest.entry
  rw [hentry k hlt] at hd
  have hle := hbest.best j _ (hentry j hj)
  rw [closer, decide_eq_false_iff_not, not_lt] at hle
  rwa [WithNan.num.inj (Option.some.inj hd)]

theorem nanargminFrom_eq (xs : List Sample) (i : Nat) (best : Option (Nat × ℚ)) :
    nanargminFrom i (best.map (fun b => (b.1, .num b.2))) xs =
      (scanBest closer i best xs).map (fun b => (b.1, .num b.2)) := by
  induction xs generalizing i best with
  | nil => cases best <;> rfl
  | cons x xs ih =>
      cases x with
      | nan =>
          have hscan : scanBest closer i best (.nan :: xs) = scanBest closer (i + 1) best xs := by
            cases best <;> rfl
          rw [hscan, ← ih]
          rfl
      | num x =>
          rcases best with _ | ⟨k, v⟩
          · rw [scanBest, ← ih]
            rfl
          · rw [scanBest]
            by_cases hlt : x < v
            · rw [closer, if_pos (decide_eq_true hlt), ← ih]
              exact if_pos hlt
            · rw [closer, if_neg (by simpa using hlt), ← ih]
              exact if_neg hlt

/-- **`np.nanargmin`** finds the first smallest number, and raises if there is no
number. -/
theorem nanargmin_cases (xs : List Sample) :
    (nanargmin xs = .error ⟨.valueError, "All-NaN slice encountered"⟩ ∧ ∀ x ∈ xs, x = .nan) ∨
      ∃ k v, nanargmin xs = .ok (k, .num v) ∧ FirstBest closer xs k v := by
  have hfrom := nanargminFrom_eq xs 0 none
  rw [Option.map_none] at hfrom
  rcases scanBest_cases ranking_closer xs with ⟨hnone, hnan⟩ | ⟨k, v, hk, hbest⟩
  · left
    rw [nanargmin, hfrom, hnone]
    exact ⟨rfl, hnan⟩
  · right
    refine ⟨k, v, ?_, hbest⟩
    rw [nanargmin, hfrom, hk]
    rfl

/-! ## The filters -/

section

variable (lib : RoemerLib)

/-- A location closer to the centre than the radius, with a height in the sensible
range. -/
def usable (centreX centreY : Sample) (radius : ℚ) (p : DemPoint) : Bool :=
  decide (distance2d lib centreX centreY p.x p.y < .num radius) && !p.z.isNan &&
    decide (p.z.map abs < .num 5000)

variable {lib} {points : List DemPoint} {centreX centreY nadirX nadirY altitude : Sample}
  {radius : ℚ}

/-- **The three filters together** keep the usable locations. -/
theorem usablePoints_eq :
    usablePoints lib centreX centreY radius points =
      if (points.filter (usable lib centreX centreY radius)).isEmpty then none
      else some (points.filter (usable lib centreX centreY radius)) := by
  have hvalid : ((points.filter
      (fun p => distance2d lib centreX centreY p.x p.y < .num radius)).filter
      (fun p => !p.z.isNan)).filter (fun p => decide (p.z.map abs < .num 5000)) =
      points.filter (usable lib centreX centreY radius) := by
    rw [List.filter_filter, List.filter_filter]
    apply List.filter_congr
    intro p _
    rw [usable, Bool.and_comm, Bool.and_assoc, Bool.and_comm (!p.z.isNan)]
  unfold usablePoints
  simp only
  rw [hvalid]
  split
  · next hnear =>
    rw [List.isEmpty_iff] at hnear
    rw [hnear] at hvalid
    rw [← hvalid]
    rfl
  · split
    · next hgood =>
      rw [List.isEmpty_iff] at hgood
      rw [hgood] at hvalid
      rw [← hvalid]
      rfl
    · rfl

/-- A usable location has finite coordinates and a finite height. -/
theorem usable_iff {p : DemPoint} :
    usable lib centreX centreY radius p = true ↔
      distance2d lib centreX centreY p.x p.y < .num radius ∧ ∃ h, p.z = .num h ∧ |h| < 5000 := by
  rw [usable, Bool.and_eq_true, Bool.and_eq_true, decide_eq_true_eq, decide_eq_true_eq, and_assoc]
  apply and_congr_right
  intro _
  cases p.z with
  | nan => simp
  | num h => simp

/-! ## `find_poca` -/

/-- **What `find_poca` finds**: a location closest to the satellite, which counts
unless its height is the fill value; it raises if no location has a range. -/
theorem findPoca_cases (lib : RoemerLib) (points : List DemPoint) (nadirX nadirY altitude : Sample) :
    ((∀ p ∈ points, demRange lib nadirX nadirY altitude p = .nan) ∧
        findPoca lib points nadirX nadirY altitude =
          .error ⟨.valueError, "All-NaN slice encountered"⟩) ∨
      ∃ p ∈ points, ∃ v, demRange lib nadirX nadirY altitude p = .num v ∧
        (∀ q ∈ points, ∀ w, demRange lib nadirX nadirY altitude q = .num w → v ≤ w) ∧
        findPoca lib points nadirX nadirY altitude =
          .ok (if p.z = .num (-9999) then none
            else some ⟨p.x, p.y, p.z, .num v + p.z - altitude, .num v⟩) := by
  rcases nanargmin_cases (points.map (demRange lib nadirX nadirY altitude)) with
    ⟨herror, hnan⟩ | ⟨k, v, hk, hbest⟩
  · left
    refine ⟨fun p hp => hnan _ (List.mem_map_of_mem hp), ?_⟩
    rw [findPoca, herror]
  · right
    have hlt : k < points.length := by simpa using hbest.lt_length
    have hget : points.getD k ⟨.nan, .nan, .nan⟩ = points[k] := List.getD_eq_getElem _ _ hlt
    have hrange : demRange lib nadirX nadirY altitude points[k] = .num v := by
      have h := hbest.entry
      rw [List.getElem?_map, List.getElem?_eq_getElem hlt] at h
      exact Option.some.inj h
    -- the height of a location with a range is a number
    have hz : points[k].z.isNan = false := by
      cases hz : points[k].z with
      | nan => simp [demRange, hz] at hrange
      | num h => rfl
    refine ⟨points[k], List.getElem_mem hlt, v, hrange, ?_, ?_⟩
    · intro q hq w hw
      obtain ⟨j, hj, rfl⟩ := List.mem_iff_getElem.mp hq
      have hle := hbest.best j w (by
        rw [List.getElem?_map, List.getElem?_eq_getElem hj, Option.map_some, hw])
      rwa [closer, decide_eq_false_iff_not, not_lt] at hle
    · rw [findPoca, hk]
      simp only [hget, hz, Bool.false_or, decide_eq_true_eq]
      split <;> rfl

end

/-! ## The segment -/

/-- The DEM has a node at row `i` and column `j`. -/
structure Dem.HasNode (dem : Dem) (i j : Nat) (x y : ℚ) (z : Sample) : Prop where
  x : dem.xdem[j]? = some x
  y : dem.ydem[i]? = some y
  z : ∃ row, dem.zdem[i]? = some row ∧ row[j]? = some z

/-- The location that `get_segment` gives for a node. -/
def gridPoint (x y : ℚ) (z : Sample) : DemPoint :=
  if z.isNan then ⟨.nan, .nan, z⟩ else ⟨.num x, .num y, z⟩

/-- **The locations of a segment** are the nodes of its rows and columns. -/
theorem mem_gridSegment {dem : Dem} {s : Square} {minx maxx miny maxy : Nat}
    (hminx : nearestNode s.xMin dem.xdem = .ok minx)
    (hmaxx : nearestNode s.xMax dem.xdem = .ok maxx)
    (hminy : nearestNode s.yMin dem.ydem = .ok miny)
    (hmaxy : nearestNode s.yMax dem.ydem = .ok maxy) :
    ∃ rows, dem.getGridSegment s = .ok rows ∧ ∀ p, p ∈ rows.flatten ↔
      ∃ i j x y z, maxy ≤ i ∧ i < miny ∧ minx ≤ j ∧ j < maxx ∧ dem.HasNode i j x y z ∧
        p = gridPoint x y z := by
  have hsegment : dem.getSegment s = .ok (slice dem.xdem minx maxx, slice dem.ydem maxy miny,
      (slice dem.zdem maxy miny).map (fun row => slice row minx maxx)) := by
    rw [Dem.getSegment, hminx, hmaxx, hminy, hmaxy]
    rfl
  refine ⟨_, by rw [Dem.getGridSegment, hsegment], ?_⟩
  intro p
  rw [List.zipWith_map_right, List.mem_flatten]
  constructor
  · rintro ⟨row, hrow, hp⟩
    obtain ⟨i, y, zs, hi, hi', hy, hz, rfl⟩ := mem_zipWith_slice.mp hrow
    obtain ⟨j, x, z, hj, hj', hx, hz', rfl⟩ := mem_zipWith_slice.mp hp
    exact ⟨i, j, x, y, z, hi, hi', hj, hj', ⟨hx, hy, zs, hz, hz'⟩, rfl⟩
  · rintro ⟨i, j, x, y, z, hi, hi', hj, hj', ⟨hx, hy, zs, hz, hz'⟩, rfl⟩
    exact ⟨_, mem_zipWith_slice.mpr ⟨i, y, zs, hi, hi', hy, hz, rfl⟩,
      mem_zipWith_slice.mpr ⟨j, x, z, hj, hj', hx, hz', rfl⟩⟩

/-! ## The first search -/

section Beam

/-- What the search needs of `np.sqrt`: it is increasing, and exact at the square of
one radius. (On the rational numbers it cannot be exact everywhere.) -/
structure SquareRoot (sqrt : ℚ → ℚ) (radius : ℚ) : Prop where
  nonneg : ∀ a, 0 ≤ a → 0 ≤ sqrt a
  increasing : ∀ a b, 0 ≤ a → a < b → sqrt a < sqrt b
  exact : sqrt (radius * radius) = radius

theorem SquareRoot.le_iff {sqrt : ℚ → ℚ} {radius a b : ℚ} (h : SquareRoot sqrt radius)
    (ha : 0 ≤ a) (hb : 0 ≤ b) : sqrt a ≤ sqrt b ↔ a ≤ b := by
  constructor
  · intro hle
    by_contra hlt
    exact absurd (h.increasing b a hb (not_le.mp hlt)) (not_lt.mpr hle)
  · intro hle
    rcases lt_or_eq_of_le hle with hlt | rfl
    · exact (h.increasing a b ha hlt).le
    · exact le_refl _

theorem SquareRoot.lt_iff {sqrt : ℚ → ℚ} {radius a : ℚ} (h : SquareRoot sqrt radius)
    (ha : 0 ≤ a) : sqrt a < radius ↔ a < radius * radius := by
  rw [← not_le, ← not_le, not_iff_not]
  nth_rewrite 1 [← h.exact]
  exact h.le_iff (mul_self_nonneg radius) ha

variable (nadirX nadirY altitude : ℚ)

/-- The squared horizontal distance from nadir. -/
def horizontalSquared (x y : ℚ) : ℚ := (x - nadirX) * (x - nadirX) + (y - nadirY) * (y - nadirY)

/-- The squared range to the satellite, with the curvature of the earth. -/
def rangeSquared (x y h : ℚ) : ℚ :=
  horizontalSquared nadirX nadirY x y +
    (h - altitude - horizontalSquared nadirX nadirY x y / (2 * earthRadius)) *
      (h - altitude - horizontalSquared nadirX nadirY x y / (2 * earthRadius))

/-- A node of the DEM at horizontal distance less than `radius` from nadir, with a
height in the sensible range. -/
structure Dem.BeamNode (dem : Dem) (radius : ℚ) (i j : Nat) (x y h : ℚ) : Prop where
  node : dem.HasNode i j x y (.num h)
  near : horizontalSquared nadirX nadirY x y < radius * radius
  sensible : |h| < 5000

variable {nadirX nadirY altitude}

theorem horizontalSquared_nonneg (x y : ℚ) : 0 ≤ horizontalSquared nadirX nadirY x y :=
  add_nonneg (mul_self_nonneg _) (mul_self_nonneg _)

theorem rangeSquared_nonneg (x y h : ℚ) : 0 ≤ rangeSquared nadirX nadirY altitude x y h :=
  add_nonneg (horizontalSquared_nonneg x y) (mul_self_nonneg _)

variable {lib : RoemerLib}

theorem demRange_num (x y h : ℚ) :
    demRange lib (.num nadirX) (.num nadirY) (.num altitude) ⟨.num x, .num y, .num h⟩ =
      .num (lib.sqrt (rangeSquared nadirX nadirY altitude x y h)) := rfl

/-- The usable locations of a segment are the nodes in the beam. -/
theorem usable_gridPoint {radius x y : ℚ} {z : Sample} (hsqrt : SquareRoot lib.sqrt radius) :
    usable lib (.num nadirX) (.num nadirY) radius (gridPoint x y z) = true ↔
      ∃ h, z = .num h ∧ horizontalSquared nadirX nadirY x y < radius * radius ∧ |h| < 5000 := by
  rw [usable_iff]
  cases z with
  | nan => simp [gridPoint]
  | num h =>
      have hnear : distance2d lib (.num nadirX) (.num nadirY) (gridPoint x y (.num h)).x
          (gridPoint x y (.num h)).y < .num radius ↔
          horizontalSquared nadirX nadirY x y < radius * radius :=
        hsqrt.lt_iff (horizontalSquared_nonneg x y)
      rw [hnear]
      constructor
      · rintro ⟨hlt, h', heq, hsensible⟩
        obtain rfl := WithNan.num.inj heq
        exact ⟨h, rfl, hlt, hsensible⟩
      · rintro ⟨h', heq, hlt, hsensible⟩
        obtain rfl := WithNan.num.inj heq
        exact ⟨hlt, h, rfl, hsensible⟩

/-- A coordinate of a location near nadir. -/
theorem abs_lt_of_horizontalSquared {radius x y : ℚ} (hradius : 0 ≤ radius)
    (h : horizontalSquared nadirX nadirY x y < radius * radius) :
    |x - nadirX| < radius ∧ |y - nadirY| < radius := by
  have hx := mul_self_nonneg (x - nadirX)
  have hy := mul_self_nonneg (y - nadirY)
  unfold horizontalSquared at h
  constructor
  · exact abs_lt_of_sq_lt_sq (by rw [sq, sq]; linarith) hradius
  · exact abs_lt_of_sq_lt_sq (by rw [sq, sq]; linarith) hradius

/-- Nodes at uniform spacings of at most two bins, `x` ascending and `y`
descending. -/
structure Dem.Uniform (dem : Dem) (x0 y0 spacingX spacingY : ℚ) (nrows ncols : Nat) : Prop where
  xdem : dem.xdem = uniformAxis x0 spacingX ncols
  ydem : dem.ydem = uniformAxis y0 (-spacingY) nrows
  spacingX_pos : 0 < spacingX
  spacingY_pos : 0 < spacingY
  spacingX_le : spacingX ≤ 2 * dem.binsize
  spacingY_le : spacingY ≤ 2 * dem.binsize

/-- The DEM of a GeoTIFF, as the search reads it. -/
def Dem.ofGeotiff (loaded : Grids.LoadedDem) : Dem where
  xdem := loaded.xdem
  ydem := loaded.ydem
  zdem := (List.range loaded.nrows).map fun r => (List.range loaded.ncols).map (loaded.zdem r)
  binsize := loaded.binsize

/-- `load_geotiff` spaces the nodes by more than a bin, and by two bins at most. -/
theorem uniform_ofGeotiff (t : Grids.NorthUp) (voidValue : Option ℚ) :
    (Dem.ofGeotiff (t.loaded voidValue)).Uniform t.x0 t.y0 t.spacingX t.spacingY t.nrows
      t.ncols where
  xdem := rfl
  ydem := rfl
  spacingX_pos := t.spacingX_pos
  spacingY_pos := t.spacingY_pos
  spacingX_le := by
    have htwo : (2 : ℚ) ≤ t.ncols := by exact_mod_cast t.two_le_ncols
    show t.ncols * t.pixelSize / ((t.ncols : ℚ) - 1) ≤ 2 * t.pixelSize
    rw [div_le_iff₀ (sub_pos.mpr t.one_lt_ncols)]
    nlinarith [t.pixelSize_pos]
  spacingY_le := by
    have htwo : (2 : ℚ) ≤ t.nrows := by exact_mod_cast t.two_le_nrows
    show t.nrows * t.pixelSize / ((t.nrows : ℚ) - 1) ≤ 2 * t.pixelSize
    rw [div_le_iff₀ (sub_pos.mpr t.one_lt_nrows)]
    nlinarith [t.pixelSize_pos]

/-- A square about nadir lies between the outer nodes. -/
structure InsideExtent (x0 y0 spacingX spacingY : ℚ) (nrows ncols : Nat)
    (nadirX nadirY halfWidth : ℚ) : Prop where
  left : x0 ≤ nadirX - halfWidth
  right : nadirX + halfWidth ≤ x0 + ((ncols : ℚ) - 1) * spacingX
  top : nadirY + halfWidth ≤ y0
  bottom : y0 - ((nrows : ℚ) - 1) * spacingY ≤ nadirY - halfWidth

/-- **The segment has every node of the beam.** -/
theorem segment_complete {dem : Dem} {x0 y0 spacingX spacingY radius : ℚ} {nrows ncols : Nat}
    {minx maxx miny maxy i j : Nat} {x y h : ℚ}
    (hdem : dem.Uniform x0 y0 spacingX spacingY nrows ncols) (hradius : 0 ≤ radius)
    (hinside : InsideExtent x0 y0 spacingX spacingY nrows ncols nadirX nadirY
      (radius + dem.binsize))
    (hminx : Nearest dem.xdem (nadirX - (radius + dem.binsize)) minx)
    (hmaxx : Nearest dem.xdem (nadirX + (radius + dem.binsize)) maxx)
    (hminy : Nearest dem.ydem (nadirY - (radius + dem.binsize)) miny)
    (hmaxy : Nearest dem.ydem (nadirY + (radius + dem.binsize)) maxy)
    (hnode : dem.BeamNode nadirX nadirY radius i j x y h) :
    maxy ≤ i ∧ i < miny ∧ minx ≤ j ∧ j < maxx := by
  obtain ⟨hnearX, hnearY⟩ := abs_lt_of_horizontalSquared hradius hnode.near
  rw [hdem.xdem] at hminx hmaxx
  rw [hdem.ydem] at hminy hmaxy
  have hxj : x = x0 + j * spacingX := by
    have hget := hnode.node.x
    rw [hdem.xdem, uniformAxis, List.getElem?_map] at hget
    obtain ⟨k, hk, rfl⟩ := Option.map_eq_some_iff.mp hget
    obtain ⟨-, rfl⟩ := List.getElem?_eq_some_iff.mp hk
    rw [List.getElem_range]
  have hyi : y = y0 - i * spacingY := by
    have hget := hnode.node.y
    rw [hdem.ydem, uniformAxis, List.getElem?_map] at hget
    obtain ⟨k, hk, rfl⟩ := Option.map_eq_some_iff.mp hget
    obtain ⟨-, rfl⟩ := List.getElem?_eq_some_iff.mp hk
    rw [List.getElem_range]
    ring
  rw [hxj] at hnearX
  rw [hyi] at hnearY
  obtain ⟨hj, hj'⟩ := crop_ascending hdem.spacingX_pos hdem.spacingX_le hminx hmaxx hradius
    hinside.left hinside.right hnearX
  obtain ⟨hi, hi'⟩ := crop_descending hdem.spacingY_pos hdem.spacingY_le hmaxy hminy hradius
    hinside.top hinside.bottom hnearY
  exact ⟨hi, hi', hj, hj'⟩

/-- **The usable locations of the segment** are the nodes of the beam, if there is
one. -/
theorem segment_beamNodes {dem : Dem} {x0 y0 spacingX spacingY radius : ℚ} {nrows ncols : Nat}
    (hdem : dem.Uniform x0 y0 spacingX spacingY nrows ncols) (hradius : 0 ≤ radius)
    (hinside : InsideExtent x0 y0 spacingX spacingY nrows ncols nadirX nadirY
      (radius + dem.binsize))
    (hsqrt : SquareRoot lib.sqrt radius)
    (hfirst : ∃ i j x y h, dem.BeamNode nadirX nadirY radius i j x y h) :
    ∃ rows, dem.getGridSegment (squareAbout (.num nadirX) (.num nadirY) (radius + dem.binsize)) =
        .ok rows ∧
      ∀ p, p ∈ rows.flatten.filter (usable lib (.num nadirX) (.num nadirY) radius) ↔
        ∃ i j x y h, dem.BeamNode nadirX nadirY radius i j x y h ∧
          p = ⟨.num x, .num y, .num h⟩ := by
  obtain ⟨i, j, x, y, h, hnode⟩ := hfirst
  have hx : dem.xdem ≠ [] := by
    intro hnil
    have hget := hnode.node.x
    rw [hnil] at hget
    cases hget
  have hy : dem.ydem ≠ [] := by
    intro hnil
    have hget := hnode.node.y
    rw [hnil] at hget
    cases hget
  obtain ⟨minx, hminx, hminx'⟩ := nearestNode_spec (nadirX - (radius + dem.binsize)) hx
  obtain ⟨maxx, hmaxx, hmaxx'⟩ := nearestNode_spec (nadirX + (radius + dem.binsize)) hx
  obtain ⟨miny, hminy, hminy'⟩ := nearestNode_spec (nadirY - (radius + dem.binsize)) hy
  obtain ⟨maxy, hmaxy, hmaxy'⟩ := nearestNode_spec (nadirY + (radius + dem.binsize)) hy
  obtain ⟨rows, hrows, hmem⟩ := mem_gridSegment
    (s := squareAbout (.num nadirX) (.num nadirY) (radius + dem.binsize)) hminx hmaxx hminy hmaxy
  refine ⟨rows, hrows, fun p => ?_⟩
  rw [List.mem_filter, hmem]
  constructor
  · rintro ⟨⟨i, j, x, y, z, -, -, -, -, hnode, rfl⟩, hp⟩
    obtain ⟨h, rfl, hnear, hsensible⟩ := (usable_gridPoint hsqrt).mp hp
    exact ⟨i, j, x, y, h, ⟨hnode, hnear, hsensible⟩, rfl⟩
  · rintro ⟨i, j, x, y, h, hnode, rfl⟩
    obtain ⟨hi, hi', hj, hj'⟩ :=
      segment_complete hdem hradius hinside hminx' hmaxx' hminy' hmaxy' hnode
    exact ⟨⟨i, j, x, y, .num h, hi, hi', hj, hj', hnode.node, rfl⟩,
      (usable_gridPoint hsqrt (z := .num h)).mpr ⟨h, rfl, hnode.near, hnode.sensible⟩⟩

/-- The first search without filter and dh/dt: `find_poca` of the usable locations. -/
theorem beamPoca_eq_findPoca {cfg : RoemerConfig} {dem : Dem} {yearDifference : ℚ}
    {nadirX nadirY altitude : Sample} {rows : List (List DemPoint)} {p : DemPoint}
    (hmedian : cfg.medianFilter = false) (hdhdt : cfg.includeDhdtCorrection = false)
    (hrows : dem.getGridSegment
      (squareAbout nadirX nadirY (cfg.acrossTrackBeamWidth / 2 + dem.binsize)) = .ok rows)
    (hp : p ∈ rows.flatten.filter (usable lib nadirX nadirY (cfg.acrossTrackBeamWidth / 2))) :
    beamPoca cfg lib dem yearDifference nadirX nadirY altitude =
      findPoca lib (rows.flatten.filter (usable lib nadirX nadirY (cfg.acrossTrackBeamWidth / 2)))
        nadirX nadirY altitude := by
  have hsome : (rows.flatten.filter
      (usable lib nadirX nadirY (cfg.acrossTrackBeamWidth / 2))).isEmpty = false := by
    rw [List.isEmpty_eq_false_iff]
    exact List.ne_nil_of_mem hp
  have hcorrected : correctedHeight cfg lib yearDifference = id := by
    funext p
    rw [correctedHeight, hdhdt]
    rfl
  rw [beamPoca, hrows]
  simp only [hmedian, Bool.false_eq_true, if_false]
  rw [searchPoca, usablePoints_eq, hsome]
  simp only [Bool.false_eq_true, if_false]
  rw [hcorrected, List.map_id]

/-- **The first search is complete and optimal.** For a DEM of uniform spacing, a
record whose square lies inside it, no filter and no dh/dt, and one node in the
beam at least: the POCA is a node of the beam, no node of the beam is closer to
the satellite, and the slope correction is its range plus its height minus the
altitude. -/
theorem beamPoca_optimal (cfg : RoemerConfig) (lib : RoemerLib) (dem : Dem)
    (nadirX nadirY altitude yearDifference x0 y0 spacingX spacingY : ℚ) (nrows ncols : Nat)
    (hmedian : cfg.medianFilter = false) (hdhdt : cfg.includeDhdtCorrection = false)
    (hdem : dem.Uniform x0 y0 spacingX spacingY nrows ncols)
    (hinside : InsideExtent x0 y0 spacingX spacingY nrows ncols nadirX nadirY
      (cfg.acrossTrackBeamWidth / 2 + dem.binsize))
    (hsqrt : SquareRoot lib.sqrt (cfg.acrossTrackBeamWidth / 2))
    (husable : ∃ i j x y h, dem.BeamNode nadirX nadirY (cfg.acrossTrackBeamWidth / 2) i j x y h) :
    ∃ i j x y h, dem.BeamNode nadirX nadirY (cfg.acrossTrackBeamWidth / 2) i j x y h ∧
      (∀ i' j' x' y' h',
        dem.BeamNode nadirX nadirY (cfg.acrossTrackBeamWidth / 2) i' j' x' y' h' →
          rangeSquared nadirX nadirY altitude x y h ≤
            rangeSquared nadirX nadirY altitude x' y' h') ∧
      beamPoca cfg lib dem yearDifference (.num nadirX) (.num nadirY) (.num altitude) =
        .ok (some ⟨.num x, .num y, .num h,
          .num (lib.sqrt (rangeSquared nadirX nadirY altitude x y h) + h - altitude),
          .num (lib.sqrt (rangeSquared nadirX nadirY altitude x y h))⟩) := by
  set radius := cfg.acrossTrackBeamWidth / 2 with hradius
  have hnonneg : 0 ≤ radius := by
    rw [← hsqrt.exact]
    exact hsqrt.nonneg _ (mul_self_nonneg _)
  obtain ⟨rows, hrows, hbeam⟩ := segment_beamNodes hdem hnonneg hinside hsqrt husable
  obtain ⟨iNode, jNode, xNode, yNode, hNode, hfirst⟩ := husable
  have hsome := (hbeam _).mpr ⟨iNode, jNode, xNode, yNode, hNode, hfirst, rfl⟩
  have hsearch : beamPoca cfg lib dem yearDifference (.num nadirX) (.num nadirY) (.num altitude) =
      findPoca lib (rows.flatten.filter (usable lib (.num nadirX) (.num nadirY) radius))
        (.num nadirX) (.num nadirY) (.num altitude) :=
    beamPoca_eq_findPoca hmedian hdhdt hrows hsome
  rcases findPoca_cases lib
      (rows.flatten.filter (usable lib (.num nadirX) (.num nadirY) radius))
      (.num nadirX) (.num nadirY) (.num altitude) with ⟨hnan, -⟩ | ⟨p, hp, v, hv, hmin, hfind⟩
  · have hfalse := hnan _ hsome
    rw [demRange_num] at hfalse
    cases hfalse
  · obtain ⟨i, j, x, y, h, hnode, rfl⟩ := (hbeam p).mp hp
    rw [demRange_num] at hv
    obtain rfl := WithNan.num.inj hv
    refine ⟨i, j, x, y, h, hnode, ?_, ?_⟩
    · intro i' j' x' y' h' hnode'
      have hle := hmin _ ((hbeam _).mpr ⟨i', j', x', y', h', hnode', rfl⟩) _ (demRange_num x' y' h')
      exact (hsqrt.le_iff (rangeSquared_nonneg x y h) (rangeSquared_nonneg x' y' h')).mp hle
    · have hfill : (WithNan.num h : Sample) ≠ .num (-9999) := by
        intro heq
        have hsensible := hnode.sensible
        rw [WithNan.num.inj heq] at hsensible
        norm_num at hsensible
      rw [hsearch, hfind, if_neg hfill]
      rfl

/-- The square root of the squares of whole numbers, and linear between them. -/
def sqrtOfSquares (a : ℚ) : ℚ :=
  Nat.sqrt ⌊a⌋₊ + (a - Nat.sqrt ⌊a⌋₊ * Nat.sqrt ⌊a⌋₊) / (2 * Nat.sqrt ⌊a⌋₊ + 1)

/-- It lies between the whole roots below and above. -/
theorem sqrtOfSquares_bounds {a : ℚ} (ha : 0 ≤ a) :
    (Nat.sqrt ⌊a⌋₊ : ℚ) ≤ sqrtOfSquares a ∧ sqrtOfSquares a < Nat.sqrt ⌊a⌋₊ + 1 := by
  have hlow : ((Nat.sqrt ⌊a⌋₊ * Nat.sqrt ⌊a⌋₊ : Nat) : ℚ) ≤ a :=
    le_trans (by exact_mod_cast Nat.sqrt_le _) (Nat.floor_le ha)
  have hhigh : a < (((Nat.sqrt ⌊a⌋₊ + 1) * (Nat.sqrt ⌊a⌋₊ + 1) : Nat) : ℚ) :=
    (Nat.floor_lt ha).mp (Nat.lt_succ_sqrt _)
  unfold sqrtOfSquares
  generalize Nat.sqrt ⌊a⌋₊ = n at hlow hhigh ⊢
  push_cast at hlow hhigh
  have hpos : (0 : ℚ) < 2 * n + 1 := by positivity
  constructor
  · have := div_nonneg (sub_nonneg.mpr hlow) hpos.le
    linarith
  · have : (a - n * n) / (2 * n + 1) < 1 := by
      rw [div_lt_one hpos]
      linarith
    linarith

theorem squareRoot_sqrtOfSquares (n : Nat) : SquareRoot sqrtOfSquares n where
  nonneg a ha := le_trans (Nat.cast_nonneg _) (sqrtOfSquares_bounds ha).1
  increasing a b ha hab := by
    have hb := le_trans ha hab.le
    rcases Nat.lt_or_ge (Nat.sqrt ⌊a⌋₊) (Nat.sqrt ⌊b⌋₊) with hlt | hge
    · have hcast : (Nat.sqrt ⌊a⌋₊ : ℚ) + 1 ≤ Nat.sqrt ⌊b⌋₊ := by exact_mod_cast hlt
      exact lt_of_lt_of_le (sqrtOfSquares_bounds ha).2
        (le_trans hcast (sqrtOfSquares_bounds hb).1)
    · have heq : Nat.sqrt ⌊a⌋₊ = Nat.sqrt ⌊b⌋₊ :=
        Nat.le_antisymm (Nat.sqrt_le_sqrt (Nat.floor_le_floor hab.le)) hge
      unfold sqrtOfSquares
      rw [heq]
      have hpos : (0 : ℚ) < 2 * Nat.sqrt ⌊b⌋₊ + 1 := by positivity
      have := div_lt_div_of_pos_right (sub_lt_sub_right hab (Nat.sqrt ⌊b⌋₊ * Nat.sqrt ⌊b⌋₊ : ℚ)) hpos
      linarith
  exact := by
    have hfloor : ⌊(n : ℚ) * n⌋₊ = n * n := by
      rw [← Nat.cast_mul, Nat.floor_natCast]
    rw [sqrtOfSquares, hfloor, Nat.sqrt_eq, sub_self, zero_div, add_zero]

/-- A DEM of 6 by 5 nodes, eight metres apart, with two heights. -/
def smallDem : Dem where
  xdem := uniformAxis (-16) 8 6
  ydem := uniformAxis 16 (-8) 5
  zdem := [List.replicate 6 .nan, List.replicate 6 .nan,
    [.nan, .nan, .num (96 + 9 / (2 * earthRadius)), .num (88 + 25 / (2 * earthRadius)), .nan, .nan],
    List.replicate 6 .nan, List.replicate 6 .nan]
  binsize := 8

/-- A beam of twelve metres. -/
def smallConfig : RoemerConfig where
  acrossTrackBeamWidth := 12
  pulseLimitedFootprintSize := 2
  referenceBinIndex := 64
  rangeBinSize := 1
  numBins := 128
  includeDhdtCorrection := false
  maxPocaRelocDistance := 2
  fineGridSampling := 0
  medianFilter := false
  rejectOutsideRangeWindow := true
  rangeWindowLowerTrim := 0
  rangeWindowUpperTrim := 0
  includeSlopeDopplerCorrection := false

/-- The library functions, on a plane. -/
def smallLib : RoemerLib where
  sqrt := sqrtOfSquares
  lonlatToXy lon lat := (lon, lat)
  xyToLonlat x y := (x, y)
  medianFilter := id
  interpn _ _ _ locations := .ok (locations.map fun _ => .nan)
  interpDhdt := none
  yearDifference := .ok 0
  slopeDoppler _ _ _ := .num 0

/-- Three metres from nadir is one node, and five metres another. -/
theorem beamPoca_two_nodes :
    ∃ i j x y h, smallDem.BeamNode 3 0 (smallConfig.acrossTrackBeamWidth / 2) i j x y h ∧
      (∀ i' j' x' y' h',
        smallDem.BeamNode 3 0 (smallConfig.acrossTrackBeamWidth / 2) i' j' x' y' h' →
          rangeSquared 3 0 100 x y h ≤ rangeSquared 3 0 100 x' y' h') ∧
      beamPoca smallConfig smallLib smallDem 0 (.num 3) (.num 0) (.num 100) =
        .ok (some ⟨.num x, .num y, .num h,
          .num (smallLib.sqrt (rangeSquared 3 0 100 x y h) + h - 100),
          .num (smallLib.sqrt (rangeSquared 3 0 100 x y h))⟩) := by
  have hradius : smallConfig.acrossTrackBeamWidth / 2 = (6 : Nat) := by norm_num [smallConfig]
  refine beamPoca_optimal smallConfig smallLib smallDem 3 0 100 0 (-16) 16 8 8 5 6 rfl rfl
    ⟨rfl, rfl, by norm_num, by norm_num, by norm_num [smallDem], by norm_num [smallDem]⟩ ?_ ?_ ?_
  · rw [hradius]
    constructor <;> norm_num [smallDem]
  · rw [hradius]
    exact squareRoot_sqrtOfSquares 6
  · refine ⟨2, 2, 0, 0, 96 + 9 / (2 * earthRadius), ⟨?_, ?_, _, rfl, rfl⟩, ?_, ?_⟩
    · norm_num [smallDem, uniformAxis]
    · norm_num [smallDem, uniformAxis]
    · norm_num [smallConfig, horizontalSquared]
    · norm_num [earthRadius, abs_of_pos]

end Beam

end Clev2er.Cryotempo
