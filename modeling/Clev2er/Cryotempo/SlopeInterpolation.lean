import Clev2er.Cryotempo.LrmSlope
import Clev2er.Lib.Quadratic

/-!
# The slope between grid points

`setup_slopes` reports a cell away from the border of its model, so the six grid
points of `interp_slope` lie in the block of the model, and the slope between them
is exact for a slope that is a polynomial of degree at most 2.
-/

namespace Clev2er.Cryotempo

open Clev2er.Lib

section Grid

variable {K : Type}

/-- The `x` coordinate of the grid points in column `i`. -/
def SlopeModel.gridX [Field K] (model : SlopeModel K) (i : Int) : K :=
  model.cornerX + i * model.resolution

/-- The `y` coordinate of the grid points in row `j`. -/
def SlopeModel.gridY [Field K] (model : SlopeModel K) (j : Int) : K :=
  model.cornerY + j * model.resolution

/-- A grid point of the model. -/
def SlopeModel.HasPoint (model : SlopeModel K) (point : Int × Int) : Prop :=
  0 ≤ point.1 ∧ point.1 < model.xNum ∧ 0 ≤ point.2 ∧ point.2 < model.yNum

/-- The eight bytes from a position on lie in the block of the model. -/
def SlopeModel.HasBytes (model : SlopeModel K) (position : Int) : Prop :=
  model.offset ≤ position ∧ position + 8 ≤ model.offset + 8 * (model.xNum * model.yNum)

/-- The file samples two functions on the grid of a model, and has no void there. -/
structure Samples [Field K] [LinearOrder K] (file : SlopeFile K) (model : SlopeModel K)
    (fx fy : K → K → K) : Prop where
  read : ∀ i j, model.HasPoint (i, j) → file (model.position (i, j)) =
    .ok (.num (fx (model.gridX i) (model.gridY j)), .num (fy (model.gridX i) (model.gridY j)))
  noVoid : ∀ i j, model.HasPoint (i, j) →
    fx (model.gridX i) (model.gridY j) ≤ 999 ∧ fy (model.gridX i) (model.gridY j) ≤ 999

/-- The grid points are stored column by column. -/
theorem SlopeModel.HasPoint.hasBytes {model : SlopeModel K} {point : Int × Int}
    (h : model.HasPoint point) : model.HasBytes (model.position point) := by
  obtain ⟨hi, hi', hj, hj'⟩ := h
  unfold SlopeModel.HasBytes SlopeModel.position
  have hcolumn : 0 ≤ point.1 * model.yNum := mul_nonneg hi (by omega)
  have hlast : (point.1 + 1) * model.yNum ≤ model.xNum * model.yNum :=
    mul_le_mul_of_nonneg_right (by omega) (by omega)
  rw [add_mul, one_mul] at hlast
  constructor <;> omega

end Grid

section Cells

variable {K : Type} [Field K] [LinearOrder K] {file : SlopeFile K} {model : SlopeModel K}

/-! ## The cell of a location -/

/-- A location in a cell away from the border of the model: at the fractions `p`
and `q` of the square from grid point `(n, m)` on. -/
structure InteriorCell (model : SlopeModel K) (x y : K) (n m : Int) (p q : K) : Prop where
  column : 0 < n ∧ n < model.xNum - 1
  row : 0 < m ∧ m < model.yNum - 1
  p_mem : 0 ≤ p ∧ p < 1
  q_mem : 0 ≤ q ∧ q < 1
  x_eq : x = model.gridX n + p * model.resolution
  y_eq : y = model.gridY m + q * model.resolution

theorem InteriorCell.hasPoint {x y p q : K} {n m : Int} (h : InteriorCell model x y n m p q) :
    ∀ point ∈ slopePoints n m (.num p) (.num q), model.HasPoint point.1 := by
  obtain ⟨hn, hn'⟩ := h.column
  obtain ⟨hm, hm'⟩ := h.row
  intro point hpoint
  simp only [slopePoints, List.mem_cons, List.not_mem_nil, or_false] at hpoint
  unfold SlopeModel.HasPoint
  rcases hpoint with rfl | rfl | rfl | rfl | rfl | rfl <;> dsimp only <;> omega

section Setup

variable [IsStrictOrderedRing K] [FloorRing K]

/-- A positive index is the index of a coordinate that is a number, and the number
lies in the square of the index. -/
theorem squareIndex_pos {coordinate : WithNan K} {corner resolution : K} {n : Int}
    (hres : 0 < resolution) (h : squareIndex coordinate corner resolution = .ok n) (hn : 0 < n) :
    ∃ x, coordinate = .num x ∧ 0 ≤ (x - corner - n * resolution) / resolution ∧
      (x - corner - n * resolution) / resolution < 1 := by
  obtain ⟨quotient, hquotient, hint⟩ := except_bind_ok h
  cases coordinate with
  | nan =>
      rw [WithNan.nan_sub, divide, if_neg (fun heq => hres.ne' (WithNan.num.inj heq))] at hquotient
      obtain rfl := Except.ok.inj hquotient
      cases hint
  | num x =>
      rw [WithNan.num_sub_num, divide_num hres.ne'] at hquotient
      obtain rfl := Except.ok.inj hquotient
      obtain rfl := Except.ok.inj hint
      have hpositive : 0 ≤ (x - corner) / resolution := by
        by_contra hneg
        -- a negative coordinate is truncated towards zero
        rw [if_neg hneg, Int.ceil_pos] at hn
        exact hneg hn.le
      rw [if_pos hpositive]
      have hfraction : (x - corner - ⌊(x - corner) / resolution⌋ * resolution) / resolution =
          (x - corner) / resolution - ⌊(x - corner) / resolution⌋ := by
        rw [sub_div, mul_div_assoc, div_self hres.ne', mul_one]
      refine ⟨x, rfl, ?_, ?_⟩
      · rw [hfraction]
        linarith [Int.floor_le ((x - corner) / resolution)]
      · rw [hfraction]
        linarith [Int.lt_floor_add_one ((x - corner) / resolution)]

/-- What the loop of `setup_slopes` reports is an interior cell of one of the models. -/
theorem setupSlopesFrom_found {x y lat : WithNan K} {cell : SlopeCell K} :
    ∀ (slope : List (SlopeModel K)) (i : Nat) (m n : Int),
      (∀ model ∈ slope, 0 < model.resolution) →
      setupSlopesFrom x y lat i m n slope = .ok cell → cell.error = 0 →
      ∃ k model x' y' p q, cell.model = i + k ∧ slope[k]? = some model ∧ x = .num x' ∧
        y = .num y' ∧ cell.p = .num p ∧ cell.q = .num q ∧
        InteriorCell model x' y' cell.n cell.m p q := by
  intro slope
  induction slope with
  | nil =>
      intro i m n _ h hfound
      obtain rfl := Except.ok.inj h
      cases hfound
  | cons slp rest ih =>
      intro i _ _ hres h hfound
      have hslp : 0 < slp.resolution := hres slp (List.mem_cons_self ..)
      obtain ⟨n, hn, h⟩ := except_bind_ok h
      obtain ⟨m, hm, h⟩ := except_bind_ok h
      simp only at h
      generalize (if lat < .num 0 then (2 : Int) else 1) = hemi at h
      split at h
      · next hinside =>
        obtain ⟨hn0, hn1, hm0, hm1, -⟩ := hinside
        obtain rfl := Except.ok.inj h
        obtain ⟨x', rfl, hp, hp'⟩ := squareIndex_pos hslp hn hn0
        obtain ⟨y', rfl, hq, hq'⟩ := squareIndex_pos hslp hm hm0
        refine ⟨0, slp, x', y', _, _, rfl, rfl, rfl, rfl, rfl, rfl, ⟨hn0, hn1⟩, ⟨hm0, hm1⟩,
          ⟨hp, hp'⟩, ⟨hq, hq'⟩, ?_, ?_⟩
        · rw [SlopeModel.gridX, div_mul_cancel₀ _ hslp.ne']
          ring
        · rw [SlopeModel.gridY, div_mul_cancel₀ _ hslp.ne']
          ring
      · obtain ⟨k, model, x', y', p, q, hmodel, hget, hcell⟩ := ih (i + 1) m n
          (fun model hmodel => hres model (List.mem_cons_of_mem _ hmodel)) h hfound
        exact ⟨k + 1, model, x', y', p, q, by omega, hget, hcell⟩

end Setup

/-! ## The sum over the grid points -/

/-- The sum depends on the file at its grid points only. -/
theorem sumSlopes_congr {file' : SlopeFile K} :
    ∀ (points : List ((Int × Int) × WithNan K)) (xso yso : WithNan K),
      (∀ point ∈ points, file (model.position point.1) = file' (model.position point.1)) →
      sumSlopes file model xso yso points = sumSlopes file' model xso yso points := by
  intro points
  induction points with
  | nil => exact fun _ _ _ => rfl
  | cons head rest ih =>
      intro xso yso hsame
      rw [sumSlopes, sumSlopes, hsame head (List.mem_cons_self ..)]
      cases file' (model.position head.1) with
      | error e => rfl
      | ok slopes =>
          show (if isVoid slopes = true then _ else _) = if isVoid slopes = true then _ else _
          rw [ih _ _ fun point hpoint => hsame point (List.mem_cons_of_mem _ hpoint)]

theorem isVoid_num {a b : K} (ha : a ≤ 999) (hb : b ≤ 999) : isVoid (.num a, .num b) = false := by
  simp only [isVoid, WithNan.num_lt_num, not_lt.mpr ha, not_lt.mpr hb, decide_false, Bool.or_self]

/-- One sampled grid point adds its weighted slopes. -/
theorem sumSlopes_cons {fx fy : K → K → K} (hsamples : Samples file model fx fy) {i j : Int}
    (hpoint : model.HasPoint (i, j)) (weight xso yso : K)
    (rest : List ((Int × Int) × WithNan K)) :
    sumSlopes file model (.num xso) (.num yso) (((i, j), .num weight) :: rest) =
      sumSlopes file model (.num (xso + fx (model.gridX i) (model.gridY j) * weight))
        (.num (yso + fy (model.gridX i) (model.gridY j) * weight)) rest := by
  obtain ⟨hx, hy⟩ := hsamples.noVoid i j hpoint
  rw [sumSlopes, hsamples.read i j hpoint]
  show (if isVoid _ = true then _ else _) = _
  rw [isVoid_num hx hy]
  rfl

/-- **Interpolation is exact to second order.** -/
theorem interpSlope_quadratic [IsStrictOrderedRing K] {fx fy : Quadratic K} {x y p q : K}
    {n m : Int} (hcell : InteriorCell model x y n m p q)
    (hsamples : Samples file model fx.eval fy.eval) :
    interpSlope file model n m (.num p) (.num q) =
      .ok (0, .num (fx.eval x y), .num (fy.eval x y)) := by
  have hpoint := hcell.hasPoint
  simp only [slopePoints, List.forall_mem_cons, List.not_mem_nil, false_imp_iff, implies_true,
    and_true] at hpoint
  obtain ⟨h1, h2, h3, h4, h5, h6⟩ := hpoint
  rw [interpSlope]
  simp only [slopePoints, WithNan.num_sub_num, WithNan.num_add_num, WithNan.num_mul_num,
    WithNan.num_div_num, Nat.cast_ofNat]
  rw [sumSlopes_cons hsamples h1, sumSlopes_cons hsamples h2, sumSlopes_cons hsamples h3,
    sumSlopes_cons hsamples h4, sumSlopes_cons hsamples h5, sumSlopes_cons hsamples h6, sumSlopes]
  -- the neighbours are one step away from the grid point of the cell
  have hleft : model.gridX (n - 1) = model.gridX n - model.resolution := by
    simp only [SlopeModel.gridX, Int.cast_sub, Int.cast_one]
    ring
  have hright : model.gridX (n + 1) = model.gridX n + model.resolution := by
    simp only [SlopeModel.gridX, Int.cast_add, Int.cast_one]
    ring
  have hbelow : model.gridY (m - 1) = model.gridY m - model.resolution := by
    simp only [SlopeModel.gridY, Int.cast_sub, Int.cast_one]
    ring
  have habove : model.gridY (m + 1) = model.gridY m + model.resolution := by
    simp only [SlopeModel.gridY, Int.cast_add, Int.cast_one]
    ring
  simp only [hleft, hright, hbelow, habove, zero_add, Quadratic.eval_sixPoint, ← hcell.x_eq,
    ← hcell.y_eq, bind, Except.bind]

end Cells

/-! ## Interpolation in the cell that `setup_slopes` reports -/

section Found

variable {K : Type} [Field K] [LinearOrder K] [IsStrictOrderedRing K] [FloorRing K]

/-- **What `interp_slope` does in a cell that `setup_slopes` reports.** -/
structure InterpolatesIn (model : SlopeModel K) (cell : SlopeCell K) (x y p q : K) : Prop where
  cell_p : cell.p = .num p
  cell_q : cell.q = .num q
  interior : InteriorCell model x y cell.n cell.m p q
  points : (slopePoints cell.n cell.m cell.p cell.q).map Prod.fst =
    [(cell.n, cell.m - 1), (cell.n - 1, cell.m), (cell.n, cell.m), (cell.n + 1, cell.m),
      (cell.n, cell.m + 1), (cell.n + 1, cell.m + 1)]
  inBounds : ∀ point ∈ slopePoints cell.n cell.m cell.p cell.q,
    model.HasPoint point.1 ∧ model.HasBytes (model.position point.1)
  readsOnly : ∀ file file' : SlopeFile K,
    (∀ point ∈ slopePoints cell.n cell.m cell.p cell.q,
      file (model.position point.1) = file' (model.position point.1)) →
    interpSlope file model cell.n cell.m cell.p cell.q =
      interpSlope file' model cell.n cell.m cell.p cell.q
  exact : ∀ (file : SlopeFile K) (fx fy : Quadratic K), Samples file model fx.eval fy.eval →
    interpSlope file model cell.n cell.m cell.p cell.q =
      .ok (0, .num (fx.eval x y), .num (fy.eval x y))

/-- **The interpolation is in bounds and exact to second order**, at every location
that `setup_slopes` finds in a model. -/
theorem setupSlopes_interpolates {slope : List (SlopeModel K)}
    (hres : ∀ model ∈ slope, 0 < model.resolution) {x y lat : WithNan K} {cell : SlopeCell K}
    (h : setupSlopes x y lat slope = .ok cell) (hfound : cell.error = 0) :
    ∃ model x' y' p q, slope[cell.model]? = some model ∧ x = .num x' ∧ y = .num y' ∧
      InterpolatesIn model cell x' y' p q := by
  obtain ⟨k, model, x', y', p, q, hmodel, hget, hx, hy, hp, hq, hcell⟩ :=
    setupSlopesFrom_found slope 0 0 0 hres h hfound
  rw [zero_add] at hmodel
  refine ⟨model, x', y', p, q, hmodel ▸ hget, hx, hy, hp, hq, hcell, rfl, ?_, ?_, ?_⟩
  · rw [hp, hq]
    exact fun point hpoint =>
      ⟨hcell.hasPoint point hpoint, (hcell.hasPoint point hpoint).hasBytes⟩
  · intro file file' hsame
    rw [interpSlope, interpSlope, sumSlopes_congr _ _ _ hsame]
  · intro file fx fy hsamples
    rw [hp, hq]
    exact interpSlope_quadratic hcell hsamples

end Found

/-- A model of four by four points, for the southern hemisphere. -/
def squareModel : SlopeModel ℚ where
  hemisphereFlag := 2
  cornerX := -2
  cornerY := -2
  xNum := 4
  yNum := 4
  resolution := 1
  offset := 100

/-- Half a square east and three quarters of one north of grid point `(1, 1)`. -/
theorem setupSlopes_interpolates_squareModel :
    ∃ (model : SlopeModel ℚ) (x y p q : ℚ), [squareModel][0]? = some model ∧
      WithNan.num (-1 / 2) = .num x ∧ WithNan.num (-1 / 4) = .num y ∧
      InterpolatesIn model ⟨0, 0, 1, 1, .num (1 / 2), .num (3 / 4)⟩ x y p q := by
  have hcolumn : squareIndex (.num (-1 / 2)) (-2) (1 : ℚ) = .ok 1 := by
    rw [squareIndex, WithNan.num_sub_num, divide_num one_ne_zero]
    norm_num [intOf, Int.floor_eq_iff, bind, Except.bind]
  have hrow : squareIndex (.num (-1 / 4)) (-2) (1 : ℚ) = .ok 1 := by
    rw [squareIndex, WithNan.num_sub_num, divide_num one_ne_zero]
    norm_num [intOf, Int.floor_eq_iff, bind, Except.bind]
  have hcell : setupSlopes (.num (-1 / 2)) (.num (-1 / 4)) (.num (-70)) [squareModel] =
      .ok ⟨0, 0, 1, 1, .num (1 / 2), .num (3 / 4)⟩ := by
    rw [setupSlopes, setupSlopesFrom]
    simp only [squareModel, hcolumn, hrow, bind, Except.bind]
    norm_num
  have hres : ∀ model ∈ [squareModel], 0 < model.resolution := by simp [squareModel]
  exact setupSlopes_interpolates hres hcell rfl

end Clev2er.Cryotempo
