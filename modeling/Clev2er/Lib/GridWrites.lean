import Mathlib.Data.List.Count
import Mathlib.Tactic.Ring

/-!
# Block writes into a grid

A grid is a function of row and column; a block is written into it as a slice
assignment does. `pyRange n step` are the offsets of `range(0, n, step)`; the
tiles at these offsets, the last of them cut off at `n`, partition `[0, n)`
(`countP_pyRange`), and the rectangular tiles of two such ranges partition the
grid (`countP_grid`).
-/

namespace Clev2er.Lib

variable {α : Type}

/-! ## Writing -/

/-- A block of cells: the slice it is assigned to, and its cells by their offset
in it. -/
structure Block (α : Type) where
  row : Nat
  col : Nat
  height : Nat
  width : Nat
  cell : Nat → Nat → α

/-- The slice of a block has the cell in it. -/
def Block.covers (b : Block α) (r c : Nat) : Bool :=
  decide (b.row ≤ r ∧ r < b.row + b.height) && decide (b.col ≤ c ∧ c < b.col + b.width)

/-- `grid[row : row + height, col : col + width] = cells`. -/
def Block.write (grid : Nat → Nat → α) (b : Block α) : Nat → Nat → α := fun r c =>
  if b.covers r c then b.cell (r - b.row) (c - b.col) else grid r c

/-- The grid after a sequence of writes. -/
def writeAll (grid : Nat → Nat → α) (blocks : List (Block α)) : Nat → Nat → α :=
  blocks.foldl Block.write grid

/-- A cell that no block has is left alone. -/
theorem writeAll_of_not_covered {r c : Nat} : ∀ (blocks : List (Block α)) (grid : Nat → Nat → α),
    (∀ b ∈ blocks, b.covers r c = false) → writeAll grid blocks r c = grid r c := by
  intro blocks
  induction blocks with
  | nil =>
      intro grid _
      rfl
  | cons b blocks ih =>
      intro grid h
      show writeAll (Block.write grid b) blocks r c = grid r c
      rw [ih _ (fun b' hb' => h b' (List.mem_cons_of_mem b hb'))]
      unfold Block.write
      rw [if_neg (by simp [h b List.mem_cons_self])]

/-- A cell ends with the value that all blocks which have it agree on. -/
theorem writeAll_of_agree {r c : Nat} {v : α} :
    ∀ (blocks : List (Block α)) (grid : Nat → Nat → α),
      (∃ b ∈ blocks, b.covers r c = true) →
      (∀ b ∈ blocks, b.covers r c = true → b.cell (r - b.row) (c - b.col) = v) →
      writeAll grid blocks r c = v := by
  intro blocks
  induction blocks with
  | nil =>
      rintro grid ⟨b, hb, -⟩ _
      exact absurd hb List.not_mem_nil
  | cons b blocks ih =>
      intro grid hcov hv
      show writeAll (Block.write grid b) blocks r c = v
      have hrest : ∀ b' ∈ blocks, b'.covers r c = true → b'.cell (r - b'.row) (c - b'.col) = v :=
        fun b' hb' => hv b' (List.mem_cons_of_mem b hb')
      by_cases hlater : ∃ b' ∈ blocks, b'.covers r c = true
      · exact ih _ hlater hrest
      · -- the last write of this cell is `b`
        have hnone : ∀ b' ∈ blocks, b'.covers r c = false := by
          intro b' hb'
          rw [Bool.eq_false_iff]
          intro hcov'
          exact hlater ⟨b', hb', hcov'⟩
        obtain ⟨b', hb', hcov'⟩ := hcov
        rcases List.mem_cons.mp hb' with rfl | hmem
        · rw [writeAll_of_not_covered blocks _ hnone]
          unfold Block.write
          rw [if_pos hcov']
          exact hv b' List.mem_cons_self hcov'
        · exact absurd ⟨b', hmem, hcov'⟩ hlater

/-! ## Tiles -/

/-- `range(0, n, step)`, for a positive step. -/
def pyRange (n step : Nat) : List Nat := (List.range ((n + step - 1) / step)).map (· * step)

/-- The length of the tile at offset `i`, cut off at `n`. -/
def tileLength (n step i : Nat) : Nat := min step (n - i)

theorem countP_range_eq {p : Nat → Bool} {n k : Nat} (hk : k < n)
    (hp : ∀ i, i < n → (p i = true ↔ i = k)) : (List.range n).countP p = 1 := by
  have hcount : (List.range n).countP p = (List.range n).count k := by
    rw [List.count]
    apply List.countP_congr
    intro i hi
    rw [hp i (List.mem_range.mp hi), beq_iff_eq]
  rw [hcount]
  rw [List.nodup_range.count, if_pos (List.mem_range.mpr hk)]

/-- **The tiles of one axis partition it.** -/
theorem countP_pyRange {n step x : Nat} (hstep : 0 < step) (hx : x < n) :
    (pyRange n step).countP (fun i => decide (i ≤ x ∧ x < i + tileLength n step i)) = 1 := by
  unfold pyRange
  rw [List.countP_map]
  have hdiv := Nat.div_add_mod x step
  have hmod := Nat.mod_lt x hstep
  have hk : x / step < (n + step - 1) / step := by
    rw [Nat.lt_div_iff_mul_lt hstep]
    rw [Nat.mul_comm] at hdiv
    omega
  refine countP_range_eq hk ?_
  intro i _
  rw [Function.comp_apply, decide_eq_true_iff]
  unfold tileLength
  constructor
  · rintro ⟨hle, hlt⟩
    have hlt' : x < i * step + step := by omega
    exact (Nat.div_eq_of_lt_le hle (by rw [Nat.succ_mul]; exact hlt')).symm
  · rintro rfl
    rw [Nat.mul_comm (x / step) step]
    omega

/-- The tiles of two axes, row by row. -/
def gridTiles (rows cols : List Nat) : List (Nat × Nat) :=
  rows.flatMap fun i => cols.map fun j => (i, j)

theorem countP_grid (p q : Nat → Bool) (rows cols : List Nat) :
    (gridTiles rows cols).countP (fun t => p t.1 && q t.2) = rows.countP p * cols.countP q := by
  unfold gridTiles
  induction rows with
  | nil => simp
  | cons i rows ih =>
      rw [List.flatMap_cons, List.countP_append, ih, List.countP_map, List.countP_cons]
      cases hp : p i with
      | false =>
          have hzero : cols.countP ((fun t : Nat × Nat => p t.1 && q t.2) ∘ fun j => (i, j)) = 0 := by
            rw [List.countP_eq_zero]
            intro j _
            simp [hp]
          simp [hzero]
      | true =>
          have hall : cols.countP ((fun t : Nat × Nat => p t.1 && q t.2) ∘ fun j => (i, j)) =
              cols.countP q := by
            apply List.countP_congr
            intro j _
            simp [hp]
          rw [hall]
          simp only [if_true]
          ring

end Clev2er.Lib
