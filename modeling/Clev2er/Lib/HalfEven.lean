import Mathlib.Algebra.Order.Floor.Ring
import Mathlib.Algebra.Order.Field.Basic
import Mathlib.Data.Int.ConditionallyCompleteOrder
import Mathlib.Tactic.Linarith

/-!
# Rounding to the nearest integer, ties to even

`roundHalfEven` leaves integers alone and keeps the order.
-/

namespace Clev2er.Lib

variable {K : Type} [Field K] [LinearOrder K] [FloorRing K]

/-- `round(x)`: the nearest integer, of two the even one. -/
def roundHalfEven (x : K) : ℤ :=
  if Int.fract x + Int.fract x < 1 then ⌊x⌋
  else if 1 < Int.fract x + Int.fract x then ⌊x⌋ + 1
  else if ⌊x⌋ % 2 = 0 then ⌊x⌋ else ⌊x⌋ + 1

/-- The nearest integer is the floor, or the one above it. -/
theorem roundHalfEven_cases (x : K) : roundHalfEven x = ⌊x⌋ ∨ roundHalfEven x = ⌊x⌋ + 1 := by
  unfold roundHalfEven
  split
  · exact .inl rfl
  split
  · exact .inr rfl
  split
  · exact .inl rfl
  · exact .inr rfl

variable [IsStrictOrderedRing K]

@[simp] theorem roundHalfEven_intCast (n : ℤ) : roundHalfEven (n : K) = n := by
  have hfract : Int.fract (n : K) + Int.fract (n : K) < 1 := by
    rw [Int.fract_intCast, add_zero]
    exact one_pos
  rw [roundHalfEven, if_pos hfract, Int.floor_intCast]

/-- **Rounding keeps the order.** -/
theorem roundHalfEven_mono : Monotone (roundHalfEven : K → ℤ) := by
  intro x y hle
  rcases (Int.floor_mono hle).lt_or_eq with hlt | heq
  · -- a whole step apart, the floors decide
    have hx : roundHalfEven x ≤ ⌊x⌋ + 1 := by
      rcases roundHalfEven_cases x with heq | heq <;> omega
    have hy : ⌊y⌋ ≤ roundHalfEven y := by
      rcases roundHalfEven_cases y with heq | heq <;> omega
    omega
  · have hxsum := Int.floor_add_fract x
    have hysum := Int.floor_add_fract y
    have hfract : Int.fract x ≤ Int.fract y := by
      rw [heq] at hxsum
      linarith
    have htwice : Int.fract x + Int.fract x ≤ Int.fract y + Int.fract y :=
      add_le_add hfract hfract
    unfold roundHalfEven
    rw [heq]
    split
    · split
      · exact le_refl _
      · split
        · exact Int.le_add_one (le_refl _)
        · split
          · exact le_refl _
          · exact Int.le_add_one (le_refl _)
    · rename_i hxlow
      rw [if_neg (fun hlow => hxlow (htwice.trans_lt hlow))]
      split
      · rename_i hxhigh
        rw [if_pos (hxhigh.trans_le htwice)]
      · split
        · split
          · exact Int.le_add_one (le_refl _)
          · exact le_refl _
        · split <;> exact le_refl _

end Clev2er.Lib
