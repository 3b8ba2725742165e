import Mathlib.Algebra.Order.Group.Abs
import Mathlib.Data.Rat.Floor

/-!
# Doubles whose range errors raise

Arithmetic on doubles where a result outside their range is an error, as
`np.seterr("raise")` has it. Values are exact, and a double is only asked whether
it can hold them. A product or a power leaves the range at either end; a sum or a
difference of doubles only by overflow, since the small ones are exact. `pow` is
the one of the C library.
-/

namespace Clev2er.Lib

/-- The end of the range a result lies behind. -/
inductive RangeError where
  | overflow
  | underflow
deriving DecidableEq, Repr

structure Doubles where
  pow : ℚ → ℚ → Except RangeError ℚ
  overflows : ℚ → Bool
  underflows : ℚ → Bool

namespace Doubles

variable (d : Doubles)

/-- A double holds `v`, to full precision or exactly. -/
def InRange (v : ℚ) : Prop := d.overflows v = false ∧ d.underflows v = false

/-- Products, one for each element of an array. An overflow is found before an
underflow. -/
def products (vs : List ℚ) : Except RangeError (List ℚ) :=
  if vs.any d.overflows then .error .overflow
  else if vs.any d.underflows then .error .underflow
  else .ok vs

/-- Sums or differences, one for each element of an array. -/
def sums (vs : List ℚ) : Except RangeError (List ℚ) :=
  if vs.any d.overflows then .error .overflow else .ok vs

/-- A product or a quotient of two scalars. -/
def product (v : ℚ) : Except RangeError ℚ :=
  if d.overflows v then .error .overflow
  else if d.underflows v then .error .underflow
  else .ok v

/-- A sum. -/
def sum (v : ℚ) : Except RangeError ℚ := if d.overflows v then .error .overflow else .ok v

variable {d} {vs out : List ℚ} {v w : ℚ}

theorem any_eq_false {p : ℚ → Bool} : vs.any p = false ↔ ∀ v ∈ vs, p v = false := by
  rw [List.any_eq_false]
  simp only [Bool.not_eq_true]

theorem products_ok_iff :
    d.products vs = .ok out ↔ (∀ v ∈ vs, d.InRange v) ∧ vs = out := by
  have hall : (∀ v ∈ vs, d.InRange v) ↔
      vs.any d.overflows = false ∧ vs.any d.underflows = false := by
    simp only [any_eq_false, InRange, forall₂_and]
  rw [products, hall]
  cases vs.any d.overflows <;> cases vs.any d.underflows <;> simp

theorem sums_ok_iff :
    d.sums vs = .ok out ↔ (∀ v ∈ vs, d.overflows v = false) ∧ vs = out := by
  rw [sums, ← any_eq_false]
  cases vs.any d.overflows <;> simp

theorem product_ok_iff : d.product v = .ok w ↔ d.InRange v ∧ v = w := by
  unfold product InRange
  cases d.overflows v <;> cases d.underflows v <;> simp

theorem sum_ok_iff : d.sum v = .ok w ↔ d.overflows v = false ∧ v = w := by
  unfold sum
  cases d.overflows v <;> simp

end Doubles

/-! ## The format of 64 bits -/

def overflows64 (v : ℚ) : Bool := 2 ^ 1024 - 2 ^ 970 ≤ |v|

/-- Smaller than the normal doubles and not a multiple of the least one. -/
def underflows64 (v : ℚ) : Bool := |v| < 1 / 2 ^ 1022 ∧ (v * 2 ^ 1074).den ≠ 1

/-- Rounding to nearest, and `pow` for whole exponents. -/
def binary64 : Doubles where
  pow base exponent :=
    if overflows64 (base ^ exponent.num) then .error .overflow
    else if underflows64 (base ^ exponent.num) then .error .underflow
    else .ok (base ^ exponent.num)
  overflows := overflows64
  underflows := underflows64

end Clev2er.Lib
