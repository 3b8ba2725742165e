import Mathlib.Algebra.Order.Field.Basic
import Mathlib.Tactic.FieldSimp
import Mathlib.Tactic.Ring

/-!
# Interpolation of quadratic polynomials on a grid

A polynomial of total degree at most 2 in two variables has six coefficients, and
its value at a point of a grid square follows from its values at six grid points:
the four neighbours and the centre of a cross, and one corner.
-/

namespace Clev2er.Lib

/-- A polynomial of total degree at most 2 in two variables. -/
structure Quadratic (K : Type) where
  const : K
  x : K
  y : K
  xx : K
  xy : K
  yy : K

namespace Quadratic

variable {K : Type} [Field K]

def eval (f : Quadratic K) (x y : K) : K :=
  f.const + f.x * x + f.y * y + f.xx * (x * x) + f.xy * (x * y) + f.yy * (y * y)

/-- **Six grid points determine the value**: the cross around `(x, y)` with step `h`,
and the corner that lies in the direction of the point. -/
theorem eval_sixPoint [LinearOrder K] [IsStrictOrderedRing K] (f : Quadratic K) (x y h p q : K) :
    f.eval x (y - h) * (q * (q - 1) / 2) + f.eval (x - h) y * (p * (p - 1) / 2) +
      f.eval x y * (1 + p * q - p * p - q * q) +
      f.eval (x + h) y * (p * (p - q * 2 + 1) / 2) +
      f.eval x (y + h) * (q * (q - p * 2 + 1) / 2) + f.eval (x + h) (y + h) * (q * p) =
    f.eval (x + p * h) (y + q * h) := by
  unfold eval
  ring

end Quadratic

end Clev2er.Lib
