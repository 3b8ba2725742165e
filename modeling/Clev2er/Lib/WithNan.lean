import Mathlib.Data.Nat.Cast.Defs

/-!
# Numbers that may be NaN

`WithNan K` adds to a number type the one value that floating-point code uses
for "no result". Arithmetic with a NaN operand is NaN, and every comparison with
a NaN operand is false: in particular `¬ a < b` does not give `b ≤ a`.
-/

namespace Clev2er.Lib

/-- A number or NaN. -/
inductive WithNan (K : Type) where
  | nan
  | num (x : K)
deriving DecidableEq, Repr

namespace WithNan

variable {K : Type}

/-- `np.isnan`. -/
def isNan : WithNan K → Bool
  | .nan => true
  | .num _ => false

/-- An operation of numbers that passes NaN on. -/
def lift₂ (op : K → K → K) : WithNan K → WithNan K → WithNan K
  | .num x, .num y => .num (op x y)
  | _, _ => .nan

/-- A function of numbers that passes NaN on. -/
def map (f : K → K) : WithNan K → WithNan K
  | .num x => .num (f x)
  | .nan => .nan

instance [Zero K] : Zero (WithNan K) := ⟨.num 0⟩
instance [NatCast K] : NatCast (WithNan K) := ⟨fun n => .num n⟩
instance [Add K] : Add (WithNan K) := ⟨lift₂ (· + ·)⟩
instance [Sub K] : Sub (WithNan K) := ⟨lift₂ (· - ·)⟩
instance [Mul K] : Mul (WithNan K) := ⟨lift₂ (· * ·)⟩
instance [Div K] : Div (WithNan K) := ⟨lift₂ (· / ·)⟩

instance [LT K] : LT (WithNan K) :=
  ⟨fun a b => match a, b with
    | .num x, .num y => x < y
    | _, _ => False⟩

instance [LE K] : LE (WithNan K) :=
  ⟨fun a b => match a, b with
    | .num x, .num y => x ≤ y
    | _, _ => False⟩

instance [LT K] [DecidableLT K] : DecidableLT (WithNan K) := fun a b =>
  match a, b with
  | .num x, .num y => inferInstanceAs (Decidable (x < y))
  | .nan, _ => .isFalse id
  | .num _, .nan => .isFalse id

instance [LE K] [DecidableLE K] : DecidableLE (WithNan K) := fun a b =>
  match a, b with
  | .num x, .num y => inferInstanceAs (Decidable (x ≤ y))
  | .nan, _ => .isFalse id
  | .num _, .nan => .isFalse id

/-! ## Computation rules -/

section Rules

@[simp] theorem isNan_nan : (nan : WithNan K).isNan = true := rfl
@[simp] theorem isNan_num (x : K) : (num x).isNan = false := rfl

@[simp] theorem map_nan (f : K → K) : map f nan = nan := rfl
@[simp] theorem map_num (f : K → K) (x : K) : map f (num x) = num (f x) := rfl

@[simp] theorem num_add_num [Add K] (x y : K) : num x + num y = num (x + y) := rfl
@[simp] theorem num_sub_num [Sub K] (x y : K) : num x - num y = num (x - y) := rfl
@[simp] theorem num_mul_num [Mul K] (x y : K) : num x * num y = num (x * y) := rfl
@[simp] theorem num_div_num [Div K] (x y : K) : num x / num y = num (x / y) := rfl

@[simp] theorem nan_add [Add K] (a : WithNan K) : nan + a = nan := rfl
@[simp] theorem nan_sub [Sub K] (a : WithNan K) : nan - a = nan := rfl
@[simp] theorem nan_mul [Mul K] (a : WithNan K) : nan * a = nan := rfl
@[simp] theorem nan_div [Div K] (a : WithNan K) : nan / a = nan := rfl

@[simp] theorem add_nan [Add K] (a : WithNan K) : a + nan = nan := by cases a <;> rfl
@[simp] theorem sub_nan [Sub K] (a : WithNan K) : a - nan = nan := by cases a <;> rfl
@[simp] theorem mul_nan [Mul K] (a : WithNan K) : a * nan = nan := by cases a <;> rfl
@[simp] theorem div_nan [Div K] (a : WithNan K) : a / nan = nan := by cases a <;> rfl

protected theorem zero_add [AddZeroClass K] (a : WithNan K) : 0 + a = a := by
  cases a with
  | nan => rfl
  | num x => exact congrArg num (zero_add x)

protected theorem add_assoc [AddSemigroup K] (a b c : WithNan K) : a + b + c = a + (b + c) := by
  cases a with
  | nan => rfl
  | num x =>
      cases b with
      | nan => rfl
      | num y =>
          cases c with
          | nan => rfl
          | num z => exact congrArg num (add_assoc x y z)

protected theorem add_comm [AddCommMagma K] (a b : WithNan K) : a + b = b + a := by
  cases a with
  | nan => exact (add_nan b).symm
  | num x =>
      cases b with
      | nan => rfl
      | num y => exact congrArg num (add_comm x y)

@[simp] theorem num_lt_num [LT K] (x y : K) : num x < num y ↔ x < y := Iff.rfl
@[simp] theorem num_le_num [LE K] (x y : K) : num x ≤ num y ↔ x ≤ y := Iff.rfl

@[simp] theorem not_nan_lt [LT K] (a : WithNan K) : ¬ nan < a := id
@[simp] theorem not_nan_le [LE K] (a : WithNan K) : ¬ nan ≤ a := id

@[simp] theorem not_lt_nan [LT K] (a : WithNan K) : ¬ a < nan := by cases a <;> exact id
@[simp] theorem not_le_nan [LE K] (a : WithNan K) : ¬ a ≤ nan := by cases a <;> exact id

end Rules

/-- A value that a comparison has accepted is a number. -/
theorem exists_num_of_lt [LT K] {a b : WithNan K} (h : a < b) :
    ∃ x y, a = num x ∧ b = num y ∧ x < y := by
  cases a with
  | nan => exact absurd h (not_nan_lt b)
  | num x =>
      cases b with
      | nan => exact absurd h (not_lt_nan _)
      | num y => exact ⟨x, y, rfl, rfl, h⟩

theorem exists_num_of_le [LE K] {a b : WithNan K} (h : a ≤ b) :
    ∃ x y, a = num x ∧ b = num y ∧ x ≤ y := by
  cases a with
  | nan => exact absurd h (not_nan_le b)
  | num x =>
      cases b with
      | nan => exact absurd h (not_le_nan _)
      | num y => exact ⟨x, y, rfl, rfl, h⟩

end WithNan

end Clev2er.Lib
