import Mathlib.Data.List.Infix

/-!
# Replacing a text

`s.replace(old, new)`: the occurrences of `old` from the left on, none of them
overlapping.
-/

namespace Clev2er.Lib

variable {α : Type} [DecidableEq α]

/-- The rest of a text, behind `skip` elements of the last occurrence. -/
def replaceFrom (old new : List α) : Nat → List α → List α
  | _, [] => []
  | skip + 1, _ :: s => replaceFrom old new skip s
  | 0, c :: s =>
      if old <+: c :: s then new ++ replaceFrom old new (old.length - 1) s
      else c :: replaceFrom old new 0 s

/-- `s.replace(old, new)`, for a text `old` that is not empty. -/
def replace (old new s : List α) : List α := replaceFrom old new 0 s

end Clev2er.Lib
