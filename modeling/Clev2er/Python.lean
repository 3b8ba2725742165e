import Mathlib.Data.List.Infix

/-!
# The Python values and exceptions the framework handles

Only what the modelled functions look at: the class of an exception (which
`except` clause catches it) with the text `traceback.format_exc()` gives for it,
and the values a configuration or algorithm-list file is parsed into.
-/

namespace Clev2er

/-! ## Exceptions -/

/-- Exception classes, as far as an `except` clause of the framework tells them
apart. `IOError` is `OSError`, and `FileNotFoundError` one of its subclasses. -/
inductive ExcClass where
  | osError
  | valueError
  | keyError
  | typeError
  | attributeError
  | nameError
  | importError
  | keyboardInterrupt
  | other (name : String)
deriving DecidableEq, Repr

/-- A raised exception: its class and its formatted traceback. -/
structure PyExc where
  cls : ExcClass
  text : String
deriving DecidableEq, Repr

/-- `except (IOError, ValueError, KeyError)`, and equally
`except (FileNotFoundError, IOError, KeyError, ValueError)`. -/
def PyExc.caught (e : PyExc) : Bool :=
  match e.cls with
  | .osError | .valueError | .keyError => true
  | _ => false

/-! ## Strings -/

/-- The characters that `str.strip`, `str.split` and `int` take for white space. -/
def isSpace (c : Char) : Bool :=
  c.toNat ∈ [9, 10, 11, 12, 13, 28, 29, 30, 31, 32, 133, 160, 5760, 8232, 8233, 8239, 8287, 12288] ∨
    8192 ≤ c.toNat ∧ c.toNat ≤ 8202

/-- `sub in s`. -/
def isIn (sub s : String) : Bool := decide (sub.toList <:+: s.toList)

/-- The part of `s` after its last `c`, or all of `s`: `rsplit(c, 1)[-1]`, and
with `/` the base name of a path. -/
def afterLast (c : Char) (s : String) : String :=
  String.ofList (s.toList.reverse.takeWhile (fun x => x ≠ c)).reverse

/-- `os.path.splitext(name)[0]` of a base name: the part before the last dot,
unless only dots come before that. -/
def splitextRoot (name : String) : String :=
  let root := ((name.toList.reverse.dropWhile (fun x => x ≠ '.')).drop 1).reverse
  if root.all (fun x => x = '.') then name else String.ofList root

/-! ## Configuration values -/

/-- A parsed configuration value. `xmltodict` yields `none` (an empty element),
`str`, `list` (a repeated element) and `dict`; the other constructors come from
YAML files and from typing the XML strings. A float is kept as its 64 bits. -/
inductive PyVal where
  | none
  | bool (b : Bool)
  | int (n : Int)
  | float (bits : BitVec 64)
  | str (s : String)
  | list (xs : List PyVal)
  | dict (items : List (String × PyVal))

/-- `v == s` for a string `s`. -/
def PyVal.eqStr (v : PyVal) (s : String) : Bool :=
  match v with
  | .str t => decide (t = s)
  | _ => false

/-- `d.keys()`, with the values. -/
def PyVal.items (v : PyVal) : Except PyExc (List (String × PyVal)) :=
  match v with
  | .dict items => .ok items
  | _ => .error ⟨.attributeError, "object has no attribute 'keys'"⟩

/-- `d[key]` on a parsed value. -/
def PyVal.getItem (v : PyVal) (key : String) : Except PyExc PyVal :=
  match v with
  | .dict items =>
      match items.lookup key with
      | some w => .ok w
      | Option.none => .error ⟨.keyError, key⟩
  | _ => .error ⟨.typeError, "object is not subscriptable by a string"⟩

end Clev2er
