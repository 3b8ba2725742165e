import Clev2er.Lib.WithNan
import Clev2er.Python
import Mathlib.Algebra.Ring.Int.Defs
import Mathlib.Data.List.Infix
import Mathlib.Data.Rat.Defs

/-!
# `create_netcdf_file`

The encoder that writes a `shared_dict` as a NetCDF-4 file: a group for each
nested dictionary, an attribute for each scalar or string, a variable for each
array or list. One list of dimensions is threaded through the recursion; a
dimension is created in the group that first needs its length, and every later
axis of that length refers to it, wherever it is.

The file is the list of what was created in it. What is used of the netCDF4
library: the types it can store (`Dtype.supported`, `fitsAttribute`), and that a
variable may refer only to dimensions of its own group or of an ancestor.
Whether `createVariable` refuses a dimension out of sight or writes a file that
breaks the rule is left open (`strict`).
-/

namespace Clev2er.Breakpoints

open Clev2er.Lib

/-! ## Values -/

/-- numpy's boolean and numeric element types. -/
inductive Dtype where
  | bool
  | int8 | int16 | int32 | int64
  | uint8 | uint16 | uint32 | uint64
  | float16 | float32 | float64 | longdouble
  | complex64 | complex128
deriving DecidableEq, Repr

/-- The element types a NetCDF-4 variable or attribute can have. -/
def Dtype.supported : Dtype → Bool
  | .int8 | .int16 | .int32 | .int64 | .uint8 | .uint16 | .uint32 | .uint64 => true
  | .float32 | .float64 => true
  | .bool | .float16 | .longdouble | .complex64 | .complex128 => false

/-- `isinstance(value, (np.integer, np.floating))` of a scalar of this type. -/
def Dtype.isIntegerOrFloating : Dtype → Bool
  | .bool | .complex64 | .complex128 => false
  | _ => true

/-- The name in `<class 'numpy.…'>`. -/
def Dtype.className : Dtype → String
  | .bool => "bool_"
  | .int8 => "int8"
  | .int16 => "int16"
  | .int32 => "int32"
  | .int64 => "int64"
  | .uint8 => "uint8"
  | .uint16 => "uint16"
  | .uint32 => "uint32"
  | .uint64 => "uint64"
  | .float16 => "float16"
  | .float32 => "float32"
  | .float64 => "float64"
  | .longdouble => "longdouble"
  | .complex64 => "complex64"
  | .complex128 => "complex128"

/-- `np.ndarray`: element type, shape, and the elements in row order (`False` and
`True` as 0 and 1). -/
structure NdArray where
  dtype : Dtype
  shape : List Nat
  data : List (WithNan ℚ)
deriving DecidableEq, Repr

/-- A value of a dictionary that is no dictionary itself. -/
inductive Leaf where
  | pyBool (b : Bool)
  | pyInt (i : Int)
  | pyFloat (x : WithNan ℚ)
  | npScalar (dtype : Dtype) (x : WithNan ℚ)
  | str (s : String)
  | array (a : NdArray)
  /-- A list, as `np.array` converts it. -/
  | list (a : NdArray)
  /-- Anything else, by the text of its type. -/
  | other (typeText : String)
deriving DecidableEq, Repr

/-- A dictionary, item by item in its order. -/
inductive Dict where
  | nil
  | leaf (key : String) (value : Leaf) (rest : Dict)
  | dict (key : String) (value : Dict) (rest : Dict)
deriving DecidableEq, Repr

/-! ## The file -/

/-- The path of a group from the root. -/
abbrev Path := List String

/-- A dimension, with the group it was created in. -/
structure Dim where
  group : Path
  name : String
  size : Nat
deriving DecidableEq, Repr

/-- The value of an attribute. -/
inductive AttrValue where
  | byte (b : Bool)
  | int (i : Int)
  | float (x : WithNan ℚ)
  | numpy (dtype : Dtype) (x : WithNan ℚ)
  | text (s : String)
deriving DecidableEq, Repr

structure Attribute where
  group : Path
  name : String
  value : AttrValue
deriving DecidableEq, Repr

structure Variable where
  group : Path
  name : String
  dtype : Dtype
  dims : List Dim
  data : List (WithNan ℚ)
deriving DecidableEq, Repr

/-- What has been created in the file. `dims` is also the list that is threaded
through the recursion, with `dim_sizes` and `dim_names` its two columns. -/
structure NcFile where
  groups : List Path
  dims : List Dim
  attributes : List Attribute
  vars : List Variable
deriving DecidableEq, Repr

def NcFile.empty : NcFile := ⟨[], [], [], []⟩

/-! ## The encoder -/

/-- The dimension for an axis: the one of its length, or a new one in the current
group. -/
def dimFor (group : Path) (size : Nat) (dims : List Dim) : Dim × List Dim :=
  match dims.find? (fun d => d.size == size) with
  | some d => (d, dims)
  | none =>
      let d : Dim := ⟨group, "dim" ++ toString (dims.length + 1), size⟩
      (d, dims ++ [d])

/-- The dimensions of all axes of an array, in order. -/
def axisDims (group : Path) : List Nat → List Dim → List Dim × List Dim
  | [], dims => ([], dims)
  | size :: sizes, dims =>
      let first := dimFor group size dims
      let others := axisDims group sizes first.2
      (first.1 :: others.1, others.2)

/-- `value.astype(int)` of a boolean array. -/
def storedDtype (dtype : Dtype) : Dtype := if dtype = .bool then .int64 else dtype

/-- A dimension of the group itself or of an ancestor. -/
def Dim.visibleFrom (d : Dim) (group : Path) : Bool := d.group.isPrefixOf group

/-- What a library that looks raises for a dimension out of sight. -/
def dimNotFound (found : List Dim) (group : Path) : PyExc :=
  let name := ((found.find? (fun d => !d.visibleFrom group)).map Dim.name).getD ""
  ⟨.valueError, "cannot find dimension " ++ name ++ " in this group or parent groups"⟩

/-- The three branches for arrays of one, two and three dimensions. -/
def storeArray (strict : Bool) (group : Path) (key : String) (a : NdArray) (f : NcFile) :
    Except PyExc NcFile :=
  let found := axisDims group a.shape f.dims
  let dtype := storedDtype a.dtype
  if !dtype.supported then
    .error ⟨.typeError, "illegal primitive data type, got " ++ dtype.className⟩
  else if strict && !found.1.all (fun d => d.visibleFrom group) then
    .error (dimNotFound found.1 group)
  else
    .ok { f with
      dims := found.2
      vars := f.vars ++ [⟨group, key, dtype, found.1, a.data⟩] }

/-- `ncfile.setncattr(key, value)`. -/
def setncattr (group : Path) (key : String) (value : AttrValue) (f : NcFile) : NcFile :=
  { f with attributes := f.attributes ++ [⟨group, key, value⟩] }

/-- A Python integer that numpy holds in 64 bits. -/
def fitsAttribute (i : Int) : Bool := decide (-2 ^ 63 ≤ i ∧ i < 2 ^ 64)

def illegalAttribute : PyExc :=
  ⟨.typeError, "illegal data type for attribute"⟩

/-- The `raise ValueError` of the last branch. -/
def unsupported (key typeText : String) : PyExc :=
  ⟨.valueError, "Unsupported data type for variable '" ++ key ++ "': " ++ typeText⟩

/-- The branches for arrays, by the number of dimensions. -/
def storeNdArray (strict : Bool) (group : Path) (key : String) (a : NdArray) (f : NcFile) :
    Except PyExc NcFile :=
  match a.shape.length with
  | 0 => .error (unsupported key "<class 'numpy.ndarray'>")
  | 1 | 2 | 3 => storeArray strict group key a f
  | n => .ok (setncattr group key (.text (key ++ " : data type <class 'numpy.ndarray'>  of array "
      ++ "dimensions " ++ toString n ++ " not supported")) f)

/-- One item that is no dictionary. -/
def storeLeaf (strict : Bool) (group : Path) (key : String) (value : Leaf) (f : NcFile) :
    Except PyExc NcFile :=
  match value with
  | .list a => storeNdArray strict group key a f
  | .array a => storeNdArray strict group key a f
  | .pyBool b => .ok (setncattr group key (.byte b) f)
  | .pyInt i =>
      if fitsAttribute i then .ok (setncattr group key (.int i) f) else .error illegalAttribute
  | .pyFloat x => .ok (setncattr group key (.float x) f)
  | .npScalar dtype x =>
      if dtype.isIntegerOrFloating then
        if dtype.supported then .ok (setncattr group key (.numpy dtype x) f)
        else .error illegalAttribute
      else .error (unsupported key ("<class 'numpy." ++ dtype.className ++ "'>"))
  | .str s => .ok (setncattr group key (.text s) f)
  | .other typeText => .error (unsupported key typeText)

/-- `ncfile.createGroup(key)`. -/
def createGroup (group : Path) (f : NcFile) : NcFile := { f with groups := f.groups ++ [group] }

/-- `create_variables(ncfile, "", data, dim_sizes, dim_names, dims)`. -/
def createVariables (strict : Bool) (group : Path) : Dict → NcFile → Except PyExc NcFile
  | .nil, f => .ok f
  | .leaf key value rest, f =>
      match storeLeaf strict group key value f with
      | .error exc => .error exc
      | .ok f => createVariables strict group rest f
  | .dict key value rest, f =>
      match createVariables strict (group ++ [key]) value (createGroup (group ++ [key]) f) with
      | .error exc => .error exc
      | .ok f => createVariables strict group rest f

/-- `create_netcdf_file`: the file, if nothing was raised. -/
def createNetcdfFile (strict : Bool) (dataDict : Dict) : Except PyExc NcFile :=
  createVariables strict [] dataDict NcFile.empty

/-! ## The traversal -/

/-- What the recursion meets, in order: a nested dictionary, or another item. -/
inductive Item where
  | nested (path : Path)
  | leaf (group : Path) (key : String) (value : Leaf)
deriving DecidableEq, Repr

/-- The items of a dictionary that is written into `group`. -/
def Dict.items (group : Path) : Dict → List Item
  | .nil => []
  | .leaf key value rest => .leaf group key value :: rest.items group
  | .dict key value rest =>
      .nested (group ++ [key]) :: (value.items (group ++ [key]) ++ rest.items group)

/-- The groups a file of these items has. -/
def Item.group? : Item → Option Path
  | .nested path => some path
  | .leaf _ _ _ => none

/-- The array of an item. -/
def Item.array? : Item → Option (Path × String × NdArray)
  | .leaf group key (.array a) | .leaf group key (.list a) => some (group, key, a)
  | _ => none

/-- The attribute of a scalar or string. -/
def Leaf.scalar? : Leaf → Option AttrValue
  | .pyBool b => some (.byte b)
  | .pyInt i => some (.int i)
  | .pyFloat x => some (.float x)
  | .npScalar dtype x => some (.numpy dtype x)
  | .str s => some (.text s)
  | _ => none

def Item.scalar? : Item → Option Attribute
  | .leaf group key value => value.scalar?.map fun v => ⟨group, key, v⟩
  | .nested _ => none

/-- The axes of the arrays, in the order the encoder meets them: the group and
the length of each. -/
def Item.axes : Item → List (Path × Nat)
  | .leaf group _ (.array a) | .leaf group _ (.list a) => a.shape.map fun n => (group, n)
  | _ => []

/-- The leaves the encoder is written for: numbers, strings, booleans, and arrays
or lists of one to three dimensions. -/
def Leaf.inDomain : Leaf → Bool
  | .array a | .list a => decide (1 ≤ a.shape.length ∧ a.shape.length ≤ 3)
  | .other _ => false
  | _ => true

def Item.inDomain : Item → Bool
  | .leaf _ _ value => value.inDomain
  | .nested _ => true

/-- The leaves the library can store. A numpy boolean is none of the encoder's
scalars. -/
def Leaf.storable : Leaf → Bool
  | .pyBool _ | .pyFloat _ | .str _ => true
  | .pyInt i => fitsAttribute i
  | .npScalar dtype _ => dtype.isIntegerOrFloating && dtype.supported
  | .array a | .list a => (storedDtype a.dtype).supported
  | .other _ => false

def Item.storable : Item → Bool
  | .leaf _ _ value => value.storable
  | .nested _ => true

/-! ## One item -/

/-- The encoder's work on one item. -/
def storeItem (strict : Bool) (f : NcFile) : Item → Except PyExc NcFile
  | .nested path => .ok (createGroup path f)
  | .leaf group key value => storeLeaf strict group key value f

/-- The recursion stores the items one after the other. -/
theorem createVariables_eq (strict : Bool) : ∀ (d : Dict) (group : Path) (f : NcFile),
    createVariables strict group d f = (d.items group).foldlM (storeItem strict) f := by
  intro d
  induction d with
  | nil =>
      intro group f
      rfl
  | leaf key value rest ih =>
      intro group f
      rw [createVariables, Dict.items, List.foldlM_cons]
      show _ = storeLeaf strict group key value f >>= _
      cases h : storeLeaf strict group key value f with
      | error exc => rfl
      | ok f' => exact ih group f'
  | dict key value rest ihv ihr =>
      intro group f
      rw [createVariables, Dict.items, List.foldlM_cons]
      show _ = List.foldlM (storeItem strict) (createGroup (group ++ [key]) f) _
      rw [List.foldlM_append, ihv]
      cases h : List.foldlM (storeItem strict) (createGroup (group ++ [key]) f)
          (value.items (group ++ [key])) with
      | error exc => rfl
      | ok f' => exact ihr group f'

/-- What storing an item does to the file, when nothing is raised. -/
def applyItem (f : NcFile) : Item → NcFile
  | .nested path => createGroup path f
  | .leaf group key value =>
      match value with
      | .array a | .list a =>
          let found := axisDims group a.shape f.dims
          { f with
            dims := found.2
            vars := f.vars ++ [⟨group, key, storedDtype a.dtype, found.1, a.data⟩] }
      | _ =>
          match value.scalar? with
          | some v => setncattr group key v f
          | none => f

/-- The dimensions an item refers to when it is stored. -/
def Item.dimsIn (f : NcFile) : Item → List Dim
  | .leaf group _ (.array a) | .leaf group _ (.list a) => (axisDims group a.shape f.dims).1
  | _ => []

def Item.path : Item → Path
  | .nested path => path
  | .leaf group _ _ => group

theorem storeNdArray_inDomain {strict : Bool} {group : Path} {key : String} {a : NdArray}
    {f : NcFile} (h : 1 ≤ a.shape.length ∧ a.shape.length ≤ 3) :
    storeNdArray strict group key a f = storeArray strict group key a f := by
  unfold storeNdArray
  obtain ⟨h1, h3⟩ := h
  generalize a.shape.length = n at h1 h3
  match n, h1, h3 with
  | 1, _, _ => rfl
  | 2, _, _ => rfl
  | 3, _, _ => rfl

/-- An array is stored if the library has its element type and, where it looks,
finds the dimensions in sight. -/
theorem storeArray_cases (strict : Bool) (group : Path) (key : String) (a : NdArray)
    (f : NcFile) :
    (storeArray strict group key a f = .ok (applyItem f (.leaf group key (.array a))) ∧
      (storedDtype a.dtype).supported = true ∧
      (strict = true → ∀ d ∈ (axisDims group a.shape f.dims).1, d.visibleFrom group = true)) ∨
    ((∃ exc, storeArray strict group key a f = .error exc) ∧
      ((storedDtype a.dtype).supported = false ∨
        (strict = true ∧ ∃ d ∈ (axisDims group a.shape f.dims).1, d.visibleFrom group = false))) := by
  unfold storeArray
  cases hsup : (storedDtype a.dtype).supported with
  | false =>
      right
      simp only [hsup, Bool.not_false, if_true]
      exact ⟨⟨_, rfl⟩, Or.inl trivial⟩
  | true =>
      simp only [hsup, Bool.not_true, Bool.false_eq_true, if_false]
      cases strict with
      | false => exact Or.inl ⟨rfl, trivial, fun h => absurd h nofun⟩
      | true =>
          cases hall : (axisDims group a.shape f.dims).1.all (fun d => d.visibleFrom group) with
          | true =>
              left
              refine ⟨rfl, trivial, ?_⟩
              intro _ d hd
              exact List.all_eq_true.mp hall d hd
          | false =>
              right
              refine ⟨⟨_, rfl⟩, Or.inr ⟨rfl, ?_⟩⟩
              obtain ⟨d, hd, hvis⟩ := List.all_eq_false.mp hall
              exact ⟨d, hd, Bool.eq_false_iff.mpr hvis⟩

/-- **One item**: it is stored if the library can hold it and, where the library
looks, its dimensions are in sight. -/
theorem storeItem_cases (strict : Bool) (f : NcFile) {item : Item} (hdom : item.inDomain = true) :
    (storeItem strict f item = .ok (applyItem f item) ∧ item.storable = true ∧
      (strict = true → ∀ d ∈ item.dimsIn f, d.visibleFrom item.path = true)) ∨
    ((∃ exc, storeItem strict f item = .error exc) ∧
      (item.storable = false ∨
        (strict = true ∧ ∃ d ∈ item.dimsIn f, d.visibleFrom item.path = false))) := by
  cases item with
  | nested path => exact Or.inl ⟨rfl, rfl, fun _ d hd => absurd hd List.not_mem_nil⟩
  | leaf group key value =>
      cases value with
      | pyBool b => exact Or.inl ⟨rfl, rfl, fun _ d hd => absurd hd List.not_mem_nil⟩
      | pyFloat x => exact Or.inl ⟨rfl, rfl, fun _ d hd => absurd hd List.not_mem_nil⟩
      | str s => exact Or.inl ⟨rfl, rfl, fun _ d hd => absurd hd List.not_mem_nil⟩
      | pyInt i =>
          cases hfit : fitsAttribute i with
          | true =>
              exact Or.inl ⟨if_pos hfit, hfit, fun _ d hd => absurd hd List.not_mem_nil⟩
          | false =>
              exact Or.inr ⟨⟨illegalAttribute, if_neg (by simp [hfit])⟩, Or.inl hfit⟩
      | npScalar dtype x =>
          -- `setncattr` takes the scalars of the types the library has
          cases dtype <;>
            first
              | exact Or.inl ⟨rfl, rfl, fun _ d hd => absurd hd List.not_mem_nil⟩
              | exact Or.inr ⟨⟨_, rfl⟩, Or.inl rfl⟩
      | other typeText => exact absurd hdom Bool.false_ne_true
      | array a =>
          have hshape := of_decide_eq_true hdom
          show (storeNdArray strict group key a f = _ ∧ _) ∨
            ((∃ exc, storeNdArray strict group key a f = .error exc) ∧ _)
          rw [storeNdArray_inDomain hshape]
          exact storeArray_cases strict group key a f
      | list a =>
          have hshape := of_decide_eq_true hdom
          show (storeNdArray strict group key a f = _ ∧ _) ∨
            ((∃ exc, storeNdArray strict group key a f = .error exc) ∧ _)
          rw [storeNdArray_inDomain hshape]
          exact storeArray_cases strict group key a f

/-! ## Dimensions -/

/-- The group of the first axis of a length. -/
def firstUse (uses : List (Path × Nat)) (size : Nat) : Option Path :=
  (uses.find? (fun u => u.2 == size)).map Prod.fst

/-- The dimension of a length. -/
def dimOf (dims : List Dim) (size : Nat) : Option Dim := dims.find? (fun d => d.size == size)

theorem dimOf_size {dims : List Dim} {size : Nat} {d : Dim} (h : dimOf dims size = some d) :
    d.size = size :=
  beq_iff_eq.mp (List.find?_some (p := fun d : Dim => d.size == size) h)

theorem dimOf_append (dims : List Dim) (d : Dim) (size : Nat) :
    dimOf (dims ++ [d]) size =
      (dimOf dims size).or (if d.size = size then some d else none) := by
  unfold dimOf
  rw [List.find?_append]
  congr 1
  by_cases h : d.size = size
  · simp [h]
  · simp [h]

theorem firstUse_append (uses : List (Path × Nat)) (p : Path) (n size : Nat) :
    firstUse (uses ++ [(p, n)]) size =
      (firstUse uses size).or (if n = size then some p else none) := by
  unfold firstUse
  rw [List.find?_append]
  cases uses.find? (fun u => u.2 == size) with
  | some u => rfl
  | none =>
      by_cases h : n = size
      · simp [h]
      · simp [h]

/-- The dimensions are those of the first axes: each length belongs to the group
that first used it. -/
def OwnedByFirst (dims : List Dim) (uses : List (Path × Nat)) : Prop :=
  ∀ size, (dimOf dims size).map Dim.group = firstUse uses size

/-- One axis: it gets the dimension of its length, no other dimension changes, and
the first user of a length stays its owner. -/
theorem dimFor_spec {dims : List Dim} {uses : List (Path × Nat)} (group : Path) (n : Nat)
    (hown : OwnedByFirst dims uses) :
    dimOf (dimFor group n dims).2 n = some (dimFor group n dims).1 ∧
      OwnedByFirst (dimFor group n dims).2 (uses ++ [(group, n)]) ∧
      ∀ size d, dimOf dims size = some d → dimOf (dimFor group n dims).2 size = some d := by
  unfold dimFor
  cases hfind : dims.find? (fun d => d.size == n) with
  | some d =>
      refine ⟨hfind, ?_, fun size d h => h⟩
      intro size
      rw [firstUse_append, ← hown size]
      cases hsize : dimOf dims size with
      | some e => rfl
      | none =>
          -- the length has a dimension, so it is another one
          have hne : n ≠ size := by
            rintro rfl
            rw [dimOf, hfind] at hsize
            exact absurd hsize nofun
          rw [if_neg hne]
          rfl
  | none =>
      refine ⟨?_, ?_, ?_⟩
      · rw [dimOf_append, dimOf, hfind]
        simp
      · intro size
        rw [firstUse_append, ← hown size, dimOf_append]
        cases hsize : dimOf dims size with
        | some e => rfl
        | none =>
            by_cases hn : n = size
            · simp [hn]
            · simp [hn]
      · intro size d h
        rw [dimOf_append, h]
        rfl

/-- All axes of an array. -/
theorem axisDims_spec (group : Path) : ∀ (shape : List Nat) (dims : List Dim)
    (uses : List (Path × Nat)), OwnedByFirst dims uses →
      (∀ d ∈ (axisDims group shape dims).1,
        dimOf (axisDims group shape dims).2 d.size = some d) ∧
      OwnedByFirst (axisDims group shape dims).2 (uses ++ shape.map fun n => (group, n)) ∧
      ∀ size d, dimOf dims size = some d →
        dimOf (axisDims group shape dims).2 size = some d := by
  intro shape
  induction shape with
  | nil =>
      intro dims uses hown
      refine ⟨fun d hd => absurd hd List.not_mem_nil, ?_, fun _ _ h => h⟩
      rw [List.map_nil, List.append_nil]
      exact hown
  | cons n shape ih =>
      intro dims uses hown
      -- the first axis finds or makes its dimension, the others leave it as it is
      obtain ⟨hfirst, hown', hkeep⟩ := dimFor_spec group n hown
      obtain ⟨hrest, hown'', hkeep'⟩ := ih _ _ hown'
      refine ⟨?_, ?_, fun size d h => hkeep' size d (hkeep size d h)⟩
      · intro d hd
        rcases List.mem_cons.mp hd with rfl | hd
        · rw [dimOf_size hfirst]
          exact hkeep' n _ hfirst
        · exact hrest d hd
      · rw [List.map_cons, List.append_cons]
        exact hown''

theorem axisDims_sizes (group : Path) : ∀ (shape : List Nat) (dims : List Dim),
    (axisDims group shape dims).1.map Dim.size = shape := by
  intro shape
  induction shape with
  | nil =>
      intro dims
      rfl
  | cons n shape ih =>
      intro dims
      have hsize : (dimFor group n dims).1.size = n := by
        unfold dimFor
        cases hfind : dims.find? (fun d => d.size == n) with
        | some d => exact dimOf_size hfind
        | none => rfl
      show (dimFor group n dims).1.size :: (axisDims group shape _).1.map Dim.size = _
      rw [hsize, ih]

/-! ## The whole file -/

/-- The invariant of the recursion, after the axes `uses`: the variables refer to
dimensions of the file by their length, one for each axis met. -/
structure FileInv (f : NcFile) (uses : List (Path × Nat)) : Prop where
  owned : OwnedByFirst f.dims uses
  refers : ∀ v ∈ f.vars, ∀ d ∈ v.dims, dimOf f.dims d.size = some d
  used : ∀ v ∈ f.vars, ∀ d ∈ v.dims, (v.group, d.size) ∈ uses
  covers : ∀ u ∈ uses, ∃ v ∈ f.vars, v.group = u.1 ∧ ∃ d ∈ v.dims, d.size = u.2

theorem FileInv.empty : FileInv NcFile.empty [] where
  owned _ := rfl
  refers _ hv := absurd hv List.not_mem_nil
  used _ hv := absurd hv List.not_mem_nil
  covers _ hu := absurd hu List.not_mem_nil

/-- An array keeps the invariant. -/
theorem FileInv.array {f : NcFile} {uses : List (Path × Nat)} (h : FileInv f uses) (group : Path)
    (key : String) (a : NdArray) :
    FileInv (applyItem f (.leaf group key (.array a)))
      (uses ++ a.shape.map fun n => (group, n)) := by
  obtain ⟨hnew, hown, hkeep⟩ := axisDims_spec group a.shape f.dims uses h.owned
  have hsizes := axisDims_sizes group a.shape f.dims
  refine ⟨hown, ?_, ?_, ?_⟩
  · intro v hv d hd
    rcases List.mem_append.mp hv with hv | hv
    · exact hkeep _ _ (h.refers v hv d hd)
    · obtain rfl := List.mem_singleton.mp hv
      exact hnew d hd
  · intro v hv d hd
    rcases List.mem_append.mp hv with hv | hv
    · exact List.mem_append_left _ (h.used v hv d hd)
    · obtain rfl := List.mem_singleton.mp hv
      apply List.mem_append_right
      refine List.mem_map.mpr ⟨d.size, ?_, rfl⟩
      rw [← hsizes]
      exact List.mem_map_of_mem hd
  · intro u hu
    rcases List.mem_append.mp hu with hu | hu
    · obtain ⟨v, hv, hgroup, hdim⟩ := h.covers u hu
      exact ⟨v, List.mem_append_left _ hv, hgroup, hdim⟩
    -- an axis of this array is covered by the variable just made
    · obtain ⟨n, hn, rfl⟩ := List.mem_map.mp hu
      rw [← hsizes] at hn
      obtain ⟨d, hd, hsize⟩ := List.mem_map.mp hn
      exact ⟨_, List.mem_append_right _ (List.mem_singleton.mpr rfl), rfl, d, hd, hsize⟩

/-- An item is stored like an array, or leaves dimensions and variables alone. -/
theorem applyItem_cases (f : NcFile) (item : Item) :
    (∃ group key a, item.path = group ∧ item.axes = a.shape.map (fun n => (group, n)) ∧
      item.dimsIn f = (axisDims group a.shape f.dims).1 ∧
      applyItem f item = applyItem f (.leaf group key (.array a))) ∨
    (item.axes = [] ∧ item.dimsIn f = [] ∧ (applyItem f item).dims = f.dims ∧
      (applyItem f item).vars = f.vars) := by
  cases item with
  | nested path => exact Or.inr ⟨rfl, rfl, rfl, rfl⟩
  | leaf group key value =>
      cases value with
      | array a => exact Or.inl ⟨group, key, a, rfl, rfl, rfl, rfl⟩
      | list a => exact Or.inl ⟨group, key, a, rfl, rfl, rfl, rfl⟩
      | pyBool b => exact Or.inr ⟨rfl, rfl, rfl, rfl⟩
      | pyInt i => exact Or.inr ⟨rfl, rfl, rfl, rfl⟩
      | pyFloat x => exact Or.inr ⟨rfl, rfl, rfl, rfl⟩
      | npScalar dtype x => exact Or.inr ⟨rfl, rfl, rfl, rfl⟩
      | str s => exact Or.inr ⟨rfl, rfl, rfl, rfl⟩
      | other typeText => exact Or.inr ⟨rfl, rfl, rfl, rfl⟩

/-- Every item keeps it. -/
theorem FileInv.item {f : NcFile} {uses : List (Path × Nat)} (h : FileInv f uses) (item : Item) :
    FileInv (applyItem f item) (uses ++ item.axes) := by
  rcases applyItem_cases f item with ⟨group, key, a, -, haxes, -, happly⟩ | ⟨haxes, -, hdims, hvars⟩
  · rw [happly, haxes]
    exact h.array group key a
  · rw [haxes, List.append_nil]
    exact
      { owned := hdims ▸ h.owned
        refers := hdims ▸ hvars ▸ h.refers
        used := hvars ▸ h.used
        covers := hvars ▸ h.covers }

/-- And a whole run. -/
theorem FileInv.run : ∀ (items : List Item) (f : NcFile) (uses : List (Path × Nat)),
    FileInv f uses → FileInv (items.foldl applyItem f) (uses ++ items.flatMap Item.axes) := by
  intro items
  induction items with
  | nil =>
      intro f uses h
      rw [List.flatMap_nil, List.append_nil]
      exact h
  | cons item items ih =>
      intro f uses h
      rw [List.foldl_cons, List.flatMap_cons, ← List.append_assoc]
      exact ih _ _ (h.item item)

theorem vars_subset : ∀ (items : List Item) (f : NcFile),
    f.vars ⊆ (items.foldl applyItem f).vars := by
  intro items
  induction items with
  | nil =>
      intro f
      exact fun _ h => h
  | cons item items ih =>
      intro f
      have hstep : f.vars ⊆ (applyItem f item).vars := by
        intro v hv
        rcases applyItem_cases f item with ⟨group, key, a, -, -, -, happly⟩ | ⟨-, -, -, hvars⟩
        · rw [happly]
          exact List.mem_append_left _ hv
        · rw [hvars]
          exact hv
      exact fun v hv => ih _ (hstep hv)

/-- The dimensions an item refers to are those of its variable. -/
theorem dimsIn_mem {f : NcFile} {item : Item} {d : Dim} (h : d ∈ item.dimsIn f) :
    ∃ v ∈ (applyItem f item).vars, v.group = item.path ∧ d ∈ v.dims := by
  rcases applyItem_cases f item with ⟨group, key, a, hpath, -, hin, happly⟩ | ⟨-, hin, -, -⟩
  · rw [hin] at h
    rw [happly, hpath]
    exact ⟨_, List.mem_append_right _ (List.mem_singleton.mpr rfl), rfl, h⟩
  · rw [hin] at h
    exact absurd h List.not_mem_nil

/-- Every variable refers only to dimensions of its group or of an ancestor. -/
def NcFile.Visible (f : NcFile) : Prop :=
  ∀ v ∈ f.vars, ∀ d ∈ v.dims, d.visibleFrom v.group = true

/-- A run that raises nothing has stored every item. -/
theorem storeItems_ok {strict : Bool} : ∀ {items : List Item} {f f' : NcFile},
    (∀ item ∈ items, item.inDomain = true) →
    items.foldlM (storeItem strict) f = .ok f' →
    f' = items.foldl applyItem f ∧ ∀ item ∈ items, item.storable = true := by
  intro items
  induction items with
  | nil =>
      intro f f' _ h
      exact ⟨(Except.ok.inj h).symm, fun item hitem => absurd hitem List.not_mem_nil⟩
  | cons item items ih =>
      intro f f' hdom h
      rw [List.foldlM_cons] at h
      rcases storeItem_cases strict f (hdom item List.mem_cons_self) with
        ⟨hok, hstor, -⟩ | ⟨⟨exc, herr⟩, -⟩
      · rw [hok] at h
        obtain ⟨heq, hrest⟩ := ih (fun i hi => hdom i (List.mem_cons_of_mem _ hi)) h
        refine ⟨heq, ?_⟩
        intro i hi
        rcases List.mem_cons.mp hi with rfl | hi
        · exact hstor
        · exact hrest i hi
      · rw [herr] at h
        exact absurd h nofun

/-- And every run over storable items raises nothing, if the library does not look
for the dimensions or finds them. -/
theorem storeItems_of_storable {strict : Bool} : ∀ {items : List Item} {f : NcFile},
    (∀ item ∈ items, item.inDomain = true) → (∀ item ∈ items, item.storable = true) →
    (strict = true → (items.foldl applyItem f).Visible) →
    items.foldlM (storeItem strict) f = .ok (items.foldl applyItem f) := by
  intro items
  induction items with
  | nil =>
      intro f _ _ _
      rfl
  | cons item items ih =>
      intro f hdom hstor hvis
      rw [List.foldlM_cons]
      rcases storeItem_cases strict f (hdom item List.mem_cons_self) with
        ⟨hok, -, -⟩ | ⟨-, hbad⟩
      · rw [hok]
        exact ih (fun i hi => hdom i (List.mem_cons_of_mem _ hi))
          (fun i hi => hstor i (List.mem_cons_of_mem _ hi)) hvis
      · rcases hbad with hbad | ⟨hstrict, d, hd, hinv⟩
        · rw [hstor item List.mem_cons_self] at hbad
          exact absurd hbad nofun
        · obtain ⟨v, hv, hgroup, hdv⟩ := dimsIn_mem hd
          have hseen := hvis hstrict v (vars_subset items _ hv) d hdv
          rw [hgroup, hinv] at hseen
          exact absurd hseen nofun

end Clev2er.Breakpoints
