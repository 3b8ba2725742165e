import Clev2er.Breakpoints.WellFormed
import Clev2er.Retrack.Retracker

/-!
# The shared dictionary

`shared_dict` as the algorithms use it: a dictionary in the order in which its
keys were first stored, whose values are scalars, texts, arrays and, once, a
dictionary. Reading a missing key raises `KeyError`. `process()` is modelled by
what it stores (`Outcome`); a failed or raising `process()` ends the file, and
nothing reads its dictionary any more.
-/

namespace Clev2er.Cryotempo

open Clev2er.Lib Clev2er.Retrack Clev2er.Breakpoints

/-! ## Values -/

/-- A value of the shared dictionary. -/
inductive Value where
  | leaf (v : Leaf)
  | dict (d : Dict)
deriving DecidableEq

/-- A string. -/
def Value.text (s : String) : Value := .leaf (.str s)

/-- `None`. -/
def Value.none : Value := .leaf (.other "<class 'NoneType'>")

/-- An array with one axis. -/
def Value.array (dtype : Dtype) (xs : List Sample) : Value := .leaf (.array ⟨dtype, [xs.length], xs⟩)

/-- An array of `float64`. -/
def Value.floats (xs : List Sample) : Value := .array .float64 xs

/-- An array of booleans. -/
def Value.bools (bs : List Bool) : Value :=
  .array .bool (bs.map (fun b => if b then .num 1 else .num 0))

/-- An array of non-negative integers. -/
def Value.nats (dtype : Dtype) (ns : List Nat) : Value :=
  .array dtype (ns.map (fun n => .num (n : ℚ)))

/-- A list of pairs, as `np.array` converts it. -/
def Value.pairs (ps : List (Sample × Sample)) : Value :=
  .leaf (.list ⟨.float64, [ps.length, 2], ps.flatMap (fun p => [p.1, p.2])⟩)

/-- The elements of an array; `None` and scalars cannot be indexed. -/
def Value.samples : Value → Except PyExc (List Sample)
  | .leaf (.array a) => .ok a.data
  | _ => .error ⟨.typeError, "object is not subscriptable"⟩

/-- The elements of an integer array. -/
def Value.indices (v : Value) : Except PyExc (List Nat) :=
  match v.samples with
  | .error e => .error e
  | .ok xs => .ok (xs.map (fun x => match x with
      | .num q => q.num.toNat
      | .nan => 0))

/-- The elements of a boolean array. -/
def Value.flags (v : Value) : Except PyExc (List Bool) :=
  match v.samples with
  | .error e => .error e
  | .ok xs => .ok (xs.map (fun x => decide (x ≠ .num 0)))

/-- The text of a string in a formatted string. -/
def Value.asText : Value → Except PyExc String
  | .leaf (.str s) => .ok s
  | _ => .error ⟨.typeError, "expected str"⟩

/-- A Python integer. -/
def Value.asInt : Value → Except PyExc ℤ
  | .leaf (.pyInt i) => .ok i
  | _ => .error ⟨.typeError, "expected int"⟩

/-! ## Reading and storing -/

/-- `d.get(key)`. -/
def get? (key : String) : Dict → Option Value
  | .nil => Option.none
  | .leaf k v rest => if k = key then some (.leaf v) else get? key rest
  | .dict k v rest => if k = key then some (.dict v) else get? key rest

/-- `d[key]`. -/
def item (d : Dict) (key : String) : Except PyExc Value :=
  match get? key d with
  | some v => .ok v
  | none => .error ⟨.keyError, key⟩

/-- `key in d`. -/
def hasKey (d : Dict) (key : String) : Bool := (get? key d).isSome

/-- An item in front of a dictionary. -/
def Value.cons (key : String) (value : Value) (rest : Dict) : Dict :=
  match value with
  | .leaf v => .leaf key v rest
  | .dict v => .dict key v rest

/-- `d[key] = value`: in place, or at the end. -/
def setItem (key : String) (value : Value) : Dict → Dict
  | .nil => value.cons key .nil
  | .leaf k v rest => if k = key then value.cons key rest else .leaf k v (setItem key value rest)
  | .dict k v rest => if k = key then value.cons key rest else .dict k v (setItem key value rest)

/-- Some assignments in order. -/
def update (stored : List (String × Value)) (d : Dict) : Dict :=
  stored.foldl (fun d e => setItem e.1 e.2 d) d

/-- What `process()` returns: the reason of a failure, or a message and what it has
stored, in order. -/
inductive Outcome where
  | failure (reason : String)
  | success (message : String) (stored : List (String × Value))

/-! ## What a successful `process()` has stored -/

/-- Whenever `process()` succeeds, what it has stored satisfies `Q`. -/
def Stores (Q : List (String × Value) → Prop) (x : Except PyExc Outcome) : Prop :=
  ∀ message stored, x = .ok (.success message stored) → Q stored

section Stores

variable {Q : List (String × Value) → Prop}

theorem Stores.success {message : String} {stored : List (String × Value)} (h : Q stored) :
    Stores Q (.ok (.success message stored)) := by
  intro m s heq
  cases heq
  exact h

theorem Stores.failure (reason : String) : Stores Q (.ok (.failure reason)) := nofun

theorem Stores.error (e : PyExc) : Stores Q (.error e) := nofun

theorem Stores.bind {α : Type} {x : Except PyExc α} {f : α → Except PyExc Outcome}
    (h : ∀ a, x = .ok a → Stores Q (f a)) : Stores Q (x >>= f) := by
  cases x with
  | error e => exact Stores.error e
  | ok a => exact h a rfl

theorem Stores.ite {p : Prop} [Decidable p] {x y : Except PyExc Outcome} (hx : Stores Q x)
    (hy : Stores Q y) : Stores Q (if p then x else y) := by
  split
  · exact hx
  · exact hy

end Stores

/-! ## Reading what was stored -/

theorem get?_cons (key key' : String) (value : Value) (rest : Dict) :
    get? key (value.cons key' rest) = if key' = key then some value else get? key rest := by
  cases value <;> rfl

theorem get?_setItem (key key' : String) (value : Value) : ∀ d : Dict,
    get? key (setItem key' value d) = if key' = key then some value else get? key d := by
  intro d
  induction d with
  | nil => exact get?_cons key key' value .nil
  | leaf k v rest ih =>
      rw [setItem]
      by_cases hk : k = key'
      · subst hk
        rw [if_pos rfl, get?_cons, get?]
        by_cases h : k = key <;> simp [h]
      · rw [if_neg hk, get?, get?, ih]
        by_cases h : k = key
        · rw [if_pos h, if_neg (fun h' => hk (h.trans h'.symm)), if_pos h]
        · rw [if_neg h, if_neg h]
  | dict k v rest _ ih =>
      rw [setItem]
      by_cases hk : k = key'
      · subst hk
        rw [if_pos rfl, get?_cons, get?]
        by_cases h : k = key <;> simp [h]
      · rw [if_neg hk, get?, get?, ih]
        by_cases h : k = key
        · rw [if_pos h, if_neg (fun h' => hk (h.trans h'.symm)), if_pos h]
        · rw [if_neg h, if_neg h]

/-- Assignments to other keys leave a value alone. -/
theorem get?_update_of_not_mem {key : String} : ∀ {stored : List (String × Value)} {d : Dict},
    (∀ e ∈ stored, e.1 ≠ key) → get? key (update stored d) = get? key d := by
  intro stored
  induction stored with
  | nil =>
      intro d _
      rfl
  | cons e stored ih =>
      intro d h
      have hstep : update (e :: stored) d = update stored (setItem e.1 e.2 d) := rfl
      rw [hstep, ih (fun e' he' => h e' (List.mem_cons_of_mem _ he')), get?_setItem,
        if_neg (h e List.mem_cons_self)]

/-- What is read at the root is an item of the file. -/
theorem mem_items_of_get? {key : String} {v : Leaf} : ∀ {d : Dict} {group : Path},
    get? key d = some (.leaf v) → Item.leaf group key v ∈ d.items group := by
  intro d
  induction d with
  | nil =>
      intro group h
      cases h
  | leaf k u rest ih =>
      intro group h
      rw [get?] at h
      rw [Dict.items]
      split at h
      · next hk =>
        subst hk
        cases h
        exact List.mem_cons_self
      · exact List.mem_cons_of_mem _ (ih h)
  | dict k u rest _ ih =>
      intro group h
      rw [get?] at h
      rw [Dict.items]
      split at h
      · cases h
      · exact List.mem_cons_of_mem _ (List.mem_append_right _ (ih h))

end Clev2er.Cryotempo
