import Mathlib.Data.List.Basic

/-!
# Insertion-ordered dictionaries

A dictionary is the list of its items in insertion order. Reading a key is
`List.lookup`; the three updates below keep the order a dictionary keeps:
assignment replaces in place or appends, the union lists the left operand's keys
first, and removal closes the gap.

Every update comes with its `lookup` law; proofs about dictionaries use these
and never unfold the updates.
-/

namespace Clev2er.Lib

variable {κ ν : Type} [DecidableEq κ]

/-- `d[k] = v`. -/
def dictSet (k : κ) (v : ν) : List (κ × ν) → List (κ × ν)
  | [] => [(k, v)]
  | e :: d => if e.1 = k then (e.1, v) :: d else e :: dictSet k v d

/-- `d.pop(k, None)`. -/
def dictPop (k : κ) (d : List (κ × ν)) : List (κ × ν) :=
  d.filter (fun e => decide (e.1 ≠ k))

/-- `a | b`: the keys of `a` in their order, with the value of `b` where `b`
has the key, and then the keys only `b` has. -/
def dictUnion (a b : List (κ × ν)) : List (κ × ν) :=
  a.map (fun e => (e.1, (b.lookup e.1).getD e.2)) ++
    b.filter (fun e => (a.lookup e.1).isNone)

theorem lookup_cons_eq (k : κ) (e : κ × ν) (d : List (κ × ν)) :
    (e :: d).lookup k = if k = e.1 then some e.2 else d.lookup k := by
  obtain ⟨k', v⟩ := e
  rw [List.lookup_cons]
  by_cases h : k = k'
  · simp [h]
  · have hbeq : (k == k') = false := beq_eq_false_iff_ne.mpr h
    simp [h, hbeq]

@[simp] theorem lookup_dictSet (k k' : κ) (v : ν) : ∀ d : List (κ × ν),
    (dictSet k v d).lookup k' = if k' = k then some v else d.lookup k'
  | [] => by simp [dictSet, lookup_cons_eq]
  | e :: d => by
      by_cases h : e.1 = k
      · simp only [dictSet, if_pos h, lookup_cons_eq]
        by_cases hk : k' = k
        · simp [hk, h]
        · simp [hk, h]
      · simp only [dictSet, if_neg h, lookup_cons_eq, lookup_dictSet k k' v d]
        by_cases hk : k' = e.1
        · simp [hk, h]
        · simp [hk]

@[simp] theorem lookup_dictPop (k k' : κ) : ∀ d : List (κ × ν),
    (dictPop k d).lookup k' = if k' = k then none else d.lookup k'
  | [] => by simp [dictPop]
  | e :: d => by
      have ih := lookup_dictPop k k' d
      simp only [dictPop] at ih
      by_cases h : e.1 = k
      · simp only [dictPop, List.filter_cons, h, ne_eq, not_true_eq_false,
          decide_false, Bool.false_eq_true, if_false, ih, lookup_cons_eq]
        by_cases hk : k' = k <;> simp [hk]
      · simp only [dictPop, List.filter_cons, ne_eq, h, not_false_eq_true,
          decide_true, if_true, ih, lookup_cons_eq]
        by_cases hk : k' = e.1
        · simp [hk, h]
        · simp [hk]

theorem lookup_map_value (f : κ → ν → ν) (k : κ) : ∀ d : List (κ × ν),
    (d.map (fun e => (e.1, f e.1 e.2))).lookup k = (d.lookup k).map (f k)
  | [] => by simp
  | e :: d => by
      simp only [List.map_cons, lookup_cons_eq, lookup_map_value f k d]
      by_cases hk : k = e.1 <;> simp [hk]

theorem lookup_filter_key (p : κ → Bool) (k : κ) : ∀ d : List (κ × ν),
    (d.filter (fun e => p e.1)).lookup k = if p k then d.lookup k else none
  | [] => by simp
  | e :: d => by
      have ih := lookup_filter_key p k d
      by_cases hp : p e.1 = true
      · simp only [List.filter_cons, hp, if_true, lookup_cons_eq, ih]
        by_cases hk : k = e.1
        · simp [hk, hp]
        · simp [hk]
      · rw [Bool.not_eq_true] at hp
        simp only [List.filter_cons, hp, Bool.false_eq_true, if_false,
          lookup_cons_eq, ih]
        by_cases hk : k = e.1
        · simp [hk, hp]
        · simp [hk]

/-- **The right operand wins**: a key of the union has the value of `b` if `b`
has the key, and the value of `a` otherwise. -/
@[simp] theorem lookup_dictUnion (a b : List (κ × ν)) (k : κ) :
    (dictUnion a b).lookup k = (b.lookup k).or (a.lookup k) := by
  unfold dictUnion
  rw [List.lookup_append, lookup_map_value (fun k v => (b.lookup k).getD v) k a,
    lookup_filter_key (fun k => (a.lookup k).isNone) k b]
  cases ha : a.lookup k with
  | none => simp
  | some v =>
      cases hb : b.lookup k with
      | none => simp
      | some w => simp

end Clev2er.Lib
