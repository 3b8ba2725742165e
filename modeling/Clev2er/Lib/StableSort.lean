import Mathlib.Data.List.Sort

/-!
# Stable sorting by a numeric key

`sortBy key l` is Python's `sorted(l, key=key)`. A stable sort is determined by
two facts, and `sortBy_eq_iff` says so: it is the list whose keys ascend and in
which, for every number, the elements with that key are those of `l` in the order
of `l`.
-/

namespace Clev2er.Lib

variable {α : Type} (key : α → Nat)

/-- `sorted(l, key=key)`. -/
def sortBy (l : List α) : List α := l.insertionSort (fun a b => key a ≤ key b)

/-- The elements with a given key, in order. -/
def withKey (k : Nat) (l : List α) : List α := l.filter (fun a => key a = k)

theorem sortBy_perm (l : List α) : (sortBy key l).Perm l :=
  List.perm_insertionSort _ l

theorem mem_sortBy {l : List α} {a : α} : a ∈ sortBy key l ↔ a ∈ l :=
  (sortBy_perm key l).mem_iff

instance keyTotal : Std.Total (fun a b => key a ≤ key b) :=
  ⟨fun a b => Nat.le_total (key a) (key b)⟩

instance keyTrans : IsTrans α (fun a b => key a ≤ key b) := ⟨fun _ _ _ => Nat.le_trans⟩

theorem sortBy_ascending (l : List α) : (sortBy key l).Pairwise (fun a b => key a ≤ key b) :=
  List.pairwise_insertionSort _ l

/-- Inserting an element puts it before the others with its key. -/
theorem withKey_orderedInsert (k : Nat) (a : α) : ∀ l : List α,
    withKey key k (l.orderedInsert (fun a b => key a ≤ key b) a) = withKey key k (a :: l)
  | [] => rfl
  | b :: l => by
      rw [List.orderedInsert_cons]
      split
      · rfl
      · next hlt =>
        have ih := withKey_orderedInsert k a l
        unfold withKey at ih ⊢
        rw [List.filter_cons, ih]
        by_cases hb : key b = k
        · have ha : ¬ key a = k := by omega
          simp [hb, ha]
        · by_cases ha : key a = k <;> simp [hb, ha]

/-- **Stability.** -/
theorem withKey_sortBy (k : Nat) : ∀ l : List α,
    withKey key k (sortBy key l) = withKey key k l
  | [] => rfl
  | a :: l => by
      have ih := withKey_sortBy k l
      show withKey key k ((sortBy key l).orderedInsert _ a) = _
      rw [withKey_orderedInsert]
      unfold withKey at ih ⊢
      rw [List.filter_cons, List.filter_cons, ih]

/-- A list with ascending keys is determined by its elements of each key. -/
theorem eq_of_withKey : ∀ {l l' : List α}, l.Pairwise (fun a b => key a ≤ key b) →
    l'.Pairwise (fun a b => key a ≤ key b) → (∀ k, withKey key k l = withKey key k l') → l = l'
  | [], [], _, _, _ => rfl
  | [], b :: l', _, _, h => by
      have hb := h (key b)
      simp [withKey] at hb
  | a :: l, [], _, _, h => by
      have ha := h (key a)
      simp [withKey] at ha
  | a :: l, b :: l', hl, hl', h => by
      have hmem : ∀ {x : α} {m m' : List α}, (∀ k, withKey key k m = withKey key k m') →
          x ∈ m → x ∈ m' := by
        intro x m m' hk hx
        have hx' : x ∈ withKey key (key x) m := List.mem_filter.mpr ⟨hx, by simp⟩
        rw [hk] at hx'
        exact (List.mem_filter.mp hx').1
      -- both heads have the smallest key
      have hab : key a = key b := by
        have hle : ∀ {x y : α} {m : List α}, (x :: m).Pairwise (fun a b => key a ≤ key b) →
            y ∈ x :: m → key x ≤ key y := by
          intro x y m hp hy
          rcases List.mem_cons.mp hy with rfl | hy
          · exact Nat.le_refl _
          · exact (List.pairwise_cons.mp hp).1 y hy
        apply Nat.le_antisymm
        · exact hle hl (hmem (fun k => (h k).symm) List.mem_cons_self)
        · exact hle hl' (hmem h List.mem_cons_self)
      have hhead := h (key a)
      simp only [withKey, List.filter_cons, hab, decide_true, if_true] at hhead
      obtain ⟨rfl, -⟩ := List.cons.inj hhead
      have htail : ∀ k, withKey key k l = withKey key k l' := by
        intro k
        have hk := h k
        simp only [withKey, List.filter_cons] at hk ⊢
        split at hk
        · exact (List.cons.inj hk).2
        · exact hk
      rw [eq_of_withKey (List.pairwise_cons.mp hl).2 (List.pairwise_cons.mp hl').2 htail]

/-- **A stable sort is determined** by its ascending keys and the order of the
elements of each key. -/
theorem sortBy_eq_iff {l l' : List α} :
    sortBy key l = l' ↔ l'.Pairwise (fun a b => key a ≤ key b) ∧
      ∀ k, withKey key k l' = withKey key k l := by
  constructor
  · rintro rfl
    exact ⟨sortBy_ascending key l, fun k => withKey_sortBy key k l⟩
  · rintro ⟨hasc, hkeys⟩
    apply eq_of_withKey key (sortBy_ascending key l) hasc
    intro k
    rw [withKey_sortBy, hkeys]

/-- Where each group carries its own number as key, the elements of a key are
the groups of that number. -/
theorem withKey_flatMap {ι : Type} (num : ι → Nat) (group : ι → List α) (k : Nat) :
    ∀ {is : List ι}, (∀ i ∈ is, ∀ x ∈ group i, key x = num i) →
      withKey key k (is.flatMap group) = (is.filter (fun i => num i = k)).flatMap group
  | [], _ => rfl
  | i :: is, h => by
      have ih := withKey_flatMap num group k (fun j hj => h j (List.mem_cons_of_mem _ hj))
      have hi : ∀ x ∈ group i, key x = num i := h i List.mem_cons_self
      unfold withKey at ih ⊢
      rw [List.flatMap_cons, List.filter_append, ih, List.filter_cons]
      by_cases hk : num i = k
      · have hall : (group i).filter (fun a => key a = k) = group i := by
          rw [List.filter_eq_self]
          intro x hx
          simp [hi x hx, hk]
        simp [hall, hk]
      · have hnone : (group i).filter (fun a => key a = k) = [] := by
          rw [List.filter_eq_nil_iff]
          intro x hx
          simp [hi x hx, hk]
        simp [hnone, hk]

end Clev2er.Lib
