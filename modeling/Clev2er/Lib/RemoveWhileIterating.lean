import Mathlib.Data.List.Chain
import Mathlib.Data.List.Nodup

/-!
# Removing from a list while a `for` loop runs over it

A list iterator is an index. Each round of `for x in xs` reads the element at
the index and then increments the index; nothing else moves it. When the body
calls `xs.remove(x)`, the elements behind `x` move one place to the front and
the next one is never visited.

`removeWhileIterating` is that loop with the index explicit. `sweep` is its
structural reading on a list without duplicates, and `sweep_eq_filter_iff` says
exactly when the loop filters the list: when no two neighbours are both to be
removed.
-/

namespace Clev2er.Lib

variable {α : Type} [DecidableEq α]

/-- `for x in xs: if p(x): xs.remove(x)`, started at iterator index `i`. The
result is the list after the loop, with the elements the loop variable took. -/
def removeWhileIterating (p : α → Bool) (i : Nat) (xs : List α) :
    List α × List α :=
  if h : i < xs.length then
    let x := xs.get ⟨i, h⟩
    let rest := removeWhileIterating p (i + 1) (if p x then xs.erase x else xs)
    (rest.1, x :: rest.2)
  else
    (xs, [])
termination_by xs.length - i
decreasing_by
  split
  · have := List.length_erase_le (a := xs.get ⟨i, h⟩) (l := xs)
    omega
  · omega

omit [DecidableEq α] in
/-- What the loop leaves behind, read off the list itself: after a removed
element the next one is kept without a test. -/
def sweep (p : α → Bool) : List α → List α
  | [] => []
  | [x] => if p x then [] else [x]
  | x :: y :: ys => if p x then y :: sweep p ys else x :: sweep p (y :: ys)

omit [DecidableEq α] in
/-- The elements the loop variable takes. -/
def swept (p : α → Bool) : List α → List α
  | [] => []
  | [x] => [x]
  | x :: y :: ys => x :: (if p x then swept p ys else swept p (y :: ys))

theorem removeWhileIterating_of_length_le (p : α → Bool) {i : Nat} {xs : List α}
    (h : xs.length ≤ i) : removeWhileIterating p i xs = (xs, []) := by
  rw [removeWhileIterating, dif_neg (by omega)]

/-- One round of the loop at the element `x` behind the part already done. -/
theorem removeWhileIterating_append_cons (p : α → Bool) (done : List α) (x : α)
    (xs : List α) (hx : x ∉ done) :
    removeWhileIterating p done.length (done ++ x :: xs) =
      let rest := removeWhileIterating p (done.length + 1)
        (if p x then done ++ xs else done ++ x :: xs)
      (rest.1, x :: rest.2) := by
  have hlt : done.length < (done ++ x :: xs).length := by simp
  have hget : (done ++ x :: xs).get ⟨done.length, hlt⟩ = x := by simp
  rw [removeWhileIterating, dif_pos hlt]
  simp only [hget, List.erase_append_right _ hx, List.erase_cons_head]

/-- **The loop is the sweep.** On a list without duplicates the index loop and
the structural sweep agree, in the list left and in the elements visited. -/
theorem removeWhileIterating_eq_sweep (p : α → Bool) :
    ∀ (done xs : List α), (done ++ xs).Nodup →
      removeWhileIterating p done.length (done ++ xs) =
        (done ++ sweep p xs, swept p xs)
  | done, [], _ => by
      rw [removeWhileIterating_of_length_le p (by simp)]
      simp [sweep, swept]
  | done, [x], hnd => by
      have hx : x ∉ done := by
        intro hmem
        exact (List.disjoint_of_nodup_append hnd) hmem List.mem_cons_self
      rw [removeWhileIterating_append_cons p done x [] hx]
      cases hp : p x with
      | true =>
          simp only [if_true, List.append_nil]
          rw [removeWhileIterating_of_length_le p (by omega)]
          simp [sweep, swept, hp]
      | false =>
          simp only [Bool.false_eq_true, if_false]
          rw [removeWhileIterating_of_length_le p (by simp)]
          simp [sweep, swept, hp]
  | done, x :: y :: ys, hnd => by
      have hx : x ∉ done := by
        intro hmem
        exact (List.disjoint_of_nodup_append hnd) hmem List.mem_cons_self
      rw [removeWhileIterating_append_cons p done x (y :: ys) hx]
      cases hp : p x with
      | true =>
          -- `y` has moved to the place of `x`, so the next index is behind it
          have hnd' : ((done ++ [y]) ++ ys).Nodup := by
            have hsub : (done ++ y :: ys).Sublist (done ++ x :: y :: ys) :=
              List.Sublist.append_left (List.sublist_cons_self x (y :: ys)) done
            simpa using hnd.sublist hsub
          have ih := removeWhileIterating_eq_sweep p (done ++ [y]) ys hnd'
          simp only [if_true]
          rw [show done.length + 1 = (done ++ [y]).length by simp,
            show done ++ y :: ys = (done ++ [y]) ++ ys by simp, ih]
          simp [sweep, swept, hp]
      | false =>
          have hnd' : ((done ++ [x]) ++ y :: ys).Nodup := by simpa using hnd
          have ih := removeWhileIterating_eq_sweep p (done ++ [x]) (y :: ys) hnd'
          simp only [Bool.false_eq_true, if_false]
          rw [show done.length + 1 = (done ++ [x]).length by simp,
            show done ++ x :: y :: ys = (done ++ [x]) ++ y :: ys by simp, ih]
          simp [sweep, swept, hp]
termination_by _ xs => xs.length

/-! ## When the sweep is a filter -/

omit [DecidableEq α] in
/-- The sweep never drops an element that was to be kept. -/
theorem filter_sublist_sweep (p : α → Bool) : ∀ xs : List α,
    (xs.filter (fun x => !p x)).Sublist (sweep p xs)
  | [] => by simp [sweep]
  | [x] => by
      cases hp : p x <;> simp [sweep, hp]
  | x :: y :: ys => by
      cases hp : p x with
      | true =>
          have ih := filter_sublist_sweep p ys
          cases hy : p y with
          | true => simpa [sweep, hp, hy] using ih.cons y
          | false => simpa [sweep, hp, hy] using ih
      | false =>
          have ih := filter_sublist_sweep p (y :: ys)
          simpa [sweep, hp] using ih
termination_by xs => xs.length

omit [DecidableEq α] in
/-- **Exactly when the loop filters.** The sweep removes every element it was
asked to remove if and only if no two neighbours were both to be removed. -/
theorem sweep_eq_filter_iff (p : α → Bool) : ∀ xs : List α,
    sweep p xs = xs.filter (fun x => !p x) ↔
      xs.IsChain (fun x y => ¬ (p x = true ∧ p y = true))
  | [] => by simp [sweep]
  | [x] => by
      cases hp : p x <;> simp [sweep, hp]
  | x :: y :: ys => by
      rw [List.isChain_cons_cons]
      cases hp : p x with
      | true =>
          cases hy : p y with
          | true =>
              -- `y` survives unseen: the sweep is longer than the filter
              have hlen := (filter_sublist_sweep p ys).length_le
              simp only [sweep, hp, hy, if_true, List.filter_cons, Bool.not_true,
                Bool.false_eq_true, if_false, and_self, not_true_eq_false,
                false_and, iff_false]
              intro heq
              have := congrArg List.length heq
              simp at this
              omega
          | false =>
              have ih := sweep_eq_filter_iff p ys
              have hchain : (y :: ys).IsChain (fun x y => ¬ (p x = true ∧ p y = true)) ↔
                  ys.IsChain (fun x y => ¬ (p x = true ∧ p y = true)) := by
                cases ys with
                | nil => simp
                | cons z zs => simp [List.isChain_cons_cons, hy]
              rw [← hchain] at ih
              simpa [sweep, hp, hy] using ih
      | false =>
          have ih := sweep_eq_filter_iff p (y :: ys)
          simpa [sweep, hp] using ih
termination_by xs => xs.length

end Clev2er.Lib
