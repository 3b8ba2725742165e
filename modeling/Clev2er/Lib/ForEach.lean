import Mathlib.Data.List.GetD

/-!
# Arrays and the loops that fill them

An array is read entry by entry with `getD`. `forEach` is
`for i, x in enumerate(xs): out[i] = ...`, where a pass of the body may raise and
then ends the loop: `forEach_ok` reads a finished loop, and `forEach_of_ok` runs a
loop none of whose passes raises.
-/

namespace Clev2er.Lib

variable {ε α β : Type}

/-! ## Entries -/

theorem getD_mem {xs : List α} {i : Nat} (hi : i < xs.length) (d : α) : xs.getD i d ∈ xs := by
  rw [List.getD_eq_getElem _ _ hi]
  exact List.getElem_mem hi

theorem getD_set (xs : List α) (i j : Nat) (v d : α) :
    (xs.set i v).getD j d = if i = j ∧ i < xs.length then v else xs.getD j d := by
  rw [List.getD_eq_getElem?_getD, List.getD_eq_getElem?_getD, List.getElem?_set]
  by_cases hij : i = j
  · subst hij
    by_cases hlt : i < xs.length
    · simp [hlt]
    · have hnone : xs[i]? = none := List.getElem?_eq_none (Nat.le_of_not_lt hlt)
      simp [hlt]
  · simp [hij]

theorem getD_map_of_lt (g : α → β) {xs : List α} {i : Nat} (hi : i < xs.length) (a : α) (b : β) :
    (xs.map g).getD i b = g (xs.getD i a) := by
  rw [List.getD_eq_getElem _ _ (by simpa using hi), List.getD_eq_getElem _ _ hi, List.getElem_map]

theorem getD_map_range (g : Nat → α) {n j : Nat} (hj : j < n) (d : α) :
    ((List.range n).map g).getD j d = g j := by
  rw [List.getD_eq_getElem _ _ (by simpa using hj), List.getElem_map, List.getElem_range]

theorem getD_map_zipIdx (f : α × Nat → β) {xs : List α} {i : Nat} (hi : i < xs.length) (a : α)
    (b : β) : (xs.zipIdx.map f).getD i b = f (xs.getD i a, i) := by
  simp [List.getD_eq_getElem?_getD, List.getElem?_eq_getElem hi]

theorem getD_zipWith {γ : Type} (f : α → β → γ) {xs : List α} {ys : List β} {i : Nat}
    (hx : i < xs.length) (hy : i < ys.length) (a : α) (b : β) (c : γ) :
    (List.zipWith f xs ys).getD i c = f (xs.getD i a) (ys.getD i b) := by
  have hz : i < (List.zipWith f xs ys).length := by
    rw [List.length_zipWith]
    exact Nat.lt_min.mpr ⟨hx, hy⟩
  rw [List.getD_eq_getElem _ _ hx, List.getD_eq_getElem _ _ hy, List.getD_eq_getElem _ _ hz,
    List.getElem_zipWith]

/-! ## Steps that may raise -/

/-- Two steps finish only if both do. -/
theorem except_bind_ok {x : Except ε α} {f : α → Except ε β} {b : β} (h : (x >>= f) = .ok b) :
    ∃ a, x = .ok a ∧ f a = .ok b := by
  cases x with
  | error e => cases h
  | ok a => exact ⟨a, rfl, h⟩

theorem except_bind_ok_iff {x : Except ε α} {f : α → Except ε β} {b : β} :
    (x >>= f) = .ok b ↔ ∃ a, x = .ok a ∧ f a = .ok b := by
  refine ⟨except_bind_ok, ?_⟩
  rintro ⟨a, rfl, hf⟩
  exact hf

theorem except_bind_error {x : Except ε α} {f : α → Except ε β} {e : ε}
    (h : (x >>= f) = .error e) : x = .error e ∨ ∃ a, x = .ok a ∧ f a = .error e := by
  cases x with
  | error e' => exact .inl (congrArg Except.error (Except.error.inj h))
  | ok a => exact .inr ⟨a, rfl, h⟩

/-! ## Loops -/

/-- The loop over `xs`, whose first element has index `i`. -/
def forEach (body : Nat → α → Except ε β) : Nat → List α → Except ε (List β)
  | _, [] => .ok []
  | i, x :: xs =>
      match body i x with
      | .error e => .error e
      | .ok y =>
          match forEach body (i + 1) xs with
          | .error e => .error e
          | .ok ys => .ok (y :: ys)

theorem forEach_single {body : Nat → α → Except ε β} {i : Nat} {x : α} {y : β}
    (h : body i x = .ok y) : forEach body i [x] = .ok [y] := by
  rw [forEach, h]
  rfl

/-- A finished loop has one output for each input, that of its pass. -/
theorem forEach_ok {body : Nat → α → Except ε β} (a : α) (b : β) :
    ∀ {xs : List α} {ys : List β} {i : Nat}, forEach body i xs = .ok ys →
      ys.length = xs.length ∧ ∀ j, j < xs.length → body (i + j) (xs.getD j a) = .ok (ys.getD j b)
  | [], ys, i, h => by
      obtain rfl := (Except.ok.inj h).symm
      exact ⟨rfl, fun j hj => absurd hj (Nat.not_lt_zero j)⟩
  | x :: xs, ys, i, h => by
      rw [forEach] at h
      rcases hbody : body i x with e | y
      · simp [hbody] at h
      · rcases hrest : forEach body (i + 1) xs with e | rest
        · simp [hbody, hrest] at h
        · simp only [hbody, hrest] at h
          obtain rfl := (Except.ok.inj h).symm
          obtain ⟨hlen, hentries⟩ := forEach_ok a b hrest
          refine ⟨by simp [hlen], ?_⟩
          intro j hj
          cases j with
          | zero => simpa using hbody
          | succ j =>
              have hentry := hentries j (by simpa using hj)
              rw [show i + 1 + j = i + (j + 1) by omega] at hentry
              simpa using hentry

/-- A loop none of whose passes raises finishes. -/
theorem forEach_of_ok {body : Nat → α → Except ε β} (a : α) :
    ∀ (xs : List α) (i : Nat),
    (∀ j, j < xs.length → ∃ y, body (i + j) (xs.getD j a) = .ok y) →
      ∃ ys, forEach body i xs = .ok ys
  | [], _, _ => ⟨[], rfl⟩
  | x :: xs, i, h => by
      obtain ⟨y, hy⟩ : ∃ y, body i x = .ok y := h 0 (by simp)
      obtain ⟨ys, hys⟩ := forEach_of_ok a xs (i + 1) (by
        intro j hj
        rw [show i + 1 + j = i + (j + 1) by omega]
        exact h (j + 1) (by simpa using hj))
      exact ⟨y :: ys, by rw [forEach, hy]; simp only [hys]⟩

/-- What a loop raises, one of its passes raises. -/
theorem forEach_error {body : Nat → α → Except ε β} {e : ε} :
    ∀ {xs : List α} {i : Nat}, forEach body i xs = .error e → ∃ j x, body j x = .error e
  | x :: xs, i, h => by
      rw [forEach] at h
      rcases hbody : body i x with e' | y
      · simp only [hbody, Except.error.injEq] at h
        exact ⟨i, x, by rw [hbody, h]⟩
      · rcases hrest : forEach body (i + 1) xs with e' | ys
        · simp only [hbody, hrest, Except.error.injEq] at h
          rw [h] at hrest
          exact forEach_error hrest
        · simp [hbody, hrest] at h

/-- A loop that applies a function to each element. -/
theorem forEach_eq_map {body : Nat → α → Except ε β} {g : α → β} :
    ∀ (xs : List α) (i : Nat), (∀ j, ∀ x ∈ xs, body j x = .ok (g x)) →
      forEach body i xs = .ok (xs.map g)
  | [], _, _ => rfl
  | x :: xs, i, h => by
      rw [forEach, h i x (List.mem_cons_self ..)]
      simp only [forEach_eq_map xs (i + 1) fun j y hy => h j y (List.mem_cons_of_mem _ hy),
        List.map_cons]

/-- Every pass of a finished loop has finished. -/
theorem forEach_ok_mem {body : α → Except ε β} :
    ∀ {xs : List α} {ys : List β} {i : Nat}, forEach (fun _ => body) i xs = .ok ys →
      ∀ x ∈ xs, ∃ y, body x = .ok y
  | [], _, _, _, x, hx => absurd hx List.not_mem_nil
  | x :: xs, ys, i, h, z, hz => by
      rw [forEach] at h
      rcases hbody : body x with e | y
      · simp [hbody] at h
      · rcases hrest : forEach (fun _ => body) (i + 1) xs with e | rest
        · simp [hbody, hrest] at h
        · rcases List.mem_cons.mp hz with rfl | hmem
          · exact ⟨y, hbody⟩
          · exact forEach_ok_mem hrest z hmem

end Clev2er.Lib
