import Mathlib.Data.List.Nodup
import Mathlib.Data.List.Perm.Basic
import Mathlib.Data.Option.Defs

/-!
# Pipelines over a store

The steps of a pipeline read some keys of a store and write others. Two steps are
independent if neither writes what the other reads or writes; a pipeline may be put into
any order that keeps the order of the steps that are not (`sameResult_of_reordered`).
-/

namespace Clev2er.Lib

variable {S K V A : Type}

/-- A store: reading a key, and some writes in order. -/
structure Access (S K V : Type) where
  get : S → K → Option V
  put : List (K × V) → S → S
  get_put_of_not_mem : ∀ (writes : List (K × V)) (s : S) (key : K),
    (∀ e ∈ writes, e.1 ≠ key) → get (put writes s) key = get s key
  get_put_of_mem : ∀ (writes : List (K × V)) (s s' : S) (key : K),
    (∃ e ∈ writes, e.1 = key) → get (put writes s) key = get (put writes s') key

/-- The stores do not differ in any key. -/
def Access.Same (acc : Access S K V) (s s' : S) : Prop := ∀ key, acc.get s key = acc.get s' key

section Same

variable {acc : Access S K V} {s s' s'' : S}

theorem Access.Same.refl (s : S) : acc.Same s s := fun _ => rfl

theorem Access.Same.trans (h : acc.Same s s') (h' : acc.Same s' s'') : acc.Same s s'' :=
  fun key => (h key).trans (h' key)

theorem Access.Same.put (h : acc.Same s s') (writes : List (K × V)) :
    acc.Same (acc.put writes s) (acc.put writes s') := by
  intro key
  by_cases hmem : ∃ e ∈ writes, e.1 = key
  · exact acc.get_put_of_mem writes s s' key hmem
  · have hnot : ∀ e ∈ writes, e.1 ≠ key := fun e he heq => hmem ⟨e, he, heq⟩
    rw [acc.get_put_of_not_mem writes s key hnot, acc.get_put_of_not_mem writes s' key hnot, h key]

/-- Writes to different keys may be made in either order. -/
theorem Access.put_comm {writes more : List (K × V)}
    (h : ∀ e ∈ writes, ∀ e' ∈ more, e.1 ≠ e'.1) (s : S) :
    acc.Same (acc.put more (acc.put writes s)) (acc.put writes (acc.put more s)) := by
  intro key
  by_cases hmem : ∃ e ∈ writes, e.1 = key
  · obtain ⟨e, he, rfl⟩ := hmem
    rw [acc.get_put_of_not_mem more _ e.1 fun e' he' heq => h e he e' he' heq.symm]
    exact acc.get_put_of_mem writes _ _ e.1 ⟨e, he, rfl⟩
  · have hnot : ∀ e ∈ writes, e.1 ≠ key := fun e he heq => hmem ⟨e, he, heq⟩
    rw [acc.get_put_of_not_mem writes _ key hnot]
    by_cases hmore : ∃ e ∈ more, e.1 = key
    · exact acc.get_put_of_mem more _ _ key hmore
    · have hnot' : ∀ e ∈ more, e.1 ≠ key := fun e he heq => hmore ⟨e, he, heq⟩
      rw [acc.get_put_of_not_mem more _ key hnot', acc.get_put_of_not_mem more _ key hnot',
        acc.get_put_of_not_mem writes _ key hnot]

end Same

/-! ## Steps -/

/-- The store after some steps; a step that returns nothing ends the pipeline. -/
def pipeline (acc : Access S K V) (step : A → S → Option (List (K × V))) : List A → S → Option S
  | [], s => some s
  | a :: as, s => (step a s).bind fun writes => pipeline acc step as (acc.put writes s)

/-- What the steps read and write. -/
structure Flow (acc : Access S K V) (step : A → S → Option (List (K × V)))
    (reads writes : A → List K) : Prop where
  reads_only : ∀ a s s', (∀ key ∈ reads a, acc.get s key = acc.get s' key) → step a s = step a s'
  writes_only : ∀ a s stored, step a s = some stored → ∀ e ∈ stored, e.1 ∈ writes a

/-- Neither step writes what the other reads or writes. -/
structure Independent (reads writes : A → List K) (a b : A) : Prop where
  not_read : ∀ key ∈ writes a, key ∉ reads b
  not_written : ∀ key ∈ writes a, key ∉ writes b
  not_read' : ∀ key ∈ writes b, key ∉ reads a

/-- Both pipelines end early, or neither does and their stores are the same. -/
def Access.SameResult (acc : Access S K V) (x y : Option S) : Prop :=
  match x, y with
  | none, none => True
  | some s, some s' => acc.Same s s'
  | _, _ => False

section Reorder

variable {acc : Access S K V} {step : A → S → Option (List (K × V))} {reads writes : A → List K}
  {s s' : S}

theorem Access.SameResult.trans {x y z : Option S} (h : acc.SameResult x y)
    (h' : acc.SameResult y z) : acc.SameResult x z := by
  cases x <;> cases y <;> cases z
  case none.none.none => trivial
  case some.some.some => exact Access.Same.trans h h'
  all_goals first | exact h.elim | exact h'.elim

/-- A pipeline does not see the difference of stores that are the same. -/
theorem Flow.congr (hflow : Flow acc step reads writes) : ∀ (as : List A) {s s' : S},
    acc.Same s s' → acc.SameResult (pipeline acc step as s) (pipeline acc step as s') := by
  intro as
  induction as with
  | nil => exact fun h => h
  | cons a as ih =>
      intro s s' h
      have hstep : step a s = step a s' := hflow.reads_only a s s' fun key _ => h key
      rw [pipeline, pipeline, ← hstep]
      cases step a s with
      | none => trivial
      | some stored => exact ih (h.put stored)

/-- A step does not see what an independent one has written. -/
theorem Flow.step_put (hflow : Flow acc step reads writes) {a b : A}
    (h : ∀ key ∈ writes a, key ∉ reads b) {stored : List (K × V)} (hstep : step a s = some stored) :
    step b (acc.put stored s) = step b s := by
  apply hflow.reads_only
  intro key hkey
  apply acc.get_put_of_not_mem
  rintro e he rfl
  exact h e.1 (hflow.writes_only a s stored hstep e he) hkey

/-- **Two independent steps may be swapped.** -/
theorem Flow.swap (hflow : Flow acc step reads writes) {a b : A}
    (h : Independent reads writes a b) (as : List A) (s : S) :
    acc.SameResult (pipeline acc step (a :: b :: as) s) (pipeline acc step (b :: a :: as) s) := by
  simp only [pipeline]
  cases ha : step a s with
  | none =>
      cases hb : step b s with
      | none => trivial
      | some stored =>
          rw [Option.bind_none, Option.bind_some, hflow.step_put h.not_read' hb, ha]
          trivial
  | some stored =>
      rw [Option.bind_some, hflow.step_put h.not_read ha]
      cases hb : step b s with
      | none => trivial
      | some more =>
          rw [Option.bind_some, Option.bind_some, hflow.step_put h.not_read' hb, ha,
            Option.bind_some]
          apply hflow.congr
          apply Access.put_comm
          intro e he e' he' heq
          apply h.not_written e.1 (hflow.writes_only a s stored ha e he)
          rw [heq]
          exact hflow.writes_only b s more hb e' he'

/-- A step before pipelines of the same result. -/
theorem sameResult_cons (a : A) {as bs : List A}
    (h : ∀ s, acc.SameResult (pipeline acc step as s) (pipeline acc step bs s)) (s : S) :
    acc.SameResult (pipeline acc step (a :: as) s) (pipeline acc step (a :: bs) s) := by
  rw [pipeline, pipeline]
  cases step a s with
  | none => trivial
  | some stored => exact h _

/-- A step may be moved in front of steps from which it is independent. -/
theorem Flow.move (hflow : Flow acc step reads writes) {a : A} (rest : List A) :
    ∀ (front : List A), (∀ b ∈ front, Independent reads writes a b) → ∀ s,
      acc.SameResult (pipeline acc step (a :: (front ++ rest)) s)
        (pipeline acc step (front ++ a :: rest) s) := by
  intro front
  induction front with
  | nil => exact fun _ s => hflow.congr _ (Access.Same.refl s)
  | cons b front ih =>
      intro h s
      refine (hflow.swap (h b List.mem_cons_self) (front ++ rest) s).trans ?_
      exact sameResult_cons b (ih fun c hc => h c (List.mem_cons_of_mem _ hc)) s

/-- The second list has the steps of the first, those in their order that are not
independent. -/
structure Reordered (reads writes : A → List K) (as bs : List A) : Prop where
  perm : as.Perm bs
  order : ∀ a b, [a, b].Sublist as → ¬ Independent reads writes a b → [a, b].Sublist bs

/-- **Reordering a pipeline**, without changing the order of steps that are not
independent, does not change its result. -/
theorem Flow.sameResult_of_reordered [DecidableEq A] (hflow : Flow acc step reads writes) :
    ∀ {as bs : List A}, as.Nodup → Reordered reads writes as bs → ∀ s,
      acc.SameResult (pipeline acc step as s) (pipeline acc step bs s) := by
  intro as
  induction as with
  | nil =>
      intro bs _ h s
      rw [List.nil_perm.mp h.perm]
      exact Access.Same.refl s
  | cons a as ih =>
      intro bs hnodup h s
      obtain ⟨hnot, hrest⟩ := List.nodup_cons.mp hnodup
      have hnodup' : bs.Nodup := h.perm.nodup_iff.mp hnodup
      obtain ⟨front, back, rfl⟩ := List.append_of_mem (h.perm.subset List.mem_cons_self)
      have hperm : as.Perm (front ++ back) :=
        (List.perm_cons a).mp (h.perm.trans List.perm_middle)
      have hmem : ∀ b ∈ front ++ back, b ∈ as := fun b hb => hperm.symm.subset hb
      have hfront : ∀ b ∈ front, Independent reads writes a b := by
        intro b hb
        by_contra hdependent
        -- `a` comes before `b` in the first list, and after it in the second one
        have hsub : [a, b].Sublist (a :: as) :=
          (List.singleton_sublist.mpr (hmem b (List.mem_append_left _ hb))).cons_cons a
        have hlater := h.order a b hsub hdependent
        have hback : b ∈ back := by
          have hnotfront : a ∉ front := fun ha =>
            hnot (hmem a (List.mem_append_left _ ha))
          rw [List.sublist_append_iff] at hlater
          obtain ⟨l₁, l₂, heq, hl₁, hl₂⟩ := hlater
          cases l₁ with
          | nil =>
              rw [List.nil_append] at heq
              rw [← heq] at hl₂
              exact List.singleton_sublist.mp (List.cons_sublist_cons.mp hl₂)
          | cons x l₁ =>
              obtain ⟨rfl, -⟩ := List.cons_eq_cons.mp heq
              exact absurd (hl₁.subset List.mem_cons_self) hnotfront
        have hdisjoint := (List.nodup_append.mp hnodup').2.2
        exact hdisjoint b hb b (List.mem_cons_of_mem _ hback) rfl
      refine (sameResult_cons a (ih hrest ⟨hperm, ?_⟩) s).trans (hflow.move back front hfront s)
      intro x y hsub hdependent
      have hx : x ∈ as := hsub.subset List.mem_cons_self
      have hy : y ∈ as := hsub.subset (List.mem_cons_of_mem _ List.mem_cons_self)
      have hkeep : ∀ b ∈ as, b ≠ a := fun b hb heq => hnot (heq ▸ hb)
      have hlater := (h.order x y (hsub.cons a) hdependent).filter (fun b => decide (b ≠ a))
      have hsame : (front ++ a :: back).filter (fun b => decide (b ≠ a)) = front ++ back := by
        rw [List.filter_append, List.filter_cons_of_neg (by simp), ← List.filter_append]
        exact List.filter_eq_self.mpr fun b hb => decide_eq_true (hkeep b (hmem b hb))
      have hpair : [x, y].filter (fun b => decide (b ≠ a)) = [x, y] :=
        List.filter_eq_self.mpr fun b hb => by
          rcases List.mem_cons.mp hb with rfl | hb
          · exact decide_eq_true (hkeep b hx)
          · rw [List.mem_singleton.mp hb]
            exact decide_eq_true (hkeep y hy)
      rwa [hsame, hpair] at hlater

end Reorder

end Clev2er.Lib
