import Mathlib.Data.List.Basic

/-!
# Overrides of settings

Settings that are read at paths, and overrides of them one after the other. An override
leaves the settings at paths apart from its own as they are. So the last override that is
not apart from a path says what the path holds (`OverriddenBy.last_wins`), and a setting
that has changed has an override (`OverriddenBy.exists_of_changed`).
-/

namespace Clev2er.Lib

/-- How settings are read, and which paths have no setting in common. -/
structure Settings (S P V : Type) where
  get : S → P → Option V
  Apart : P → P → Prop

variable {S P V : Type} {T : Settings S P V} {s s' s'' : S} {path : P} {val : V}

/-- One override: the value is at its path, and no path apart from it has changed. -/
structure Settings.Overridden (T : Settings S P V) (s : S) (path : P) (val : V) (s' : S) :
    Prop where
  stored : T.get s' path = some val
  kept : ∀ path', T.Apart path path' → T.get s' path' = T.get s path'

/-- Overrides in their order. -/
inductive Settings.OverriddenBy (T : Settings S P V) : S → List (P × V) → S → Prop where
  | nil (s : S) : T.OverriddenBy s [] s
  | cons {s s₁ s' : S} {path : P} {val : V} {rest : List (P × V)}
      (first : T.Overridden s path val s₁) (others : T.OverriddenBy s₁ rest s') :
      T.OverriddenBy s ((path, val) :: rest) s'

theorem Settings.Overridden.one (h : T.Overridden s path val s') :
    T.OverriddenBy s [(path, val)] s' :=
  .cons h (.nil s')

theorem Settings.OverriddenBy.append {first more : List (P × V)} (h : T.OverriddenBy s first s')
    (h' : T.OverriddenBy s' more s'') : T.OverriddenBy s (first ++ more) s'' := by
  induction h with
  | nil s => exact h'
  | cons hfirst _ ih => exact .cons hfirst (ih h')

/-- A path apart from all overrides. -/
theorem Settings.OverriddenBy.kept {overrides : List (P × V)} (h : T.OverriddenBy s overrides s')
    (hpath : ∀ o ∈ overrides, T.Apart o.1 path) : T.get s' path = T.get s path := by
  induction h with
  | nil s => rfl
  | cons hfirst _ ih =>
      rw [List.forall_mem_cons] at hpath
      rw [ih hpath.2, hfirst.kept path hpath.1]

/-- **The last override wins.** -/
theorem Settings.OverriddenBy.last_wins {before after : List (P × V)}
    (h : T.OverriddenBy s (before ++ (path, val) :: after) s')
    (hafter : ∀ o ∈ after, T.Apart o.1 path) : T.get s' path = some val := by
  induction before generalizing s with
  | nil =>
      cases h with
      | cons hfirst hothers => rw [hothers.kept hafter, hfirst.stored]
  | cons o before ih =>
      cases h with
      | cons hfirst hothers => exact ih hothers

/-- **No change without an override.** -/
theorem Settings.OverriddenBy.exists_of_changed {overrides : List (P × V)}
    (h : T.OverriddenBy s overrides s') (hchanged : T.get s' path ≠ T.get s path) :
    ∃ o ∈ overrides, ¬ T.Apart o.1 path := by
  by_contra hnone
  apply hchanged
  apply h.kept
  intro o ho
  by_contra hapart
  exact hnone ⟨o, ho, hapart⟩

end Clev2er.Lib
