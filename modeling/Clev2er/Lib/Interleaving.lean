import Mathlib.Data.List.Infix

/-!
# Systems that take step after step

A total step function on states and the runs of it. A property that holds at first and
that every step keeps holds always; where just the allowed steps keep it, it holds in a
run exactly if all steps of the run are allowed (`always_iff_guarded`).
-/

namespace Clev2er.Lib

variable {S A : Type} (step : S → A → S)

/-- The state after some steps. -/
def run (s : S) (as : List A) : S := as.foldl step s

/-- A property of the states of a run, the first and the last included. -/
def Always (P : S → Prop) (s : S) (as : List A) : Prop :=
  ∀ front, front <+: as → P (run step s front)

/-- Each step of a run is allowed where it is taken. -/
def Guarded (ok : S → A → Prop) : S → List A → Prop
  | _, [] => True
  | s, a :: as => ok s a ∧ Guarded ok (step s a) as

variable {step}

theorem run_append (s : S) (as more : List A) :
    run step s (as ++ more) = run step (run step s as) more :=
  List.foldl_append

theorem always_nil {P : S → Prop} {s : S} : Always step P s [] ↔ P s := by
  constructor
  · intro h
    exact h [] List.nil_prefix
  · intro h front hfront
    rw [List.prefix_nil.mp hfront]
    exact h

theorem always_cons {P : S → Prop} {s : S} {a : A} {as : List A} :
    Always step P s (a :: as) ↔ P s ∧ Always step P (step s a) as := by
  constructor
  · intro h
    refine ⟨h [] List.nil_prefix, fun front hfront => ?_⟩
    exact h (a :: front) ((List.prefix_cons_inj a).mpr hfront)
  · rintro ⟨hfirst, hrest⟩ front hfront
    cases front with
    | nil => exact hfirst
    | cons b front =>
        obtain ⟨rfl, htail⟩ := List.cons_prefix_cons.mp hfront
        exact hrest front htail

theorem Always.last {P : S → Prop} {s : S} {as : List A} (h : Always step P s as) :
    P (run step s as) :=
  h as List.prefix_rfl

/-- **An invariant holds always.** -/
theorem always_of_step {P : S → Prop} (hstep : ∀ s a, P s → P (step s a)) :
    ∀ {s : S} (as : List A), P s → Always step P s as := by
  intro s as
  induction as generalizing s with
  | nil => exact always_nil.mpr
  | cons a as ih =>
      intro h
      exact always_cons.mpr ⟨h, ih (hstep s a h)⟩

/-- **A property that just the allowed steps keep** holds always exactly if all steps are
allowed. -/
theorem always_iff_guarded {I P : S → Prop} {ok : S → A → Prop}
    (hinv : ∀ s a, I s → I (step s a))
    (hstep : ∀ s a, I s → P s → (P (step s a) ↔ ok s a)) :
    ∀ {s : S} (as : List A), I s → P s → (Always step P s as ↔ Guarded step ok s as) := by
  intro s as
  induction as generalizing s with
  | nil =>
      intro _ hp
      rw [always_nil]
      exact iff_of_true hp trivial
  | cons a as ih =>
      intro hi hp
      rw [always_cons, Guarded, ← hstep s a hi hp]
      constructor
      · rintro ⟨-, hrest⟩
        have hnext : P (step s a) := hrest [] List.nil_prefix
        exact ⟨hnext, (ih (hinv s a hi) hnext).mp hrest⟩
      · rintro ⟨hnext, hrest⟩
        exact ⟨hp, (ih (hinv s a hi) hnext).mpr hrest⟩

end Clev2er.Lib
