import Mathlib.Computability.Language

/-!
# File name patterns

The patterns of `fnmatch` and `glob` over an alphabet: letters, `?`, `*` and bracketed
sets. A pattern means a language, the product of the languages of its tokens, and the
matcher decides membership in it.
-/

namespace Clev2er.Lib

/-- One token of a pattern: a letter, `?`, a bracketed set or `*`. -/
inductive GlobToken (α : Type) where
  | lit (c : α)
  | any
  | oneOf (cs : List α)
  | star

variable {α : Type}

/-! ## The language of a pattern -/

/-- The words a token stands for. -/
def GlobToken.language : GlobToken α → Language α
  | .lit c => {w | w = [c]}
  | .any => {w | w.length = 1}
  | .oneOf cs => {w | ∃ c ∈ cs, w = [c]}
  | .star => ⊤

/-- The words that match a pattern. -/
def globLanguage (ts : List (GlobToken α)) : Language α :=
  (ts.map GlobToken.language).prod

/-- A word, letter by letter. -/
def literal (w : List α) : List (GlobToken α) := w.map .lit

/-- `?` some times. -/
def anyOf (n : ℕ) : List (GlobToken α) := List.replicate n .any

variable {ts us : List (GlobToken α)} {s : List α}

theorem mem_globLanguage_nil : s ∈ globLanguage ([] : List (GlobToken α)) ↔ s = [] := Iff.rfl

theorem mem_globLanguage_cons {t : GlobToken α} :
    s ∈ globLanguage (t :: ts) ↔ ∃ x ∈ t.language, ∃ y ∈ globLanguage ts, x ++ y = s := by
  rw [globLanguage, List.map_cons, List.prod_cons, Language.mem_mul, ← globLanguage]

theorem mem_globLanguage_lit {c : α} :
    s ∈ globLanguage (.lit c :: ts) ↔ ∃ y ∈ globLanguage ts, s = c :: y := by
  rw [mem_globLanguage_cons]
  constructor
  · rintro ⟨x, rfl, y, hy, rfl⟩
    exact ⟨y, hy, rfl⟩
  · rintro ⟨y, hy, rfl⟩
    exact ⟨[c], rfl, y, hy, rfl⟩

theorem mem_globLanguage_any :
    s ∈ globLanguage (.any :: ts) ↔ ∃ c, ∃ y ∈ globLanguage ts, s = c :: y := by
  rw [mem_globLanguage_cons]
  constructor
  · rintro ⟨x, hx, y, hy, rfl⟩
    obtain ⟨c, rfl⟩ := List.length_eq_one_iff.mp hx
    exact ⟨c, y, hy, rfl⟩
  · rintro ⟨c, y, hy, rfl⟩
    exact ⟨[c], rfl, y, hy, rfl⟩

theorem mem_globLanguage_oneOf {cs : List α} :
    s ∈ globLanguage (.oneOf cs :: ts) ↔ ∃ c ∈ cs, ∃ y ∈ globLanguage ts, s = c :: y := by
  rw [mem_globLanguage_cons]
  constructor
  · rintro ⟨x, ⟨c, hc, rfl⟩, y, hy, rfl⟩
    exact ⟨c, hc, y, hy, rfl⟩
  · rintro ⟨c, hc, y, hy, rfl⟩
    exact ⟨[c], ⟨c, hc, rfl⟩, y, hy, rfl⟩

theorem mem_globLanguage_star :
    s ∈ globLanguage (.star :: ts) ↔ ∃ x, ∃ y ∈ globLanguage ts, s = x ++ y := by
  rw [mem_globLanguage_cons]
  constructor
  · rintro ⟨x, -, y, hy, rfl⟩
    exact ⟨x, y, hy, rfl⟩
  · rintro ⟨x, y, hy, rfl⟩
    exact ⟨x, trivial, y, hy, rfl⟩

/-- A literal part is a prefix of every match. -/
theorem mem_globLanguage_literal : ∀ {w s : List α},
    s ∈ globLanguage (literal w ++ ts) ↔ ∃ y ∈ globLanguage ts, s = w ++ y := by
  intro w
  induction w with
  | nil =>
      intro s
      simp [literal]
  | cons c w ih =>
      intro s
      show s ∈ globLanguage (.lit c :: (literal w ++ ts)) ↔ _
      rw [mem_globLanguage_lit]
      constructor
      · rintro ⟨z, hz, rfl⟩
        obtain ⟨y, hy, rfl⟩ := ih.mp hz
        exact ⟨y, hy, rfl⟩
      · rintro ⟨y, hy, rfl⟩
        exact ⟨w ++ y, ih.mpr ⟨y, hy, rfl⟩, rfl⟩

theorem mem_globLanguage_word {w : List α} : s ∈ globLanguage (literal w) ↔ s = w := by
  rw [← List.append_nil (literal w), mem_globLanguage_literal]
  constructor
  · rintro ⟨y, rfl, rfl⟩
    exact List.append_nil w
  · rintro rfl
    exact ⟨[], rfl, (List.append_nil s).symm⟩

theorem mem_globLanguage_anyOf : ∀ {n : ℕ} {s : List α},
    s ∈ globLanguage (anyOf n ++ ts) ↔ ∃ x, x.length = n ∧ ∃ y ∈ globLanguage ts, s = x ++ y := by
  intro n
  induction n with
  | zero =>
      intro s
      simp [anyOf]
  | succ n ih =>
      intro s
      show s ∈ globLanguage (.any :: (anyOf n ++ ts)) ↔ _
      rw [mem_globLanguage_any]
      constructor
      · rintro ⟨c, z, hz, rfl⟩
        obtain ⟨x, hx, y, hy, rfl⟩ := ih.mp hz
        exact ⟨c :: x, by rw [List.length_cons, hx], y, hy, rfl⟩
      · rintro ⟨x, hx, y, hy, rfl⟩
        obtain ⟨c, x, rfl⟩ := List.exists_cons_of_length_eq_add_one hx
        exact ⟨c, x ++ y, ih.mpr ⟨x, Nat.succ.inj hx, y, hy, rfl⟩, rfl⟩

/-! ## The matcher -/

variable [DecidableEq α]

/-- `fnmatch(s, pattern)`: a `*` tries every suffix. -/
def globMatch : List (GlobToken α) → List α → Bool
  | [], s => s.isEmpty
  | .lit _ :: _, [] => false
  | .lit c :: ts, x :: s => decide (x = c) && globMatch ts s
  | .any :: _, [] => false
  | .any :: ts, _ :: s => globMatch ts s
  | .oneOf _ :: _, [] => false
  | .oneOf cs :: ts, x :: s => decide (x ∈ cs) && globMatch ts s
  | .star :: ts, s => s.tails.any (globMatch ts)

/-- **The matcher decides the language of the pattern.** -/
theorem globMatch_iff : ∀ {ts : List (GlobToken α)} {s : List α},
    globMatch ts s = true ↔ s ∈ globLanguage ts := by
  intro ts
  induction ts with
  | nil =>
      intro s
      rw [mem_globLanguage_nil, globMatch, List.isEmpty_iff]
  | cons t ts ih =>
      intro s
      cases t with
      | lit c =>
          rw [mem_globLanguage_lit]
          cases s with
          | nil => simp [globMatch]
          | cons x s => simp [globMatch, ih, and_comm]
      | any =>
          rw [mem_globLanguage_any]
          cases s with
          | nil => simp [globMatch]
          | cons x s => simp [globMatch, ih]
      | oneOf cs =>
          rw [mem_globLanguage_oneOf]
          cases s with
          | nil => simp [globMatch]
          | cons x s => simp [globMatch, ih]
      | star =>
          rw [mem_globLanguage_star, globMatch, List.any_eq_true]
          constructor
          · rintro ⟨y, hy, hmatch⟩
            obtain ⟨x, rfl⟩ := (List.mem_tails y s).mp hy
            exact ⟨x, y, ih.mp hmatch, rfl⟩
          · rintro ⟨x, y, hy, rfl⟩
            exact ⟨y, (List.mem_tails _ _).mpr ⟨x, rfl⟩, ih.mpr hy⟩

end Clev2er.Lib
