import Clev2er.SharedMemory.Ownership

/-!
# What a shared array holds

A process may attach to a segment before its creator has copied the array, and go over
the void cells of what is there. Once the creator has loaded, the array is that of a
private load all the same (`loaded_cells`), but for its first cell: `np.any` does not see
a void cell in row and column 0, and which void cells a process still finds depends on the
others (`loaded_cells_firstCellMissed`).
-/

namespace Clev2er.Segments

open Clev2er.Lib

/-! ## What the array holds -/

section Cells

variable (setting : Setting)

/-- What a cell holds once it has been copied: the value of the file, or NaN for a void
one. -/
def Setting.Copied (x : Cell) (i : Nat) : Prop :=
  x = setting.file i ∨ setting.isVoid (setting.file i) = true ∧ x = .nan

/-- All cells have been copied, and the void cells that `p` tells have become NaN. -/
structure Setting.Filled (values : Nat → Cell) (p : Nat → Prop) : Prop where
  copied : ∀ i < setting.size, setting.Copied (values i) i
  voided : ∀ i < setting.size, p i → setting.isVoid (setting.file i) = true → values i = .nan

/-- What a process has done to the array, as far as it depends on no other process. -/
def Phase.Correct (cells : Nat → Nat → Cell) : Phase → Prop
  | .copying gen next => ∀ i < next, setting.Copied (cells gen i) i
  | .scanning gen child next found =>
      (∀ i ∈ found, setting.isVoid (setting.file i) = true) ∧
        (child = false → setting.Filled (cells gen) fun i => i < next ∧ i ∉ found)
  | .voiding gen child left =>
      (∀ i ∈ left, setting.isVoid (setting.file i) = true) ∧
        (child = false → setting.Filled (cells gen) fun i => i ≠ 0 ∧ i ∉ left)
  | .loaded gen child _ => child = false → setting.Filled (cells gen) fun i => i ≠ 0
  | .start | .missed | .failed => True

variable {setting} {s : State} {p : Nat}

theorem Setting.isVoid_zero : setting.isVoid (.num 0) = false := by
  unfold Setting.isVoid
  cases setting.voidValue with
  | none => rfl
  | some v =>
      simp only [Bool.and_eq_false_iff, bne_eq_false_iff_eq, beq_eq_false_iff_ne]
      by_cases hv : v = 0
      · exact .inl hv
      · exact .inr fun h => hv (WithNan.num.inj h).symm

theorem Setting.isVoid_nan : setting.isVoid .nan = false := by
  unfold Setting.isVoid
  cases setting.voidValue with
  | none => rfl
  | some v => exact Bool.and_false _

/-- A void cell of the array is one of the file. -/
theorem Setting.isVoid_of_copied {x : Cell} {i : Nat} (h : x = .num 0 ∨ setting.Copied x i)
    (hvoid : setting.isVoid x = true) : setting.isVoid (setting.file i) = true := by
  rcases h with rfl | rfl | ⟨-, rfl⟩
  · rw [Setting.isVoid_zero] at hvoid
    cases hvoid
  · exact hvoid
  · rw [Setting.isVoid_nan] at hvoid
    cases hvoid

theorem Setting.Filled.imp {values : Nat → Cell} {p q : Nat → Prop}
    (h : setting.Filled values p) (hpq : ∀ i < setting.size, q i → p i) :
    setting.Filled values q :=
  ⟨h.copied, fun i hi hq => h.voided i hi (hpq i hi hq)⟩

/-- Setting a void cell to NaN leaves the others alone. -/
theorem Setting.Filled.update {values : Nat → Cell} {p : Nat → Prop} {j : Nat}
    (h : setting.Filled values p) (hj : setting.isVoid (setting.file j) = true) :
    setting.Filled (Function.update values j .nan) fun i => p i ∨ i = j := by
  refine ⟨fun i hi => ?_, fun i hi hp hvoid => ?_⟩
  · by_cases hij : i = j
    · rw [hij, Function.update_self]
      exact .inr ⟨hj, rfl⟩
    · rw [Function.update_of_ne hij]
      exact h.copied i hi
  · by_cases hij : i = j
    · rw [hij, Function.update_self]
    · rw [Function.update_of_ne hij]
      exact h.voided i hi (hp.resolve_right hij) hvoid

/-- What a process has done to its own segment stays, whatever happens to others. -/
theorem Phase.Correct.frame {cells cells' : Nat → Nat → Cell} {phase : Phase} {gen : Nat}
    (h : phase.Correct setting cells) (hcreates : phase.creates ≠ some gen)
    (hcells : ∀ g, g ≠ gen → cells' g = cells g) : phase.Correct setting cells' := by
  have hother : ∀ {g : Nat}, phase.creates = some g → cells' g = cells g := by
    rintro g hg
    apply hcells
    rintro rfl
    exact hcreates hg
  cases phase with
  | start => exact trivial
  | missed => exact trivial
  | failed => exact trivial
  | copying g next =>
      rw [Phase.Correct, hother rfl]
      exact h
  | scanning g child next found =>
      refine ⟨h.1, ?_⟩
      rintro rfl
      rw [hother rfl]
      exact h.2 rfl
  | voiding g child left =>
      refine ⟨h.1, ?_⟩
      rintro rfl
      rw [hother rfl]
      exact h.2 rfl
  | loaded g child cleaned =>
      rintro rfl
      rw [hother rfl]
      exact h rfl

/-- It also stays where another process sets a void cell to NaN. -/
theorem Phase.Correct.void {cells : Nat → Nat → Cell} {phase : Phase} {gen j : Nat}
    (h : phase.Correct setting cells) (hj : setting.isVoid (setting.file j) = true) :
    phase.Correct setting
      (Function.update cells gen (Function.update (cells gen) j .nan)) := by
  by_cases hcreates : phase.creates = some gen
  · have hself : Function.update cells gen (Function.update (cells gen) j .nan) gen =
        Function.update (cells gen) j .nan := Function.update_self _ _ _
    have hfilled : ∀ {p : Nat → Prop}, setting.Filled (cells gen) p →
        setting.Filled (Function.update (cells gen) j .nan) p :=
      fun hfill => (hfill.update hj).imp fun i _ hp => .inl hp
    cases phase with
    | start => exact trivial
    | missed => exact trivial
    | failed => exact trivial
    | copying g next =>
        obtain rfl : g = gen := Option.some.inj hcreates
        intro i hi
        rw [hself]
        by_cases hij : i = j
        · rw [hij, Function.update_self]
          exact .inr ⟨hj, rfl⟩
        · rw [Function.update_of_ne hij]
          exact h i hi
    | scanning g child next found =>
        refine ⟨h.1, ?_⟩
        rintro rfl
        obtain rfl : g = gen := Option.some.inj hcreates
        rw [hself]
        exact hfilled (h.2 rfl)
    | voiding g child left =>
        refine ⟨h.1, ?_⟩
        rintro rfl
        obtain rfl : g = gen := Option.some.inj hcreates
        rw [hself]
        exact hfilled (h.2 rfl)
    | loaded g child cleaned =>
        rintro rfl
        obtain rfl : g = gen := Option.some.inj hcreates
        rw [hself]
        exact hfilled (h rfl)
  · exact h.frame hcreates fun g hg => Function.update_of_ne hg _ _

/-! ## A process goes on with the array -/

/-- The array has been copied. -/
theorem Phase.Correct.copied {cells : Nat → Nat → Cell} {gen next : Nat}
    (h : Phase.Correct setting cells (.copying gen next)) (hnext : ¬ next < setting.size) :
    Phase.Correct setting cells (.scanning gen false 0 []) := by
  refine ⟨fun i hi => absurd hi List.not_mem_nil, fun _ => ⟨fun i hi => ?_, ?_⟩⟩
  · exact h i (lt_of_lt_of_le hi (not_lt.mp hnext))
  · rintro i - ⟨hi, -⟩
    exact absurd hi (Nat.not_lt_zero i)

/-- One cell more has been looked at. -/
theorem Phase.Correct.scanned {cells : Nat → Nat → Cell} {gen next : Nat} {child : Bool}
    {found : List Nat} (h : Phase.Correct setting cells (.scanning gen child next found))
    (hknown : cells gen next = .num 0 ∨ setting.Copied (cells gen next) next) :
    Phase.Correct setting cells (.scanning gen child (next + 1)
      (if setting.isVoid (cells gen next) then found ++ [next] else found)) := by
  refine ⟨fun i hi => ?_, fun hchild => ?_⟩
  · split at hi
    · next hvoid =>
      rcases List.mem_append.mp hi with hi | hi
      · exact h.1 i hi
      · obtain rfl := List.mem_singleton.mp hi
        exact Setting.isVoid_of_copied hknown hvoid
    · exact h.1 i hi
  · have hfilled := h.2 hchild
    refine ⟨hfilled.copied, ?_⟩
    rintro i hi ⟨hin, hnot⟩ hvoid
    split at hnot
    · next hseen =>
      obtain ⟨hfound, hne⟩ := not_or.mp (mt List.mem_append.mpr hnot)
      apply hfilled.voided i hi ⟨_, hfound⟩ hvoid
      exact lt_of_le_of_ne (Nat.le_of_lt_succ hin) fun heq => hne (List.mem_singleton.mpr heq)
    · next hseen =>
      by_cases heq : i = next
      · -- a copied void cell that is not seen as void is NaN already
        rcases hfilled.copied i hi with hfile | ⟨-, hnan⟩
        · rw [← heq, hfile] at hseen
          exact absurd hvoid hseen
        · exact hnan
      · exact hfilled.voided i hi ⟨lt_of_le_of_ne (Nat.le_of_lt_succ hin) heq, hnot⟩ hvoid

/-- All cells have been looked at, and void ones found. -/
theorem Phase.Correct.voiding {cells : Nat → Nat → Cell} {gen next : Nat} {child : Bool}
    {found : List Nat} (h : Phase.Correct setting cells (.scanning gen child next found))
    (hnext : ¬ next < setting.size) :
    Phase.Correct setting cells (.voiding gen child found) := by
  refine ⟨h.1, fun hchild => (h.2 hchild).imp fun i hi hnot => ⟨?_, hnot.2⟩⟩
  exact lt_of_lt_of_le hi (not_lt.mp hnext)

/-- All cells have been looked at, and none found but the first one. -/
theorem Phase.Correct.loaded {cells : Nat → Nat → Cell} {gen next : Nat} {child : Bool}
    {found : List Nat} (h : Phase.Correct setting cells (.scanning gen child next found))
    (hnext : ¬ next < setting.size) (hany : ¬ found.any (fun i => i != 0) = true) :
    Phase.Correct setting cells (.loaded gen child 0) := by
  intro hchild
  refine (h.2 hchild).imp fun i hi hne => ⟨?_, fun hfound => hany ?_⟩
  · exact lt_of_lt_of_le hi (not_lt.mp hnext)
  · exact List.any_eq_true.mpr ⟨i, hfound, bne_iff_ne.mpr hne⟩

/-! ## The steps -/

/-- What every array and every process keep. -/
structure Held (setting : Setting) (s : State) : Prop where
  numbered : Numbered s
  known : ∀ gen i, s.cells gen i = .num 0 ∨ setting.Copied (s.cells gen i) i
  correct : ∀ q, (s.phase q).Correct setting s.cells

theorem held_init : Held setting State.init :=
  ⟨numbered_init, fun _ _ => .inl rfl, fun _ => trivial⟩

/-- The process itself, and the others. -/
theorem correct_setPhase {phase : Phase} (hself : phase.Correct setting s.cells)
    (hothers : ∀ q, q ≠ p → (s.phase q).Correct setting s.cells) :
    ∀ q, ((s.setPhase p phase).phase q).Correct setting s.cells := by
  intro q
  by_cases hq : q = p
  · rw [hq, setPhase_self]
    exact hself
  · rw [setPhase_of_ne _ _ hq]
    exact hothers q hq

/-- A step that leaves the arrays alone. -/
theorem Held.setPhase (h : Held setting s) {phase : Phase}
    (hnumbered : Numbered (s.setPhase p phase)) (hcorrect : phase.Correct setting s.cells) :
    Held setting (s.setPhase p phase) :=
  ⟨hnumbered, h.known, correct_setPhase hcorrect fun q _ => h.correct q⟩

/-- The name goes, the arrays stay. -/
theorem Held.unlink (h : Held setting s) {phase : Phase}
    (hnumbered : Numbered (s.unlink.setPhase p phase))
    (hcorrect : phase.Correct setting s.cells) : Held setting (s.unlink.setPhase p phase) :=
  ⟨hnumbered, h.known, correct_setPhase hcorrect fun q _ => h.correct q⟩

/-- A segment of zeros is added. -/
theorem Held.create (h : Held setting s)
    (hnumbered : Numbered (s.create.setPhase p (.copying s.created 0))) :
    Held setting (s.create.setPhase p (.copying s.created 0)) := by
  refine ⟨hnumbered, fun gen i => ?_, correct_setPhase ?_ fun q _ => ?_⟩
  · by_cases hgen : gen = s.created
    · left
      simp only [State.setPhase, State.create, hgen, Function.update_self]
    · simp only [State.setPhase, State.create, Function.update_of_ne hgen]
      exact h.known gen i
  · exact fun i hi => absurd hi (Nat.not_lt_zero i)
  · have hother : (s.phase q).creates ≠ some s.created := fun hcreates =>
      absurd (h.numbered.gen_lt q _ (gen?_of_creates hcreates)) (lt_irrefl _)
    exact (h.correct q).frame hother fun g hg => Function.update_of_ne hg _ _

theorem write_known (h : Held setting s) {gen i : Nat} {value : Cell}
    (hvalue : setting.Copied value i) :
    ∀ g j, (s.write gen i value).cells g j = .num 0 ∨
      setting.Copied ((s.write gen i value).cells g j) j := by
  intro g j
  by_cases hg : g = gen
  · by_cases hj : j = i
    · right
      simp only [State.write, hg, hj, Function.update_self]
      exact hvalue
    · simp only [State.write, hg, Function.update_self, Function.update_of_ne hj]
      exact h.known gen j
  · simp only [State.write, Function.update_of_ne hg]
    exact h.known g j

/-- The creator copies a cell: nobody else has created the segment. -/
theorem Held.copy (h : Held setting s) {gen next : Nat} (hphase : s.phase p = .copying gen next)
    (hnumbered : Numbered ((s.write gen next (setting.file next)).setPhase p
      (.copying gen (next + 1)))) :
    Held setting ((s.write gen next (setting.file next)).setPhase p
      (.copying gen (next + 1))) := by
  have hp := h.correct p
  rw [hphase] at hp
  refine ⟨hnumbered, write_known h (.inl rfl), correct_setPhase ?_ fun q hq => ?_⟩
  · intro i hi
    by_cases hin : i = next
    · left
      simp only [State.write, hin, Function.update_self]
    · simp only [State.write, Function.update_self, Function.update_of_ne hin]
      exact hp i (lt_of_le_of_ne (Nat.le_of_lt_succ hi) hin)
  · have hother : (s.phase q).creates ≠ some gen := fun hcreates =>
      hq (h.numbered.creator_unique q p gen hcreates (by rw [hphase]; rfl))
    exact (h.correct q).frame hother fun g hg => Function.update_of_ne hg _ _

/-- A process sets a void cell to NaN. -/
theorem Held.void (h : Held setting s) {gen j : Nat} {child : Bool} {left : List Nat}
    (hphase : s.phase p = .voiding gen child (j :: left))
    (hnumbered : Numbered ((s.write gen j .nan).setPhase p (.voiding gen child left))) :
    Held setting ((s.write gen j .nan).setPhase p (.voiding gen child left)) := by
  have hp := h.correct p
  rw [hphase] at hp
  have hj := hp.1 j List.mem_cons_self
  refine ⟨hnumbered, write_known h (.inr ⟨hj, rfl⟩), correct_setPhase ?_ fun q _ => ?_⟩
  · refine ⟨fun i hi => hp.1 i (List.mem_cons_of_mem _ hi), fun hchild => ?_⟩
    simp only [State.write, Function.update_self]
    refine ((hp.2 hchild).update hj).imp fun i _ hnot => ?_
    by_cases hij : i = j
    · exact .inr hij
    · refine .inl ⟨hnot.1, fun hmem => ?_⟩
      exact (List.mem_cons.mp hmem).elim hij hnot.2
  · exact (h.correct q).void hj

/-- **Every step keeps it.** -/
theorem Held.step (h : Held setting s) (p : Nat) : Held setting (step setting s p) := by
  have hnumbered := h.numbered.step setting p
  have hp := h.correct p
  cases hphase : s.phase p with
  | start =>
      simp only [Segments.step, hphase] at hnumbered ⊢
      cases hlive : s.live with
      | some gen =>
          rw [hlive] at hnumbered
          exact h.setPhase hnumbered ⟨fun i hi => absurd hi List.not_mem_nil, fun h => by cases h⟩
      | none =>
          rw [hlive] at hnumbered
          exact h.setPhase hnumbered trivial
  | missed =>
      simp only [Segments.step, hphase] at hnumbered ⊢
      cases hlive : s.live with
      | some gen =>
          rw [hlive] at hnumbered
          exact h.setPhase hnumbered trivial
      | none =>
          rw [hlive] at hnumbered
          exact h.create hnumbered
  | copying gen next =>
      rw [hphase] at hp
      simp only [Segments.step, hphase] at hnumbered ⊢
      split at hnumbered
      · next hnext =>
        rw [if_pos hnext]
        exact h.copy hphase hnumbered
      · next hnext =>
        rw [if_neg hnext]
        exact h.setPhase hnumbered (hp.copied hnext)
  | scanning gen child next found =>
      rw [hphase] at hp
      simp only [Segments.step, hphase] at hnumbered ⊢
      split at hnumbered
      · next hnext =>
        rw [if_pos hnext]
        exact h.setPhase hnumbered (hp.scanned (h.known gen next))
      · next hnext =>
        rw [if_neg hnext]
        split at hnumbered
        · next hany =>
          rw [if_pos hany]
          exact h.setPhase hnumbered (hp.voiding hnext)
        · next hany =>
          rw [if_neg hany]
          exact h.setPhase hnumbered (hp.loaded hnext hany)
  | voiding gen child left =>
      rw [hphase] at hp
      cases left with
      | nil =>
          simp only [Segments.step, hphase] at hnumbered ⊢
          refine h.setPhase hnumbered fun hchild => ?_
          exact (hp.2 hchild).imp fun i _ hne => ⟨hne, List.not_mem_nil⟩
      | cons j left =>
          simp only [Segments.step, hphase] at hnumbered ⊢
          exact h.void hphase hnumbered
  | loaded gen child cleaned =>
      rw [hphase] at hp
      simp only [Segments.step, hphase] at hnumbered ⊢
      split at hnumbered
      · next hcleaned =>
        rw [if_pos hcleaned]
        split at hnumbered
        · next hchild =>
          rw [if_pos hchild]
          exact h.setPhase hnumbered hp
        · next hchild =>
          rw [if_neg hchild]
          exact h.unlink hnumbered hp
      · next hcleaned =>
        rw [if_neg hcleaned]
        exact h
  | failed =>
      simp only [Segments.step, hphase]
      exact h

/-! ## Against a private load -/

/-- `void_data`, of the values of an array. -/
def Setting.voidCells (setting : Setting) (values : Nat → Cell) : List Nat :=
  (List.range setting.size).filter fun i => setting.isVoid (values i)

/-- An array with its void cells set to NaN. -/
def Setting.voidToNan (setting : Setting) (values : Nat → Cell) (i : Nat) : Cell :=
  if (setting.voidCells values).any (fun i => i != 0) && setting.isVoid (values i) then .nan
  else values i

/-- `zdem` of a load into private memory. -/
def Setting.zdem (setting : Setting) : Nat → Cell := setting.voidToNan setting.file

/-- **Once its creator has loaded, an array is that of a private load**, whatever the
other processes do, except that its first cell may be void or NaN. -/
theorem loaded_cells (setting : Setting) (schedule : List Nat) {q gen cleaned : Nat}
    (hloaded : (run (step setting) State.init schedule).phase q = .loaded gen false cleaned) :
    (∀ i < setting.size, i ≠ 0 →
      (run (step setting) State.init schedule).cells gen i = setting.zdem i) ∧
    (0 < setting.size →
      setting.Copied ((run (step setting) State.init schedule).cells gen 0) 0) := by
  have hheld : Held setting (run (step setting) State.init schedule) :=
    (always_of_step (fun _ p h => h.step p) schedule held_init).last
  have hfilled := hheld.correct q
  rw [hloaded] at hfilled
  obtain ⟨hcopied, hvoided⟩ := hfilled rfl
  refine ⟨fun i hi hne => ?_, hcopied 0⟩
  unfold Setting.zdem Setting.voidToNan
  cases hvoid : setting.isVoid (setting.file i) with
  | true =>
      have hmem : i ∈ setting.voidCells setting.file :=
        List.mem_filter.mpr ⟨List.mem_range.mpr hi, hvoid⟩
      have hany : (setting.voidCells setting.file).any (fun i => i != 0) = true :=
        List.any_eq_true.mpr ⟨i, hmem, bne_iff_ne.mpr hne⟩
      rw [hany, hvoided i hi hne hvoid]
      rfl
  | false =>
      rw [Bool.and_false, if_neg Bool.false_ne_true]
      exact (hcopied i hi).resolve_right fun h => Bool.false_ne_true (hvoid.symm.trans h.1)

/-- Two void cells. -/
def twoVoid : Setting := ⟨2, fun _ => .num (-9999), some (-9999), fun _ => 1⟩

/-- The second process looks at the first cell before it is copied, and at the second one
before its creator does. -/
def firstCellMissed : List Nat := [0, 0, 1, 1, 0, 0, 0, 1, 1, 1, 1, 0, 0, 0]

/-- The first cell stays void, where a private load sets both to NaN. -/
theorem loaded_cells_firstCellMissed :
    (run (step twoVoid) State.init firstCellMissed).cells 0 1 = twoVoid.zdem 1 ∧
      (run (step twoVoid) State.init firstCellMissed).cells 0 0 = .num (-9999) ∧
      twoVoid.zdem 0 = .nan := by
  have hloaded : (run (step twoVoid) State.init firstCellMissed).phase 0 = .loaded 0 false 0 := by
    decide
  exact ⟨(loaded_cells twoVoid firstCellMissed hloaded).1 1 (by decide) (by decide), by decide,
    by decide⟩

end Cells

end Clev2er.Segments
