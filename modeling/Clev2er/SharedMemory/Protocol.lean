import Clev2er.Lib.WithNan
import Mathlib.Data.Rat.Defs
import Mathlib.Logic.Function.Basic

/-!
# Loads and clean-ups of several processes

Runs of the chain on one computer look for the same segments. Here any number of
processes load one resource into shared memory and clean it up, in any order of their
steps: a process looks for the segment, creates it where there is none, copies the array
of the file into it and sets its void cells to NaN, and one that attaches goes over the
void cells of what it finds there.

An unlinked segment is gone under its name only: who has it open keeps it. A segment is
therefore a generation of the name.
-/

namespace Clev2er.Segments

open Clev2er.Lib

/-- A value of the array of a DEM or a mask. -/
abbrev Cell := WithNan ℚ

/-- The resource that the processes load, with the cells of its file, row by row, and
how many times each process cleans up. -/
structure Setting where
  size : Nat
  file : Nat → Cell
  voidValue : Option ℚ
  cleanUps : Nat → Nat

/-- Where a process is. Those that hold the array have the generation of their segment,
and `child` if they have attached to it. -/
inductive Phase where
  | start
  /-- The segment was not found. -/
  | missed
  /-- `self.zdem[:] = zdem[:]`, up to a cell. -/
  | copying (gen next : Nat)
  /-- `np.where(self.zdem == self.void_value)`, up to a cell. -/
  | scanning (gen : Nat) (child : Bool) (next : Nat) (found : List Nat)
  /-- `self.zdem[void_data] = np.nan`, with the cells that are left. -/
  | voiding (gen : Nat) (child : Bool) (cells : List Nat)
  /-- Loaded, and cleaned up some times. -/
  | loaded (gen : Nat) (child : Bool) (cleaned : Nat)
  /-- The segment was created by another process: `FileExistsError`. -/
  | failed
deriving DecidableEq

/-- The segment of the name, the segments created so far, and the processes. -/
structure State where
  live : Option Nat
  created : Nat
  cells : Nat → Nat → Cell
  phase : Nat → Phase

def State.setPhase (s : State) (p : Nat) (phase : Phase) : State :=
  { s with phase := Function.update s.phase p phase }

def State.write (s : State) (gen i : Nat) (value : Cell) : State :=
  { s with cells := Function.update s.cells gen (Function.update (s.cells gen) i value) }

/-- `SharedMemory(create=True)`: a segment of zeros. -/
def State.create (s : State) : State :=
  { s with
    live := some s.created
    created := s.created + 1
    cells := Function.update s.cells s.created fun _ => .num 0 }

/-- `shm_unlink`. Where there is no segment it raises, and `clean_up` goes on. -/
def State.unlink (s : State) : State := { s with live := none }

variable (setting : Setting)

/-- `zdem == self.void_value`, where there is a void value. -/
def Setting.isVoid (x : Cell) : Bool :=
  match setting.voidValue with
  | none => false
  | some v => v != 0 && x == .num v

/-- The next step of a process. -/
def step (s : State) (p : Nat) : State :=
  match s.phase p with
  | .start =>
      match s.live with
      | some gen => s.setPhase p (.scanning gen true 0 [])
      | none => s.setPhase p .missed
  | .missed =>
      match s.live with
      | some _ => s.setPhase p .failed
      | none => s.create.setPhase p (.copying s.created 0)
  | .copying gen next =>
      if next < setting.size then
        (s.write gen next (setting.file next)).setPhase p (.copying gen (next + 1))
      else s.setPhase p (.scanning gen false 0 [])
  | .scanning gen child next found =>
      if next < setting.size then
        s.setPhase p (.scanning gen child (next + 1)
          (if setting.isVoid (s.cells gen next) then found ++ [next] else found))
      -- `np.any` of the places themselves: false where the only one is the first cell
      else if found.any (fun i => i != 0) then s.setPhase p (.voiding gen child found)
      else s.setPhase p (.loaded gen child 0)
  | .voiding gen child (i :: cells) =>
      (s.write gen i .nan).setPhase p (.voiding gen child cells)
  | .voiding gen child [] => s.setPhase p (.loaded gen child 0)
  | .loaded gen child cleaned =>
      if cleaned < setting.cleanUps p then
        (if child then s else s.unlink).setPhase p (.loaded gen child (cleaned + 1))
      else s
  | .failed => s

/-- Before any process has started. -/
def State.init : State := ⟨none, 0, fun _ _ => .num 0, fun _ => .start⟩

/-! ## Steps -/

/-- The segment that a process has created, if it has one. -/
def Phase.creates : Phase → Option Nat
  | .copying gen _ | .scanning gen false _ _ | .voiding gen false _ | .loaded gen false _ => some gen
  | _ => none

/-- The segment that a process has created and not yet unlinked. -/
def Phase.owns : Phase → Option Nat
  | .loaded _ _ (_ + 1) => none
  | phase => phase.creates

/-- The segment that a process has open, or has had. -/
def Phase.gen? : Phase → Option Nat
  | .copying gen _ | .scanning gen _ _ _ | .voiding gen _ _ | .loaded gen _ _ => some gen
  | _ => none

section Steps

variable {setting : Setting} {s : State} {p : Nat}

@[simp] theorem setPhase_self (s : State) (p : Nat) (phase : Phase) :
    (s.setPhase p phase).phase p = phase :=
  Function.update_self _ _ _

theorem setPhase_of_ne (s : State) {p q : Nat} (phase : Phase) (h : q ≠ p) :
    (s.setPhase p phase).phase q = s.phase q :=
  Function.update_of_ne h _ _

/-- **A step is the step of one process.** -/
theorem step_phase_of_ne {q : Nat} (h : q ≠ p) : (step setting s p).phase q = s.phase q := by
  unfold step
  split
  · split <;> exact setPhase_of_ne _ _ h
  · split <;> exact setPhase_of_ne _ _ h
  · split <;> exact setPhase_of_ne _ _ h
  · split
    · exact setPhase_of_ne _ _ h
    · split <;> exact setPhase_of_ne _ _ h
  · exact setPhase_of_ne _ _ h
  · exact setPhase_of_ne _ _ h
  · split
    · split <;> exact setPhase_of_ne _ _ h
    · rfl
  · rfl

/-- A step that leaves the name as it is: to who owns what too. -/
structure KeepsOwners (s s' : State) (p : Nat) : Prop where
  live_eq : s'.live = s.live
  created_eq : s'.created = s.created
  creates_eq : (s'.phase p).creates = (s.phase p).creates
  owns_eq : (s'.phase p).owns = (s.phase p).owns
  gen_eq : ∀ gen, (s'.phase p).gen? = some gen → (s.phase p).gen? = some gen ∨ s.live = some gen

/-- **What a step does to the name**: nothing, or the process creates the segment, or it
unlinks it, its own or once more. -/
theorem step_name (setting : Setting) (s : State) (p : Nat) :
    KeepsOwners s (step setting s p) p ∨
    (s.phase p = .missed ∧ s.live = none ∧
      step setting s p = s.create.setPhase p (.copying s.created 0)) ∨
    ∃ gen cleaned, s.phase p = .loaded gen false cleaned ∧ cleaned < setting.cleanUps p ∧
      step setting s p = s.unlink.setPhase p (.loaded gen false (cleaned + 1)) := by
  have hkeep : ∀ {phase : Phase} {s' : State}, s'.live = s.live → s'.created = s.created →
      phase.creates = (s.phase p).creates → phase.owns = (s.phase p).owns →
      (∀ gen, phase.gen? = some gen → (s.phase p).gen? = some gen ∨ s.live = some gen) →
      KeepsOwners s (s'.setPhase p phase) p := by
    intro phase s' hlive hcreated hcreates howns hgen
    refine ⟨hlive, hcreated, ?_, ?_, ?_⟩
    · rw [setPhase_self, hcreates]
    · rw [setPhase_self, howns]
    · rw [setPhase_self]
      exact hgen
  cases hphase : s.phase p with
  | start =>
      simp only [step, hphase]
      cases hlive : s.live with
      | some gen =>
          left
          exact hkeep rfl rfl (by rw [hphase]; rfl) (by rw [hphase]; rfl)
            fun g hg => .inr (hlive.trans hg)
      | none =>
          left
          exact hkeep rfl rfl (by rw [hphase]; rfl) (by rw [hphase]; rfl) nofun
  | missed =>
      simp only [step, hphase]
      cases hlive : s.live with
      | some gen =>
          left
          exact hkeep rfl rfl (by rw [hphase]; rfl) (by rw [hphase]; rfl) nofun
      | none => exact .inr (.inl ⟨trivial, rfl, rfl⟩)
  | copying gen next =>
      simp only [step, hphase]
      left
      split
      · exact hkeep rfl rfl (by rw [hphase]; rfl) (by rw [hphase]; rfl)
          fun g hg => .inl (by rw [hphase]; exact hg)
      · exact hkeep rfl rfl (by rw [hphase]; rfl) (by rw [hphase]; rfl)
          fun g hg => .inl (by rw [hphase]; exact hg)
  | scanning gen child next found =>
      simp only [step, hphase]
      left
      have hsame : ∀ {phase : Phase}, phase.gen? = some gen → ∀ g, phase.gen? = some g →
          (s.phase p).gen? = some g ∨ s.live = some g := by
        intro phase hphase' g hg
        rw [hphase]
        exact .inl (hphase'.symm.trans hg)
      split
      · exact hkeep rfl rfl (by rw [hphase]; cases child <;> rfl)
          (by rw [hphase]; cases child <;> rfl) (hsame rfl)
      · split
        · exact hkeep rfl rfl (by rw [hphase]; cases child <;> rfl)
            (by rw [hphase]; cases child <;> rfl) (hsame rfl)
        · exact hkeep rfl rfl (by rw [hphase]; cases child <;> rfl)
            (by rw [hphase]; cases child <;> rfl) (hsame rfl)
  | voiding gen child cells =>
      left
      cases cells with
      | nil =>
          simp only [step, hphase]
          exact hkeep rfl rfl (by rw [hphase]; cases child <;> rfl)
            (by rw [hphase]; cases child <;> rfl) fun g hg => .inl (by rw [hphase]; exact hg)
      | cons i cells =>
          simp only [step, hphase]
          exact hkeep rfl rfl (by rw [hphase]; cases child <;> rfl)
            (by rw [hphase]; cases child <;> rfl) fun g hg => .inl (by rw [hphase]; exact hg)
  | loaded gen child cleaned =>
      simp only [step, hphase]
      split
      · next hcleaned =>
        cases child with
        | false => exact .inr (.inr ⟨gen, cleaned, rfl, hcleaned, rfl⟩)
        | true =>
            left
            exact hkeep rfl rfl (by rw [hphase]; rfl) (by rw [hphase]; cases cleaned <;> rfl)
              fun g hg => .inl (by rw [hphase]; exact hg)
      · exact .inl ⟨rfl, rfl, rfl, rfl, fun g hg => .inl hg⟩
  | failed =>
      simp only [step, hphase]
      exact .inl ⟨rfl, rfl, rfl, rfl, fun g hg => .inl hg⟩

theorem gen?_of_creates {phase : Phase} {gen : Nat} (h : phase.creates = some gen) :
    phase.gen? = some gen := by
  cases phase with
  | start => cases h
  | missed => cases h
  | failed => cases h
  | copying g next => exact h
  | scanning g child next found =>
      cases child with
      | true => cases h
      | false => exact h
  | voiding g child cells =>
      cases child with
      | true => cases h
      | false => exact h
  | loaded g child cleaned =>
      cases child with
      | true => cases h
      | false => exact h

theorem creates_of_owns {phase : Phase} {gen : Nat} (h : phase.owns = some gen) :
    phase.creates = some gen := by
  unfold Phase.owns at h
  split at h
  · cases h
  · exact h

end Steps

end Clev2er.Segments
