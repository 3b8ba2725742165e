import Clev2er.Lib.Interleaving
import Clev2er.SharedMemory.Protocol

/-!
# Who owns a shared segment

Each segment is created by one process, and that one unlinks it. It unlinks it by its
name: a second clean-up, as `alg_geolocate_roemer` makes where its two DEMs are the same,
takes away whatever segment has the name by then. `ownedOnce_iff` shows that nothing else
can.
-/

namespace Clev2er.Segments

open Clev2er.Lib

/-! ## Generations -/

/-- The segments are the first generations, each created by one process. -/
structure Numbered (s : State) : Prop where
  live_lt : ∀ gen, s.live = some gen → gen < s.created
  gen_lt : ∀ p gen, (s.phase p).gen? = some gen → gen < s.created
  creator_unique : ∀ p q gen, (s.phase p).creates = some gen → (s.phase q).creates = some gen →
    p = q

theorem numbered_init : Numbered State.init :=
  ⟨nofun, nofun, nofun⟩

section Owners

variable {setting : Setting} {s : State} {p : Nat}

/-- The creators of a step that creates no segment are those before it. -/
theorem creates_step (h : ((step setting s p).phase p).creates = (s.phase p).creates) (q : Nat) :
    ((step setting s p).phase q).creates = (s.phase q).creates := by
  by_cases hq : q = p
  · rw [hq, h]
  · rw [step_phase_of_ne hq]

/-- A step that leaves the name as it is. -/
theorem Numbered.keeps (h : Numbered s) (hkeep : KeepsOwners s (step setting s p) p) :
    Numbered (step setting s p) := by
  refine ⟨?_, ?_, ?_⟩
  · rw [hkeep.live_eq, hkeep.created_eq]
    exact h.live_lt
  · intro q gen hgen
    rw [hkeep.created_eq]
    by_cases hq : q = p
    · rw [hq] at hgen
      exact (hkeep.gen_eq gen hgen).elim (h.gen_lt p gen) (h.live_lt gen)
    · rw [step_phase_of_ne hq] at hgen
      exact h.gen_lt q gen hgen
  · intro q r gen hcq hcr
    rw [creates_step hkeep.creates_eq] at hcq hcr
    exact h.creator_unique q r gen hcq hcr

/-- A step that creates a segment: its generation is none of those before. -/
theorem Numbered.creates (h : Numbered s)
    (hstep : step setting s p = s.create.setPhase p (.copying s.created 0)) :
    Numbered (step setting s p) := by
  have hold : ∀ q, q ≠ p → (step setting s p).phase q = s.phase q :=
    fun q hq => step_phase_of_ne hq
  have hnew : (step setting s p).phase p = .copying s.created 0 := by
    rw [hstep, setPhase_self]
  have hcreated : (step setting s p).created = s.created + 1 := by rw [hstep]; rfl
  have hfresh : ∀ q, q ≠ p → ∀ gen, (s.phase q).gen? = some gen → gen ≠ s.created :=
    fun q _ gen hgen => (h.gen_lt q gen hgen).ne
  refine ⟨?_, ?_, ?_⟩
  · intro gen hgen
    rw [hstep] at hgen
    obtain rfl : s.created = gen := Option.some.inj hgen
    rw [hcreated]
    exact Nat.lt_succ_self _
  · intro q gen hgen
    rw [hcreated]
    by_cases hq : q = p
    · rw [hq, hnew] at hgen
      obtain rfl : s.created = gen := Option.some.inj hgen
      exact Nat.lt_succ_self _
    · rw [hold q hq] at hgen
      exact Nat.lt_succ_of_lt (h.gen_lt q gen hgen)
  · intro q r gen hcq hcr
    by_cases hq : q = p
    · by_cases hr : r = p
      · rw [hq, hr]
      · rw [hq, hnew] at hcq
        rw [hold r hr] at hcr
        exact absurd (Option.some.inj hcq).symm (hfresh r hr gen (gen?_of_creates hcr))
    · rw [hold q hq] at hcq
      by_cases hr : r = p
      · rw [hr, hnew] at hcr
        exact absurd (Option.some.inj hcr).symm (hfresh q hq gen (gen?_of_creates hcq))
      · rw [hold r hr] at hcr
        exact h.creator_unique q r gen hcq hcr

/-- A step that unlinks the segment. -/
theorem Numbered.unlinks (h : Numbered s) {gen cleaned : Nat}
    (hphase : s.phase p = .loaded gen false cleaned)
    (hstep : step setting s p = s.unlink.setPhase p (.loaded gen false (cleaned + 1))) :
    Numbered (step setting s p) := by
  have hcreates : ((step setting s p).phase p).creates = (s.phase p).creates := by
    rw [hstep, setPhase_self, hphase]
    rfl
  refine ⟨?_, ?_, ?_⟩
  · intro g hg
    rw [hstep] at hg
    cases hg
  · intro q g hgen
    have hcreated : (step setting s p).created = s.created := by rw [hstep]; rfl
    rw [hcreated]
    by_cases hq : q = p
    · rw [hq, hstep, setPhase_self] at hgen
      apply h.gen_lt p g
      rw [hphase]
      exact hgen
    · rw [step_phase_of_ne hq] at hgen
      exact h.gen_lt q g hgen
  · intro q r g hcq hcr
    rw [creates_step hcreates] at hcq hcr
    exact h.creator_unique q r g hcq hcr

theorem Numbered.step (setting : Setting) (h : Numbered s) (p : Nat) :
    Numbered (step setting s p) := by
  rcases step_name setting s p with hkeep | ⟨-, -, hstep⟩ | ⟨gen, cleaned, hphase, -, hstep⟩
  · exact h.keeps hkeep
  · exact h.creates hstep
  · exact h.unlinks hphase hstep

/-- The segment of the name is the one that some process owns, and of one process. -/
def OwnedOnce (s : State) : Prop :=
  ∀ gen, s.live = some gen ↔ ∃! p, (s.phase p).owns = some gen

/-- The step is no further clean-up by the creator of a segment while there is one again. -/
def Quiet (setting : Setting) (s : State) (p : Nat) : Prop :=
  ∀ gen cleaned, s.phase p = .loaded gen false (cleaned + 1) →
    cleaned + 1 < setting.cleanUps p → s.live = none

/-- The segment of the name is the one that some process owns. -/
def Owned (s : State) : Prop := ∀ gen, s.live = some gen ↔ ∃ p, (s.phase p).owns = some gen

theorem Numbered.ownedOnce_iff_owned (h : Numbered s) : OwnedOnce s ↔ Owned s := by
  refine forall_congr' fun gen => iff_congr Iff.rfl ⟨ExistsUnique.exists, ?_⟩
  rintro ⟨p, hp⟩
  refine ⟨p, hp, fun q hq => ?_⟩
  exact h.creator_unique q p gen (creates_of_owns hq) (creates_of_owns hp)

theorem ownedOnce_init : OwnedOnce State.init := by
  refine numbered_init.ownedOnce_iff_owned.mpr fun gen => ⟨nofun, ?_⟩
  rintro ⟨p, hp⟩
  cases hp

theorem Owned.keeps (howned : Owned s) (hkeep : KeepsOwners s (step setting s p) p) :
    Owned (step setting s p) := by
  intro gen
  rw [hkeep.live_eq, howned gen]
  refine exists_congr fun q => ?_
  by_cases hq : q = p
  · rw [hq, hkeep.owns_eq]
  · rw [step_phase_of_ne hq]

/-- A step that leaves the name as it is, is quiet. -/
theorem quiet_of_keeps (hkeep : KeepsOwners s (step setting s p) p) : Quiet setting s p := by
  intro gen cleaned hphase hcleaned
  have hlive := hkeep.live_eq
  simp only [step, hphase, if_pos hcleaned] at hlive
  exact hlive.symm

/-- Where there is no segment, the process that creates one owns it. -/
theorem Owned.creates (howned : Owned s) (hlive : s.live = none)
    (hstep : step setting s p = s.create.setPhase p (.copying s.created 0)) :
    Owned (step setting s p) := by
  have hnone : ∀ q g, (s.phase q).owns ≠ some g := by
    intro q g hq
    have hlive' := (howned g).mpr ⟨q, hq⟩
    rw [hlive] at hlive'
    cases hlive'
  intro gen
  constructor
  · intro hgen
    refine ⟨p, ?_⟩
    rw [hstep] at hgen ⊢
    rw [setPhase_self]
    exact hgen
  · rintro ⟨q, hq⟩
    by_cases hqp : q = p
    · rw [hqp, hstep, setPhase_self] at hq
      rw [hstep]
      exact hq
    · rw [step_phase_of_ne hqp] at hq
      exact absurd hq (hnone q gen)

/-- After a clean-up the name is free: it is owned by nobody just if no other process
owned it before. -/
theorem owned_unlinks_iff {gen cleaned : Nat}
    (hstep : step setting s p = s.unlink.setPhase p (.loaded gen false (cleaned + 1))) :
    Owned (step setting s p) ↔ ∀ q, q ≠ p → ∀ g, (s.phase q).owns ≠ some g := by
  have hlive : (step setting s p).live = none := by rw [hstep]; rfl
  have hself : ∀ g, ((step setting s p).phase p).owns ≠ some g := by
    intro g
    rw [hstep, setPhase_self]
    exact fun h => by cases h
  rw [Owned, hlive]
  constructor
  · intro hall q hq g hown
    have hsame : (step setting s p).phase q = s.phase q := step_phase_of_ne hq
    rw [← hsame] at hown
    cases (hall g).mpr ⟨q, hown⟩
  · intro hothers g
    refine ⟨fun h => (by cases h), ?_⟩
    rintro ⟨q, hq⟩
    by_cases hqp : q = p
    · rw [hqp] at hq
      exact absurd hq (hself g)
    · rw [step_phase_of_ne hqp] at hq
      exact absurd hq (hothers q hqp g)

/-- Nobody else owns the segment of a process that has not cleaned up. -/
theorem Owned.others_first (h : Numbered s) (howned : Owned s) {gen : Nat}
    (hphase : s.phase p = .loaded gen false 0) :
    ∀ q, q ≠ p → ∀ g, (s.phase q).owns ≠ some g := by
  intro q hq g hown
  have hpOwns : (s.phase p).owns = some gen := by rw [hphase]; rfl
  have hlive := (howned gen).mpr ⟨p, hpOwns⟩
  obtain rfl : gen = g := Option.some.inj (hlive.symm.trans ((howned g).mpr ⟨q, hown⟩))
  exact hq (h.creator_unique q p gen (creates_of_owns hown) (creates_of_owns hpOwns))

/-- Of a process that has, nobody else owns the name just if there is no segment. -/
theorem Owned.others_again_iff (howned : Owned s) {gen cleaned : Nat}
    (hphase : s.phase p = .loaded gen false (cleaned + 1)) :
    (∀ q, q ≠ p → ∀ g, (s.phase q).owns ≠ some g) ↔ s.live = none := by
  have hself : ∀ g, (s.phase p).owns ≠ some g := by
    intro g
    rw [hphase]
    exact fun h => by cases h
  constructor
  · intro hothers
    cases hlive : s.live with
    | none => rfl
    | some live =>
        obtain ⟨q, hq⟩ := (howned live).mp hlive
        by_cases hqp : q = p
        · rw [hqp] at hq
          exact absurd hq (hself live)
        · exact absurd hq (hothers q hqp live)
  · intro hlive q _ g hown
    have hlive' := (howned g).mpr ⟨q, hown⟩
    rw [hlive] at hlive'
    cases hlive'

/-- **Just the quiet steps keep the owners.** -/
theorem ownedOnce_step (h : Numbered s) (howned : OwnedOnce s) :
    OwnedOnce (step setting s p) ↔ Quiet setting s p := by
  rw [(h.step setting p).ownedOnce_iff_owned]
  rw [h.ownedOnce_iff_owned] at howned
  rcases step_name setting s p with hkeep | ⟨hphase, hlive, hstep⟩ |
    ⟨gen, cleaned, hphase, hcleaned, hstep⟩
  · exact iff_of_true (howned.keeps hkeep) (quiet_of_keeps hkeep)
  · refine iff_of_true (howned.creates hlive hstep) fun gen cleaned hloaded => ?_
    rw [hphase] at hloaded
    cases hloaded
  · rw [owned_unlinks_iff hstep]
    cases cleaned with
    | zero =>
        refine iff_of_true (howned.others_first h hphase) fun g k hloaded => ?_
        rw [hphase] at hloaded
        cases hloaded
    | succ cleaned =>
        rw [howned.others_again_iff hphase]
        exact ⟨fun hlive _ _ _ _ => hlive, fun hquiet => hquiet gen cleaned hphase hcleaned⟩

/-- **In every run each segment has one owner**, who unlinks it, just if no creator cleans
up again while there is a segment of the name. -/
theorem ownedOnce_iff (setting : Setting) (schedule : List Nat) :
    Always (step setting) OwnedOnce State.init schedule ↔
      Guarded (step setting) (Quiet setting) State.init schedule := by
  have hnumbered : ∀ s p, Numbered s → Numbered (step setting s p) :=
    fun _ p h => h.step setting p
  have howned : ∀ s p, Numbered s → OwnedOnce s →
      (OwnedOnce (step setting s p) ↔ Quiet setting s p) :=
    fun _ _ h howned => ownedOnce_step h howned
  exact always_iff_guarded hnumbered howned schedule numbered_init ownedOnce_init

/-- A resource of a height and a void cell, each process cleans up twice. -/
def cleaningTwice : Setting :=
  ⟨2, fun i => if i = 0 then .num 2750 else .num (-9999), some (-9999), fun _ => 2⟩

/-- The first process loads the resource and cleans up, and once more after a second one
has created the segment. -/
def cleanUpAgain : List Nat := [0, 0, 0, 0, 0, 0, 0, 0, 0, 0, 0, 1, 1, 0]

/-- The segment of the second process is unlinked. -/
theorem ownedOnce_iff_cleanUpAgain :
    ¬ Always (step cleaningTwice) OwnedOnce State.init cleanUpAgain := by
  rw [ownedOnce_iff]
  rintro ⟨-, -, -, -, -, -, -, -, -, -, -, -, -, hquiet, -⟩
  cases hquiet 0 0 (by decide) (by decide)

end Owners

end Clev2er.Segments
