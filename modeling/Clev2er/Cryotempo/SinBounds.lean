import Clev2er.Cryotempo.GeolocateSin

/-!
# The height bounds of `geolocate_sin`

The loop checks the first solution of a record against `height_min` and
`height_max`. The pass over all records behind it may put the second solution in
its place, whose height no test has looked at. `geolocateSin_bounds_iff` says when
the returned heights are within the bounds: with unwrapping off, or if no record
changes to a second solution that is out of bounds.
-/

namespace Clev2er.Cryotempo

open Clev2er.Lib Clev2er.Retrack

/-- The phase one turn away. -/
def unwrapPhase (lib : SinLib) (phase : Sample) : Sample :=
  if .num 0 < phase then .num (-2 * lib.pi) + phase else .num (2 * lib.pi) + phase

/-- The height is a number beyond a bound. -/
def OutOfBounds (cfg : SinConfig) (height : Sample) : Prop :=
  .num cfg.heightMax < height ∨ height < .num cfg.heightMin

/-- **A record that failed**: fill-valued retracking index, no phase, a phase or a
height out of bounds. -/
def SinFailed (cfg : SinConfig) (lib : SinLib) (i : Nat) (indWfmRetrack range : Sample) : Prop :=
  indWfmRetrack = .num fillIndex ∨
    (∃ e, lib.fitter i indWfmRetrack = .error e ∧ e.cls = .other "SINLocateError") ∨
    ∃ phase, lib.fitter i indWfmRetrack = .ok phase ∧
      (phase = .nan ∨ .num lib.pi < phase.map abs ∨
        ∃ lat lon elev, lib.angleToPoca i (phaseToAngle lib phase) range = .ok (lat, lon, elev) ∧
          OutOfBounds cfg elev)

/-- What is asked of the heights of `n` records: those that are numbers are within
the bounds, and failed records have neither height nor position. -/
def HeightsBounded (cfg : SinConfig) (lib : SinLib) (rangeCor indWfmRetrack : List Sample)
    (n : Nat) (out : SinOutput) : Prop :=
  (∀ i q, out.height.getD i .nan = .num q → cfg.heightMin ≤ q ∧ q ≤ cfg.heightMax) ∧
  ∀ i, i < n → SinFailed cfg lib i (indWfmRetrack.getD i .nan) (rangeCor.getD i .nan) →
    out.height.getD i (.num 0) = .nan ∧ out.lat.getD i (.num 0) = .nan ∧
      out.lon.getD i (.num 0) = .nan

/-- **A record that changes to a solution out of bounds**: its first solution is
within them and off the DEM by the trigger or more, the second one is closer to
the DEM and has a height beyond a bound. -/
def SwapsOutOfBounds (cfg : SinConfig) (lib : SinLib) (interpDem : Sample → Sample → Sample)
    (i : Nat) (indWfmRetrack range : Sample) : Prop :=
  ∃ phase lat lon elev latUnwrap lonUnwrap elevUnwrap,
    indWfmRetrack ≠ .num fillIndex ∧ lib.fitter i indWfmRetrack = .ok (.num phase) ∧
    |phase| ≤ lib.pi ∧
    lib.angleToPoca i (phaseToAngle lib (.num phase)) range = .ok (lat, lon, elev) ∧
    lib.angleToPoca i (phaseToAngle lib (unwrapPhase lib (.num phase))) range =
      .ok (latUnwrap, lonUnwrap, elevUnwrap) ∧
    ¬ OutOfBounds cfg elev ∧
    (elevUnwrap - interpDem latUnwrap lonUnwrap).map abs < (elev - interpDem lat lon).map abs ∧
    .num cfg.unwrapTrigger ≤ (elev - interpDem lat lon).map abs ∧
    OutOfBounds cfg elevUnwrap

/-- The DEM of the hemisphere. -/
def sinDem (lib : SinLib) (lat : List Sample) : Option (Sample → Sample → Sample) :=
  if lat.getD 0 .nan < .num 0 then lib.demAnt else lib.demGrn

/-! ## One record -/

section Record

variable {cfg : SinConfig} {lib : SinLib} {i : Nat} {indWfmRetrack range : Sample} {r : SinRecord}

/-- A record without height and position. -/
def SinRecord.GivenUp (r : SinRecord) : Prop := r.height = .nan ∧ r.lat = .nan ∧ r.lon = .nan

theorem default_givenUp (r : SinRecord) : r.default.GivenUp := ⟨rfl, rfl, rfl⟩

theorem onError_ok {e : PyExc} {r' : SinRecord} (h : r.onError e = .ok r') : r'.GivenUp := by
  unfold SinRecord.onError at h
  split at h
  · rw [← Except.ok.inj h]
    exact default_givenUp r
  · cases h

/-- The check at the end of the `try` block. -/
theorem checkHeight_cases (cfg : SinConfig) (r : SinRecord) :
    (OutOfBounds cfg r.height ∧ (r.checkHeight cfg).GivenUp) ∨
      (¬ OutOfBounds cfg r.height ∧ r.checkHeight cfg = r) := by
  unfold SinRecord.checkHeight OutOfBounds
  by_cases h : .num cfg.heightMax < r.height ∨ r.height < .num cfg.heightMin
  · left
    rw [if_pos h]
    exact ⟨h, default_givenUp r⟩
  · right
    rw [if_neg h]
    exact ⟨h, rfl⟩

/-- A record that keeps its first solution. -/
structure Solved (cfg : SinConfig) (lib : SinLib) (i : Nat) (indWfmRetrack range : Sample)
    (r : SinRecord) (phase : ℚ) : Prop where
  not_fill : indWfmRetrack ≠ .num fillIndex
  phase_eq : lib.fitter i indWfmRetrack = .ok (.num phase)
  phase_le : |phase| ≤ lib.pi
  first : lib.angleToPoca i (phaseToAngle lib (.num phase)) range = .ok (r.lat, r.lon, r.height)
  bounded : ¬ OutOfBounds cfg r.height
  second : cfg.unwrap = true →
    lib.angleToPoca i (phaseToAngle lib (unwrapPhase lib (.num phase))) range =
      .ok (r.latUnwrap, r.lonUnwrap, r.heightUnwrap)

/-- **What the loop leaves of a record**: nothing, or its first solution within
the bounds. -/
theorem sinRecord_cases (h : sinRecord cfg lib i indWfmRetrack range = .ok r) :
    r.GivenUp ∨ ∃ phase, Solved cfg lib i indWfmRetrack range r phase := by
  unfold sinRecord at h
  split at h
  · left
    rw [← Except.ok.inj h]
    exact default_givenUp _
  next hfill =>
  split at h
  · exact Or.inl (onError_ok h)
  next phase hphase =>
  split at h
  · left
    rw [← Except.ok.inj h]
    exact default_givenUp _
  next hin =>
  cases phase with
  | nan => simp at hin
  | num p =>
      have hle : |p| ≤ lib.pi := by simpa using hin
      split at h
      · exact Or.inl (onError_ok h)
      next lat lon elev hfirst =>
      unfold unwrapRecord at h
      split at h
      · -- with a second solution
        next hunwrap =>
        simp only [] at h
        split at h
        · exact Or.inl (onError_ok h)
        next latUnwrap lonUnwrap elevUnwrap hsecond =>
        rcases checkHeight_cases cfg { SinRecord.zero with
            height := elev, lat := lat, lon := lon,
            heightUnwrap := elevUnwrap, latUnwrap := latUnwrap, lonUnwrap := lonUnwrap } with
          ⟨-, hgiven⟩ | ⟨hbound, hsame⟩
        · left
          rw [← Except.ok.inj h]
          exact hgiven
        · right
          rw [hsame] at h
          rw [← Except.ok.inj h]
          exact ⟨p, hfill, hphase, hle, hfirst, hbound, fun _ => hsecond⟩
      · next hunwrap =>
        rcases checkHeight_cases cfg { SinRecord.zero with
            height := elev, lat := lat, lon := lon, latUnwrap := .nan, lonUnwrap := .nan } with
          ⟨-, hgiven⟩ | ⟨hbound, hsame⟩
        · left
          rw [← Except.ok.inj h]
          exact hgiven
        · right
          rw [hsame] at h
          rw [← Except.ok.inj h]
          exact ⟨p, hfill, hphase, hle, hfirst, hbound, fun htrue => absurd htrue hunwrap⟩

/-- A failed record is given up. -/
theorem sinRecord_failed (h : sinRecord cfg lib i indWfmRetrack range = .ok r)
    (hfailed : SinFailed cfg lib i indWfmRetrack range) : r.GivenUp := by
  rcases sinRecord_cases h with hgiven | ⟨phase, hsolved⟩
  · exact hgiven
  exfalso
  rcases hfailed with hfill | ⟨e, he, -⟩ | ⟨phase', hphase', hbad⟩
  · exact hsolved.not_fill hfill
  · cases hsolved.phase_eq.symm.trans he
  · obtain rfl := Except.ok.inj (hsolved.phase_eq.symm.trans hphase')
    rcases hbad with hnan | hgt | ⟨lat, lon, elev, hfirst, hout⟩
    · cases hnan
    · exact absurd hsolved.phase_le (not_le_of_gt hgt)
    · have heq := Except.ok.inj (hsolved.first.symm.trans hfirst)
      rw [Prod.mk.injEq, Prod.mk.injEq] at heq
      rw [← heq.2.2] at hout
      exact hsolved.bounded hout

/-- The record of two solutions, the first of them within the bounds. -/
theorem sinRecord_of_solutions {phase : ℚ} {lat lon elev latUnwrap lonUnwrap elevUnwrap : Sample}
    (hunwrap : cfg.unwrap = true) (hfill : indWfmRetrack ≠ .num fillIndex)
    (hphase : lib.fitter i indWfmRetrack = .ok (.num phase)) (hle : |phase| ≤ lib.pi)
    (hfirst : lib.angleToPoca i (phaseToAngle lib (.num phase)) range = .ok (lat, lon, elev))
    (hsecond : lib.angleToPoca i (phaseToAngle lib (unwrapPhase lib (.num phase))) range =
      .ok (latUnwrap, lonUnwrap, elevUnwrap)) (hbound : ¬ OutOfBounds cfg elev) :
    sinRecord cfg lib i indWfmRetrack range =
      .ok ⟨elev, lat, lon, elevUnwrap, latUnwrap, lonUnwrap⟩ := by
  unfold unwrapPhase at hsecond
  have hin : ((WithNan.num phase : Sample).isNan ||
      decide (.num lib.pi < (WithNan.num phase : Sample).map abs)) = false := by
    simpa using hle
  unfold sinRecord
  rw [if_neg hfill, hphase]
  simp only []
  rw [hin, if_neg Bool.false_ne_true, hfirst]
  simp only [unwrapRecord]
  rw [if_pos hunwrap, hsecond]
  exact congrArg Except.ok (if_neg hbound)

end Record

/-! ## The pass over all records -/

section Pass

variable {cfg : SinConfig} {lib : SinLib} {interpDem : Sample → Sample → Sample} {r : SinRecord}

theorem chooseSolution_givenUp (h : r.GivenUp) : (chooseSolution cfg interpDem r).GivenUp := by
  rw [chooseSolution_of_nan h.1]
  exact h

/-- The condition of the pass: the second solution is closer to the DEM, and the
first one is off by the trigger. -/
def Swaps (cfg : SinConfig) (interpDem : Sample → Sample → Sample) (r : SinRecord) : Prop :=
  (r.heightUnwrap - interpDem r.latUnwrap r.lonUnwrap).map abs <
      (r.height - interpDem r.lat r.lon).map abs ∧
    .num cfg.unwrapTrigger ≤ (r.height - interpDem r.lat r.lon).map abs

theorem chooseSolution_cases (cfg : SinConfig) (interpDem : Sample → Sample → Sample)
    (r : SinRecord) :
    (Swaps cfg interpDem r ∧ (chooseSolution cfg interpDem r).height = r.heightUnwrap) ∨
      (¬ Swaps cfg interpDem r ∧ chooseSolution cfg interpDem r = r) := by
  unfold chooseSolution Swaps
  by_cases h : (r.heightUnwrap - interpDem r.latUnwrap r.lonUnwrap).map abs <
      (r.height - interpDem r.lat r.lon).map abs ∧
    .num cfg.unwrapTrigger ≤ (r.height - interpDem r.lat r.lon).map abs
  · left
    rw [if_pos h]
    exact ⟨h, rfl⟩
  · right
    rw [if_neg h]
    exact ⟨h, rfl⟩

theorem not_outOfBounds_iff {q : ℚ} :
    ¬ OutOfBounds cfg (.num q) ↔ cfg.heightMin ≤ q ∧ q ≤ cfg.heightMax := by
  unfold OutOfBounds
  rw [WithNan.num_lt_num, WithNan.num_lt_num, not_or, not_lt, not_lt, And.comm]

/-- What a call returns: the records of the loop, changed by the pass if
unwrapping is on. -/
theorem geolocateSin_ok {lat rangeCor indWfmRetrack : List Sample} {out : SinOutput}
    (hout : geolocateSin cfg lib lat rangeCor indWfmRetrack = .ok out) :
    ∃ records : List SinRecord, records.length = lat.length ∧
      (∀ i, i < lat.length → sinRecord cfg lib i (indWfmRetrack.getD i .nan)
        (rangeCor.getD i .nan) = .ok (records.getD i SinRecord.zero)) ∧
      ((cfg.unwrap = false ∧ out = sinOutput records) ∨
        (cfg.unwrap = true ∧ ∃ interpDem, sinDem lib lat = some interpDem ∧
          out = sinOutput (records.map (chooseSolution cfg interpDem)))) := by
  unfold geolocateSin at hout
  split at hout
  · cases hout
  next records hrecords =>
  obtain ⟨hlen, hentries⟩ := forEach_ok .nan SinRecord.zero hrecords
  refine ⟨records, hlen, fun i hi => by simpa using hentries i hi, ?_⟩
  split at hout
  · cases hout
  split at hout
  · next hunwrap =>
    split at hout
    · cases hout
    · next interpDem hdem =>
      exact Or.inr ⟨hunwrap, interpDem, hdem, (Except.ok.inj hout).symm⟩
  · next hunwrap =>
    exact Or.inl ⟨Bool.of_not_eq_true hunwrap, (Except.ok.inj hout).symm⟩

theorem sinOutput_getD {records : List SinRecord} {i : Nat} (hi : i < records.length)
    (d : Sample) :
    (sinOutput records).height.getD i d = (records.getD i SinRecord.zero).height ∧
      (sinOutput records).lat.getD i d = (records.getD i SinRecord.zero).lat ∧
      (sinOutput records).lon.getD i d = (records.getD i SinRecord.zero).lon :=
  ⟨getD_map_of_lt _ hi _ _, getD_map_of_lt _ hi _ _, getD_map_of_lt _ hi _ _⟩

/-- Bounds and failures of an output, record by record. -/
theorem heightsBounded_of_records {records : List SinRecord} {n : Nat}
    {rangeCor indWfmRetrack : List Sample} (hlen : records.length = n)
    (hbound : ∀ i, i < n → ¬ OutOfBounds cfg (records.getD i SinRecord.zero).height)
    (hfailed : ∀ i, i < n → SinFailed cfg lib i (indWfmRetrack.getD i .nan)
      (rangeCor.getD i .nan) → (records.getD i SinRecord.zero).GivenUp) :
    HeightsBounded cfg lib rangeCor indWfmRetrack n (sinOutput records) := by
  constructor
  · intro i q hq
    by_cases hi : i < n
    · rw [(sinOutput_getD (hlen ▸ hi) .nan).1] at hq
      have h := hbound i hi
      rwa [hq, not_outOfBounds_iff] at h
    · rw [List.getD_eq_default _ _ (by simpa [sinOutput, hlen] using hi)] at hq
      cases hq
  · intro i hi hfail
    obtain ⟨hheight, hlat, hlon⟩ := sinOutput_getD (hlen ▸ hi) (.num 0)
    rw [hheight, hlat, hlon]
    exact hfailed i hi hfail

section Chosen

variable {i : Nat} {indWfmRetrack range : Sample}

theorem not_outOfBounds_nan : ¬ OutOfBounds cfg .nan := by
  rintro (h | h) <;> simp at h

/-- The loop leaves no height out of bounds. -/
theorem sinRecord_bounded (h : sinRecord cfg lib i indWfmRetrack range = .ok r) :
    ¬ OutOfBounds cfg r.height := by
  rcases sinRecord_cases h with hgiven | ⟨_, hsolved⟩
  · rw [hgiven.1]
    exact not_outOfBounds_nan
  · exact hsolved.bounded

/-- **One record**: the pass leaves the bounds only by a change of solution. -/
theorem chosen_outOfBounds_iff (hunwrap : cfg.unwrap = true)
    (h : sinRecord cfg lib i indWfmRetrack range = .ok r) :
    OutOfBounds cfg (chooseSolution cfg interpDem r).height ↔
      SwapsOutOfBounds cfg lib interpDem i indWfmRetrack range := by
  constructor
  · intro hbad
    rcases chooseSolution_cases cfg interpDem r with ⟨hswaps, hchosen⟩ | ⟨-, hsame⟩
    · rw [hchosen] at hbad
      rcases sinRecord_cases h with hgiven | ⟨phase, hsolved⟩
      · -- a record given up is not off the DEM
        have hnot := hswaps.2
        rw [hgiven.1] at hnot
        simp at hnot
      · exact ⟨phase, _, _, _, _, _, _, hsolved.not_fill, hsolved.phase_eq, hsolved.phase_le,
          hsolved.first, hsolved.second hunwrap, hsolved.bounded, hswaps.1, hswaps.2, hbad⟩
    · rw [hsame] at hbad
      exact absurd hbad (sinRecord_bounded h)
  · rintro ⟨phase, lat, lon, elev, latU, lonU, elevU, hfill, hphase, hle, hfirst, hsecond, hin,
      hcloser, htrigger, hbad⟩
    rw [sinRecord_of_solutions hunwrap hfill hphase hle hfirst hsecond hin] at h
    obtain rfl := Except.ok.inj h
    rcases chooseSolution_cases cfg interpDem ⟨elev, lat, lon, elevU, latU, lonU⟩ with
      ⟨-, hchosen⟩ | ⟨hnot, -⟩
    · rw [hchosen]
      exact hbad
    · exact absurd ⟨hcloser, htrigger⟩ hnot

end Chosen

/-- **When the heights of `geolocate_sin` are within the bounds.** For every call
that returns, with any DEM and any configuration: every height is within
`[height_min, height_max]` and every failed record is NaN, exactly if unwrapping
is off or no record changes to a second solution that is out of bounds. -/
theorem geolocateSin_bounds_iff (cfg : SinConfig) (lib : SinLib)
    (lat rangeCor indWfmRetrack : List Sample) (out : SinOutput)
    (hout : geolocateSin cfg lib lat rangeCor indWfmRetrack = .ok out) :
    HeightsBounded cfg lib rangeCor indWfmRetrack lat.length out ↔
      cfg.unwrap = false ∨ ∀ interpDem, sinDem lib lat = some interpDem →
        ∀ i, i < lat.length → ¬ SwapsOutOfBounds cfg lib interpDem i (indWfmRetrack.getD i .nan)
          (rangeCor.getD i .nan) := by
  obtain ⟨records, hlen, hrecord, hcases⟩ := geolocateSin_ok hout
  rcases hcases with ⟨hunwrap, rfl⟩ | ⟨hunwrap, interpDem, hdem, rfl⟩
  · refine iff_of_true (heightsBounded_of_records hlen ?_ ?_) (Or.inl hunwrap)
    · exact fun i hi => sinRecord_bounded (hrecord i hi)
    · exact fun i hi => sinRecord_failed (hrecord i hi)
  rw [hunwrap]
  have hmapped : ∀ i, i < lat.length →
      (records.map (chooseSolution cfg interpDem)).getD i SinRecord.zero =
        chooseSolution cfg interpDem (records.getD i SinRecord.zero) :=
    fun i hi => getD_map_of_lt _ (hlen ▸ hi) _ _
  constructor
  · rintro ⟨hbounds, -⟩
    right
    intro interpDem' hdem' i hi hswaps
    obtain rfl := Option.some.inj (hdem.symm.trans hdem')
    have hbad := (chosen_outOfBounds_iff hunwrap (hrecord i hi)).mpr hswaps
    have hi' : i < (records.map (chooseSolution cfg interpDem)).length := by simpa [hlen] using hi
    have hheight := (sinOutput_getD hi' .nan).1
    rw [hmapped i hi] at hheight
    cases hchosen : (chooseSolution cfg interpDem (records.getD i SinRecord.zero)).height with
    | nan =>
        rw [hchosen] at hbad
        exact not_outOfBounds_nan hbad
    | num q =>
        rw [hchosen] at hbad
        exact not_outOfBounds_iff.mpr (hbounds i q (hheight.trans hchosen)) hbad
  · rintro (hfalse | hnone)
    · cases hfalse
    refine heightsBounded_of_records (by simpa using hlen) ?_ ?_
    · intro i hi
      rw [hmapped i hi, chosen_outOfBounds_iff hunwrap (hrecord i hi)]
      exact hnone interpDem hdem i hi
    · intro i hi hfail
      rw [hmapped i hi]
      exact chooseSolution_givenUp (sinRecord_failed (hrecord i hi) hfail)

end Pass

/-! ## One record near the upper bound -/

/-- Heights up to 3000 m, with unwrapping from `trigger` metres off the DEM on. -/
def tightBounds (trigger : ℚ) : SinConfig := ⟨true, -2000, 3000, trigger⟩

/-- The angle zero leads to a height of 2990 m, any other to 3100 m, which is the
height of the DEM. -/
def twoSolutions : SinLib where
  pi := 355 / 113
  fitter _ _ := .ok (.num 0)
  angleToPoca _ angle _ := .ok (.num (-75), .num 0, if angle = .num 0 then .num 2990 else .num 3100)
  demAnt := some fun _ _ => .num 3100
  demGrn := none

theorem twoSolutions_returns (trigger : ℚ) :
    geolocateSin (tightBounds trigger) twoSolutions [.num (-75)] [.num 700000] [.num 100] =
      .ok (sinOutput [chooseSolution (tightBounds trigger) (fun _ _ => .num 3100)
        ⟨.num 2990, .num (-75), .num 0, .num 3100, .num (-75), .num 0⟩]) := by
  have hin : (-2000 : ℚ) ≤ 2990 ∧ (2990 : ℚ) ≤ 3000 := by decide +kernel
  have hrecord : sinRecord (tightBounds trigger) twoSolutions 0 (.num 100) (.num 700000) =
      .ok ⟨.num 2990, .num (-75), .num 0, .num 3100, .num (-75), .num 0⟩ :=
    sinRecord_of_solutions rfl (by decide +kernel) rfl (by decide +kernel) (by decide +kernel)
      (by decide +kernel) (not_outOfBounds_iff.mpr hin)
  have hloop : forEach (fun i (_ : Sample) => sinRecord (tightBounds trigger) twoSolutions i
      (([.num 100] : List Sample).getD i .nan) (([.num 700000] : List Sample).getD i .nan)) 0
      ([.num (-75)] : List Sample) =
        .ok [⟨.num 2990, .num (-75), .num 0, .num 3100, .num (-75), .num 0⟩] :=
    forEach_single hrecord
  unfold geolocateSin
  rw [hloop]
  rfl

/-- Ten metres below the bound and 110 below the DEM, the record changes to a
height 100 m above the bound. -/
theorem geolocateSin_swaps_out_of_bounds :
    ∃ out, geolocateSin (tightBounds 50) twoSolutions [.num (-75)] [.num 700000] [.num 100] =
        .ok out ∧
      ¬ HeightsBounded (tightBounds 50) twoSolutions [.num 700000] [.num 100] 1 out := by
  refine ⟨_, twoSolutions_returns 50, ?_⟩
  rintro ⟨hbounds, -⟩
  exact absurd (hbounds 0 3100 (by decide +kernel)) (by decide +kernel)

/-- With a trigger of 200 m it keeps the first solution. -/
theorem geolocateSin_keeps_first :
    ∃ out, geolocateSin (tightBounds 200) twoSolutions [.num (-75)] [.num 700000] [.num 100] =
        .ok out ∧
      HeightsBounded (tightBounds 200) twoSolutions [.num 700000] [.num 100] 1 out := by
  refine ⟨_, twoSolutions_returns 200, ?_⟩
  refine (geolocateSin_bounds_iff (tightBounds 200) twoSolutions [.num (-75)] [.num 700000]
    [.num 100] _ (twoSolutions_returns 200)).mpr (Or.inr ?_)
  rintro interpDem hdem i - ⟨_, _, _, elev, _, _, _, -, -, -, hfirst, -, -, -, htrigger, -⟩
  obtain rfl := Option.some.inj hdem
  obtain ⟨-, -, helev⟩ : _ ∧ _ ∧ _ := by simpa [twoSolutions] using hfirst
  subst helev
  simp only at htrigger
  split at htrigger <;> exact absurd htrigger (by decide +kernel)

end Clev2er.Cryotempo
