import Clev2er.Cryotempo.RoemerOutputs

/-!
# Records without a usable height

A record of `geolocate_roemer` may be left without a usable DEM height at either
search: no segment, no location in the circle, no height, none in the sensible
range, or none after the dh/dt correction. `geolocateRoemer_isolation_iff` says
when such a record only loses its own outputs: unless the dh/dt correction takes
all its heights away, in which case `np.nanmin` raises, or the interpolation onto
the fine grid raises.
-/

namespace Clev2er.Cryotempo

open Clev2er.Lib Clev2er.Retrack

section

variable (cfg : RoemerConfig) (lib : RoemerLib)

/-! ## Searches without a height -/

/-- No location of a search has a usable height after the dh/dt correction. -/
def NoHeight (yearDifference : ℚ) (points : List DemPoint) (centreX centreY : Sample)
    (radius : ℚ) : Prop :=
  ∀ p ∈ points, usable lib centreX centreY radius p = true →
    (correctedHeight cfg lib yearDifference p).z = .nan

/-- It had one before. -/
def LostToDhdt (yearDifference : ℚ) (points : List DemPoint) (centreX centreY : Sample)
    (radius : ℚ) : Prop :=
  NoHeight cfg lib yearDifference points centreX centreY radius ∧
    ∃ p ∈ points, usable lib centreX centreY radius p = true

variable {cfg lib} {dem demFine : Dem} {yearDifference : ℚ} {points : List DemPoint}
  {centreX centreY nadirX nadirY altitude range : Sample} {radius : ℚ}

/-- A location without a height has no range. -/
theorem demRange_nan {p : DemPoint} (h : p.z = .nan) :
    demRange lib nadirX nadirY altitude p = .nan := by
  unfold demRange
  simp [h]

/-- **A search without a height** raises if the dh/dt correction took the last one,
and finds nothing otherwise. -/
theorem searchPoca_noHeight (nadirX nadirY altitude : Sample)
    (h : NoHeight cfg lib yearDifference points centreX centreY radius) :
    (LostToDhdt cfg lib yearDifference points centreX centreY radius ∧
        searchPoca cfg lib yearDifference points centreX centreY radius nadirX nadirY altitude =
          .error ⟨.valueError, "All-NaN slice encountered"⟩) ∨
      (¬ LostToDhdt cfg lib yearDifference points centreX centreY radius ∧
        searchPoca cfg lib yearDifference points centreX centreY radius nadirX nadirY altitude =
          .ok none) := by
  rw [searchPoca, usablePoints_eq]
  rcases hempty : (points.filter (usable lib centreX centreY radius)).isEmpty with _ | _
  · left
    rw [List.isEmpty_eq_false_iff_exists_mem] at hempty
    obtain ⟨p, hp⟩ := hempty
    rw [List.mem_filter] at hp
    refine ⟨⟨h, p, hp⟩, ?_⟩
    simp only [Bool.false_eq_true, if_false]
    have hnan : ∀ q ∈ (points.filter (usable lib centreX centreY radius)).map
        (correctedHeight cfg lib yearDifference),
        demRange lib nadirX nadirY altitude q = .nan := by
      intro q hq
      obtain ⟨p, hp, rfl⟩ := List.mem_map.mp hq
      rw [List.mem_filter] at hp
      exact demRange_nan (h p hp.1 hp.2)
    rcases findPoca_cases lib ((points.filter (usable lib centreX centreY radius)).map
        (correctedHeight cfg lib yearDifference)) nadirX nadirY altitude with
      ⟨-, herror⟩ | ⟨q, hq, v, hv, -, -⟩
    · exact herror
    · rw [hnan q hq] at hv
      cases hv
  · right
    rw [List.isEmpty_iff, List.filter_eq_nil_iff] at hempty
    refine ⟨?_, by simp⟩
    rintro ⟨-, p, hp, husable⟩
    exact hempty p hp husable

/-! ## Records without a height -/

variable (cfg lib) in
/-- **No usable height remains** for a record, at the first search or at the
second. -/
def NoUsableHeight (dem demFine : Dem) (yearDifference : ℚ) (nadirX nadirY altitude : Sample) :
    Prop :=
  (∀ points, beamPoints cfg lib dem nadirX nadirY = some points →
      NoHeight cfg lib yearDifference points nadirX nadirY (cfg.acrossTrackBeamWidth / 2)) ∨
    ∃ first, beamPoca cfg lib dem yearDifference nadirX nadirY altitude = .ok (some first) ∧
      0 < cfg.fineGridSampling ∧
      ∀ points, finePoints cfg lib dem demFine first = .ok (some points) →
        NoHeight cfg lib yearDifference points first.x first.y (cfg.pulseLimitedFootprintSize / 2)

variable (cfg lib) in
/-- The dh/dt correction takes the last height of a record, or the interpolation
onto its fine grid raises. -/
def LosesHeights (dem demFine : Dem) (yearDifference : ℚ) (nadirX nadirY altitude : Sample) :
    Prop :=
  (∃ points, beamPoints cfg lib dem nadirX nadirY = some points ∧
      LostToDhdt cfg lib yearDifference points nadirX nadirY (cfg.acrossTrackBeamWidth / 2)) ∨
    ∃ first, beamPoca cfg lib dem yearDifference nadirX nadirY altitude = .ok (some first) ∧
      0 < cfg.fineGridSampling ∧
      ((∃ e, finePoints cfg lib dem demFine first = .error e) ∨
        ∃ points, finePoints cfg lib dem demFine first = .ok (some points) ∧
          LostToDhdt cfg lib yearDifference points first.x first.y
            (cfg.pulseLimitedFootprintSize / 2))

/-- A record that loses its heights has none left. -/
theorem LosesHeights.noUsableHeight
    (h : LosesHeights cfg lib dem demFine yearDifference nadirX nadirY altitude) :
    NoUsableHeight cfg lib dem demFine yearDifference nadirX nadirY altitude := by
  rcases h with ⟨points, hpoints, hlost⟩ | ⟨first, hfirst, hsampling, hsecond⟩
  · left
    intro points' hpoints'
    obtain rfl := Option.some.inj (hpoints.symm.trans hpoints')
    exact hlost.1
  · right
    refine ⟨first, hfirst, hsampling, ?_⟩
    intro points' hpoints'
    rcases hsecond with ⟨e, he⟩ | ⟨points, hpoints, hlost⟩
    · rw [he] at hpoints'
      cases hpoints'
    · obtain rfl := Option.some.inj (Except.ok.inj (hpoints.symm.trans hpoints'))
      exact hlost.1

/-- If the first search finds a POCA, the dh/dt correction has left it a height. -/
theorem not_lostToDhdt_of_beamPoca {first : Poca}
    (hfirst : beamPoca cfg lib dem yearDifference nadirX nadirY altitude = .ok (some first))
    (hpoints : beamPoints cfg lib dem nadirX nadirY = some points) :
    ¬ LostToDhdt cfg lib yearDifference points nadirX nadirY (cfg.acrossTrackBeamWidth / 2) := by
  intro hlost
  rw [beamPoca_eq, hpoints] at hfirst
  rcases searchPoca_noHeight nadirX nadirY altitude hlost.1
    with ⟨-, herror⟩ | ⟨hnot, -⟩
  · simp [herror] at hfirst
  · exact hnot hlost

/-- No height at the first search. -/
theorem beamPoca_noHeight
    (hnone : ∀ points, beamPoints cfg lib dem nadirX nadirY = some points →
      NoHeight cfg lib yearDifference points nadirX nadirY (cfg.acrossTrackBeamWidth / 2)) :
    (LosesHeights cfg lib dem demFine yearDifference nadirX nadirY altitude ∧
        ∃ e, beamPoca cfg lib dem yearDifference nadirX nadirY altitude = .error e) ∨
      (¬ LosesHeights cfg lib dem demFine yearDifference nadirX nadirY altitude ∧
        beamPoca cfg lib dem yearDifference nadirX nadirY altitude = .ok none) := by
  rcases hpoints : beamPoints cfg lib dem nadirX nadirY with _ | points
  · have hbeam : beamPoca cfg lib dem yearDifference nadirX nadirY altitude = .ok none := by
      rw [beamPoca_eq, hpoints]
    refine Or.inr ⟨?_, hbeam⟩
    rintro (⟨points, hpoints', -⟩ | ⟨first, hfirst, -⟩)
    · rw [hpoints] at hpoints'
      cases hpoints'
    · rw [hbeam] at hfirst
      cases hfirst
  · rcases searchPoca_noHeight nadirX nadirY altitude (hnone points hpoints) with
      ⟨hlost, herror⟩ | ⟨hnot, hfound⟩
    · exact Or.inl ⟨Or.inl ⟨points, hpoints, hlost⟩, _, by rw [beamPoca_eq, hpoints]; exact herror⟩
    · have hbeam : beamPoca cfg lib dem yearDifference nadirX nadirY altitude = .ok none := by
        rw [beamPoca_eq, hpoints]
        exact hfound
      refine Or.inr ⟨?_, hbeam⟩
      rintro (⟨points', hpoints', hlost⟩ | ⟨first, hfirst, -⟩)
      · obtain rfl := Option.some.inj (hpoints.symm.trans hpoints')
        exact hnot hlost
      · rw [hbeam] at hfirst
        cases hfirst

/-- No height at the second search. -/
theorem finePoca_noHeight {first : Poca}
    (hfirst : beamPoca cfg lib dem yearDifference nadirX nadirY altitude = .ok (some first))
    (hsampling : 0 < cfg.fineGridSampling)
    (hnone : ∀ points, finePoints cfg lib dem demFine first = .ok (some points) →
      NoHeight cfg lib yearDifference points first.x first.y (cfg.pulseLimitedFootprintSize / 2)) :
    (LosesHeights cfg lib dem demFine yearDifference nadirX nadirY altitude ∧
        ∃ e, finePoca cfg lib dem demFine yearDifference first nadirX nadirY altitude = .error e) ∨
      (¬ LosesHeights cfg lib dem demFine yearDifference nadirX nadirY altitude ∧
        finePoca cfg lib dem demFine yearDifference first nadirX nadirY altitude = .ok none) := by
  rw [finePoca_eq]
  -- the record loses its heights at the second search or not at all
  have hloses : LosesHeights cfg lib dem demFine yearDifference nadirX nadirY altitude ↔
      (∃ e, finePoints cfg lib dem demFine first = .error e) ∨
        ∃ points, finePoints cfg lib dem demFine first = .ok (some points) ∧
          LostToDhdt cfg lib yearDifference points first.x first.y
            (cfg.pulseLimitedFootprintSize / 2) := by
    constructor
    · rintro (⟨points, hpoints, hlost⟩ | ⟨first', hfirst', -, hlost⟩)
      · exact absurd hlost (not_lostToDhdt_of_beamPoca hfirst hpoints)
      · obtain rfl := Option.some.inj (Except.ok.inj (hfirst.symm.trans hfirst'))
        exact hlost
    · exact fun hlost => Or.inr ⟨first, hfirst, hsampling, hlost⟩
  rw [hloses]
  rcases hpoints : finePoints cfg lib dem demFine first with e | _ | points
  · exact Or.inl ⟨Or.inl ⟨e, rfl⟩, e, rfl⟩
  · right
    refine ⟨?_, rfl⟩
    rintro (⟨e, he⟩ | ⟨points, hpoints', -⟩)
    · cases he
    · cases hpoints'
  · rcases searchPoca_noHeight nadirX nadirY altitude
      (hnone points hpoints) with ⟨hlost, herror⟩ | ⟨hnot, hfound⟩
    · exact Or.inl ⟨Or.inr ⟨points, rfl, hlost⟩, _, herror⟩
    · refine Or.inr ⟨?_, hfound⟩
      rintro (⟨e, he⟩ | ⟨points', hpoints', hlost⟩)
      · cases he
      · obtain rfl := Option.some.inj (Except.ok.inj hpoints')
        exact hnot hlost

/-- **The search of a record without a height** raises if the record loses its
heights, and finds nothing otherwise. -/
theorem finalPoca_noUsableHeight
    (h : NoUsableHeight cfg lib dem demFine yearDifference nadirX nadirY altitude) :
    (LosesHeights cfg lib dem demFine yearDifference nadirX nadirY altitude ∧
        ∃ e, finalPoca cfg lib dem demFine yearDifference nadirX nadirY altitude = .error e) ∨
      (¬ LosesHeights cfg lib dem demFine yearDifference nadirX nadirY altitude ∧
        finalPoca cfg lib dem demFine yearDifference nadirX nadirY altitude = .ok none) := by
  rcases h with hnone | ⟨first, hfirst, hsampling, hsecond⟩
  · -- there is no second search
    rw [finalPoca]
    rcases beamPoca_noHeight hnone with ⟨hloses, e, he⟩ | ⟨hnot, hbeam⟩
    · rw [he]
      exact Or.inl ⟨hloses, e, rfl⟩
    · rw [hbeam]
      exact Or.inr ⟨hnot, rfl⟩
  · have hfinal : finalPoca cfg lib dem demFine yearDifference nadirX nadirY altitude =
        finePoca cfg lib dem demFine yearDifference first nadirX nadirY altitude := by
      rw [finalPoca, hfirst]
      exact if_pos hsampling
    rw [hfinal]
    exact finePoca_noHeight hfirst hsampling hsecond

/-! ## Isolation -/

/-- The same track, with record `i` excluded by `waveforms_to_include`. -/
def RoemerTrack.exclude (t : RoemerTrack) (i : Nat) : RoemerTrack :=
  { t with waveformsToInclude := t.waveformsToInclude.set i false }

/-- The five outputs at a record. -/
def RoemerOutput.entry (out : RoemerOutput) (i : Nat) : Sample × Sample × Sample × Bool × Sample :=
  (out.height.getD i .nan, out.latPoca.getD i .nan, out.lonPoca.getD i .nan,
    out.slopeOk.getD i true, out.relocationDistance.getD i .nan)

variable (cfg lib) in
/-- Record `i` has no usable height left at some stage. -/
def TrackNoUsableHeight (dem demFine : Dem) (yearDifference : ℚ) (t : RoemerTrack) (i : Nat) :
    Prop :=
  let nadir := lib.lonlatToXy (t.lon.getD i .nan) (t.lat.getD i .nan)
  NoUsableHeight cfg lib dem demFine yearDifference nadir.1 nadir.2 (t.alt.getD i .nan)

variable (cfg lib) in
/-- Record `i` loses its heights. -/
def TrackLosesHeights (dem demFine : Dem) (yearDifference : ℚ) (t : RoemerTrack) (i : Nat) :
    Prop :=
  let nadir := lib.lonlatToXy (t.lon.getD i .nan) (t.lat.getD i .nan)
  LosesHeights cfg lib dem demFine yearDifference nadir.1 nadir.2 (t.alt.getD i .nan)

variable (cfg lib) in
/-- **Record `i` is isolated**: its pass does not raise, and if the track without it
can be processed, so can the track with it. It is then only rejected, and all
other records come out as without it. -/
structure Isolated (dem demFine : Dem) (yearDifference : ℚ) (t : RoemerTrack) (i : Nat) :
    Prop where
  pass : ∃ r, roemerPass cfg lib dem demFine yearDifference t i = .ok r
  run : ∀ out', geolocateRoemer cfg lib (some dem) (some demFine) (t.exclude i) = .ok out' →
    ∃ out, geolocateRoemer cfg lib (some dem) (some demFine) t = .ok out ∧
      out.entry i = (.nan, t.lat.getD i .nan, t.lon.getD i .nan, false, .nan) ∧
      ∀ j, j < t.lat.length → j ≠ i → out.entry j = out'.entry j

variable {t : RoemerTrack} {out : RoemerOutput} {i j : Nat} {r : RoemerRecord}

theorem RoemerOutput.At.entry_eq (hat : out.At cfg lib t i r) :
    out.entry i = (dopplerHeight cfg lib t i (roemerHeight lib t i r),
      (roemerHeight lib t i r).2.1, (roemerHeight lib t i r).2.2, r.slopeOk,
      r.relocationDistance) := by
  rw [RoemerOutput.entry, hat.height, hat.latPoca, hat.lonPoca, hat.slopeOk,
    hat.relocationDistance]

/-- Excluding a record leaves the passes of the others as they are. -/
theorem roemerPass_exclude (hne : j ≠ i) :
    roemerPass cfg lib dem demFine yearDifference (t.exclude i) j =
      roemerPass cfg lib dem demFine yearDifference t j := by
  have hincluded : (t.exclude i).waveformsToInclude.getD j false =
      t.waveformsToInclude.getD j false := by
    rw [RoemerTrack.exclude, getD_set, if_neg (fun h => hne h.1.symm)]
  rw [roemerPass, roemerPass, hincluded]
  rfl

/-- The pass of a record without a usable height raises if it loses its heights, and
only rejects it otherwise. -/
theorem roemerPass_noUsableHeight (hincluded : t.waveformsToInclude.getD i false = true)
    (h : TrackNoUsableHeight cfg lib dem demFine yearDifference t i) :
    (TrackLosesHeights cfg lib dem demFine yearDifference t i ∧
        ∃ e, roemerPass cfg lib dem demFine yearDifference t i = .error e) ∨
      (¬ TrackLosesHeights cfg lib dem demFine yearDifference t i ∧
        ∃ r, roemerPass cfg lib dem demFine yearDifference t i = .ok r ∧ r.slopeOk = false ∧
          r.relocationDistance = .nan) := by
  rw [roemerPass, hincluded]
  rcases finalPoca_noUsableHeight h with ⟨hloses, e, he⟩ | ⟨hnot, hnone⟩
  · refine Or.inl ⟨hloses, ?_⟩
    rcases roemerRecord_cases cfg lib with
      ⟨e', -, herror⟩ | ⟨hnone, -⟩ | ⟨poca, hsome, -⟩
    · exact ⟨e', herror⟩
    · rw [he] at hnone
      cases hnone
    · rw [he] at hsome
      cases hsome
  · refine Or.inr ⟨hnot, ?_⟩
    rcases roemerRecord_cases cfg lib with
      ⟨e, he, -⟩ | ⟨-, hrejected⟩ | ⟨poca, hsome, -⟩
    · rw [hnone] at he
      cases he
    · exact hrejected
    · rw [hnone] at hsome
      cases hsome

/-- A record whose pass only rejects it is isolated. -/
theorem Isolated.of_rejected (hyears : roemerYears cfg lib = .ok yearDifference)
    (hi : i < t.lat.length) (hpass : roemerPass cfg lib dem demFine yearDifference t i = .ok r)
    (hok : r.slopeOk = false) (hrelocation : r.relocationDistance = .nan) :
    Isolated cfg lib dem demFine yearDifference t i := by
  refine ⟨⟨r, hpass⟩, ?_⟩
  intro out' hout'
  obtain ⟨years', hyears', -, hpasses'⟩ := geolocateRoemer_ok hout'
  obtain rfl : years' = yearDifference := Except.ok.inj (hyears'.symm.trans hyears)
  obtain ⟨out, hout⟩ : ∃ out, geolocateRoemer cfg lib (some dem) (some demFine) t = .ok out := by
    refine geolocateRoemer_of_ok hyears fun j hj => ?_
    by_cases hne : j = i
    · rw [hne]
      exact ⟨r, hpass⟩
    · obtain ⟨r', hr', -⟩ := hpasses' j hj
      rw [roemerPass_exclude hne] at hr'
      exact ⟨r', hr'⟩
  obtain ⟨years, hyears'', -, hpasses⟩ := geolocateRoemer_ok hout
  obtain rfl : years = years' := Except.ok.inj (hyears''.symm.trans hyears')
  refine ⟨out, hout, ?_, ?_⟩
  · obtain ⟨ri, hri, hat⟩ := hpasses i hi
    obtain rfl := Except.ok.inj (hri.symm.trans hpass)
    rw [hat.entry_eq, roemerHeight_rejected hok, dopplerHeight_nan rfl, hok, hrelocation]
  · intro j hj hne
    obtain ⟨rj, hrj, hat⟩ := hpasses j hj
    obtain ⟨rj', hrj', hat'⟩ := hpasses' j hj
    rw [roemerPass_exclude hne] at hrj'
    obtain rfl := Except.ok.inj (hrj.symm.trans hrj')
    rw [hat.entry_eq, hat'.entry_eq]
    rfl

/-- **When records without a usable height are isolated**: all of them are exactly
when no included record loses its heights. -/
theorem geolocateRoemer_isolation_iff (cfg : RoemerConfig) (lib : RoemerLib) (dem demFine : Dem)
    (yearDifference : ℚ) (t : RoemerTrack) (hyears : roemerYears cfg lib = .ok yearDifference) :
    (∀ i, i < t.lat.length → t.waveformsToInclude.getD i false = true →
        TrackNoUsableHeight cfg lib dem demFine yearDifference t i →
        Isolated cfg lib dem demFine yearDifference t i) ↔
      ∀ i, i < t.lat.length → t.waveformsToInclude.getD i false = true →
        ¬ TrackLosesHeights cfg lib dem demFine yearDifference t i := by
  refine forall_congr' fun i => imp_congr_right fun hi => imp_congr_right fun hincluded => ?_
  constructor
  · intro hisolated hloses
    have hnone : TrackNoUsableHeight cfg lib dem demFine yearDifference t i :=
      LosesHeights.noUsableHeight hloses
    obtain ⟨r, hr⟩ := (hisolated hnone).pass
    rcases roemerPass_noUsableHeight hincluded hnone with ⟨-, e, he⟩ | ⟨hnot, -⟩
    · rw [he] at hr
      cases hr
    · exact hnot hloses
  · intro hnot hnone
    rcases roemerPass_noUsableHeight hincluded hnone with ⟨hloses, -⟩ | ⟨-, r, hr, hok, hrelocation⟩
    · exact absurd hloses hnot
    · exact Isolated.of_rejected hyears hi hr hok hrelocation

/-- Without the dh/dt correction and the fine grid, no record loses its heights. -/
theorem not_losesHeights_of_off {nadirX nadirY altitude : Sample}
    (hdhdt : cfg.includeDhdtCorrection = false) (hfine : cfg.fineGridSampling = 0) :
    ¬ LosesHeights cfg lib dem demFine yearDifference nadirX nadirY altitude := by
  rintro (⟨points, -, hnone, p, hp, husable⟩ | ⟨-, -, hsampling, -⟩)
  · have hnan := hnone p hp husable
    rw [correctedHeight, hdhdt] at hnan
    simp [usable, show p.z = .nan by simpa using hnan] at husable
  · rw [hfine] at hsampling
    exact absurd hsampling (lt_irrefl 0)

/-- Two records; the nodes in the beam of the second are void. -/
def besideVoid : RoemerTrack where
  lat := [.num 0, .num 0]
  lon := [.num 3, .num 19]
  alt := [.num 100, .num 100]
  dopCor := [.num 0, .num 0]
  surfaceType := [1, 1]
  geoCorrectedTrackerRange := [.num 5, .num 5]
  retrackerCorrection := [.num 0, .num 0]
  waveformsToInclude := [true, true]

/-- The record over the void is isolated from the one beside it. -/
theorem geolocateRoemer_isolation_small :
    (∃ out', geolocateRoemer smallConfig smallLib (some smallDem) (some smallDem)
      (besideVoid.exclude 1) = .ok out') ∧
    TrackNoUsableHeight smallConfig smallLib smallDem smallDem 0 besideVoid 1 ∧
      Isolated smallConfig smallLib smallDem smallDem 0 besideVoid 1 := by
  have hpoints : (beamPoints smallConfig smallLib smallDem (.num 19) (.num 0)).all (fun points =>
      points.all fun p => decide
        (usable smallLib (.num 19) (.num 0) (smallConfig.acrossTrackBeamWidth / 2) p = true →
          (correctedHeight smallConfig smallLib 0 p).z = .nan)) = true := by
    decide +kernel
  have hnone : TrackNoUsableHeight smallConfig smallLib smallDem smallDem 0 besideVoid 1 := by
    left
    intro points hbeam p hp
    rw [show beamPoints smallConfig smallLib smallDem (.num 19) (.num 0) = some points from hbeam,
      Option.all_some, List.all_eq_true] at hpoints
    exact of_decide_eq_true (hpoints p hp)
  have hrest : (geolocateRoemer smallConfig smallLib (some smallDem) (some smallDem)
      (besideVoid.exclude 1)).toOption.isSome = true := by
    decide +kernel
  refine ⟨?_, hnone, ?_⟩
  · rcases hrun : geolocateRoemer smallConfig smallLib (some smallDem) (some smallDem)
      (besideVoid.exclude 1) with e | out
    · rw [hrun] at hrest
      cases hrest
    · exact ⟨out, rfl⟩
  · exact (geolocateRoemer_isolation_iff smallConfig smallLib smallDem smallDem 0 besideVoid
      rfl).mpr (fun i _ _ => not_losesHeights_of_off rfl rfl) 1 (by decide) rfl hnone

/-- The dh/dt correction on, with a grid that is NaN at one of the two nodes. -/
def dhdtConfig : RoemerConfig := { smallConfig with includeDhdtCorrection := true }

def dhdtLib : RoemerLib :=
  { smallLib with
    interpDhdt := some (fun x _ => if x = .num 0 then .nan else .num 0)
    yearDifference := .ok 5 }

/-- Two records; the first has only the node without dh/dt in its beam. -/
def twoRecords : RoemerTrack where
  lat := [.num 0, .num 0]
  lon := [.num (-3), .num 3]
  alt := [.num 100, .num 100]
  dopCor := [.num 0, .num 0]
  surfaceType := [1, 1]
  geoCorrectedTrackerRange := [.num 5, .num 13]
  retrackerCorrection := [.num 0, .num 0]
  waveformsToInclude := [true, true]

/-- The first record loses its height, and with it the track is lost, which can be
processed without it. -/
theorem geolocateRoemer_raises_for_dhdt :
    geolocateRoemer dhdtConfig dhdtLib (some smallDem) (some smallDem) twoRecords =
        .error ⟨.valueError, "All-NaN slice encountered"⟩ ∧
      (∃ out', geolocateRoemer dhdtConfig dhdtLib (some smallDem) (some smallDem)
        (twoRecords.exclude 0) = .ok out') ∧
      ¬ ∀ i, i < twoRecords.lat.length → twoRecords.waveformsToInclude.getD i false = true →
        TrackNoUsableHeight dhdtConfig dhdtLib smallDem smallDem 5 twoRecords i →
        Isolated dhdtConfig dhdtLib smallDem smallDem 5 twoRecords i := by
  have hraises : (geolocateRoemer dhdtConfig dhdtLib (some smallDem) (some smallDem)
      twoRecords).map (fun _ => ()) = .error ⟨.valueError, "All-NaN slice encountered"⟩ := by
    decide +kernel
  have hrest : (geolocateRoemer dhdtConfig dhdtLib (some smallDem) (some smallDem)
      (twoRecords.exclude 0)).toOption.isSome = true := by
    decide +kernel
  -- every usable location has lost its height, and there is one
  have hlost : (beamPoints dhdtConfig dhdtLib smallDem (.num (-3)) (.num 0)).any (fun points =>
      points.all (fun p => decide
        (usable dhdtLib (.num (-3)) (.num 0) (dhdtConfig.acrossTrackBeamWidth / 2) p = true →
          (correctedHeight dhdtConfig dhdtLib 5 p).z = .nan)) &&
        points.any (usable dhdtLib (.num (-3)) (.num 0)
          (dhdtConfig.acrossTrackBeamWidth / 2))) = true := by
    decide +kernel
  have hloses : TrackLosesHeights dhdtConfig dhdtLib smallDem smallDem 5 twoRecords 0 := by
    left
    show ∃ points, beamPoints dhdtConfig dhdtLib smallDem (.num (-3)) (.num 0) = some points ∧ _
    rcases hpoints : beamPoints dhdtConfig dhdtLib smallDem (.num (-3)) (.num 0) with _ | points
    · rw [hpoints] at hlost
      cases hlost
    · rw [hpoints, Option.any_some, Bool.and_eq_true, List.all_eq_true, List.any_eq_true] at hlost
      refine ⟨points, rfl, ?_, hlost.2⟩
      exact fun p hp => of_decide_eq_true (hlost.1 p hp)
  refine ⟨?_, ?_, ?_⟩
  · rcases hrun : geolocateRoemer dhdtConfig dhdtLib (some smallDem) (some smallDem) twoRecords
      with e | out
    · rw [hrun] at hraises
      rw [Except.error.inj hraises]
    · rw [hrun] at hraises
      cases hraises
  · rcases hrun : geolocateRoemer dhdtConfig dhdtLib (some smallDem) (some smallDem)
      (twoRecords.exclude 0) with e | out
    · rw [hrun] at hrest
      cases hrest
    · exact ⟨out, rfl⟩
  · intro hisolated
    obtain ⟨r, hr⟩ := (hisolated 0 (by decide) rfl hloses.noUsableHeight).pass
    rcases roemerPass_noUsableHeight rfl hloses.noUsableHeight with ⟨-, e, he⟩ | ⟨hnot, -⟩
    · rw [he] at hr
      cases hr
    · exact hnot hloses

end

end Clev2er.Cryotempo
