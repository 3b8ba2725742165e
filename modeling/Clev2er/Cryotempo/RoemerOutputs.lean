import Clev2er.Cryotempo.RoemerSearch

/-!
# The outputs of `geolocate_roemer` at one record

`finalPoca` is the POCA that the searches give a record, and `roemerRecord_cases`
what the loop makes of it. `geolocateRoemer_consistent_iff` says when the five
output arrays of a run agree at every record: always, but for a POCA inside the
range window that lies too far from nadir.
-/

namespace Clev2er.Cryotempo

open Clev2er.Lib Clev2er.Retrack

section

variable (cfg : RoemerConfig) (lib : RoemerLib)

/-! ## The POCA of a record -/

/-- The locations of the first search; `none` if the segment cannot be extracted. -/
def beamPoints (dem : Dem) (nadirX nadirY : Sample) : Option (List DemPoint) :=
  match dem.getGridSegment
      (squareAbout nadirX nadirY (cfg.acrossTrackBeamWidth / 2 + dem.binsize)) with
  | .error _ => none
  | .ok rows =>
      some (if cfg.medianFilter then
        List.zipWith (List.zipWith (fun (p : DemPoint) z => { p with z := z })) rows
          (lib.medianFilter (rows.map (List.map DemPoint.z)))
      else rows).flatten

/-- The locations of the second search, about the first POCA. -/
def finePoints (dem demFine : Dem) (poca : Poca) : Except PyExc (Option (List DemPoint)) :=
  let s := squareAbout poca.x poca.y (cfg.pulseLimitedFootprintSize / 2 + dem.binsize)
  match demFine.getSegment s with
  | .error _ => .ok none
  | .ok (xs, ys, zs) =>
      match mgridAxis s.xMin s.xMax cfg.fineGridSampling,
          mgridAxis s.yMin s.yMax cfg.fineGridSampling with
      | .error e, _ => .error e
      | .ok _, .error e => .error e
      | .ok gridX, .ok gridY =>
          let locations := gridX.flatMap (fun x => gridY.map (fun y => (x, y)))
          match lib.interpn ys.reverse xs zs.reverse (locations.map Prod.swap) with
          | .error e => .error e
          | .ok newZ =>
              .ok (some (List.zipWith (fun (q : Sample × Sample) z => ⟨q.1, q.2, z⟩) locations newZ))

/-- The POCA of a record: that of the first search, or of the second if there is
one. -/
def finalPoca (dem demFine : Dem) (yearDifference : ℚ) (nadirX nadirY altitude : Sample) :
    Except PyExc (Option Poca) :=
  match beamPoca cfg lib dem yearDifference nadirX nadirY altitude with
  | .error e => .error e
  | .ok none => .ok none
  | .ok (some poca) =>
      if 0 < cfg.fineGridSampling then
        finePoca cfg lib dem demFine yearDifference poca nadirX nadirY altitude
      else .ok (some poca)

variable {cfg lib} {dem demFine : Dem} {yearDifference : ℚ}
  {nadirX nadirY altitude range : Sample} {poca : Poca}

theorem beamPoca_eq :
    beamPoca cfg lib dem yearDifference nadirX nadirY altitude =
      match beamPoints cfg lib dem nadirX nadirY with
      | none => .ok none
      | some points =>
          searchPoca cfg lib yearDifference points nadirX nadirY (cfg.acrossTrackBeamWidth / 2)
            nadirX nadirY altitude := by
  rw [beamPoca, beamPoints]
  rcases dem.getGridSegment _ with e | rows <;> rfl

theorem finePoca_eq {first : Poca} :
    finePoca cfg lib dem demFine yearDifference first nadirX nadirY altitude =
      match finePoints cfg lib dem demFine first with
      | .error e => .error e
      | .ok none => .ok none
      | .ok (some points) =>
          searchPoca cfg lib yearDifference points first.x first.y
            (cfg.pulseLimitedFootprintSize / 2) nadirX nadirY altitude := by
  rw [finePoca, finePoints]
  simp only
  rcases demFine.getSegment _ with e | ⟨xs, ys, zs⟩
  · rfl
  simp only
  rcases mgridAxis _ _ _ with e | gridX
  · rfl
  rcases mgridAxis _ _ _ with e | gridY
  · rfl
  simp only [bind, Except.bind]
  rcases lib.interpn _ _ _ _ with e | newZ <;> rfl

variable (cfg lib) in
/-- **The pass of an included record**, by its POCA. -/
theorem roemerRecord_cases :
    (∃ e, finalPoca cfg lib dem demFine yearDifference nadirX nadirY altitude = .error e ∧
        roemerRecord cfg lib dem demFine yearDifference nadirX nadirY altitude range true =
          .error e) ∨
      (finalPoca cfg lib dem demFine yearDifference nadirX nadirY altitude = .ok none ∧
        ∃ r, roemerRecord cfg lib dem demFine yearDifference nadirX nadirY altitude range true =
            .ok r ∧ r.slopeOk = false ∧ r.relocationDistance = .nan) ∨
      ∃ poca, finalPoca cfg lib dem demFine yearDifference nadirX nadirY altitude =
          .ok (some poca) ∧
        roemerRecord cfg lib dem demFine yearDifference nadirX nadirY altitude range true =
          .ok (finishRecord cfg lib (RoemerRecord.start nadirX nadirY) poca nadirX nadirY range) := by
  rw [finalPoca, roemerRecord]
  simp only [Bool.not_true, Bool.false_eq_true, if_false]
  rcases beamPoca cfg lib dem yearDifference nadirX nadirY altitude with e | _ | first
  · exact Or.inl ⟨e, rfl, rfl⟩
  · exact Or.inr (Or.inl ⟨rfl, _, rfl, rfl, rfl⟩)
  · simp only
    split
    · rcases finePoca cfg lib dem demFine yearDifference first nadirX nadirY altitude
        with e | _ | poca
      · exact Or.inl ⟨e, rfl, rfl⟩
      · exact Or.inr (Or.inl ⟨rfl, _, rfl, rfl, rfl⟩)
      · exact Or.inr (Or.inr ⟨poca, rfl, rfl⟩)
    · exact Or.inr (Or.inr ⟨first, rfl, rfl⟩)

/-- A POCA, and where it was searched from, are numbers. -/
structure FinitePoca (nadirX nadirY altitude : Sample) (poca : Poca) : Prop where
  nadir : ∃ x y alt, nadirX = .num x ∧ nadirY = .num y ∧ altitude = .num alt
  poca : ∃ x y z correction range, poca = ⟨.num x, .num y, .num z, .num correction, .num range⟩

theorem findPoca_finite {points : List DemPoint}
    (h : findPoca lib points nadirX nadirY altitude = .ok (some poca)) :
    FinitePoca nadirX nadirY altitude poca := by
  rcases findPoca_cases lib points nadirX nadirY altitude with
    ⟨-, herror⟩ | ⟨p, -, v, hv, -, hfind⟩
  · rw [herror] at h
    cases h
  · rw [hfind] at h
    split at h
    · cases h
    · -- a range that is a number comes from numbers only
      obtain ⟨x, y, z⟩ := p
      rcases x with _ | x
      · simp [demRange] at hv
      rcases y with _ | y
      · simp [demRange] at hv
      rcases z with _ | z
      · simp [demRange] at hv
      rcases nadirX with _ | nx
      · simp [demRange] at hv
      rcases nadirY with _ | ny
      · simp [demRange] at hv
      rcases altitude with _ | alt
      · simp [demRange] at hv
      obtain rfl := Option.some.inj (Except.ok.inj h)
      exact ⟨⟨nx, ny, alt, rfl, rfl, rfl⟩, x, y, z, v + z - alt, v, rfl⟩

theorem searchPoca_finite {points : List DemPoint} {centreX centreY : Sample} {radius : ℚ}
    (h : searchPoca cfg lib yearDifference points centreX centreY radius nadirX nadirY altitude =
      .ok (some poca)) : FinitePoca nadirX nadirY altitude poca := by
  rw [searchPoca] at h
  split at h
  · cases h
  · exact findPoca_finite h

theorem beamPoca_finite
    (h : beamPoca cfg lib dem yearDifference nadirX nadirY altitude = .ok (some poca)) :
    FinitePoca nadirX nadirY altitude poca := by
  rw [beamPoca_eq] at h
  split at h
  · cases h
  · exact searchPoca_finite h

theorem finePoca_finite {first : Poca}
    (h : finePoca cfg lib dem demFine yearDifference first nadirX nadirY altitude =
      .ok (some poca)) : FinitePoca nadirX nadirY altitude poca := by
  rw [finePoca_eq] at h
  split at h
  · cases h
  · cases h
  · exact searchPoca_finite h

theorem finalPoca_finite
    (h : finalPoca cfg lib dem demFine yearDifference nadirX nadirY altitude =
      .ok (some poca)) : FinitePoca nadirX nadirY altitude poca := by
  rw [finalPoca] at h
  split at h
  · cases h
  · cases h
  · next first hfirst =>
    split at h
    · exact finePoca_finite h
    · rw [Option.some.inj (Except.ok.inj h)] at hfirst
      exact beamPoca_finite hfirst

/-! ## Consistent outputs -/

/-- A range lies inside the trimmed range window. -/
def InRangeWindow (cfg : RoemerConfig) (geoCorrectedTrackerRange rangeToSat : Sample) : Prop :=
  .num cfg.rangeWindowLowerTrim + geoCorrectedTrackerRange -
      .num (cfg.referenceBinIndex * cfg.rangeBinSize) ≤ rangeToSat ∧
    rangeToSat ≤ geoCorrectedTrackerRange +
      .num ((cfg.numBins - cfg.referenceBinIndex) * cfg.rangeBinSize) -
      .num cfg.rangeWindowUpperTrim

/-- A finite range is rejected unless it lies inside the window. -/
theorem outsideRangeWindow_iff (hrange : range ≠ .nan) (hpoca : poca.rangeToSat ≠ .nan) :
    outsideRangeWindow cfg range poca = false ↔ InRangeWindow cfg range poca.rangeToSat := by
  obtain ⟨x, y, z, correction, rangeToSat⟩ := poca
  rcases range with _ | g
  · exact absurd rfl hrange
  rcases rangeToSat with _ | v
  · exact absurd rfl hpoca
  simp [outsideRangeWindow, InRangeWindow]

variable (cfg lib) in
/-- The search of record `i` of a track. -/
def trackPoca (dem demFine : Dem) (yearDifference : ℚ) (t : RoemerTrack) (i : Nat) :
    Except PyExc (Option Poca) :=
  let nadir := lib.lonlatToXy (t.lon.getD i .nan) (t.lat.getD i .nan)
  finalPoca cfg lib dem demFine yearDifference nadir.1 nadir.2 (t.alt.getD i .nan)

variable (lib) in
/-- The distance from the nadir of record `i` to a location. -/
def nadirDistance (t : RoemerTrack) (i : Nat) (x y : Sample) : Sample :=
  let nadir := lib.lonlatToXy (t.lon.getD i .nan) (t.lat.getD i .nan)
  distance2d lib nadir.1 nadir.2 x y

variable (cfg lib) in
/-- **The outputs of record `i` agree.** -/
structure ConsistentRecord (dem demFine : Dem) (yearDifference : ℚ) (t : RoemerTrack)
    (out : RoemerOutput) (i : Nat) : Prop where
  ofHeight : out.height.getD i .nan ≠ .nan →
    t.waveformsToInclude.getD i false = true ∧ out.slopeOk.getD i false = true ∧
      (∃ poca, trackPoca cfg lib dem demFine yearDifference t i = .ok (some poca) ∧
        InRangeWindow cfg (t.geoCorrectedTrackerRange.getD i .nan) poca.rangeToSat) ∧
      ∃ d, out.relocationDistance.getD i .nan = .num d ∧ d ≤ cfg.maxPocaRelocDistance
  ofRejected : out.slopeOk.getD i true = false →
    out.latPoca.getD i .nan = t.lat.getD i .nan ∧ out.lonPoca.getD i .nan = t.lon.getD i .nan ∧
      out.height.getD i .nan = .nan ∧ out.relocationDistance.getD i .nan = .nan

variable {t : RoemerTrack} {out : RoemerOutput} {i : Nat} {r : RoemerRecord}

/-- A record that is rejected without a relocation is consistent. -/
theorem ConsistentRecord.of_rejected (hat : out.At cfg lib t i r) (hok : r.slopeOk = false)
    (hrelocation : r.relocationDistance = .nan) :
    ConsistentRecord cfg lib dem demFine yearDifference t out i := by
  have hheight : out.height.getD i .nan = .nan := by
    rw [hat.height, roemerHeight_rejected hok]
    exact dopplerHeight_nan rfl
  refine ⟨fun h => absurd hheight h, fun _ => ⟨?_, ?_, hheight, ?_⟩⟩
  · rw [hat.latPoca, roemerHeight_rejected hok]
  · rw [hat.lonPoca, roemerHeight_rejected hok]
  · rw [hat.relocationDistance, hrelocation]

/-- A record without a slope correction that is not rejected is consistent. -/
theorem ConsistentRecord.of_no_correction (hat : out.At cfg lib t i r) (hok : r.slopeOk = true)
    (hcorrection : r.slopeCorrection = .nan) :
    ConsistentRecord cfg lib dem demFine yearDifference t out i := by
  refine ⟨?_, ?_⟩
  · intro h
    rw [hat.height] at h
    exact absurd hcorrection (roemerHeight_num (dopplerHeight_ne_nan h)).2.2.2.2
  · intro h
    rw [hat.slopeOk, hok] at h
    cases h

theorem finishRecord_outside {start : RoemerRecord} (hreject : cfg.rejectOutsideRangeWindow = true)
    (h : outsideRangeWindow cfg range poca = true) :
    finishRecord cfg lib start poca nadirX nadirY range = (start.place poca).reject := by
  rw [finishRecord, hreject, h]
  rfl

theorem finishRecord_inside {start : RoemerRecord}
    (h : outsideRangeWindow cfg range poca = false) :
    finishRecord cfg lib start poca nadirX nadirY range =
      { start.place poca with
        slopeCorrection := poca.slopeCorrectionToHeight
        relocationDistance := distance2d lib nadirX nadirY poca.x poca.y
        slopeOk := !decide
          (.num cfg.maxPocaRelocDistance < distance2d lib nadirX nadirY poca.x poca.y) } := by
  rw [finishRecord, h, Bool.and_false]
  rfl

/-- A record with a POCA inside the window, at distance `d` from nadir. -/
theorem consistentRecord_inside {d : ℚ} (hincluded : t.waveformsToInclude.getD i false = true)
    (hsome : trackPoca cfg lib dem demFine yearDifference t i = .ok (some poca))
    (hpoca : poca.rangeToSat ≠ .nan)
    (hwindow : outsideRangeWindow cfg (t.geoCorrectedTrackerRange.getD i .nan) poca = false)
    (hat : out.At cfg lib t i r) (hdistance : r.relocationDistance = .num d)
    (hok : r.slopeOk = !decide ((WithNan.num cfg.maxPocaRelocDistance : Sample) < .num d)) :
    ConsistentRecord cfg lib dem demFine yearDifference t out i ↔ d ≤ cfg.maxPocaRelocDistance := by
  constructor
  · intro hconsistent
    by_contra hfar
    have hslope : out.slopeOk.getD i true = false := by
      rw [hat.slopeOk, hok]
      simpa using hfar
    obtain ⟨-, -, -, hnan⟩ := hconsistent.ofRejected hslope
    rw [hat.relocationDistance, hdistance] at hnan
    cases hnan
  · intro hle
    have hslope : ∀ b, out.slopeOk.getD i b = true := by
      intro b
      rw [hat.slopeOk, hok]
      simpa using hle
    refine ⟨?_, fun h => absurd h (by rw [hslope]; decide)⟩
    intro hheight
    rw [hat.height] at hheight
    obtain ⟨-, -, hrange, -, -⟩ := roemerHeight_num (dopplerHeight_ne_nan hheight)
    refine ⟨hincluded, hslope false, ⟨_, hsome, ?_⟩, d, ?_, hle⟩
    · exact (outsideRangeWindow_iff hrange hpoca).mp hwindow
    · rw [hat.relocationDistance, hdistance]

/-- **One record**: its outputs agree unless its POCA lies inside the range window
and too far from nadir. -/
theorem consistentRecord_iff (hreject : cfg.rejectOutsideRangeWindow = true)
    (hpass : roemerPass cfg lib dem demFine yearDifference t i = .ok r)
    (hat : out.At cfg lib t i r) :
    ConsistentRecord cfg lib dem demFine yearDifference t out i ↔
      (t.waveformsToInclude.getD i false = true → ∀ poca d,
        trackPoca cfg lib dem demFine yearDifference t i = .ok (some poca) →
        outsideRangeWindow cfg (t.geoCorrectedTrackerRange.getD i .nan) poca = false →
        nadirDistance lib t i poca.x poca.y = .num d → d ≤ cfg.maxPocaRelocDistance) := by
  rcases hincluded : t.waveformsToInclude.getD i false with _ | _
  · -- an excluded record keeps its initial values
    rw [roemerPass, hincluded] at hpass
    obtain rfl := Except.ok.inj hpass
    simp only [Bool.false_eq_true, false_implies, iff_true]
    exact ConsistentRecord.of_no_correction hat rfl rfl
  simp only [forall_const]
  rw [roemerPass, hincluded] at hpass
  rcases roemerRecord_cases cfg lib with
    ⟨e, -, herror⟩ | ⟨hnone, r', hr', hok, hrelocation⟩ | ⟨poca, hsome, hr'⟩
  · rw [herror] at hpass
    cases hpass
  · rw [hr'] at hpass
    obtain rfl := Except.ok.inj hpass
    refine iff_of_true (ConsistentRecord.of_rejected hat hok hrelocation) ?_
    intro poca d hpoca
    rw [trackPoca, hnone] at hpoca
    cases hpoca
  rw [hr'] at hpass
  obtain rfl := Except.ok.inj hpass
  have hunique : ∀ other, trackPoca cfg lib dem demFine yearDifference t i = .ok (some other) →
      other = poca := by
    intro other hother
    rw [trackPoca, hsome] at hother
    exact (Option.some.inj (Except.ok.inj hother)).symm
  rcases hwindow : outsideRangeWindow cfg (t.geoCorrectedTrackerRange.getD i .nan) poca with _ | _
  · -- inside the window: the relocation distance is a number `d`
    obtain ⟨⟨nx, ny, alt, hnx, hny, halt⟩, x, y, z, correction, v, rfl⟩ := finalPoca_finite hsome
    have hd : nadirDistance lib t i (.num x) (.num y) =
        .num (lib.sqrt ((x - nx) * (x - nx) + (y - ny) * (y - ny))) := by
      rw [nadirDistance, hnx, hny]
      rfl
    generalize lib.sqrt ((x - nx) * (x - nx) + (y - ny) * (y - ny)) = d at hd
    rw [finishRecord_inside hwindow] at hat
    simp only [nadirDistance] at hd
    simp only [hd] at hat
    have hiff : (∀ poca d', trackPoca cfg lib dem demFine yearDifference t i = .ok (some poca) →
        outsideRangeWindow cfg (t.geoCorrectedTrackerRange.getD i .nan) poca = false →
        nadirDistance lib t i poca.x poca.y = .num d' → d' ≤ cfg.maxPocaRelocDistance) ↔
        d ≤ cfg.maxPocaRelocDistance := by
      constructor
      · intro h
        exact h _ d hsome hwindow hd
      · intro hle poca d' hpoca _ hd'
        obtain rfl := hunique poca hpoca
        rw [nadirDistance, hd] at hd'
        rwa [← WithNan.num.inj hd']
    rw [hiff]
    exact consistentRecord_inside hincluded hsome (by intro h; cases h) hwindow hat rfl rfl
  · rw [finishRecord_outside hreject hwindow] at hat
    refine iff_of_true (ConsistentRecord.of_rejected hat rfl rfl) ?_
    intro other d hother hinside
    obtain rfl := hunique other hother
    rw [hwindow] at hinside
    cases hinside

/-- **When the outputs of `geolocate_roemer` agree**: for a run that returns, with
the check of the range window, at all records exactly when no included record has
a POCA inside the range window and farther than `max_poca_reloc_distance` from
nadir. -/
theorem geolocateRoemer_consistent_iff (cfg : RoemerConfig) (lib : RoemerLib) (dem demFine : Dem)
    (yearDifference : ℚ) (t : RoemerTrack) (out : RoemerOutput)
    (hreject : cfg.rejectOutsideRangeWindow = true)
    (hyears : roemerYears cfg lib = .ok yearDifference)
    (hout : geolocateRoemer cfg lib (some dem) (some demFine) t = .ok out) :
    (∀ i, i < t.lat.length → ConsistentRecord cfg lib dem demFine yearDifference t out i) ↔
      ∀ i, i < t.lat.length → t.waveformsToInclude.getD i false = true → ∀ poca d,
        trackPoca cfg lib dem demFine yearDifference t i = .ok (some poca) →
        outsideRangeWindow cfg (t.geoCorrectedTrackerRange.getD i .nan) poca = false →
        nadirDistance lib t i poca.x poca.y = .num d → d ≤ cfg.maxPocaRelocDistance := by
  obtain ⟨years, hyears', -, hpasses⟩ := geolocateRoemer_ok hout
  obtain rfl : years = yearDifference := Except.ok.inj (hyears'.symm.trans hyears)
  refine forall_congr' fun i => ?_
  refine imp_congr_right fun hi => ?_
  obtain ⟨r, hpass, hat⟩ := hpasses i hi
  exact consistentRecord_iff hreject hpass hat

/-- One record of grounded ice, whose POCA lies three metres from nadir. -/
def smallTrack : RoemerTrack where
  lat := [.num 0]
  lon := [.num 3]
  alt := [.num 100]
  dopCor := [.num 0]
  surfaceType := [1]
  geoCorrectedTrackerRange := [.num 5]
  retrackerCorrection := [.num 0]
  waveformsToInclude := [true]

/-- With relocations of up to four metres, the outputs agree. -/
theorem geolocateRoemer_near_poca :
    ∃ out, geolocateRoemer { smallConfig with maxPocaRelocDistance := 4 } smallLib (some smallDem)
        (some smallDem) smallTrack = .ok out ∧ out.relocationDistance = [.num 3] ∧
      ((∀ i, i < smallTrack.lat.length →
          ConsistentRecord { smallConfig with maxPocaRelocDistance := 4 } smallLib smallDem smallDem
            0 smallTrack out i) ↔
        ∀ i, i < smallTrack.lat.length → smallTrack.waveformsToInclude.getD i false = true →
          ∀ poca d,
          trackPoca { smallConfig with maxPocaRelocDistance := 4 } smallLib smallDem smallDem 0
            smallTrack i = .ok (some poca) →
          outsideRangeWindow { smallConfig with maxPocaRelocDistance := 4 }
            (smallTrack.geoCorrectedTrackerRange.getD i .nan) poca = false →
          nadirDistance smallLib smallTrack i poca.x poca.y = .num d → d ≤ 4) := by
  have hrun : (geolocateRoemer { smallConfig with maxPocaRelocDistance := 4 } smallLib
      (some smallDem) (some smallDem) smallTrack).toOption.map RoemerOutput.relocationDistance =
        some [.num 3] := by
    decide +kernel
  rcases hout : geolocateRoemer { smallConfig with maxPocaRelocDistance := 4 } smallLib
      (some smallDem) (some smallDem) smallTrack with e | out
  · rw [hout] at hrun
    cases hrun
  · rw [hout] at hrun
    exact ⟨out, rfl, Option.some.inj hrun,
      geolocateRoemer_consistent_iff { smallConfig with maxPocaRelocDistance := 4 } smallLib
        smallDem smallDem 0 smallTrack out rfl rfl hout⟩

/-- With relocations of up to two metres the record is rejected and put back at
nadir, but reports a relocation of three metres. -/
theorem geolocateRoemer_reports_rejected_relocation :
    ∃ out, geolocateRoemer smallConfig smallLib (some smallDem) (some smallDem) smallTrack =
        .ok out ∧ out.slopeOk = [false] ∧ out.relocationDistance = [.num 3] ∧
      ¬ ∀ i, i < smallTrack.lat.length →
        ConsistentRecord smallConfig smallLib smallDem smallDem 0 smallTrack out i := by
  have hrun : (geolocateRoemer smallConfig smallLib (some smallDem) (some smallDem)
      smallTrack).toOption.map (fun out => (out.slopeOk, out.relocationDistance)) =
        some ([false], [.num 3]) := by
    decide +kernel
  rcases hout : geolocateRoemer smallConfig smallLib (some smallDem) (some smallDem) smallTrack
    with e | out
  · rw [hout] at hrun
    cases hrun
  · rw [hout] at hrun
    obtain ⟨hok, hrelocation⟩ := Prod.mk.inj (Option.some.inj hrun)
    refine ⟨out, rfl, hok, hrelocation, ?_⟩
    intro hconsistent
    have hrejected := (hconsistent 0 (by decide)).ofRejected (by rw [hok]; rfl)
    rw [hrelocation] at hrejected
    exact absurd hrejected.2.2.2 (by decide)

end

end Clev2er.Cryotempo
