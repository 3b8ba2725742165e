import Clev2er.Cryotempo.Corrections
import Clev2er.Cryotempo.Datetime
import Clev2er.Lib.HalfEven
import Clev2er.Lib.Jumps
import Clev2er.Retrack.Oversample
import Mathlib.Tactic.FieldSimp

/-!
# TAI and UTC times

`Grain` reads a list of leap seconds and converts between UTC datetimes and TAI seconds
since an epoch. `tai2utc` looks the leap seconds up at the TAI time: it is exact except
before each entry of the list (`tai2utc_taiSeconds_iff`). `utc2tai` counts the
leap seconds from the epoch only, so it is not its inverse (`tai2utc_utc2tai_iff`).
-/

namespace Clev2er.Time

open Clev2er.Cryotempo Clev2er.Lib Clev2er.Retrack

/-! ## `timedelta` -/

/-- `OverflowError`: more than 999999999 days. -/
def timedeltaOverflow : PyExc := ⟨.other "OverflowError", "days; must have magnitude <= 999999999"⟩

/-- A timedelta of so many microseconds. -/
def timedeltaOf (microseconds : ℤ) : Except PyExc ℤ :=
  if -999999999 * 86400000000 ≤ microseconds ∧ microseconds < 1000000000 * 86400000000 then
    .ok microseconds
  else .error timedeltaOverflow

/-- `timedelta(seconds=seconds)`, in microseconds. -/
def timedelta : Sample → Except PyExc ℤ
  | .nan => .error ⟨.valueError, "cannot convert float NaN to integer"⟩
  | .num seconds => timedeltaOf (roundHalfEven (seconds * 1000000))

/-! ## `Grain` -/

/-- The start of a year. -/
def newYear (year : Nat) (h : 1 ≤ year ∧ year ≤ 9999) : Datetime where
  year := year
  month := 1
  day := 1
  hour := 0
  minute := 0
  second := 0
  microsecond := 0
  date := ⟨h, by decide, by decide, Nat.le_add_left 1 30⟩
  hour_lt := by decide
  minute_lt := by decide
  second_lt := by decide
  microsecond_lt := by decide

/-- `NTP_EPOCH`. -/
def ntpEpoch : Datetime := newYear 1900 (by decide)

/-- `CS2_EPOCH`, the default epoch. -/
def cs2Epoch : Datetime := newYear 2000 (by decide)

/-- `line.strip().split()`. -/
def pieces (line : List Char) : List String :=
  ((line.splitOnP isSpace).filter fun piece => !piece.isEmpty).map String.ofList

/-- `pieces[i]`. -/
def pieceAt (pieces : List String) (i : Nat) : Except PyExc String :=
  match pieces[i]? with
  | some piece => .ok piece
  | none => .error ⟨.other "IndexError", "list index out of range"⟩

/-- The time and the offset of a line that is no comment. -/
def leapTime (line : List Char) : Except PyExc (Datetime × ℤ) := do
  let pieces := pieces line
  let seconds ← pyIntOf (← pieceAt pieces 0)
  let delta ← timedeltaOf (seconds * 1000000)
  let leapTime ← ntpEpoch.add delta
  let offset ← pyIntOf (← pieceAt pieces 1)
  .ok (leapTime, offset)

/-- `stripped_line.startswith("#")`. -/
def isComment (line : List Char) : Bool := (line.dropWhile isSpace).head? = some '#'

structure Grain where
  /-- The times, each with the change of the offset. -/
  leaps : List (Datetime × ℤ)

/-- `Grain(leap_second_filename)` on the lines of the file. -/
def Grain.init (lines : List (List Char)) : Except PyExc Grain := do
  let entries ← (lines.filter fun line => !isComment line).mapM leapTime
  let leapTimes := entries.map Prod.fst
  let offsets := 0 :: entries.map Prod.snd
  let offsets := List.zipWith (fun i j => j - i) offsets.dropLast offsets.tail
  .ok ⟨leapTimes.zip offsets⟩

/-- `_leaps_between`. -/
def Grain.leapsBetween (g : Grain) (date1 date2 : Datetime) : Except PyExc ℤ :=
  if date1 ≤ date2 then
    .ok ((g.leaps.filter fun leap => date1 ≤ leap.1 ∧ leap.1 ≤ date2).map Prod.snd).sum
  else .error ⟨.other "RuntimeError", "date1 > date2"⟩

/-- `utc2tai`. -/
def Grain.utc2tai (g : Grain) (utc epoch : Datetime) : Except PyExc ℤ := do
  let offset ← g.leapsBetween epoch utc
  let tai : ℤ := utc.microseconds - epoch.microseconds
  .ok (tai / 86400000000 * (24 * 60 * 60) + tai % 86400000000 / 1000000 + offset)

/-- `tai2utc`. -/
def Grain.tai2utc (g : Grain) (secondsSinceEpoch : Sample) (epoch : Datetime) :
    Except PyExc Datetime := do
  let tdSse ← timedelta secondsSinceEpoch
  let utcUnadjusted ← epoch.add tdSse
  let offset ← g.leapsBetween ntpEpoch utcUnadjusted
  let tdOffset ← timedeltaOf (offset * 1000000)
  utcUnadjusted.add (-tdOffset)

/-! ## The list read from a file -/

theorem zip_differences {S : Type} (start : ℤ) (entries : List (S × ℤ)) :
    (entries.map Prod.fst).zip
        (List.zipWith (fun i j => j - i) (start :: entries.map Prod.snd).dropLast
          (entries.map Prod.snd)) =
      changes start entries := by
  induction entries generalizing start with
  | nil => rfl
  | cons entry entries ih =>
      rw [List.map_cons, List.map_cons, List.dropLast_cons_cons, List.zipWith_cons_cons,
        List.zip_cons_cons, changes, ih]

/-- The entries of a file, in its order. -/
def leapTimes (lines : List (List Char)) : Except PyExc (List (Datetime × ℤ)) :=
  (lines.filter fun line => !isComment line).mapM leapTime

theorem Grain.init_eq_ok {lines : List (List Char)} {g : Grain} :
    Grain.init lines = .ok g ↔ ∃ entries, leapTimes lines = .ok entries ∧
      g = ⟨changes 0 entries⟩ := by
  unfold Grain.init leapTimes
  cases (lines.filter fun line => !isComment line).mapM leapTime with
  | error e => simp [bind, Except.bind]
  | ok entries =>
      show Except.ok (Grain.mk _) = _ ↔ _
      rw [List.tail_cons, zip_differences]
      constructor
      · intro heq
        exact ⟨entries, rfl, (Except.ok.inj heq).symm⟩
      · rintro ⟨other, hother, rfl⟩
        rw [Except.ok.inj hother]

theorem Grain.leapsBetween_eq_ok {g : Grain} {date1 date2 : Datetime} {offset : ℤ} :
    g.leapsBetween date1 date2 = .ok offset ↔ date1 ≤ date2 ∧
      offset = jumpsOf (fun time => decide (date1 ≤ time ∧ time ≤ date2)) g.leaps := by
  by_cases hle : date1 ≤ date2
  · rw [Grain.leapsBetween, if_pos hle]
    exact ⟨fun heq => ⟨hle, (Except.ok.inj heq).symm⟩, fun h => congrArg Except.ok h.2.symm⟩
  · rw [Grain.leapsBetween, if_neg hle]
    exact ⟨fun heq => (nomatch heq), fun h => absurd h.1 hle⟩

/-! ## The clock of the leap seconds -/

/-- The leap seconds from the NTP epoch on, in microseconds. -/
def Grain.table (g : Grain) : List (ℤ × ℤ) :=
  (g.leaps.filter fun leap => ntpEpoch ≤ leap.1).map fun leap =>
    (leap.1.microseconds, leap.2 * 1000000)

/-- The offsets of the list never decrease. -/
def Grain.NeverBack (g : Grain) : Prop := ∀ leap ∈ g.leaps, 0 ≤ leap.2

theorem Grain.NeverBack.table {g : Grain} (h : g.NeverBack) : Lib.NeverBack g.table := by
  intro entry hentry
  obtain ⟨leap, hleap, rfl⟩ := List.mem_map.mp hentry
  exact mul_nonneg (h leap (List.mem_of_mem_filter hleap)) (by norm_num)

/-- The leap seconds looked up from the NTP epoch on are those of the clock. -/
theorem Grain.jumpsOf_table (g : Grain) (p : ℤ → Bool) :
    jumpsOf p g.table =
      jumpsOf (fun time => decide (ntpEpoch ≤ time) && p time.microseconds) g.leaps * 1000000 := by
  unfold Grain.table
  induction g.leaps with
  | nil => rfl
  | cons leap leaps ih =>
      rw [jumpsOf_cons, List.filter_cons, add_mul, ← ih]
      by_cases hntp : ntpEpoch ≤ leap.1
      · rw [if_pos (decide_eq_true hntp), List.map_cons, jumpsOf_cons]
        congr 1
        simp only [hntp, decide_true, Bool.true_and]
        split <;> simp
      · rw [if_neg (by simp [hntp]), if_neg (by simp [hntp]), zero_mul, zero_add]

theorem Grain.upTo_table (g : Grain) (t : Datetime) :
    upTo g.table t.microseconds =
      jumpsOf (fun time => decide (ntpEpoch ≤ time ∧ time ≤ t)) g.leaps * 1000000 := by
  rw [upTo, g.jumpsOf_table]
  congr 1
  apply jumpsOf_congr
  intro leap _
  rw [← Bool.decide_and, decide_eq_decide, Nat.cast_le, Datetime.le_iff leap.1 t]

/-- No leap second of the list is in a set of times. -/
def Grain.NoLeap (g : Grain) (p : ℤ → Prop) : Prop :=
  ∀ leap ∈ g.leaps, ntpEpoch ≤ leap.1 → p leap.1.microseconds → leap.2 = 0

theorem Grain.NeverBack.jumpsOf_eq_zero {g : Grain} (h : g.NeverBack) (p : ℤ → Prop)
    [DecidablePred p] : jumpsOf (fun time => decide (p time)) g.table = 0 ↔ g.NoLeap p := by
  rw [g.jumpsOf_table, mul_eq_zero, or_iff_left (by norm_num), Lib.NeverBack.jumpsOf_eq_zero h]
  simp only [Bool.and_eq_true, decide_eq_true_eq, and_imp, Grain.NoLeap]

theorem timedeltaOf_eq_ok {m delta : ℤ} :
    timedeltaOf m = .ok delta ↔ (-999999999 * 86400000000 ≤ m ∧ m < 1000000000 * 86400000000) ∧
      delta = m := by
  by_cases hm : -999999999 * 86400000000 ≤ m ∧ m < 1000000000 * 86400000000
  · rw [timedeltaOf, if_pos hm]
    exact ⟨fun heq => ⟨hm, (Except.ok.inj heq).symm⟩, fun h => congrArg Except.ok h.2.symm⟩
  · rw [timedeltaOf, if_neg hm]
    exact ⟨fun heq => (nomatch heq), fun h => absurd h.1 hm⟩

/-- A timedelta between two datetimes is never too long. -/
theorem timedeltaOf_sub (s t : Datetime) {m : ℤ} (h : (t.microseconds : ℤ) = s.microseconds + m) :
    timedeltaOf m = .ok m := by
  rw [timedeltaOf_eq_ok]
  refine ⟨?_, rfl⟩
  obtain ⟨-, hs⟩ := s.date.ordinal_mem
  obtain ⟨-, ht⟩ := t.date.ordinal_mem
  have hsNumber := microseconds_eq s
  have htNumber := microseconds_eq t
  have hsTime := s.timeOfDay_lt
  have htTime := t.timeOfDay_lt
  have hmax : maxOrdinal = 3652059 := rfl
  omega

/-- **`tai2utc` goes back on the clock of the leap seconds**, from the TAI time rounded to
microseconds. -/
theorem Grain.tai2utc_eq_ok {g : Grain} {seconds : ℚ} {epoch utc : Datetime} :
    g.tai2utc (.num seconds) epoch = .ok utc ↔ ∃ shown : Datetime, ntpEpoch ≤ shown ∧
      (shown.microseconds : ℤ) = epoch.microseconds + roundHalfEven (seconds * 1000000) ∧
      (utc.microseconds : ℤ) = behind g.table shown.microseconds := by
  unfold Grain.tai2utc timedelta
  constructor
  · intro h
    obtain ⟨tdSse, htd, hadd⟩ := except_bind_ok h
    obtain ⟨shown, hshown, hlookup⟩ := except_bind_ok hadd
    obtain ⟨offset, hoffset, hback⟩ := except_bind_ok hlookup
    obtain ⟨tdOffset, htdOffset, hutc⟩ := except_bind_ok hback
    obtain ⟨hntp, rfl⟩ := Grain.leapsBetween_eq_ok.mp hoffset
    refine ⟨shown, hntp, ?_, ?_⟩
    · rw [Datetime.add_eq_ok.mp hshown, (timedeltaOf_eq_ok.mp htd).2]
    · rw [Datetime.add_eq_ok.mp hutc, (timedeltaOf_eq_ok.mp htdOffset).2, ← g.upTo_table, behind]
      exact (sub_eq_add_neg _ _).symm
  · rintro ⟨shown, hntp, hshown, hutc⟩
    refine except_bind_ok_iff.mpr ⟨_, timedeltaOf_sub epoch shown hshown, ?_⟩
    refine except_bind_ok_iff.mpr ⟨shown, Datetime.add_eq_ok.mpr hshown, ?_⟩
    refine except_bind_ok_iff.mpr ⟨_, Grain.leapsBetween_eq_ok.mpr ⟨hntp, rfl⟩, ?_⟩
    rw [behind] at hutc
    refine except_bind_ok_iff.mpr ⟨_, timedeltaOf_sub utc shown ?_, ?_⟩
    · rw [← g.upTo_table, hutc]
      exact (sub_add_cancel _ _).symm
    · rw [Datetime.add_eq_ok, ← g.upTo_table, hutc]
      exact sub_eq_add_neg _ _

/-- **The offset subtracted is the one on the last line of the file up to the TAI time**,
for a file in the order of its times. -/
theorem Grain.tai2utc_init {lines : List (List Char)} {g : Grain} {entries : List (Datetime × ℤ)}
    {seconds : ℚ} {epoch utc : Datetime} (hinit : Grain.init lines = .ok g)
    (hentries : leapTimes lines = .ok entries)
    (hascending : (ntpEpoch :: entries.map Prod.fst).Pairwise (· ≤ ·)) :
    g.tai2utc (.num seconds) epoch = .ok utc ↔ ∃ shown : Datetime, ntpEpoch ≤ shown ∧
      (shown.microseconds : ℤ) = epoch.microseconds + roundHalfEven (seconds * 1000000) ∧
      (utc.microseconds : ℤ) = shown.microseconds - valueAt shown 0 entries * 1000000 := by
  obtain ⟨hfirst, hsorted⟩ := List.pairwise_cons.mp hascending
  obtain ⟨other, hother, rfl⟩ := Grain.init_eq_ok.mp hinit
  obtain rfl : entries = other := Except.ok.inj (hentries.symm.trans hother)
  rw [Grain.tai2utc_eq_ok]
  apply exists_congr
  intro shown
  have hoffset : upTo (Grain.mk (changes 0 entries)).table (shown.microseconds : ℤ) =
      valueAt shown 0 entries * 1000000 := by
    rw [Grain.upTo_table, ← jumpsOf_changes shown 0 hsorted, zero_add]
    congr 1
    apply jumpsOf_congr
    intro leap hleap
    have hmem : leap.1 ∈ entries.map Prod.fst := by
      rw [← changes_fst 0]
      exact List.mem_map_of_mem hleap
    rw [decide_eq_decide]
    exact and_iff_right (hfirst leap.1 hmem)
  rw [behind, hoffset]

/-- A file with the first entry of the list, and the last. -/
def leapLines : List (List Char) :=
  ["#$ 3676924800", "2272060800\t10\t# 1 Jan 1972", "3692217600\t37\t# 1 Jan 2017"].map
    String.toList

def leapEntries : List (Datetime × ℤ) :=
  [(newYear 1972 (by decide), 10), (newYear 2017 (by decide), 37)]

def leapGrain : Grain := ⟨[(newYear 1972 (by decide), 10), (newYear 2017 (by decide), 27)]⟩

theorem leapTimes_leapLines : leapTimes leapLines = .ok leapEntries := by rfl

theorem init_leapLines : Grain.init leapLines = .ok leapGrain := by rfl

/-- Some seconds after the start of 2017. -/
def afterNewYear (second : Nat) (h : second < 60) : Datetime :=
  { newYear 2017 (by decide) with
    second := second
    second_lt := h }

/-- The start of 2017, 37 seconds later in TAI. -/
theorem tai2utc_newYear :
    leapGrain.tai2utc (.num 536544037) cs2Epoch = .ok (newYear 2017 (by decide)) := by
  apply (Grain.tai2utc_init init_leapLines leapTimes_leapLines (by decide)).mpr
  refine ⟨afterNewYear 37 (by decide), by decide, ?_, by decide⟩
  have hcast : (536544037 : ℚ) * 1000000 = ((536544037000000 : ℤ) : ℚ) := by norm_num
  rw [hcast, roundHalfEven_intCast]
  decide

/-- The TAI seconds since the epoch at a UTC time. -/
def Grain.taiSeconds (g : Grain) (utc epoch : Datetime) : ℚ :=
  ((ahead g.table utc.microseconds - epoch.microseconds : ℤ) : ℚ) / 1000000

theorem Grain.roundHalfEven_taiSeconds (g : Grain) (utc epoch : Datetime) :
    roundHalfEven (g.taiSeconds utc epoch * 1000000) =
      ahead g.table utc.microseconds - epoch.microseconds := by
  rw [Grain.taiSeconds, div_mul_cancel₀ _ (by norm_num), roundHalfEven_intCast]

/-! ## When the conversion is exact -/

/-- **`tai2utc` is exact just outside the windows before the entries of the list**: no
leap second comes after the UTC time and before the TAI clock shows it. -/
theorem Grain.tai2utc_taiSeconds_iff {g : Grain} (hg : g.NeverBack) {utc epoch : Datetime}
    (hntp : ntpEpoch ≤ utc) :
    g.tai2utc (.num (g.taiSeconds utc epoch)) epoch = .ok utc ↔
      (∃ shown : Datetime, (shown.microseconds : ℤ) = ahead g.table utc.microseconds) ∧
        g.NoLeap fun time => utc.microseconds < time ∧ time ≤ ahead g.table utc.microseconds := by
  have hshows : ∀ shown : Datetime, (shown.microseconds : ℤ) =
      epoch.microseconds + (ahead g.table utc.microseconds - epoch.microseconds) ↔
        (shown.microseconds : ℤ) = ahead g.table utc.microseconds := by
    intro shown
    rw [add_sub_cancel]
  rw [Grain.tai2utc_eq_ok, g.roundHalfEven_taiSeconds, ← hg.jumpsOf_eq_zero]
  change _ ↔ _ ∧ within g.table utc.microseconds (ahead g.table utc.microseconds) = 0
  rw [← hg.table.behind_ahead_eq_iff]
  constructor
  · rintro ⟨shown, -, hshown, hutc⟩
    rw [hshows] at hshown
    refine ⟨⟨shown, hshown⟩, ?_⟩
    rw [← hshown]
    exact hutc.symm
  · rintro ⟨⟨shown, hshown⟩, hback⟩
    refine ⟨shown, ?_, (hshows shown).mpr hshown, ?_⟩
    · rw [Datetime.le_iff] at hntp ⊢
      have hle := hg.table.le_ahead (utc.microseconds : ℤ)
      omega
    · rw [hshown]
      exact hback.symm

/-- A time in the last minute before 2017. -/
def toMidnight (second : Nat) (h : second < 60) : Datetime where
  year := 2016
  month := 12
  day := 31
  hour := 23
  minute := 59
  second := second
  microsecond := 0
  date := ⟨by decide, by decide, by decide⟩
  hour_lt := by decide
  minute_lt := by decide
  second_lt := h
  microsecond_lt := by decide

theorem leapGrain_neverBack : leapGrain.NeverBack := by
  unfold Grain.NeverBack
  decide

/-- Ten seconds before midnight the conversion subtracts the new offset already. -/
theorem tai2utc_toMidnight : ¬ leapGrain.tai2utc
    (.num (leapGrain.taiSeconds (toMidnight 50 (by decide)) cs2Epoch)) cs2Epoch =
      .ok (toMidnight 50 (by decide)) := by
  rw [Grain.tai2utc_taiSeconds_iff leapGrain_neverBack (by decide)]
  rintro ⟨-, hnone⟩
  exact absurd (hnone (newYear 2017 (by decide), 27) (by decide) (by decide) (by decide)) (by decide)

/-- **A duration is shortened by the leap seconds within it**, looked up in TAI. -/
theorem Grain.tai2utc_sub {g : Grain} {start stop : ℚ} {epoch first last : Datetime}
    (hle : start ≤ stop) (hfirst : g.tai2utc (.num start) epoch = .ok first)
    (hlast : g.tai2utc (.num stop) epoch = .ok last) :
    (last.microseconds : ℤ) - first.microseconds =
      roundHalfEven (stop * 1000000) - roundHalfEven (start * 1000000) -
        within g.table (epoch.microseconds + roundHalfEven (start * 1000000))
          (epoch.microseconds + roundHalfEven (stop * 1000000)) := by
  obtain ⟨shown, -, hshown, hutc⟩ := Grain.tai2utc_eq_ok.mp hfirst
  obtain ⟨shown', -, hshown', hutc'⟩ := Grain.tai2utc_eq_ok.mp hlast
  have hround : roundHalfEven (start * 1000000) ≤ roundHalfEven (stop * 1000000) :=
    roundHalfEven_mono (mul_le_mul_of_nonneg_right hle (by norm_num))
  rw [hutc, hutc', hshown, hshown', behind_sub_behind (by omega)]
  omega

/-- The second before midnight and midnight of TAI are 26 seconds apart the other way. -/
theorem tai2utc_sub_newYear :
    leapGrain.tai2utc (.num 536543999) cs2Epoch = .ok (toMidnight 49 (by decide)) ∧
      leapGrain.tai2utc (.num 536544000) cs2Epoch = .ok (toMidnight 23 (by decide)) ∧
      ((toMidnight 23 (by decide)).microseconds : ℤ) - (toMidnight 49 (by decide)).microseconds =
        536544000000000 - 536543999000000 - 27000000 := by
  have hstart : roundHalfEven ((536543999 : ℚ) * 1000000) = 536543999000000 := by
    have hcast : (536543999 : ℚ) * 1000000 = ((536543999000000 : ℤ) : ℚ) := by norm_num
    rw [hcast, roundHalfEven_intCast]
  have hstop : roundHalfEven ((536544000 : ℚ) * 1000000) = 536544000000000 := by
    have hcast : (536544000 : ℚ) * 1000000 = ((536544000000000 : ℤ) : ℚ) := by norm_num
    rw [hcast, roundHalfEven_intCast]
  have hfirst : leapGrain.tai2utc (.num 536543999) cs2Epoch = .ok (toMidnight 49 (by decide)) := by
    rw [Grain.tai2utc_eq_ok, hstart]
    exact ⟨toMidnight 59 (by decide), by decide, by decide, by decide⟩
  have hlast : leapGrain.tai2utc (.num 536544000) cs2Epoch = .ok (toMidnight 23 (by decide)) := by
    rw [Grain.tai2utc_eq_ok, hstop]
    exact ⟨newYear 2017 (by decide), by decide, by decide, by decide⟩
  have hsub := Grain.tai2utc_sub (by norm_num) hfirst hlast
  rw [hstart, hstop] at hsub
  exact ⟨hfirst, hlast, hsub.trans (by decide)⟩

/-! ## Both ways -/

/-- The leap seconds between two times of the clock, both included. -/
def Grain.between (g : Grain) (a b : ℤ) : ℤ :=
  jumpsOf (fun time => decide (time ≤ b) && !decide (time < a)) g.table

/-- `utc2tai` counts the whole seconds, and the leap seconds from the epoch on. -/
theorem Grain.utc2tai_spec {g : Grain} {utc epoch : Datetime} {seconds : ℤ}
    (hntp : ntpEpoch ≤ epoch) (h : g.utc2tai utc epoch = .ok seconds) :
    epoch.microseconds ≤ utc.microseconds ∧
      (∃ offset, g.between epoch.microseconds utc.microseconds = offset * 1000000) ∧
      seconds * 1000000 = (utc.microseconds : ℤ) - epoch.microseconds -
        ((utc.microseconds : ℤ) - epoch.microseconds) % 1000000 +
          g.between epoch.microseconds utc.microseconds := by
  obtain ⟨offset, hoffset, hret⟩ := except_bind_ok h
  obtain ⟨hle, rfl⟩ := Grain.leapsBetween_eq_ok.mp hoffset
  have hjumps : g.between epoch.microseconds utc.microseconds =
      jumpsOf (fun time => decide (epoch ≤ time ∧ time ≤ utc)) g.leaps * 1000000 := by
    rw [Grain.between, g.jumpsOf_table]
    congr 1
    apply jumpsOf_congr
    intro leap _
    rw [Datetime.le_iff] at hntp
    rw [← decide_not, ← Bool.decide_and, ← Bool.decide_and, decide_eq_decide,
      Datetime.le_iff, Datetime.le_iff, Datetime.le_iff]
    omega
  refine ⟨(Datetime.le_iff _ _).mp hle, ⟨_, hjumps⟩, ?_⟩
  have hsum := Except.ok.inj hret
  rw [hjumps, ← hsum]
  omega

/-- The leap seconds up to a time are those before the epoch, and those from there on. -/
theorem Grain.upTo_eq_before_add (g : Grain) {a b : ℤ} (h : a ≤ b) :
    upTo g.table b = jumpsOf (fun time => decide (time < a)) g.table + g.between a b := by
  rw [upTo, jumpsOf_split _ (fun time => decide (time < a)), Grain.between]
  congr 1
  apply jumpsOf_congr
  intro entry _
  rw [← Bool.decide_and, decide_eq_decide]
  omega

/-- **`utc2tai` and `tai2utc` are inverse just for whole seconds and a list without leap
seconds before the epoch**, outside the windows before the entries. -/
theorem Grain.tai2utc_utc2tai_iff {g : Grain} (hg : g.NeverBack) {utc epoch : Datetime}
    (hntp : ntpEpoch ≤ epoch) {seconds : ℤ} (hseconds : g.utc2tai utc epoch = .ok seconds) :
    g.tai2utc (.num seconds) epoch = .ok utc ↔
      ((utc.microseconds : ℤ) - epoch.microseconds) % 1000000 = 0 ∧
        (g.NoLeap fun time => time < epoch.microseconds) ∧
        (g.NoLeap fun time => utc.microseconds < time ∧
          time ≤ epoch.microseconds + seconds * 1000000) ∧
        ∃ shown : Datetime, (shown.microseconds : ℤ) = epoch.microseconds + seconds * 1000000 := by
  obtain ⟨hle, ⟨offset, hoffset⟩, hsum⟩ := Grain.utc2tai_spec hntp hseconds
  have hround : roundHalfEven ((seconds : ℚ) * 1000000) = seconds * 1000000 := by
    have hcast : (seconds : ℚ) * 1000000 = ((seconds * 1000000 : ℤ) : ℚ) := by push_cast; rfl
    rw [hcast, roundHalfEven_intCast]
  have hup := g.upTo_eq_before_add (Nat.cast_le.mpr hle)
  have hbefore : 0 ≤ jumpsOf (fun time => decide (time < (epoch.microseconds : ℤ))) g.table :=
    hg.table.jumpsOf_nonneg _
  have hbetween : 0 ≤ g.between epoch.microseconds utc.microseconds := hg.table.jumpsOf_nonneg _
  have hfrac : 0 ≤ ((utc.microseconds : ℤ) - epoch.microseconds) % 1000000 :=
    Int.emod_nonneg _ (by norm_num)
  have hfrac_lt : ((utc.microseconds : ℤ) - epoch.microseconds) % 1000000 < 1000000 :=
    Int.emod_lt_of_pos _ (by norm_num)
  rw [Grain.tai2utc_eq_ok, hround, ← hg.jumpsOf_eq_zero, ← hg.jumpsOf_eq_zero]
  change _ ↔ _ ∧ _ ∧ within g.table utc.microseconds (epoch.microseconds + seconds * 1000000) = 0 ∧ _
  constructor
  · rintro ⟨shown, -, hshown, hutc⟩
    rw [behind, hshown] at hutc
    rcases le_or_gt (utc.microseconds : ℤ) (epoch.microseconds + seconds * 1000000) with hlate |
      hearly
    · have hwithin : upTo g.table _ = _ := upTo_eq_add_within hlate
      have hnonneg := hg.table.within_nonneg (utc.microseconds : ℤ)
        (epoch.microseconds + seconds * 1000000)
      exact ⟨by omega, by omega, by omega, shown, hshown⟩
    · -- only the fraction of a second is lost, so no leap second was counted
      have hnonneg : 0 ≤ upTo g.table ((epoch.microseconds : ℤ) + seconds * 1000000) :=
        hg.table.jumpsOf_nonneg _
      omega
  · rintro ⟨hwhole, hnone, hwithin, shown, hshown⟩
    have hlate : (utc.microseconds : ℤ) ≤ epoch.microseconds + seconds * 1000000 := by omega
    refine ⟨shown, ?_, hshown, ?_⟩
    · rw [Datetime.le_iff] at hntp ⊢
      omega
    · rw [behind, hshown, upTo_eq_add_within hlate]
      omega

theorem utc2tai_newYear :
    leapGrain.utc2tai (newYear 2017 (by decide)) cs2Epoch = .ok 536544027 := by
  decide

/-- With the offset of 1972 the start of 2017 does not come back. -/
theorem tai2utc_utc2tai_newYear : ¬ leapGrain.tai2utc (.num (536544027 : ℤ)) cs2Epoch =
    .ok (newYear 2017 (by decide)) := by
  rw [Grain.tai2utc_utc2tai_iff leapGrain_neverBack (by decide) utc2tai_newYear]
  rintro ⟨-, hnone, -⟩
  exact absurd (hnone (newYear 1972 (by decide), 10) (by decide) (by decide) (by decide)) (by decide)

end Clev2er.Time
