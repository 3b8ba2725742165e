import Clev2er.Lib.FixedWidth
import Mathlib.Algebra.BigOperators.Group.List.Basic
import Mathlib.Algebra.Order.Group.Abs
import Mathlib.Algebra.Order.Group.Unbundled.Int

/-!
# The times in the name of a product

`alg_product_output` writes the first and the last time of a file into its name,
rounded to seconds by hand: the carry goes as far as the hours and the date is the one
before rounding. `productTimesCorrect_iff` says for which times the fields are correct.
-/

namespace Clev2er.Cryotempo

open Clev2er.Lib

/-! ## Dates and times -/

def isLeapYear (year : Nat) : Bool := year % 4 == 0 && (year % 100 != 0 || year % 400 == 0)

def daysInMonth (year month : Nat) : Nat :=
  if month = 2 then if isLeapYear year then 29 else 28
  else if month = 4 ∨ month = 6 ∨ month = 9 ∨ month = 11 then 30
  else 31

/-- A date that exists. -/
structure ValidDate (year month day : Nat) : Prop where
  year_mem : 1 ≤ year ∧ year ≤ 9999
  month_mem : 1 ≤ month ∧ month ≤ 12
  day_mem : 1 ≤ day ∧ day ≤ daysInMonth year month

/-- `datetime`. -/
structure Datetime where
  year : Nat
  month : Nat
  day : Nat
  hour : Nat
  minute : Nat
  second : Nat
  microsecond : Nat
  date : ValidDate year month day
  hour_lt : hour < 24
  minute_lt : minute < 60
  second_lt : second < 60
  microsecond_lt : microsecond < 1000000

/-- `toordinal`: the days up to a date. -/
def ordinal (year month day : Nat) : Nat :=
  ((year - 1) * 365 + (year - 1) / 4 - (year - 1) / 100 + (year - 1) / 400) +
    ((List.range' 1 (month - 1)).map (daysInMonth year)).sum + day

/-- The seconds up to a time. -/
def secondsUpTo (year month day hour minute second : Nat) : Nat :=
  ((ordinal year month day * 24 + hour) * 60 + minute) * 60 + second

/-- The microseconds up to a `datetime`. -/
def Datetime.microseconds (t : Datetime) : Nat :=
  secondsUpTo t.year t.month t.day t.hour t.minute t.second * 1000000 + t.microsecond

/-- The fields, in the order in which datetimes are compared. -/
def Datetime.fields (t : Datetime) : List Nat :=
  [t.year, t.month, t.day, t.hour, t.minute, t.second, t.microsecond]

instance : LE Datetime := ⟨fun s t => ¬ t.fields < s.fields⟩

/-! ## The fields of the name -/

/-- The hours, the minutes and the seconds, rounded by hand. -/
def roundedClock (t : Datetime) : Nat × Nat × Nat :=
  if 500000 < t.microsecond then
    if t.second + 1 = 60 then
      if t.minute + 1 = 60 then (t.hour + 1, 0, 0) else (t.hour, t.minute + 1, 0)
    else (t.hour, t.minute, t.second + 1)
  else (t.hour, t.minute, t.second)

/-- The characters of a time, with the year filled up by `fill`. -/
def timeChars (fill : Char) (year month day hour minute second : Nat) : List Char :=
  formatInt fill 4 year ++ (formatInt '0' 2 month ++ (formatInt '0' 2 day ++
    (['T'] ++ (formatInt '0' 2 hour ++ (formatInt '0' 2 minute ++ formatInt '0' 2 second)))))

/-- The time of a `datetime` in the name of a product: the year is `{year:4d}`. -/
def timeStr (t : Datetime) : String :=
  let (hours, minutes, seconds) := roundedClock t
  String.ofList (timeChars ' ' t.year t.month t.day hours minutes seconds)

/-- `start_time_str`. -/
def startTimeStr (start : Datetime) : String := timeStr start

/-- `end_time_str`. -/
def endTimeStr (last : Datetime) : String := timeStr last

/-- `yyyymmddThhmmss`. -/
def timeText (year month day hour minute second : Nat) : String :=
  String.ofList (timeChars '0' year month day hour minute second)

/-- The text is a time that exists, at most half a second from the `datetime`. -/
def NamesNearestSecond (text : String) (t : Datetime) : Prop :=
  ∃ year month day hour minute second,
    text = timeText year month day hour minute second ∧ ValidDate year month day ∧
    hour < 24 ∧ minute < 60 ∧ second < 60 ∧
    2 * |(secondsUpTo year month day hour minute second * 1000000 : ℤ) - t.microseconds| ≤ 1000000

/-- **The times in the name are correct**, each by itself and in their order. -/
structure ProductTimesCorrect (start last : Datetime) : Prop where
  start_named : NamesNearestSecond (startTimeStr start) start
  last_named : NamesNearestSecond (endTimeStr last) last
  ordered : start ≤ last → startTimeStr start ≤ endTimeStr last

/-- More than half of the last second of the day has passed. -/
def RoundsToMidnight (t : Datetime) : Prop :=
  t.hour = 23 ∧ t.minute = 59 ∧ t.second = 59 ∧ 500000 < t.microsecond

/-! ## Rounding -/

/-- The seconds of the day to which the clock is rounded. -/
def roundedSeconds (t : Datetime) : Nat :=
  (t.hour * 60 + t.minute) * 60 + t.second + if 500000 < t.microsecond then 1 else 0

theorem roundedClock_spec (t : Datetime) :
    ((roundedClock t).1 * 60 + (roundedClock t).2.1) * 60 + (roundedClock t).2.2 =
        roundedSeconds t ∧ (roundedClock t).2.1 < 60 ∧ (roundedClock t).2.2 < 60 := by
  have hminute := t.minute_lt
  have hsecond := t.second_lt
  unfold roundedClock roundedSeconds
  split
  · split
    · split <;> dsimp only <;> omega
    · dsimp only
      omega
  · dsimp only
    omega

/-- The hours leave the day just if the clock is rounded to midnight. -/
theorem roundedClock_lt (t : Datetime) : (roundedClock t).1 < 24 ↔ ¬ RoundsToMidnight t := by
  obtain ⟨hclock, hminutes, hseconds⟩ := roundedClock_spec t
  have hhour := t.hour_lt
  have hminute := t.minute_lt
  have hsecond := t.second_lt
  unfold roundedSeconds at hclock
  unfold RoundsToMidnight
  split at hclock <;> omega

theorem roundedClock_le (t : Datetime) : (roundedClock t).1 ≤ 24 := by
  obtain ⟨hclock, hminutes, hseconds⟩ := roundedClock_spec t
  have hhour := t.hour_lt
  have hminute := t.minute_lt
  have hsecond := t.second_lt
  unfold roundedSeconds at hclock
  split at hclock <;> omega

/-- On its own date the rounded clock is at most half a second off. -/
theorem rounded_near (t : Datetime) :
    2 * |(secondsUpTo t.year t.month t.day (roundedClock t).1 (roundedClock t).2.1
      (roundedClock t).2.2 * 1000000 : ℤ) - t.microseconds| ≤ 1000000 := by
  obtain ⟨hclock, -, -⟩ := roundedClock_spec t
  have hmicrosecond := t.microsecond_lt
  have hsame : secondsUpTo t.year t.month t.day (roundedClock t).1 (roundedClock t).2.1
      (roundedClock t).2.2 = secondsUpTo t.year t.month t.day t.hour t.minute t.second +
        if 500000 < t.microsecond then 1 else 0 := by
    unfold roundedSeconds at hclock
    unfold secondsUpTo
    omega
  rw [hsame, Datetime.microseconds]
  generalize secondsUpTo t.year t.month t.day t.hour t.minute t.second = seconds
  split
  · rw [abs_of_nonneg (by push_cast; omega)]
    push_cast
    omega
  · rw [abs_of_nonpos (by push_cast; omega)]
    push_cast
    omega

/-! ## The text of a time -/

theorem lt_hundred {n : Nat} (h : n ≤ 60) : n < 10 ^ 2 := by omega

theorem ValidDate.month_lt {year month day : Nat} (h : ValidDate year month day) :
    month < 10 ^ 2 := by
  obtain ⟨-, hmonth⟩ := h.month_mem
  omega

theorem ValidDate.day_lt {year month day : Nat} (h : ValidDate year month day) :
    day < 10 ^ 2 := by
  obtain ⟨-, hday⟩ := h.day_mem
  have hmonth : daysInMonth year month ≤ 31 := by
    unfold daysInMonth
    split
    · split <;> omega
    · split <;> omega
  omega

theorem ValidDate.year_lt {year month day : Nat} (h : ValidDate year month day) :
    year < 10 ^ 4 := by
  obtain ⟨-, hyear⟩ := h.year_mem
  omega

/-- A shorter year is filled with blanks. -/
theorem blank_mem_formatInt {year : Nat} (h : year < 1000) : ' ' ∈ formatInt ' ' 4 year := by
  have hlength : (Nat.toDigits 10 year).length ≤ 3 := by
    rw [Nat.length_toDigits_le_iff (by norm_num) (by norm_num)]
    omega
  refine List.mem_append_left _ (List.mem_replicate.mpr ⟨?_, rfl⟩)
  omega

theorem blank_not_mem_formatInt (width n : Nat) : ' ' ∉ formatInt '0' width n := by
  intro hmem
  rcases List.mem_append.mp hmem with hfill | hdigit
  · have heq := (List.mem_replicate.mp hfill).2
    exact absurd heq (by decide)
  · have hdigit := Nat.isDigit_of_mem_toDigits (by norm_num) (by norm_num) hdigit
    exact absurd hdigit (by decide)

theorem length_two {n : Nat} (h : n < 10 ^ 2) : (formatInt '0' 2 n).length = 2 :=
  length_formatInt (by norm_num) h

theorem timeStr_eq (t : Datetime) :
    timeStr t = String.ofList (timeChars ' ' t.year t.month t.day (roundedClock t).1
      (roundedClock t).2.1 (roundedClock t).2.2) := rfl

/-- **A field is correct just for years of four digits**, and unless the clock is rounded
to midnight. -/
theorem namesNearestSecond_iff (t : Datetime) :
    NamesNearestSecond (timeStr t) t ↔ 1000 ≤ t.year ∧ ¬ RoundsToMidnight t := by
  obtain ⟨-, hminutes, hseconds⟩ := roundedClock_spec t
  constructor
  · rintro ⟨year, month, day, hour, minute, second, htext, hdate, hhour, hminute, hsecond, -⟩
    rw [timeStr_eq, timeText] at htext
    have hlist := String.ofList_injective htext
    obtain ⟨hyear, hlist⟩ := List.append_inj hlist (by
      rw [length_formatInt (by norm_num) t.date.year_lt,
        length_formatInt (by norm_num) hdate.year_lt])
    obtain ⟨-, hlist⟩ := List.append_inj hlist (by
      rw [length_two t.date.month_lt, length_two hdate.month_lt])
    obtain ⟨-, hlist⟩ := List.append_inj hlist (by
      rw [length_two t.date.day_lt, length_two hdate.day_lt])
    obtain ⟨-, hlist⟩ := List.append_inj hlist rfl
    have hrounded : (roundedClock t).1 < 10 ^ 2 := lt_of_le_of_lt (roundedClock_le t) (by norm_num)
    obtain ⟨hhours, -⟩ := List.append_inj hlist (by
      rw [length_two hrounded, length_two (by omega)])
    constructor
    · by_contra hshort
      have hblank := blank_mem_formatInt (Nat.lt_of_not_le hshort)
      rw [hyear] at hblank
      exact blank_not_mem_formatInt 4 year hblank
    · rw [← roundedClock_lt,
        formatInt_injective beforeDigits_zero hrounded (lt_hundred (by omega)) hhours]
      exact hhour
  · rintro ⟨hyear, hnight⟩
    refine ⟨t.year, t.month, t.day, (roundedClock t).1, (roundedClock t).2.1, (roundedClock t).2.2,
      ?_, t.date, (roundedClock_lt t).mpr hnight, hminutes, hseconds, rounded_near t⟩
    rw [timeStr_eq, timeText, timeChars, timeChars, formatInt_year hyear]

/-! ## The order of the texts -/

/-- Fields of one width are compared by their numbers, then by what follows. -/
theorem formatInt_append_le {fill : Char} (hfill : BeforeDigits fill) {width n m : Nat}
    (hwidth : 0 < width) (hn : n < 10 ^ width) (hm : m < 10 ^ width) {a b : List Char}
    (h : n < m ∨ n = m ∧ List.le a b) :
    List.le (formatInt fill width n ++ a) (formatInt fill width m ++ b) := by
  rcases h with hlt | ⟨rfl, hle⟩
  · refine List.le_of_lt (lt_append_of_lt ?_ (formatInt_lt_formatInt hfill hlt hm) a b)
    rw [length_formatInt hwidth hn, length_formatInt hwidth hm]
  · exact List.append_left_le hle

theorem formatInt_le {n m : Nat} (h : n ≤ m) (hm : m < 10 ^ 2) :
    List.le (formatInt '0' 2 n) (formatInt '0' 2 m) := by
  rcases Nat.lt_or_eq_of_le h with hlt | rfl
  · exact List.le_of_lt (formatInt_lt_formatInt beforeDigits_zero hlt hm)
  · exact List.le_refl _

/-- **The texts are ordered as the datetimes**, also where they are no valid times. -/
theorem timeStr_le {s t : Datetime} (h : s ≤ t) : timeStr s ≤ timeStr t := by
  obtain ⟨hs, hsMinutes, hsSeconds⟩ := roundedClock_spec s
  obtain ⟨ht, htMinutes, htSeconds⟩ := roundedClock_spec t
  have hsHours : (roundedClock s).1 < 10 ^ 2 := lt_of_le_of_lt (roundedClock_le s) (by norm_num)
  have htHours : (roundedClock t).1 < 10 ^ 2 := lt_of_le_of_lt (roundedClock_le t) (by norm_num)
  have hfields : ¬ t.fields < s.fields := h
  simp only [Datetime.fields, List.cons_lt_cons_iff, List.not_lt_nil, and_false, or_false]
    at hfields
  have hclock : s.year = t.year → s.month = t.month → s.day = t.day →
      roundedSeconds s ≤ roundedSeconds t := by
    intro hyear hmonth hday
    have hsSecond := s.second_lt
    have hsMinute := s.minute_lt
    unfold roundedSeconds
    split <;> split <;> omega
  -- the date decides, and on the same date the rounded clock
  have hdate : s.year < t.year ∨ s.year = t.year ∧ (s.month < t.month ∨ s.month = t.month ∧
      (s.day < t.day ∨ s.day = t.day ∧ roundedSeconds s ≤ roundedSeconds t)) := by
    omega
  rw [timeStr_eq, timeStr_eq]
  show List.le (String.ofList _).toList (String.ofList _).toList
  rw [String.toList_ofList, String.toList_ofList, timeChars, timeChars]
  refine formatInt_append_le beforeDigits_blank (by norm_num) s.date.year_lt t.date.year_lt
    (hdate.imp_right (And.imp_right fun hmonth => ?_))
  refine formatInt_append_le beforeDigits_zero (by norm_num) s.date.month_lt t.date.month_lt
    (hmonth.imp_right (And.imp_right fun hday => ?_))
  refine formatInt_append_le beforeDigits_zero (by norm_num) s.date.day_lt t.date.day_lt
    (hday.imp_right (And.imp_right fun hseconds => List.append_left_le ?_))
  refine formatInt_append_le beforeDigits_zero (by norm_num) hsHours htHours ?_
  rcases Nat.lt_or_ge (roundedClock s).1 (roundedClock t).1 with hhours | hhours
  · exact .inl hhours
  refine .inr ⟨by omega, ?_⟩
  refine formatInt_append_le beforeDigits_zero (by norm_num) (lt_hundred hsMinutes.le)
    (lt_hundred htMinutes.le) ?_
  rcases Nat.lt_or_ge (roundedClock s).2.1 (roundedClock t).2.1 with hminutes | hminutes
  · exact .inl hminutes
  exact .inr ⟨by omega, formatInt_le (by omega) (lt_hundred htSeconds.le)⟩

/-! ## Correct times -/

/-- **The times in the name are correct just for years of four digits**, unless a clock
is rounded to midnight. -/
theorem productTimesCorrect_iff (start last : Datetime) :
    ProductTimesCorrect start last ↔
      (1000 ≤ start.year ∧ ¬ RoundsToMidnight start) ∧
        1000 ≤ last.year ∧ ¬ RoundsToMidnight last := by
  constructor
  · rintro ⟨hstart, hlast, -⟩
    exact ⟨(namesNearestSecond_iff start).mp hstart, (namesNearestSecond_iff last).mp hlast⟩
  · rintro ⟨hstart, hlast⟩
    exact ⟨(namesNearestSecond_iff start).mpr hstart, (namesNearestSecond_iff last).mpr hlast,
      timeStr_le⟩

/-- The last half second of the year 2020. -/
def newYearsEve : Datetime where
  year := 2020
  month := 12
  day := 31
  hour := 23
  minute := 59
  second := 59
  microsecond := 600000
  date := ⟨by norm_num, by norm_num, by norm_num [daysInMonth]⟩
  hour_lt := by norm_num
  minute_lt := by norm_num
  second_lt := by norm_num
  microsecond_lt := by norm_num

/-- **A file that ends in the last half second of a day** is named for hour 24. -/
theorem newYearsEve_incorrect :
    endTimeStr newYearsEve = "20201231T240000" ∧ ¬ ProductTimesCorrect newYearsEve newYearsEve := by
  refine ⟨by decide, fun hcorrect => ?_⟩
  have hnamed := (namesNearestSecond_iff newYearsEve).mp hcorrect.last_named
  exact hnamed.2 ⟨rfl, rfl, rfl, by norm_num [newYearsEve]⟩

end Clev2er.Cryotempo
