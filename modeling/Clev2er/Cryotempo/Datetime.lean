import Clev2er.Cryotempo.ProductTimes
import Clev2er.Python
import Mathlib.Tactic.Ring

/-!
# Arithmetic on datetimes

`datetime + timedelta` goes through the number of a day and back (`toordinal`,
`fromordinal`) and raises outside the years 1 to 9999. `microseconds` numbers the
datetimes in their order, and `ofMicroseconds` is its inverse.
-/

namespace Clev2er.Cryotempo

/-! ## Days of a year -/

/-- The days before a year. -/
def daysBeforeYear (year : Nat) : Nat :=
  (year - 1) * 365 + (year - 1) / 4 - (year - 1) / 100 + (year - 1) / 400

def daysInYear (year : Nat) : Nat := if isLeapYear year then 366 else 365

/-- The days of a year before a month. -/
def daysBeforeMonth (year month : Nat) : Nat :=
  ((List.range' 1 (month - 1)).map (daysInMonth year)).sum

theorem ordinal_eq (year month day : Nat) :
    ordinal year month day = daysBeforeYear year + daysBeforeMonth year month + day := rfl

theorem isLeapYear_iff (year : Nat) :
    isLeapYear year = true ↔ 4 ∣ year ∧ (¬ 100 ∣ year ∨ 400 ∣ year) := by
  simp [isLeapYear, Nat.dvd_iff_mod_eq_zero]

theorem daysBeforeYear_succ {year : Nat} (h : 1 ≤ year) :
    daysBeforeYear (year + 1) = daysBeforeYear year + daysInYear year := by
  obtain ⟨before, rfl⟩ := Nat.exists_eq_add_of_le' h
  have h4 : (before + 1) / 4 = before / 4 + if 4 ∣ before + 1 then 1 else 0 :=
    Nat.succ_div
  have h100 : (before + 1) / 100 = before / 100 + if 100 ∣ before + 1 then 1 else 0 :=
    Nat.succ_div
  have h400 : (before + 1) / 400 = before / 400 + if 400 ∣ before + 1 then 1 else 0 :=
    Nat.succ_div
  have hcenturies : before / 100 ≤ before / 4 := Nat.div_le_div_left (by norm_num) (by norm_num)
  unfold daysBeforeYear daysInYear
  rw [Nat.add_sub_cancel, Nat.add_sub_cancel, h4, h100, h400]
  simp only [isLeapYear_iff]
  have h4of100 : 100 ∣ before + 1 → 4 ∣ before + 1 := Nat.dvd_trans (by norm_num)
  have h100of400 : 400 ∣ before + 1 → 100 ∣ before + 1 := Nat.dvd_trans (by norm_num)
  by_cases hfour : 4 ∣ before + 1
  · by_cases hhundred : 100 ∣ before + 1
    · by_cases hcycle : 400 ∣ before + 1
      · simp only [hfour, hhundred, hcycle, if_true, not_true, or_true, and_true]
        omega
      · simp only [hfour, hhundred, hcycle, if_true, if_false, not_true, or_false, and_false]
        omega
    · have hcycle : ¬ 400 ∣ before + 1 := fun hdvd => hhundred (h100of400 hdvd)
      simp only [hfour, hhundred, hcycle, if_true, if_false, not_false_iff, true_or, and_true]
      omega
  · have hhundred : ¬ 100 ∣ before + 1 := fun hdvd => hfour (h4of100 hdvd)
    have hcycle : ¬ 400 ∣ before + 1 := fun hdvd => hhundred (h100of400 hdvd)
    simp only [hfour, hhundred, hcycle, if_false, false_and]
    omega

theorem daysBeforeMonth_succ (year : Nat) {month : Nat} (h : 1 ≤ month) :
    daysBeforeMonth year (month + 1) = daysBeforeMonth year month + daysInMonth year month := by
  obtain ⟨month, rfl⟩ := Nat.exists_eq_add_of_le' h
  unfold daysBeforeMonth
  rw [Nat.add_sub_cancel, Nat.add_sub_cancel, List.range'_1_concat, List.map_append,
    List.sum_append, Nat.add_comm 1 month]
  simp

/-- The twelve months make up the year. -/
theorem daysBeforeMonth_thirteen (year : Nat) : daysBeforeMonth year 13 = daysInYear year := by
  have hmonths : daysBeforeMonth year 13 = 337 + daysInMonth year 2 := by
    unfold daysBeforeMonth
    simp [List.range', daysInMonth]
    omega
  rw [hmonths, daysInMonth, if_pos rfl, daysInYear]
  split <;> rfl

/-- Numbers that grow by the length of each step do not decrease. -/
theorem daysBeforeYear_mono {year later : Nat} (hyear : 1 ≤ year) (h : year ≤ later) :
    daysBeforeYear year ≤ daysBeforeYear later := by
  induction later, h using Nat.le_induction with
  | base => exact Nat.le_refl _
  | succ later hle ih =>
      rw [daysBeforeYear_succ (hyear.trans hle)]
      exact Nat.le_add_right_of_le ih

theorem daysBeforeMonth_mono (year : Nat) {month later : Nat} (hmonth : 1 ≤ month)
    (h : month ≤ later) : daysBeforeMonth year month ≤ daysBeforeMonth year later := by
  induction later, h using Nat.le_induction with
  | base => exact Nat.le_refl _
  | succ later hle ih =>
      rw [daysBeforeMonth_succ year (hmonth.trans hle)]
      exact Nat.le_add_right_of_le ih

/-- A date lies in its month, and the month in the year. -/
theorem ValidDate.dayOfYear_le {year month day : Nat} (h : ValidDate year month day) :
    daysBeforeMonth year month + day ≤ daysInYear year := by
  have hmonth := daysBeforeMonth_succ year h.month_mem.1
  have hyear := daysBeforeMonth_mono year (Nat.le_add_left 1 month)
    (Nat.succ_le_succ h.month_mem.2)
  rw [daysBeforeMonth_thirteen] at hyear
  have hday := h.day_mem.2
  omega

/-! ## The order of the dates -/

/-- **Days are numbered in the order of their dates.** -/
theorem ordinal_lt_ordinal {year month day year' month' day' : Nat}
    (h : ValidDate year month day) (h' : ValidDate year' month' day')
    (hlt : year < year' ∨ year = year' ∧ (month < month' ∨ month = month' ∧ day < day')) :
    ordinal year month day < ordinal year' month' day' := by
  rw [ordinal_eq, ordinal_eq]
  rcases hlt with hyear | ⟨rfl, hmonth | ⟨rfl, hday⟩⟩
  · have hwithin := h.dayOfYear_le
    have hnext := daysBeforeYear_succ h.year_mem.1
    have hlater := daysBeforeYear_mono (Nat.le_add_left 1 year) (Nat.succ_le_of_lt hyear)
    have hday := h'.day_mem.1
    omega
  · have hnext := daysBeforeMonth_succ year h.month_mem.1
    have hlater := daysBeforeMonth_mono year (Nat.le_add_left 1 month) (Nat.succ_le_of_lt hmonth)
    have hday := h.day_mem.2
    have hday' := h'.day_mem.1
    omega
  · omega

/-- Two dates with one number are the same. -/
theorem ordinal_injective {year month day year' month' day' : Nat}
    (h : ValidDate year month day) (h' : ValidDate year' month' day')
    (heq : ordinal year month day = ordinal year' month' day') :
    year = year' ∧ month = month' ∧ day = day' := by
  have hle : ¬ (year < year' ∨ year = year' ∧ (month < month' ∨ month = month' ∧ day < day')) :=
    fun hlt => Nat.ne_of_lt (ordinal_lt_ordinal h h' hlt) heq
  have hge : ¬ (year' < year ∨ year' = year ∧ (month' < month ∨ month' = month ∧ day' < day)) :=
    fun hlt => Nat.ne_of_lt (ordinal_lt_ordinal h' h hlt) heq.symm
  omega

/-! ## From the number of a day to its date -/

/-- The year of a day, and the days of the year before it. -/
def yearOfOrdinal (n : Nat) : Nat × Nat :=
  let n400 := (n - 1) / 146097
  let in400 := (n - 1) % 146097
  let n100 := in400 / 36524
  let in100 := in400 % 36524
  let n4 := in100 / 1461
  let in4 := in100 % 1461
  let n1 := in4 / 365
  let year := n400 * 400 + n100 * 100 + n4 * 4 + n1 + 1
  -- the last day of a leap year would start a fifth year
  if n1 = 4 ∨ n100 = 4 then (year - 1, 365) else (year, in4 % 365)

/-- The month and the day, with the days left at the start of the first month. -/
def monthOfDays (year : Nat) : (months left : Nat) → (first : Nat) → Nat × Nat
  | 0, left, first => (first, left + 1)
  | months + 1, left, first =>
      if left < daysInMonth year first then (first, left + 1)
      else monthOfDays year months (left - daysInMonth year first) (first + 1)

/-- `date.fromordinal`. -/
def fromOrdinal (n : Nat) : Nat × Nat × Nat :=
  let (year, left) := yearOfOrdinal n
  (year, monthOfDays year 12 left 1)

/-- The days before a year, by its place in the cycles of 400, 100 and 4 years. -/
theorem daysBeforeYear_fields {a b c d : Nat} (hb : b ≤ 3) (hc : c ≤ 24) (hd : d ≤ 3) :
    daysBeforeYear (a * 400 + b * 100 + c * 4 + d + 1) =
      146097 * a + 36524 * b + 1461 * c + 365 * d := by
  have h4 : (a * 400 + b * 100 + c * 4 + d) / 4 = 100 * a + 25 * b + c := by omega
  have h100 : (a * 400 + b * 100 + c * 4 + d) / 100 = 4 * a + b := by omega
  have h400 : (a * 400 + b * 100 + c * 4 + d) / 400 = a := by omega
  rw [daysBeforeYear, Nat.add_sub_cancel, h4, h100, h400]
  omega

/-- The last year of four is a leap year, except at the end of a century. -/
theorem daysInYear_fields {a b c : Nat} (h : b = 3 ∨ c ≤ 23) (hc : c ≤ 24) :
    daysInYear (a * 400 + b * 100 + c * 4 + 3 + 1) = 366 := by
  rw [daysInYear, if_pos]
  rw [isLeapYear_iff]
  omega

theorem daysInYear_ge (year : Nat) : 365 ≤ daysInYear year := by
  unfold daysInYear
  split <;> norm_num

theorem yearOfOrdinal_spec {n : Nat} (h : 1 ≤ n) :
    1 ≤ (yearOfOrdinal n).1 ∧ daysBeforeYear (yearOfOrdinal n).1 + (yearOfOrdinal n).2 + 1 = n ∧
      (yearOfOrdinal n).2 < daysInYear (yearOfOrdinal n).1 := by
  unfold yearOfOrdinal
  dsimp only
  generalize hn400 : (n - 1) / 146097 = n400
  generalize hin400 : (n - 1) % 146097 = in400
  generalize hn100 : in400 / 36524 = n100
  generalize hin100 : in400 % 36524 = in100
  generalize hn4 : in100 / 1461 = n4
  generalize hin4 : in100 % 1461 = in4
  generalize hn1 : in4 / 365 = n1
  generalize hleft : in4 % 365 = left
  by_cases hcentury : n100 = 4
  · -- the last day of a cycle of 400 years
    have hyear : n400 * 400 + n100 * 100 + n4 * 4 + n1 + 1 - 1 =
        n400 * 400 + 3 * 100 + 24 * 4 + 3 + 1 := by omega
    rw [if_pos (Or.inr hcentury)]
    dsimp only
    rw [hyear, daysBeforeYear_fields (b := 3) (c := 24) (d := 3) (by norm_num) (by norm_num)
      (by norm_num), daysInYear_fields (b := 3) (c := 24) (.inl rfl) (by norm_num)]
    omega
  have hn100le : n100 ≤ 3 := by omega
  by_cases hfourth : n1 = 4
  · -- the last day of a leap year
    have hyear : n400 * 400 + n100 * 100 + n4 * 4 + n1 + 1 - 1 =
        n400 * 400 + n100 * 100 + n4 * 4 + 3 + 1 := by omega
    rw [if_pos (Or.inl hfourth)]
    dsimp only
    rw [hyear, daysBeforeYear_fields hn100le (by omega) (by norm_num),
      daysInYear_fields (.inr (by omega)) (by omega)]
    omega
  · have hyear := daysInYear_ge (n400 * 400 + n100 * 100 + n4 * 4 + n1 + 1)
    rw [if_neg (by omega)]
    dsimp only
    rw [daysBeforeYear_fields hn100le (by omega) (by omega)]
    omega

theorem monthOfDays_spec (year : Nat) : ∀ {months left first : Nat}, 1 ≤ first →
    daysBeforeMonth year first + left < daysBeforeMonth year (first + months) →
      first ≤ (monthOfDays year months left first).1 ∧
      (monthOfDays year months left first).1 < first + months ∧
      1 ≤ (monthOfDays year months left first).2 ∧
      (monthOfDays year months left first).2 ≤
        daysInMonth year (monthOfDays year months left first).1 ∧
      daysBeforeMonth year (monthOfDays year months left first).1 +
        (monthOfDays year months left first).2 = daysBeforeMonth year first + left + 1 := by
  intro months
  induction months with
  | zero =>
      intro left first _ hleft
      exact absurd hleft (by rw [Nat.add_zero]; omega)
  | succ months ih =>
      intro left first hfirst hleft
      rw [monthOfDays]
      split
      · rename_i hwithin
        refine ⟨Nat.le_refl _, ?_, ?_, ?_, ?_⟩ <;> dsimp only <;> omega
      · rename_i hbeyond
        have hnext := daysBeforeMonth_succ year hfirst
        have hrest : daysBeforeMonth year (first + 1) + (left - daysInMonth year first) <
            daysBeforeMonth year (first + 1 + months) := by
          rw [hnext, Nat.add_assoc first 1 months, Nat.add_comm 1 months]
          omega
        obtain ⟨hle, hlt, hday, hlast, hsum⟩ := ih (Nat.le_add_left 1 first) hrest
        refine ⟨by omega, by omega, hday, hlast, ?_⟩
        rw [hsum, hnext]
        omega

/-- The number of the last day. -/
def maxOrdinal : Nat := 3652059

theorem yearOfOrdinal_le {n : Nat} (hn : 1 ≤ n) (hmax : n ≤ maxOrdinal) :
    (yearOfOrdinal n).1 ≤ 9999 := by
  obtain ⟨-, hday, -⟩ := yearOfOrdinal_spec hn
  by_contra hyear
  have hlater : maxOrdinal ≤ daysBeforeYear (yearOfOrdinal n).1 :=
    daysBeforeYear_mono (by norm_num : 1 ≤ 10000) (Nat.lt_of_not_le hyear)
  omega

/-- **Every number up to the last day is that of a date.** -/
theorem fromOrdinal_spec {n : Nat} (hn : 1 ≤ n) (hmax : n ≤ maxOrdinal) :
    ValidDate (fromOrdinal n).1 (fromOrdinal n).2.1 (fromOrdinal n).2.2 ∧
      ordinal (fromOrdinal n).1 (fromOrdinal n).2.1 (fromOrdinal n).2.2 = n := by
  obtain ⟨hyear, hday, hleft⟩ := yearOfOrdinal_spec hn
  have hmax := yearOfOrdinal_le hn hmax
  rw [← daysBeforeMonth_thirteen] at hleft
  have hstart : daysBeforeMonth (yearOfOrdinal n).1 1 + (yearOfOrdinal n).2 <
      daysBeforeMonth (yearOfOrdinal n).1 (1 + 12) :=
    lt_of_eq_of_lt (Nat.zero_add _) hleft
  obtain ⟨hfirst, hlast, hone, hwithin, hsum⟩ :=
    monthOfDays_spec (yearOfOrdinal n).1 (Nat.le_refl 1) hstart
  refine ⟨⟨⟨hyear, hmax⟩, ⟨hfirst, Nat.le_of_lt_succ hlast⟩, hone, hwithin⟩, ?_⟩
  rw [ordinal_eq]
  show daysBeforeYear (yearOfOrdinal n).1 + daysBeforeMonth (yearOfOrdinal n).1
    (monthOfDays (yearOfOrdinal n).1 12 (yearOfOrdinal n).2 1).1 +
      (monthOfDays (yearOfOrdinal n).1 12 (yearOfOrdinal n).2 1).2 = n
  have hzero : daysBeforeMonth (yearOfOrdinal n).1 1 = 0 := rfl
  omega

theorem ValidDate.ordinal_mem {year month day : Nat} (h : ValidDate year month day) :
    1 ≤ ordinal year month day ∧ ordinal year month day ≤ maxOrdinal := by
  have hwithin := h.dayOfYear_le
  have hnext := daysBeforeYear_succ h.year_mem.1
  have hlater : daysBeforeYear (year + 1) ≤ maxOrdinal :=
    daysBeforeYear_mono (Nat.le_add_left 1 year) (Nat.succ_le_succ h.year_mem.2)
  have hday := h.day_mem.1
  rw [ordinal_eq]
  omega

/-! ## Datetimes by their number -/

theorem microseconds_eq (t : Datetime) :
    t.microseconds = ordinal t.year t.month t.day * 86400000000 +
      (((t.hour * 60 + t.minute) * 60 + t.second) * 1000000 + t.microsecond) := by
  rw [Datetime.microseconds, secondsUpTo]
  ring

/-- The time of the day is shorter than a day. -/
theorem Datetime.timeOfDay_lt (t : Datetime) :
    ((t.hour * 60 + t.minute) * 60 + t.second) * 1000000 + t.microsecond < 86400000000 := by
  have hhour := t.hour_lt
  have hminute := t.minute_lt
  have hsecond := t.second_lt
  have hmicrosecond := t.microsecond_lt
  omega

/-- **Datetimes with one number are the same.** -/
theorem Datetime.microseconds_injective : Function.Injective Datetime.microseconds := by
  intro s t heq
  rw [microseconds_eq, microseconds_eq] at heq
  have hs := s.timeOfDay_lt
  have ht := t.timeOfDay_lt
  have hsMinute := s.minute_lt
  have hsSecond := s.second_lt
  have hsMicrosecond := s.microsecond_lt
  have htMinute := t.minute_lt
  have htSecond := t.second_lt
  have htMicrosecond := t.microsecond_lt
  have hday : ordinal s.year s.month s.day = ordinal t.year t.month t.day := by omega
  obtain ⟨hyear, hmonth, hdate⟩ := ordinal_injective s.date t.date hday
  have hhour : s.hour = t.hour := by omega
  have hminute : s.minute = t.minute := by omega
  have hsecond : s.second = t.second := by omega
  have hmicrosecond : s.microsecond = t.microsecond := by omega
  cases s
  cases t
  simp only at hyear hmonth hdate hhour hminute hsecond hmicrosecond
  simp only [hyear, hmonth, hdate, hhour, hminute, hsecond, hmicrosecond]

instance : DecidableLE Datetime := fun s t => inferInstanceAs (Decidable (¬ t.fields < s.fields))

/-- An earlier day decides, whatever the times of the days. -/
theorem add_lt_of_day_lt {n m time later : Nat} (h : n < m) (htime : time < 86400000000) :
    n * 86400000000 + time < m * 86400000000 + later := by
  omega

/-- The fields decide as the numbers do. -/
theorem Datetime.microseconds_lt {s t : Datetime} (h : s.fields < t.fields) :
    s.microseconds < t.microseconds := by
  simp only [Datetime.fields, List.cons_lt_cons_iff, List.not_lt_nil, and_false, or_false] at h
  rw [microseconds_eq, microseconds_eq]
  have hs := s.timeOfDay_lt
  have hsMinute := s.minute_lt
  have hsSecond := s.second_lt
  have hsMicrosecond := s.microsecond_lt
  have htMinute := t.minute_lt
  have htSecond := t.second_lt
  have htMicrosecond := t.microsecond_lt
  have hlater := ordinal_lt_ordinal s.date t.date
  rcases h with hyear | ⟨hyear, hmonth | ⟨hmonth, hday | ⟨hday, hclock⟩⟩⟩
  · exact add_lt_of_day_lt (hlater (.inl hyear)) hs
  · exact add_lt_of_day_lt (hlater (.inr ⟨hyear, .inl hmonth⟩)) hs
  · exact add_lt_of_day_lt (hlater (.inr ⟨hyear, .inr ⟨hmonth, hday⟩⟩)) hs
  · rw [hyear, hmonth, hday]
    apply Nat.add_lt_add_left
    rcases hclock with hhour | ⟨hhour, hminute | ⟨hminute, hsecond | ⟨hsecond, hmicrosecond⟩⟩⟩ <;>
      omega

/-- **Datetimes are compared by their numbers.** -/
theorem Datetime.le_iff (s t : Datetime) : s ≤ t ↔ s.microseconds ≤ t.microseconds := by
  constructor
  · intro hle
    rcases List.le_iff_lt_or_eq.mp hle with hlt | heq
    · exact Nat.le_of_lt (Datetime.microseconds_lt hlt)
    · simp only [Datetime.fields, List.cons.injEq, and_true] at heq
      obtain ⟨hyear, hmonth, hday, hhour, hminute, hsecond, hmicrosecond⟩ := heq
      rw [microseconds_eq, microseconds_eq, hyear, hmonth, hday, hhour, hminute, hsecond,
        hmicrosecond]
  · intro hle hlt
    exact absurd (Datetime.microseconds_lt hlt) (Nat.not_lt.mpr hle)

instance : LinearOrder Datetime where
  le_refl s := (Datetime.le_iff s s).mpr (Nat.le_refl _)
  le_trans s t u hst htu :=
    (Datetime.le_iff s u).mpr (((Datetime.le_iff s t).mp hst).trans ((Datetime.le_iff t u).mp htu))
  le_antisymm s t hst hts := Datetime.microseconds_injective
    (Nat.le_antisymm ((Datetime.le_iff s t).mp hst) ((Datetime.le_iff t s).mp hts))
  le_total s t := by
    rw [Datetime.le_iff, Datetime.le_iff]
    exact Nat.le_total _ _
  toDecidableLE := inferInstance

/-! ## From the number to the datetime -/

/-- The datetime of a day and of a time of that day. -/
def datetimeAt (n : Nat) (time : Nat) (hn : 1 ≤ n) (hmax : n ≤ maxOrdinal)
    (htime : time < 86400000000) : Datetime where
  year := (fromOrdinal n).1
  month := (fromOrdinal n).2.1
  day := (fromOrdinal n).2.2
  hour := time / 3600000000
  minute := time / 60000000 % 60
  second := time / 1000000 % 60
  microsecond := time % 1000000
  date := (fromOrdinal_spec hn hmax).1
  hour_lt := by omega
  minute_lt := Nat.mod_lt _ (by norm_num)
  second_lt := Nat.mod_lt _ (by norm_num)
  microsecond_lt := Nat.mod_lt _ (by norm_num)

theorem microseconds_datetimeAt {n time : Nat} (hn : 1 ≤ n) (hmax : n ≤ maxOrdinal)
    (htime : time < 86400000000) :
    (datetimeAt n time hn hmax htime).microseconds = n * 86400000000 + time := by
  rw [microseconds_eq]
  show ordinal (fromOrdinal n).1 (fromOrdinal n).2.1 (fromOrdinal n).2.2 * 86400000000 +
    (((time / 3600000000 * 60 + time / 60000000 % 60) * 60 + time / 1000000 % 60) * 1000000 +
      time % 1000000) = _
  rw [(fromOrdinal_spec hn hmax).2]
  omega

/-- `OverflowError`: a year before 1 or after 9999. -/
def dateOutOfRange : PyExc := ⟨.other "OverflowError", "date value out of range"⟩

/-- The datetime of a number: days are split off with `divmod`. -/
def Datetime.ofMicroseconds (m : ℤ) : Except PyExc Datetime :=
  if h : 1 ≤ m / 86400000000 ∧ m / 86400000000 ≤ maxOrdinal then
    .ok (datetimeAt (m / 86400000000).toNat (m % 86400000000).toNat (by omega) (by omega)
      (by omega))
  else .error dateOutOfRange

/-- `t + delta`, the timedelta in microseconds. -/
def Datetime.add (t : Datetime) (delta : ℤ) : Except PyExc Datetime :=
  Datetime.ofMicroseconds (t.microseconds + delta)

/-- **A number has a datetime just if some datetime has that number.** -/
theorem Datetime.ofMicroseconds_eq_ok {m : ℤ} {t : Datetime} :
    Datetime.ofMicroseconds m = .ok t ↔ (t.microseconds : ℤ) = m := by
  constructor
  · intro hof
    rw [Datetime.ofMicroseconds] at hof
    split at hof
    · rw [← Except.ok.inj hof, microseconds_datetimeAt]
      omega
    · cases hof
  · rintro rfl
    obtain ⟨hone, hmax⟩ := t.date.ordinal_mem
    have hnumber := microseconds_eq t
    have htime := t.timeOfDay_lt
    rw [Datetime.ofMicroseconds, dif_pos (by omega)]
    apply congrArg
    apply Datetime.microseconds_injective
    rw [microseconds_datetimeAt]
    omega

theorem Datetime.add_eq_ok {s t : Datetime} {delta : ℤ} :
    s.add delta = .ok t ↔ (t.microseconds : ℤ) = s.microseconds + delta :=
  Datetime.ofMicroseconds_eq_ok

end Clev2er.Cryotempo
