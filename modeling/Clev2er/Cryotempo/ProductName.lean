import Clev2er.Cryotempo.ProductTimes

/-!
# The names of the products

`alg_product_output` names a product by the zone, the first and the last time, and the
cycle and orbit of the track; nothing keeps two files from the same name but the name
itself. `sameName_iff` says which tracks share a file, and
`productFilename_near` that their times are at most a second apart.
-/

namespace Clev2er.Cryotempo

open Clev2er.Lib

/-! ## The text of a time -/

/-- **The text of a time tells the date and the rounded clock**, and nothing else does. -/
theorem timeStr_eq_iff (s t : Datetime) :
    timeStr s = timeStr t ↔
      (s.year = t.year ∧ s.month = t.month ∧ s.day = t.day) ∧ roundedClock s = roundedClock t := by
  obtain ⟨-, hsMinutes, hsSeconds⟩ := roundedClock_spec s
  obtain ⟨-, htMinutes, htSeconds⟩ := roundedClock_spec t
  have hsHours : (roundedClock s).1 < 10 ^ 2 := lt_of_le_of_lt (roundedClock_le s) (by norm_num)
  have htHours : (roundedClock t).1 < 10 ^ 2 := lt_of_le_of_lt (roundedClock_le t) (by norm_num)
  have hfield : ∀ {n m : Nat} {a b : List Char}, n < 10 ^ 2 → m < 10 ^ 2 →
      formatInt '0' 2 n ++ a = formatInt '0' 2 m ++ b → n = m ∧ a = b := by
    intro n m a b hn hm h
    obtain ⟨hhead, htail⟩ := List.append_inj h (by rw [length_two hn, length_two hm])
    exact ⟨formatInt_zero_injective 2 hhead, htail⟩
  constructor
  · intro h
    rw [timeStr_eq, timeStr_eq] at h
    obtain ⟨hyear, h⟩ := List.append_inj (String.ofList_injective h) (by
      rw [length_formatInt (by norm_num) s.date.year_lt,
        length_formatInt (by norm_num) t.date.year_lt])
    obtain ⟨hmonth, h⟩ := hfield s.date.month_lt t.date.month_lt h
    obtain ⟨hday, h⟩ := hfield s.date.day_lt t.date.day_lt h
    obtain ⟨-, h⟩ := List.append_inj h rfl
    obtain ⟨hhours, h⟩ := hfield hsHours htHours h
    obtain ⟨hminutes, h⟩ := hfield (lt_hundred hsMinutes.le) (lt_hundred htMinutes.le) h
    have hseconds := formatInt_zero_injective 2 h
    refine ⟨⟨?_, hmonth, hday⟩, Prod.ext hhours (Prod.ext hminutes hseconds)⟩
    exact formatInt_injective beforeDigits_blank s.date.year_lt t.date.year_lt hyear
  · rintro ⟨⟨hyear, hmonth, hday⟩, hclock⟩
    rw [timeStr_eq, timeStr_eq, hyear, hmonth, hday, hclock]

/-- Times with one text are at most a second apart. -/
theorem timeStr_near {s t : Datetime} (h : timeStr s = timeStr t) :
    |(s.microseconds : ℤ) - t.microseconds| ≤ 1000000 := by
  obtain ⟨⟨hyear, hmonth, hday⟩, hclock⟩ := (timeStr_eq_iff s t).mp h
  have hs := rounded_near s
  have ht := rounded_near t
  rw [hyear, hmonth, hday, hclock] at hs
  generalize (secondsUpTo t.year t.month t.day (roundedClock t).1 (roundedClock t).2.1
    (roundedClock t).2.2 * 1000000 : ℤ) = rounded at hs ht
  have htriangle := abs_sub_le (s.microseconds : ℤ) rounded t.microseconds
  rw [abs_sub_comm (s.microseconds : ℤ) rounded] at htriangle
  omega

/-! ## The file of a product -/

/-- `zone_str`. -/
def zoneStr (south : Bool) : List Char := if south then "ANTARC".toList else "GREENL".toList

/-- What the configuration says about the products. -/
structure ProductSettings where
  productBaseDir : String
  baseline : String
  version : ℤ

/-- What the name of a product tells of its track. -/
structure ProductTrack where
  south : Bool
  start : Datetime
  last : Datetime
  cycleNumber : ℤ
  relOrbitNumber : ℤ

/-- `product_dir`. -/
def productDir (settings : ProductSettings) (t : ProductTrack) : List Char :=
  settings.productBaseDir.toList ++ ('/' :: (settings.baseline.toUpper.toList ++
    ('/' :: (formatSigned 3 settings.version ++ ("/LAND_ICE/".toList ++ (zoneStr t.south ++
      ('/' :: (formatInt '0' 0 t.start.year ++ ('/' :: formatInt '0' 2 t.start.month)))))))))

/-- `product_filename`. -/
def productFilename (settings : ProductSettings) (t : ProductTrack) : String :=
  String.ofList (productDir settings t ++ ("/CS_OFFL_SIR_TDP_LI_".toList ++ (zoneStr t.south ++
    ('_' :: ((startTimeStr t.start).toList ++ ('_' :: ((endTimeStr t.last).toList ++
      ('_' :: (formatSigned 2 t.cycleNumber ++ ('_' :: (formatSigned 5 t.relOrbitNumber ++
        ('_' :: (settings.baseline.toUpper.toList ++ (formatSigned 3 settings.version ++
          ".nc".toList))))))))))))))

/-- The fields of the name that differ from track to track. -/
def nameFields (t : ProductTrack) : List (List Char) :=
  ["CS".toList, "OFFL".toList, "SIR".toList, "TDP".toList, "LI".toList, zoneStr t.south,
    (startTimeStr t.start).toList, (endTimeStr t.last).toList, formatSigned 2 t.cycleNumber,
    formatSigned 5 t.relOrbitNumber]

/-- The directories below the zone, and the name up to the baseline. -/
def pathFields (t : ProductTrack) : List (List Char) :=
  [zoneStr t.south, formatInt '0' 0 t.start.year, formatInt '0' 2 t.start.month,
    List.intercalate ['_'] (nameFields t)]

/-- Only the fields of the track stand between the texts of the configuration. -/
theorem productFilename_eq (settings : ProductSettings) (t : ProductTrack) :
    productFilename settings t = String.ofList
      ((settings.productBaseDir.toList ++ ('/' :: (settings.baseline.toUpper.toList ++
        ('/' :: (formatSigned 3 settings.version ++ "/LAND_ICE/".toList))))) ++
        (List.intercalate ['/'] (pathFields t) ++
          ('_' :: (settings.baseline.toUpper.toList ++ (formatSigned 3 settings.version ++
            ".nc".toList))))) := by
  rw [productFilename, productDir]
  congr 1
  simp only [pathFields, nameFields, List.intercalate_cons_cons, List.intercalate_singleton,
    List.append_assoc, List.cons_append, List.nil_append]
  rfl

theorem mem_timeStr {c : Char} {t : Datetime} (h : c ∈ (timeStr t).toList) :
    c = ' ' ∨ c = 'T' ∨ c = '0' ∨ c.isDigit = true := by
  rw [timeStr_eq, String.toList_ofList, timeChars] at h
  simp only [List.mem_append, List.mem_singleton] at h
  rcases h with h | h | h | h | h | h | h
  · exact (mem_formatInt h).imp_right fun hdigit => .inr (.inr hdigit)
  · exact .inr (.inr (mem_formatInt h))
  · exact .inr (.inr (mem_formatInt h))
  · exact .inr (.inl h)
  all_goals exact .inr (.inr (mem_formatInt h))

/-- No field holds the character that separates them. -/
theorem not_mem_nameFields {t : ProductTrack} {c : Char} (hc : c = '_' ∨ c = '/') :
    ∀ field ∈ nameFields t, c ∉ field := by
  have htext : ∀ {s : Datetime}, c ∉ (timeStr s).toList := by
    intro s h
    rcases hc with rfl | rfl <;> exact absurd (mem_timeStr h) (by decide)
  have hnumber : ∀ {width : Nat} {n : ℤ}, c ∉ formatSigned width n := by
    intro width n h
    rcases hc with rfl | rfl <;> exact absurd (mem_formatSigned h) (by decide)
  have hzone : c ∉ zoneStr t.south := by
    rcases hc with rfl | rfl <;> cases t.south <;> decide
  intro field hfield
  simp only [nameFields, List.mem_cons, List.not_mem_nil, or_false] at hfield
  rcases hfield with rfl | rfl | rfl | rfl | rfl | rfl | rfl | rfl | rfl | rfl
  · rcases hc with rfl | rfl <;> decide
  · rcases hc with rfl | rfl <;> decide
  · rcases hc with rfl | rfl <;> decide
  · rcases hc with rfl | rfl <;> decide
  · rcases hc with rfl | rfl <;> decide
  · exact hzone
  · exact htext
  · exact htext
  · exact hnumber
  · exact hnumber

theorem zoneStr_injective : Function.Injective zoneStr := by
  intro a b h
  cases a <;> cases b <;> first | rfl | exact absurd h (by decide)

theorem mem_intercalate {c sep : Char} : ∀ {fields : List (List Char)},
    c ∈ List.intercalate [sep] fields → c = sep ∨ ∃ field ∈ fields, c ∈ field := by
  intro fields
  induction fields with
  | nil => exact fun h => absurd h List.not_mem_nil
  | cons field fields ih =>
      intro h
      cases fields with
      | nil =>
          rw [List.intercalate_singleton] at h
          exact .inr ⟨field, List.mem_cons_self, h⟩
      | cons next fields =>
          rw [List.intercalate_cons_cons] at h
          rcases List.mem_append.mp h with hfront | hback
          · rcases List.mem_append.mp hfront with hhead | hsep
            · exact .inr ⟨field, List.mem_cons_self, hhead⟩
            · exact .inl (List.mem_singleton.mp hsep)
          · exact (ih hback).imp_right fun ⟨f, hf, hmem⟩ => ⟨f, List.mem_cons_of_mem _ hf, hmem⟩

theorem not_mem_pathFields {t : ProductTrack} : ∀ field ∈ pathFields t, '/' ∉ field := by
  intro field hfield
  simp only [pathFields, List.mem_cons, List.not_mem_nil, or_false] at hfield
  rcases hfield with rfl | rfl | rfl | rfl
  · cases t.south <;> decide
  · exact fun h => absurd (mem_formatInt h) (by decide)
  · exact fun h => absurd (mem_formatInt h) (by decide)
  · intro h
    rcases mem_intercalate h with heq | ⟨f, hf, hmem⟩
    · exact absurd heq (by decide)
    · exact not_mem_nameFields (.inr rfl) f hf hmem

/-- Texts that are separated alike have the same fields. -/
theorem intercalate_inj {sep : Char} {fields fields' : List (List Char)}
    (h : ∀ field ∈ fields, sep ∉ field) (h' : ∀ field ∈ fields', sep ∉ field)
    (hne : fields ≠ []) (hne' : fields' ≠ [])
    (heq : List.intercalate [sep] fields = List.intercalate [sep] fields') : fields = fields' := by
  rw [← List.splitOn_intercalate sep h hne, heq, List.splitOn_intercalate sep h' hne']

/-- What the name tells comes back from it. -/
theorem fields_of_productFilename {settings : ProductSettings} {a b : ProductTrack}
    (h : productFilename settings a = productFilename settings b) :
    a.south = b.south ∧ startTimeStr a.start = startTimeStr b.start ∧
      endTimeStr a.last = endTimeStr b.last ∧ a.cycleNumber = b.cycleNumber ∧
      a.relOrbitNumber = b.relOrbitNumber := by
  rw [productFilename_eq, productFilename_eq] at h
  have hpath := List.append_cancel_right (List.append_cancel_left (String.ofList_injective h))
  have hfields := intercalate_inj not_mem_pathFields not_mem_pathFields (by simp [pathFields])
    (by simp [pathFields]) hpath
  simp only [pathFields, List.cons.injEq, and_true] at hfields
  obtain ⟨-, -, -, hname⟩ := hfields
  have hfields := intercalate_inj (not_mem_nameFields (.inl rfl))
    (not_mem_nameFields (.inl rfl)) (by simp [nameFields]) (by simp [nameFields]) hname
  simp only [nameFields, List.cons.injEq, true_and, and_true] at hfields
  obtain ⟨hzone, hstart, hlast, hcycle, horbit⟩ := hfields
  exact ⟨zoneStr_injective hzone, String.toList_injective hstart, String.toList_injective hlast,
    formatSigned_injective 2 hcycle, formatSigned_injective 5 horbit⟩

/-- The track as far as its name tells it: the zone, the date and the rounded clock of both
times, cycle and orbit. -/
def ProductTrack.SameName (a b : ProductTrack) : Prop :=
  a.south = b.south ∧
    ((a.start.year = b.start.year ∧ a.start.month = b.start.month ∧ a.start.day = b.start.day) ∧
      roundedClock a.start = roundedClock b.start) ∧
    ((a.last.year = b.last.year ∧ a.last.month = b.last.month ∧ a.last.day = b.last.day) ∧
      roundedClock a.last = roundedClock b.last) ∧
    a.cycleNumber = b.cycleNumber ∧ a.relOrbitNumber = b.relOrbitNumber

/-- **Two tracks share a product file just if they agree** in their zone, in the dates and
rounded clocks of their times, and in cycle and orbit. -/
theorem sameName_iff (settings : ProductSettings) (a b : ProductTrack) :
    productFilename settings a = productFilename settings b ↔ a.SameName b := by
  rw [ProductTrack.SameName, ← timeStr_eq_iff, ← timeStr_eq_iff]
  refine ⟨fields_of_productFilename, ?_⟩
  rintro ⟨hsouth, hstart, hlast, hcycle, horbit⟩
  obtain ⟨⟨hyear, hmonth, -⟩, -⟩ := (timeStr_eq_iff a.start b.start).mp hstart
  rw [productFilename, productFilename, productDir, productDir, hsouth, startTimeStr, startTimeStr,
    endTimeStr, endTimeStr, hstart, hlast, hcycle, horbit, hyear, hmonth]

/-- **Tracks of one product file begin and end within a second of each other.** -/
theorem productFilename_near {settings : ProductSettings} {a b : ProductTrack}
    (h : productFilename settings a = productFilename settings b) :
    |(a.start.microseconds : ℤ) - b.start.microseconds| ≤ 1000000 ∧
      |(a.last.microseconds : ℤ) - b.last.microseconds| ≤ 1000000 := by
  obtain ⟨-, hstart, hlast, -⟩ := fields_of_productFilename h
  exact ⟨timeStr_near hstart, timeStr_near hlast⟩

/-- The last seconds of the year 2020. -/
def yearEnd (second microsecond : Nat) (hsecond : second < 60)
    (hmicrosecond : microsecond < 1000000) : Datetime :=
  { newYearsEve with
    second := second
    microsecond := microsecond
    second_lt := hsecond
    microsecond_lt := hmicrosecond }

/-- 58.6 s and 59.4 s after the full minute have one name. -/
theorem productFilename_near_yearEnd :
    |((yearEnd 58 600000 (by decide) (by decide)).microseconds : ℤ) -
      (yearEnd 59 400000 (by decide) (by decide)).microseconds| ≤ 1000000 := by
  let track (t : Datetime) : ProductTrack := ⟨true, t, t, 1, 10⟩
  have hname : productFilename ⟨"/products", "D", 1⟩ (track (yearEnd 58 600000 (by decide)
      (by decide))) = productFilename ⟨"/products", "D", 1⟩ (track (yearEnd 59 400000 (by decide)
      (by decide))) := by
    decide +kernel
  exact (productFilename_near hname).1

end Clev2er.Cryotempo
