import Clev2er.Cryotempo.TrackSelection
import Clev2er.Lib.FixedWidth
import Clev2er.Lib.Glob

/-!
# The file finders

`find_lrm.py` and `find_sin.py` list the L1b files of the requested months, one mode
each. They are switched off when the switch of the other mode is in the configuration,
`alg_skip_on_mode` when it is true. `findersAgree_iff` says when the two rules come to
the same files.
-/

namespace Clev2er.Cryotempo

open Clev2er.Lib Clev2er.Retrack Clev2er.Breakpoints

/-! ## L1b files on disk -/

/-- The mode in the name of an L1b file. -/
inductive L1bMode where
  | lrm
  | sin
  | sar
deriving DecidableEq

def L1bMode.name : L1bMode → String
  | .lrm => "LRM"
  | .sin => "SIN"
  | .sar => "SAR"

/-- The parts of a name `CS_<class>_SIR_<mode>_1B_<start>_<stop>_<baseline><version>.nc`;
`span` is what follows the month of the start up to the baseline. -/
structure L1bFileName where
  fileClass : List Char
  mode : L1bMode
  year : ℕ
  month : ℕ
  span : List Char
  baseline : Char
  version : List Char
  length_fileClass : fileClass.length = 4
  year_lt : year < 10 ^ 4
  month_lt : month < 10 ^ 2
  span_chars : ∀ c ∈ span, c.isDigit = true ∨ c = 'T' ∨ c = '_'
  baseline_upper : baseline.isUpper = true
  length_version : version.length = 3

/-- `YYYYMM`. -/
def yearMonthText (year month : ℕ) : List Char := formatInt '0' 4 year ++ formatInt '0' 2 month

def L1bFileName.text (n : L1bFileName) : List Char :=
  "CS_".toList ++ (n.fileClass ++ ("_SIR_".toList ++ (n.mode.name.toList ++ ("_1B_".toList ++
    (yearMonthText n.year n.month ++ (n.span ++ (n.baseline :: (n.version ++ ".nc".toList))))))))

/-- The attributes with the position of the first record, in microdegrees. -/
structure FirstRecord where
  lat : Option ℤ
  lon : Option ℤ

/-- A file below the base directory: its directories from there, its name, and the
attributes of its first record when it can be opened. -/
structure ListedFile where
  place : List (List Char)
  name : L1bFileName
  firstRecord : Option FirstRecord

def ListedFile.path (f : ListedFile) : List (List Char) := f.place ++ [f.name.text]

/-- `l1b_base_dir` on disk. -/
structure Archive where
  isDir : Bool
  files : List ListedFile
  nodup_paths : (files.map ListedFile.path).Nodup

/-- `glob.glob` of a directory and a pattern for the names in it. -/
def Archive.glob (a : Archive) (place : List (List Char)) (pattern : List (GlobToken Char)) :
    List ListedFile :=
  a.files.filter (fun f => decide (f.place = place) && globMatch pattern f.name.text)

/-! ## The configuration and the request -/

/-- `l1b_baselines`: "comma separated list of l1b baseline chars, ie D,E". -/
structure Baselines where
  letters : List Char
  letters_upper : ∀ c ∈ letters, c.isUpper = true

def Baselines.text (b : Baselines) : List Char := b.letters.intersperse ','

/-- What the finders read of the configuration. -/
structure FinderConfig where
  lrmOnly : Option Bool
  sinOnly : Option Bool
  grnOnly : Option Bool
  l1bBaselines : Option Baselines
  l1bBaseDir : Option String

/-- The configuration of the algorithms. -/
def FinderConfig.switches (c : FinderConfig) : ChainSwitches :=
  ⟨c.lrmOnly.getD false, c.sinOnly.getD false, c.grnOnly.getD false⟩

/-- The years and months a finder was given. `add_year` refuses years before 1960, and
takes a "year number in YYYY". -/
structure FileRequest where
  years : List ℕ
  months : List ℕ
  flatSearch : Bool
  years_mem : ∀ y ∈ years, 1960 ≤ y ∧ y < 10 ^ 4
  months_lt : ∀ m ∈ months, m < 10 ^ 2

/-- `self.months`, all of them by default. -/
def FileRequest.searchedMonths (q : FileRequest) : List ℕ :=
  if q.months.length = 0 then List.range' 1 12 else q.months

/-! ## `find_files` -/

/-- `f"{year:4d}{month:02d}"`. -/
def searchedYearMonthText (year month : ℕ) : List Char :=
  formatInt ' ' 4 year ++ formatInt '0' 2 month

/-- The directory that is searched, from the base directory. -/
def searchPlace (flatSearch : Bool) (mode : L1bMode) (year month : ℕ) : List (List Char) :=
  if flatSearch then []
  else [mode.name.toList, formatInt ' ' 4 year, formatInt '0' 2 month]

/-- `[{text}]`; an empty pair of brackets stands for itself. -/
def bracketed (text : List Char) : List (GlobToken Char) :=
  if text.isEmpty then literal "[]".toList else [.oneOf text]

/-- `*[{l1b_baselines}]???.nc`. -/
def baselinePattern (text : List Char) : List (GlobToken Char) :=
  .star :: (bracketed text ++ (anyOf 3 ++ literal ".nc".toList))

/-- `CS_*SIR_<mode>_1B_{year:4d}{month:02d}*[{l1b_baselines}]???.nc`. -/
def searchPattern (mode : L1bMode) (year month : ℕ) (text : List Char) : List (GlobToken Char) :=
  literal "CS_".toList ++ .star ::
    (literal ("SIR_".toList ++ (mode.name.toList ++ ("_1B_".toList ++
      searchedYearMonthText year month))) ++ baselinePattern text)

def attributeNotFound : PyExc := ⟨.attributeError, "NetCDF: Attribute not found"⟩

/-- The file if its first record is over Greenland. -/
def testNcFileInGreenland (f : ListedFile) : Except PyExc (Option ListedFile) :=
  match f.firstRecord with
  | none => .ok none
  | some record =>
      match record.lat with
      | none => .error attributeNotFound
      | some firstRecordLat =>
          if (firstRecordLat : ℚ) / 10 ^ 6 < 0 then .ok none
          else
            match record.lon with
            | none => .error attributeNotFound
            | some firstRecordLon =>
                if 10 < (firstRecordLon : ℚ) / 10 ^ 6 then .ok none
                else if (firstRecordLon : ℚ) / 10 ^ 6 < -90 then .ok none
                else .ok (some f)

/-- The filter of `grn_only`. -/
def filterGreenland (fileList : List ListedFile) : Except PyExc (List ListedFile) := do
  let results ← fileList.mapM testNcFileInGreenland
  return results.filterMap id

/-- The loops over the years and the months. -/
def searchFiles (mode : L1bMode) (a : Archive) (q : FileRequest) (text : List Char) :
    List ListedFile :=
  q.years.flatMap (fun year => q.searchedMonths.flatMap (fun month =>
    a.glob (searchPlace q.flatSearch mode year month) (searchPattern mode year month text)))

/-- `find_files` of one mode; `otherOnly` is the switch that turns it off. -/
def findFilesOf (mode : L1bMode) (otherOnly : Option Bool) (c : FinderConfig) (a : Archive)
    (q : FileRequest) : Except PyExc (List ListedFile) :=
  if otherOnly.isSome then .ok []
  else
    match c.l1bBaselines with
    | none => .error ⟨.keyError, "l1b_baselines missing from config"⟩
    | some l1bBaselines =>
        match c.l1bBaseDir with
        | none => .error ⟨.keyError, "l1b_base_dir missing from config"⟩
        | some l1bBaseDir =>
            if !a.isDir then .error ⟨.osError, l1bBaseDir ++ " directory not found"⟩
            else if q.years.length < 1 then
              .error ⟨.valueError, "Empty year list in find_files(). Use .add_year() first"⟩
            else
              let fileList := searchFiles mode a q l1bBaselines.text
              if c.grnOnly = some true then filterGreenland fileList else .ok fileList

/-- `FileFinder.find_files` of `find_lrm.py`. -/
def FindLrm.findFiles (c : FinderConfig) (a : Archive) (q : FileRequest) :
    Except PyExc (List ListedFile) :=
  findFilesOf .lrm c.sinOnly c a q

/-- `FileFinder.find_files` of `find_sin.py`. -/
def FindSin.findFiles (c : FinderConfig) (a : Archive) (q : FileRequest) :
    Except PyExc (List ListedFile) :=
  findFilesOf .sin c.lrmOnly c a q

/-! ## Which names match -/

theorem mem_intersperse {c : Char} (hc : c ≠ ',') : ∀ {l : List Char},
    c ∈ l.intersperse ',' ↔ c ∈ l := by
  intro l
  induction l with
  | nil => exact Iff.rfl
  | cons x l ih =>
      cases l with
      | nil => exact Iff.rfl
      | cons y l =>
          rw [List.intersperse_cons_cons, List.mem_cons, List.mem_cons, ih, List.mem_cons]
          simp [hc]

theorem Baselines.mem_text (b : Baselines) {c : Char} (hc : c.isUpper = true) :
    c ∈ b.text ↔ c ∈ b.letters := by
  refine mem_intersperse ?_
  rintro rfl
  exact absurd hc (by decide)

/-- What the end of the pattern matches: the character of the brackets, three more and
the extension. -/
theorem ends_of_mem_bracketed {text y : List Char}
    (h : y ∈ globLanguage (bracketed text ++ (anyOf 3 ++ literal ".nc".toList))) :
    ∃ front c version, (c = ']' ∨ c ∈ text) ∧ version.length = 3 ∧
      y = front ++ c :: (version ++ ".nc".toList) := by
  rw [bracketed] at h
  split at h
  · obtain ⟨z, hz, rfl⟩ := mem_globLanguage_literal.mp h
    obtain ⟨v, hv, w, hw, rfl⟩ := mem_globLanguage_anyOf.mp hz
    obtain rfl := mem_globLanguage_word.mp hw
    exact ⟨['['], ']', v, .inl rfl, hv, rfl⟩
  · obtain ⟨c, hc, z, hz, rfl⟩ := mem_globLanguage_oneOf.mp h
    obtain ⟨v, hv, w, hw, rfl⟩ := mem_globLanguage_anyOf.mp hz
    obtain rfl := mem_globLanguage_word.mp hw
    exact ⟨[], c, v, .inr hc, hv, rfl⟩

/-- Behind the second `*` stand a baseline, three characters and the extension. -/
theorem mem_baselinePattern (b : Baselines) {u version : List Char} {c : Char}
    (hc : c.isUpper = true) (hversion : version.length = 3) :
    u ++ c :: (version ++ ".nc".toList) ∈ globLanguage (baselinePattern b.text) ↔
      c ∈ b.letters := by
  rw [baselinePattern, mem_globLanguage_star]
  constructor
  · rintro ⟨x, y, hy, hsplit⟩
    obtain ⟨front, d, v, hd, hv, rfl⟩ := ends_of_mem_bracketed hy
    rw [← List.append_assoc] at hsplit
    have hends := (List.append_inj' hsplit (by simp [hv, hversion])).2
    obtain rfl := (List.cons.inj hends).1
    rcases hd with rfl | hd
    · exact absurd hc (by decide)
    · exact (b.mem_text hc).mp hd
  · intro hmem
    have htext := (b.mem_text hc).mpr hmem
    have hne : b.text.isEmpty = false := List.isEmpty_eq_false_iff.mpr (List.ne_nil_of_mem htext)
    refine ⟨u, c :: (version ++ ".nc".toList), ?_, rfl⟩
    rw [bracketed, hne]
    exact mem_globLanguage_oneOf.mpr ⟨c, htext, _, mem_globLanguage_anyOf.mpr
      ⟨version, hversion, _, mem_globLanguage_word.mpr rfl, rfl⟩, rfl⟩

theorem length_of_mem_baselinePattern {text y : List Char}
    (h : y ∈ globLanguage (baselinePattern text)) : 7 ≤ y.length := by
  obtain ⟨x, z, hz, rfl⟩ := mem_globLanguage_star.mp h
  obtain ⟨front, c, v, -, hv, rfl⟩ := ends_of_mem_bracketed hz
  have hnc : ".nc".toList.length = 3 := rfl
  rw [List.length_append, List.length_append, List.length_cons, List.length_append, hv, hnc]
  omega

/-- No `S` stands among the digits of a date. -/
theorem not_mem_formatInt {fill c : Char} (hfill : c ≠ fill) (hc : c.isDigit = false)
    (width n : ℕ) : c ∉ formatInt fill width n := by
  intro hmem
  rcases List.mem_append.mp hmem with hmem | hmem
  · exact hfill (List.eq_of_mem_replicate hmem)
  · rw [Nat.isDigit_of_mem_toDigits (by norm_num) (by norm_num) hmem] at hc
    cases hc

theorem L1bFileName.not_mem_dates (n : L1bFileName) :
    'S' ∉ "_1B_".toList ++ (yearMonthText n.year n.month ++ n.span) := by
  intro hmem
  rcases List.mem_append.mp hmem with hmem | hmem
  · exact absurd hmem (by decide)
  rcases List.mem_append.mp hmem with hmem | hmem
  · rcases List.mem_append.mp hmem with hmem | hmem
    · exact not_mem_formatInt (by decide) (by decide) _ _ hmem
    · exact not_mem_formatInt (by decide) (by decide) _ _ hmem
  · rcases n.span_chars 'S' hmem with h | h | h
    · exact absurd h (by decide)
    · exact absurd h (by decide)
    · exact absurd h (by decide)

/-- A letter that does not stand in the front of a word stands in the back. -/
theorem length_lt_of_not_mem {α : Type} {c : α} {x y p q : List α}
    (h : x ++ c :: y = p ++ q) (hc : c ∉ p) : y.length < q.length := by
  rcases List.append_eq_append_iff.mp h with ⟨overlap, hp, hback⟩ | ⟨overlap, -, hq⟩
  · cases overlap with
    | nil =>
        rw [← List.nil_append q, ← hback]
        exact Nat.lt_succ_self _
    | cons d overlap =>
        obtain rfl := (List.cons.inj hback).1
        exact absurd (hp ▸ List.mem_append_right x List.mem_cons_self) hc
  · rw [hq, List.length_append, List.length_cons]
    omega

/-- The name of a mode has an `S` at most in front, and not that of `SIR`. -/
theorem L1bMode.name_eq (mode : L1bMode) : ∃ first rest, mode.name.toList = first :: rest ∧
    'S' ∉ rest ∧ rest.length = 2 ∧ rest ≠ ['I', 'R'] := by
  cases mode
  · exact ⟨'L', ['R', 'M'], rfl, by decide, rfl, by decide⟩
  · exact ⟨'S', ['I', 'N'], rfl, by decide, rfl, by decide⟩
  · exact ⟨'S', ['A', 'R'], rfl, by decide, rfl, by decide⟩

/-- `SIR` does not stand behind the first letter of the instrument. -/
theorem not_sir_behind (mode : L1bMode) {x y dates ends : List Char} (hdates : 'S' ∉ dates)
    (hends : ends.length ≤ y.length + 2) :
    x ++ 'S' :: 'I' :: 'R' :: y ≠ 'I' :: 'R' :: '_' :: (mode.name.toList ++ (dates ++ ends)) := by
  intro h
  obtain ⟨first, rest, hname, hrest, hlength, hne⟩ := mode.name_eq
  rw [hname] at h
  rcases x with _ | ⟨_, _ | ⟨_, _ | ⟨_, _ | ⟨_, x⟩⟩⟩⟩
  · simp at h
  · simp at h
  · simp at h
  · -- the first letter of the mode
    have htail : ['I', 'R'] ++ y = rest ++ (dates ++ ends) := by simp_all
    exact hne (List.append_inj htail hlength.symm).1.symm
  · have htail : x ++ 'S' :: 'I' :: 'R' :: y = (rest ++ dates) ++ ends := by simp_all
    have hfront : 'S' ∉ rest ++ dates := by
      rw [List.mem_append, not_or]
      exact ⟨hrest, hdates⟩
    have hlt := length_lt_of_not_mem htail hfront
    rw [List.length_cons, List.length_cons] at hlt
    omega

theorem L1bMode.length_name (mode : L1bMode) : mode.name.toList.length = 3 := by
  cases mode <;> rfl

/-- **The first `*` stands for the class and no more**: the instrument and the mode have one
place in a name. -/
theorem class_eq_of_split (mode mode' : L1bMode) {x y fileClass dates ends : List Char}
    (hclass : fileClass.length = 4) (hdates : 'S' ∉ dates) (hends : ends.length ≤ y.length)
    (h : x ++ 'S' :: 'I' :: 'R' :: '_' :: (mode.name.toList ++ y) =
      (fileClass ++ ['_']) ++ 'S' :: 'I' :: 'R' :: '_' :: (mode'.name.toList ++ (dates ++ ends))) :
    x = fileClass ++ ['_'] := by
  have hlength := congrArg List.length h
  simp only [List.length_append, List.length_cons, List.length_nil, mode.length_name,
    mode'.length_name] at hlength
  rcases List.append_eq_append_iff.mp h with ⟨overlap, hx, hback⟩ | ⟨overlap, hx, hback⟩
  · cases overlap with
    | nil => rw [hx, List.append_nil]
    | cons c overlap =>
        -- the instrument of the name would stand behind that of the pattern
        refine absurd (List.cons.inj hback).2.symm
          (not_sir_behind mode (List.not_mem_nil (a := 'S')) ?_)
        rw [List.length_cons, List.length_append, List.length_append, mode'.length_name]
        omega
  · cases overlap with
    | nil => rw [hx, List.append_nil]
    | cons c overlap =>
        refine absurd (List.cons.inj hback).2.symm (not_sir_behind mode' hdates ?_)
        rw [List.length_cons, List.length_append, mode.length_name]
        omega

theorem L1bMode.name_injective {mode mode' : L1bMode}
    (h : mode.name.toList = mode'.name.toList) : mode = mode' := by
  revert h
  cases mode <;> cases mode' <;> decide

theorem length_yearMonthText {year month : ℕ} (hyear : year < 10 ^ 4) (hmonth : month < 10 ^ 2) :
    (yearMonthText year month).length = 6 := by
  rw [yearMonthText, List.length_append, length_formatInt (by norm_num) hyear,
    length_formatInt (by norm_num) hmonth]

theorem yearMonthText_injective {year month year' month' : ℕ} (hyear : year < 10 ^ 4)
    (hmonth : month < 10 ^ 2) (hyear' : year' < 10 ^ 4) (hmonth' : month' < 10 ^ 2)
    (h : yearMonthText year month = yearMonthText year' month') :
    year = year' ∧ month = month' := by
  have hlength : (formatInt '0' 4 year).length = (formatInt '0' 4 year').length := by
    rw [length_formatInt (by norm_num) hyear, length_formatInt (by norm_num) hyear']
  obtain ⟨hfirst, hsecond⟩ := List.append_inj h hlength
  exact ⟨formatInt_injective beforeDigits_zero hyear hyear' hfirst,
    formatInt_injective beforeDigits_zero hmonth hmonth' hsecond⟩

/-- `add_year` lets no year through that needs a fill. -/
theorem searchedYearMonthText_eq {year month : ℕ} (hyear : 1960 ≤ year) :
    searchedYearMonthText year month = yearMonthText year month := by
  rw [searchedYearMonthText, yearMonthText, formatInt_year (by omega)]

/-- The parts of a name and of a match of the pattern are the same. -/
theorem L1bFileName.parts_of_split (n : L1bFileName) {mode : L1bMode} {year month : ℕ}
    {x y : List Char} (hyear : year < 10 ^ 4) (hmonth : month < 10 ^ 2) (hy : 7 ≤ y.length)
    (h : n.text = "CS_".toList ++ (x ++ ("SIR_".toList ++ (mode.name.toList ++
      ("_1B_".toList ++ yearMonthText year month)) ++ y))) :
    n.mode = mode ∧ n.year = year ∧ n.month = month ∧
      y = n.span ++ (n.baseline :: (n.version ++ ".nc".toList)) := by
  have hsplit : x ++ 'S' :: 'I' :: 'R' :: '_' :: (mode.name.toList ++
        ("_1B_".toList ++ (yearMonthText year month ++ y))) =
      (n.fileClass ++ ['_']) ++ 'S' :: 'I' :: 'R' :: '_' :: (n.mode.name.toList ++
        (("_1B_".toList ++ (yearMonthText n.year n.month ++ n.span)) ++
          (n.baseline :: (n.version ++ ".nc".toList)))) := by
    have hcancel := List.append_cancel_left h
    simpa using hcancel.symm
  have hclass : x = n.fileClass ++ ['_'] := by
    refine class_eq_of_split mode n.mode n.length_fileClass n.not_mem_dates ?_ hsplit
    have hnc : ".nc".toList.length = 3 := rfl
    simp only [List.length_cons, List.length_append, n.length_version, hnc]
    omega
  rw [hclass] at hsplit
  have htail := List.append_cancel_left hsplit
  simp only [List.cons.injEq, true_and] at htail
  obtain ⟨hmode, hrest⟩ := List.append_inj htail (by rw [mode.length_name, n.mode.length_name])
  rw [List.append_assoc, List.append_assoc] at hrest
  obtain ⟨hdates, hends⟩ := List.append_inj (List.append_cancel_left hrest)
    (by rw [length_yearMonthText hyear hmonth, length_yearMonthText n.year_lt n.month_lt])
  obtain ⟨rfl, rfl⟩ := yearMonthText_injective hyear hmonth n.year_lt n.month_lt hdates
  exact ⟨(L1bMode.name_injective hmode).symm, rfl, rfl, hends⟩

/-- **What the pattern selects**: the mode, the year and the month it names, and the
configured baselines. -/
theorem globMatch_text (n : L1bFileName) (b : Baselines) {mode : L1bMode} {year month : ℕ}
    (hyear : 1960 ≤ year ∧ year < 10 ^ 4) (hmonth : month < 10 ^ 2) :
    globMatch (searchPattern mode year month b.text) n.text = true ↔
      n.mode = mode ∧ n.year = year ∧ n.month = month ∧ n.baseline ∈ b.letters := by
  rw [globMatch_iff, searchPattern, mem_globLanguage_literal, searchedYearMonthText_eq hyear.1]
  constructor
  · rintro ⟨t, ht, htext⟩
    obtain ⟨x, z, hz, rfl⟩ := mem_globLanguage_star.mp ht
    obtain ⟨y, hy, rfl⟩ := mem_globLanguage_literal.mp hz
    obtain ⟨hmode, hyear', hmonth', rfl⟩ := n.parts_of_split hyear.2 hmonth
      (length_of_mem_baselinePattern hy) htext
    exact ⟨hmode, hyear', hmonth', (mem_baselinePattern b n.baseline_upper n.length_version).mp hy⟩
  · rintro ⟨rfl, rfl, rfl, hbaseline⟩
    refine ⟨_, mem_globLanguage_star.mpr ⟨n.fileClass ++ "_".toList, _,
      mem_globLanguage_literal.mpr ⟨_, (mem_baselinePattern b n.baseline_upper
        n.length_version (u := n.span)).mpr hbaseline, rfl⟩, rfl⟩, ?_⟩
    simp [L1bFileName.text]

/-! ## Which files are found -/

/-- The directory of a file, from the base directory: `<MODE>/<YYYY>/<MM>`, or the base
directory itself for a flat search. -/
def archivePlace (flatSearch : Bool) (n : L1bFileName) : List (List Char) :=
  if flatSearch then []
  else [n.mode.name.toList, formatInt '0' 4 n.year, formatInt '0' 2 n.month]

/-- A file of the requested years and months with one of the configured baselines. -/
structure Requested (c : FinderConfig) (q : FileRequest) (f : ListedFile) : Prop where
  place_eq : f.place = archivePlace q.flatSearch f.name
  year_mem : f.name.year ∈ q.years
  month_mem : f.name.month ∈ q.searchedMonths
  baseline_mem : ∃ b, c.l1bBaselines = some b ∧ f.name.baseline ∈ b.letters

theorem FileRequest.searchedMonths_lt (q : FileRequest) {month : ℕ}
    (h : month ∈ q.searchedMonths) : month < 10 ^ 2 := by
  rw [FileRequest.searchedMonths] at h
  split at h
  · rw [List.mem_range'_1] at h
    omega
  · exact q.months_lt month h

theorem FileRequest.nodup_searchedMonths {q : FileRequest} (h : q.months.Nodup) :
    q.searchedMonths.Nodup := by
  rw [FileRequest.searchedMonths]
  split
  · exact List.nodup_range'
  · exact h

theorem searchPlace_eq {flatSearch : Bool} {n : L1bFileName} (hyear : 1960 ≤ n.year) :
    searchPlace flatSearch n.mode n.year n.month = archivePlace flatSearch n := by
  rw [searchPlace, archivePlace, formatInt_year (by omega)]

/-- One search of the loops. -/
theorem mem_glob {a : Archive} {q : FileRequest} {b : Baselines} {mode : L1bMode} {year month : ℕ}
    {f : ListedFile} (hyear : year ∈ q.years) (hmonth : month ∈ q.searchedMonths) :
    f ∈ a.glob (searchPlace q.flatSearch mode year month) (searchPattern mode year month b.text) ↔
      f ∈ a.files ∧ f.place = archivePlace q.flatSearch f.name ∧ f.name.mode = mode ∧
        f.name.year = year ∧ f.name.month = month ∧ f.name.baseline ∈ b.letters := by
  have hyears := q.years_mem year hyear
  rw [Archive.glob, List.mem_filter, Bool.and_eq_true, decide_eq_true_eq,
    globMatch_text f.name b hyears (q.searchedMonths_lt hmonth)]
  constructor
  · rintro ⟨hmem, hplace, rfl, rfl, rfl, hbaseline⟩
    rw [searchPlace_eq hyears.1] at hplace
    exact ⟨hmem, hplace, rfl, rfl, rfl, hbaseline⟩
  · rintro ⟨hmem, hplace, rfl, rfl, rfl, hbaseline⟩
    rw [searchPlace_eq hyears.1]
    exact ⟨hmem, hplace, rfl, rfl, rfl, hbaseline⟩

theorem mem_searchFiles {c : FinderConfig} {a : Archive} {q : FileRequest} {b : Baselines}
    {mode : L1bMode} {f : ListedFile} (hb : c.l1bBaselines = some b) :
    f ∈ searchFiles mode a q b.text ↔ f ∈ a.files ∧ f.name.mode = mode ∧ Requested c q f := by
  rw [searchFiles, List.mem_flatMap]
  constructor
  · rintro ⟨year, hyear, hmem⟩
    obtain ⟨month, hmonth, hmem⟩ := List.mem_flatMap.mp hmem
    obtain ⟨hfile, hplace, hmode, rfl, rfl, hbaseline⟩ := (mem_glob hyear hmonth).mp hmem
    exact ⟨hfile, hmode, hplace, hyear, hmonth, b, hb, hbaseline⟩
  · rintro ⟨hfile, hmode, hplace, hyear, hmonth, b', hb', hbaseline⟩
    obtain rfl := Option.some.inj (hb'.symm.trans hb)
    refine ⟨_, hyear, List.mem_flatMap.mpr ⟨_, hmonth, ?_⟩⟩
    exact (mem_glob hyear hmonth).mpr ⟨hfile, hplace, hmode, rfl, rfl, hbaseline⟩

theorem Archive.nodup_files (a : Archive) : a.files.Nodup := List.Nodup.of_map _ a.nodup_paths

/-- No file is found twice: another search names another year or month. -/
theorem nodup_searchFiles {a : Archive} {q : FileRequest} {b : Baselines} {mode : L1bMode}
    (hyears : q.years.Nodup) (hmonths : q.months.Nodup) :
    (searchFiles mode a q b.text).Nodup := by
  rw [searchFiles, List.nodup_flatMap]
  refine ⟨?_, hyears.imp_of_mem ?_⟩
  · intro year hyear
    rw [List.nodup_flatMap]
    refine ⟨fun month _ => a.nodup_files.filter _, ?_⟩
    refine (FileRequest.nodup_searchedMonths hmonths).imp_of_mem ?_
    intro month month' hmonth hmonth' hne f hf hf'
    obtain ⟨-, -, -, -, rfl, -⟩ := (mem_glob hyear hmonth).mp hf
    obtain ⟨-, -, -, -, rfl, -⟩ := (mem_glob hyear hmonth').mp hf'
    exact hne rfl
  · intro year year' hyear hyear' hne f hf hf'
    obtain ⟨month, hmonth, hf⟩ := List.mem_flatMap.mp hf
    obtain ⟨month', hmonth', hf'⟩ := List.mem_flatMap.mp hf'
    obtain ⟨-, -, -, rfl, -, -⟩ := (mem_glob hyear hmonth).mp hf
    obtain ⟨-, -, -, rfl, -, -⟩ := (mem_glob hyear' hmonth').mp hf'
    exact hne rfl

/-! ## Greenland -/

/-- The first record is in the box of the filter. -/
def ListedFile.OverGreenland (f : ListedFile) : Prop :=
  ∃ lat lon, f.firstRecord = some ⟨some lat, some lon⟩ ∧ 0 ≤ lat ∧ -90000000 ≤ lon ∧
    lon ≤ 10000000

theorem testNcFileInGreenland_of_over {f : ListedFile} (h : f.OverGreenland) :
    testNcFileInGreenland f = .ok (some f) := by
  obtain ⟨lat, lon, hrecord, hlat, hwest, heast⟩ := h
  have hsouth : ¬ (lat : ℚ) / 10 ^ 6 < 0 := by
    rw [div_lt_iff₀ (by norm_num), zero_mul, Int.cast_lt_zero]
    omega
  have heast' : ¬ 10 < (lon : ℚ) / 10 ^ 6 := by
    rw [lt_div_iff₀ (by norm_num), not_lt]
    exact_mod_cast heast
  have hwest' : ¬ (lon : ℚ) / 10 ^ 6 < -90 := by
    rw [div_lt_iff₀ (by norm_num), not_lt]
    exact_mod_cast hwest
  rw [testNcFileInGreenland, hrecord]
  simp only [if_neg hsouth, if_neg heast', if_neg hwest']

theorem over_of_testNcFileInGreenland {f g : ListedFile}
    (h : testNcFileInGreenland f = .ok (some g)) : f = g ∧ f.OverGreenland := by
  rw [testNcFileInGreenland] at h
  split at h
  · cases h
  next record hrecord =>
  split at h
  · cases h
  next lat hlat =>
  split at h
  · cases h
  next hsouth =>
  split at h
  · cases h
  next lon hlon =>
  split at h
  · cases h
  next heast =>
  split at h
  · cases h
  next hwest =>
  rw [not_lt, le_div_iff₀ (by norm_num)] at hsouth hwest
  rw [not_lt, div_le_iff₀ (by norm_num)] at heast
  refine ⟨Option.some.inj (Except.ok.inj h), lat, lon, ?_, ?_, ?_, ?_⟩
  · rw [hrecord, ← hlat, ← hlon]
  · exact_mod_cast hsouth
  · exact_mod_cast hwest
  · exact_mod_cast heast

/-- What the filter leaves of a list, in its order. -/
theorem filterGreenland_ok :
    ∀ {l kept : List ListedFile}, filterGreenland l = .ok kept →
      kept.Sublist l ∧ ∀ f, f ∈ kept ↔ f ∈ l ∧ f.OverGreenland
  | [], kept, h => by
      obtain rfl := Except.ok.inj h
      exact ⟨List.Sublist.refl _, fun f => by simp⟩
  | g :: rest, kept, h => by
      obtain ⟨results, hresults, hkept⟩ := except_bind_ok h
      rw [List.mapM_cons] at hresults
      obtain ⟨result, hresult, hresults⟩ := except_bind_ok hresults
      obtain ⟨others, hothers, hresults⟩ := except_bind_ok hresults
      obtain rfl := Except.ok.inj hresults
      obtain rfl := Except.ok.inj hkept
      have hrest : filterGreenland rest = .ok (others.filterMap id) := by
        rw [filterGreenland, hothers]
        rfl
      obtain ⟨hsub, hmem⟩ := filterGreenland_ok hrest
      cases result with
      | none =>
          have hnot : ¬ g.OverGreenland := by
            intro hover
            rw [testNcFileInGreenland_of_over hover] at hresult
            cases hresult
          refine ⟨hsub.cons g, fun f => ?_⟩
          rw [List.filterMap_cons_none rfl, hmem, List.mem_cons]
          refine ⟨fun hf => ⟨.inr hf.1, hf.2⟩, ?_⟩
          rintro ⟨rfl | hf, hover⟩
          · exact absurd hover hnot
          · exact ⟨hf, hover⟩
      | some g' =>
          obtain ⟨rfl, hover⟩ := over_of_testNcFileInGreenland hresult
          refine ⟨hsub.cons_cons g, fun f => ?_⟩
          rw [List.filterMap_cons_some (f := id) rfl, List.mem_cons, hmem, List.mem_cons]
          constructor
          · rintro (rfl | hf)
            · exact ⟨.inl rfl, hover⟩
            · exact ⟨.inr hf.1, hf.2⟩
          · rintro ⟨rfl | hf, hover'⟩
            · exact .inl rfl
            · exact .inr ⟨hf, hover'⟩

/-- Files over Greenland pass the filter. -/
theorem filterGreenland_returns :
    ∀ {l : List ListedFile}, (∀ f ∈ l, f.OverGreenland) → ∃ kept, filterGreenland l = .ok kept
  | [], _ => ⟨[], rfl⟩
  | g :: rest, h => by
      obtain ⟨kept, hkept⟩ :=
        filterGreenland_returns fun f hf => h f (List.mem_cons_of_mem g hf)
      obtain ⟨others, hothers, -⟩ := except_bind_ok hkept
      refine ⟨(some g :: others).filterMap id, ?_⟩
      rw [filterGreenland, List.mapM_cons, testNcFileInGreenland_of_over (h g List.mem_cons_self),
        hothers]
      rfl

/-! ## What `find_files` returns -/

/-- What `find_files` checks before it searches. -/
structure SearchReady (c : FinderConfig) (a : Archive) (q : FileRequest) : Prop where
  l1bBaselines_isSome : c.l1bBaselines.isSome = true
  l1bBaseDir_isSome : c.l1bBaseDir.isSome = true
  isDir : a.isDir = true
  years_ne : q.years ≠ []

variable {mode : L1bMode} {otherOnly : Option Bool} {c : FinderConfig} {a : Archive}
  {q : FileRequest} {f : ListedFile} {files : List ListedFile}

theorem findFilesOf_of_isSome (h : otherOnly.isSome = true) :
    findFilesOf mode otherOnly c a q = .ok [] := by
  rw [findFilesOf, if_pos h]

/-- What a search returns. -/
theorem findFilesOf_of_ready {b : Baselines} (hready : SearchReady c a q)
    (hb : c.l1bBaselines = some b) :
    findFilesOf mode none c a q = if c.grnOnly = some true then
      filterGreenland (searchFiles mode a q b.text)
      else .ok (searchFiles mode a q b.text) := by
  obtain ⟨dir, hdir⟩ := Option.isSome_iff_exists.mp hready.l1bBaseDir_isSome
  have hyears : ¬ q.years.length < 1 := by
    rw [Nat.lt_one_iff]
    exact fun h => hready.years_ne (List.eq_nil_of_length_eq_zero h)
  simp only [findFilesOf, hb, hdir, hready.isDir, hyears]
  by_cases hgrn : c.grnOnly = some true <;> simp [hgrn]

/-- **Every other search raises.** -/
theorem ready_of_findFilesOf_ok (h : findFilesOf mode none c a q = .ok files) :
    SearchReady c a q := by
  cases hb : c.l1bBaselines with
  | none => simp [findFilesOf, hb] at h
  | some b =>
      cases hdir : c.l1bBaseDir with
      | none => simp [findFilesOf, hb, hdir] at h
      | some dir =>
          cases hisDir : a.isDir with
          | false => simp [findFilesOf, hb, hdir, hisDir] at h
          | true =>
              refine ⟨by rw [hb]; rfl, by rw [hdir]; rfl, hisDir, ?_⟩
              intro hnil
              simp [findFilesOf, hb, hdir, hisDir, hnil] at h

/-- A search of files over Greenland returns, with the filter or without it. -/
theorem findFilesOf_returns (hready : otherOnly = none → SearchReady c a q)
    (hover : otherOnly = none → c.grnOnly = some true → ∀ f ∈ a.files, f.name.mode = mode →
      Requested c q f → f.OverGreenland) :
    ∃ files, findFilesOf mode otherOnly c a q = .ok files := by
  cases otherOnly with
  | none =>
      obtain ⟨b, hb⟩ := Option.isSome_iff_exists.mp (hready rfl).l1bBaselines_isSome
      rw [findFilesOf_of_ready (hready rfl) hb]
      split
      · next hgrn =>
        refine filterGreenland_returns fun f hf => ?_
        obtain ⟨hfile, hmode, hrequested⟩ := (mem_searchFiles hb).mp hf
        exact hover rfl hgrn f hfile hmode hrequested
      · exact ⟨_, rfl⟩
  | some only => exact ⟨[], findFilesOf_of_isSome rfl⟩

theorem mem_findFilesOf (h : findFilesOf mode otherOnly c a q = .ok files) :
    f ∈ files ↔ otherOnly = none ∧ f ∈ a.files ∧ f.name.mode = mode ∧ Requested c q f ∧
      (c.grnOnly = some true → f.OverGreenland) := by
  cases otherOnly with
  | some only =>
      rw [findFilesOf_of_isSome rfl] at h
      cases h
      simp
  | none =>
      have hready := ready_of_findFilesOf_ok h
      obtain ⟨b, hb⟩ := Option.isSome_iff_exists.mp hready.l1bBaselines_isSome
      rw [findFilesOf_of_ready hready hb] at h
      by_cases hgrn : c.grnOnly = some true
      · rw [if_pos hgrn] at h
        rw [(filterGreenland_ok h).2, mem_searchFiles hb]
        simp [hgrn, and_assoc]
      · rw [if_neg hgrn] at h
        obtain rfl := Except.ok.inj h
        rw [mem_searchFiles hb]
        simp [hgrn]

theorem nodup_findFilesOf (h : findFilesOf mode otherOnly c a q = .ok files)
    (hyears : q.years.Nodup) (hmonths : q.months.Nodup) : files.Nodup := by
  cases otherOnly with
  | some only =>
      rw [findFilesOf_of_isSome rfl] at h
      cases h
      exact List.nodup_nil
  | none =>
      have hready := ready_of_findFilesOf_ok h
      obtain ⟨b, hb⟩ := Option.isSome_iff_exists.mp hready.l1bBaselines_isSome
      rw [findFilesOf_of_ready hready hb] at h
      split at h
      · exact (nodup_searchFiles hyears hmonths).sublist (filterGreenland_ok h).1
      · obtain rfl := Except.ok.inj h
        exact nodup_searchFiles hyears hmonths

/-! ## The finders and the skip rule -/

/-- `alg_skip_on_mode` does not skip a file of this mode. -/
def KeptByMode (c : FinderConfig) (f : ListedFile) : Prop :=
  ∀ d, get? "instr_mode" d = some (.text f.name.mode.name) →
    skipOnMode c.switches d = .ok (.success "" [])

/-- The text of a mode stands for no other. -/
theorem text_name_eq_iff {mode mode' : L1bMode} :
    Value.text mode.name = .text mode'.name ↔ mode = mode' := by
  cases mode <;> cases mode' <;> decide

/-- What the skip rule does with a file of a mode. -/
theorem skipOnMode_eq_ok {s : ChainSwitches} {d : Dict}
    (h : get? "instr_mode" d = some (.text mode.name)) :
    skipOnMode s d = .ok (.success "" []) ↔
      mode ≠ .sar ∧ (s.lrmOnly = true → mode = .lrm) ∧ (s.sinOnly = true → mode = .sin) := by
  have hsar : Value.text mode.name = .text "SAR" ↔ mode = .sar := @text_name_eq_iff mode .sar
  have hlrm : Value.text mode.name = .text "LRM" ↔ mode = .lrm := @text_name_eq_iff mode .lrm
  have hsin : Value.text mode.name = .text "SIN" ↔ mode = .sin := @text_name_eq_iff mode .sin
  simp only [skipOnMode, h, hsar, hlrm, hsin, ne_eq]
  split
  · next hmode => simp [hmode]
  next hmode =>
  split
  · next hskip => simp [hskip.1, hskip.2]
  next hkeepLrm =>
  split
  · next hskip => simp [hskip.1, hskip.2]
  next hkeepSin =>
  refine iff_of_true rfl ⟨hmode, fun honly => ?_, fun honly => ?_⟩
  · exact not_not.mp fun hne => hkeepLrm ⟨honly, hne⟩
  · exact not_not.mp fun hne => hkeepSin ⟨honly, hne⟩

theorem keptByMode_iff : KeptByMode c f ↔ f.name.mode ≠ .sar ∧
    (c.lrmOnly = some true → f.name.mode = .lrm) ∧
      (c.sinOnly = some true → f.name.mode = .sin) := by
  have hlrm : c.switches.lrmOnly = true ↔ c.lrmOnly = some true := by
    rw [FinderConfig.switches]
    cases c.lrmOnly <;> simp
  have hsin : c.switches.sinOnly = true ↔ c.sinOnly = some true := by
    rw [FinderConfig.switches]
    cases c.sinOnly <;> simp
  rw [← hlrm, ← hsin]
  constructor
  · intro h
    have hget : get? "instr_mode" (setItem "instr_mode" (.text f.name.mode.name) .nil) =
        some (.text f.name.mode.name) := by
      rw [get?_setItem, if_pos rfl]
    exact (skipOnMode_eq_ok hget).mp (h _ hget)
  · intro h d hget
    exact (skipOnMode_eq_ok hget).mpr h

/-- **The finders and the skip rule agree**: both finders return, what they find together
are the requested files that the skip rule keeps, and nothing is found twice when nothing
is requested twice. -/
def FindersAgree (c : FinderConfig) (a : Archive) (q : FileRequest) : Prop :=
  ∃ lrmFiles sinFiles, FindLrm.findFiles c a q = .ok lrmFiles ∧
    FindSin.findFiles c a q = .ok sinFiles ∧
    (∀ f, f ∈ lrmFiles ++ sinFiles ↔ f ∈ a.files ∧ Requested c q f ∧ KeptByMode c f) ∧
    (q.years.Nodup → q.months.Nodup → ((lrmFiles ++ sinFiles).map ListedFile.path).Nodup)

/-- The configurations, archives and requests on which they do: a switch that is there but
off costs no file, and Greenland is not asked for or all there is. -/
structure SwitchesAgree (c : FinderConfig) (a : Archive) (q : FileRequest) : Prop where
  ready : c.sinOnly = none ∨ c.lrmOnly = none → SearchReady c a q
  sinOnly_off : c.sinOnly = some false → ∀ f ∈ a.files, Requested c q f → f.name.mode ≠ .lrm
  lrmOnly_off : c.lrmOnly = some false → ∀ f ∈ a.files, Requested c q f → f.name.mode ≠ .sin
  greenland : c.grnOnly = some true → ∀ f ∈ a.files, Requested c q f → f.name.mode ≠ .sar →
    (c.lrmOnly = some true → f.name.mode = .lrm) → (c.sinOnly = some true → f.name.mode = .sin) →
      f.OverGreenland

/-- What both finders find together. -/
theorem mem_both {lrmFiles sinFiles : List ListedFile}
    (hlrm : FindLrm.findFiles c a q = .ok lrmFiles)
    (hsin : FindSin.findFiles c a q = .ok sinFiles) :
    f ∈ lrmFiles ++ sinFiles ↔ f ∈ a.files ∧ Requested c q f ∧
      (c.grnOnly = some true → f.OverGreenland) ∧
        (c.sinOnly = none ∧ f.name.mode = .lrm ∨ c.lrmOnly = none ∧ f.name.mode = .sin) := by
  rw [List.mem_append, mem_findFilesOf hlrm, mem_findFilesOf hsin]
  constructor
  · rintro (⟨honly, hfile, hmode, hrequested, hgrn⟩ | ⟨honly, hfile, hmode, hrequested, hgrn⟩)
    · exact ⟨hfile, hrequested, hgrn, .inl ⟨honly, hmode⟩⟩
    · exact ⟨hfile, hrequested, hgrn, .inr ⟨honly, hmode⟩⟩
  · rintro ⟨hfile, hrequested, hgrn, ⟨honly, hmode⟩ | ⟨honly, hmode⟩⟩
    · exact .inl ⟨honly, hfile, hmode, hrequested, hgrn⟩
    · exact .inr ⟨honly, hfile, hmode, hrequested, hgrn⟩

/-- **No path is listed twice.** -/
theorem nodup_both {lrmFiles sinFiles : List ListedFile}
    (hlrm : FindLrm.findFiles c a q = .ok lrmFiles)
    (hsin : FindSin.findFiles c a q = .ok sinFiles) (hyears : q.years.Nodup)
    (hmonths : q.months.Nodup) : ((lrmFiles ++ sinFiles).map ListedFile.path).Nodup := by
  have hnodup : (lrmFiles ++ sinFiles).Nodup := by
    refine List.nodup_append.mpr ⟨nodup_findFilesOf hlrm hyears hmonths,
      nodup_findFilesOf hsin hyears hmonths, ?_⟩
    rintro f hf g hg rfl
    have hlrmMode := ((mem_findFilesOf hlrm).mp hf).2.2.1
    have hsinMode := ((mem_findFilesOf hsin).mp hg).2.2.1
    rw [hlrmMode] at hsinMode
    cases hsinMode
  refine hnodup.map_on ?_
  intro f hf g hg hpath
  exact List.inj_on_of_nodup_map a.nodup_paths ((mem_both hlrm hsin).mp hf).1
    ((mem_both hlrm hsin).mp hg).1 hpath

theorem switchesAgree_of_findersAgree (h : FindersAgree c a q) : SwitchesAgree c a q := by
  obtain ⟨lrmFiles, sinFiles, hlrm, hsin, hmem, -⟩ := h
  have hfound : ∀ {f}, f ∈ a.files → Requested c q f → f.name.mode ≠ .sar →
      (c.lrmOnly = some true → f.name.mode = .lrm) → (c.sinOnly = some true → f.name.mode = .sin) →
      f ∈ lrmFiles ++ sinFiles := by
    intro f hfile hrequested hsar hlrmOnly hsinOnly
    exact (hmem f).mpr ⟨hfile, hrequested, keptByMode_iff.mpr ⟨hsar, hlrmOnly, hsinOnly⟩⟩
  refine ⟨?_, ?_, ?_, ?_⟩
  · rintro (honly | honly)
    · rw [FindLrm.findFiles, honly] at hlrm
      exact ready_of_findFilesOf_ok hlrm
    · rw [FindSin.findFiles, honly] at hsin
      exact ready_of_findFilesOf_ok hsin
  · -- the skip rule keeps an LRM file, and the LRM finder is off
    intro honly f hfile hrequested hmode
    have hboth := (mem_both hlrm hsin).mp (hfound hfile hrequested (by simp [hmode])
      (by simp [hmode]) (by simp [honly]))
    simp [hmode, honly] at hboth
  · intro honly f hfile hrequested hmode
    have hboth := (mem_both hlrm hsin).mp (hfound hfile hrequested (by simp [hmode])
      (by simp [honly]) (by simp [hmode]))
    simp [hmode, honly] at hboth
  · intro hgrn f hfile hrequested hsar hlrmOnly hsinOnly
    have hboth := hfound hfile hrequested hsar hlrmOnly hsinOnly
    exact ((mem_both hlrm hsin).mp hboth).2.2.1 hgrn

/-- A finder is on for every file that the skip rule keeps. -/
theorem SwitchesAgree.finder_on (h : SwitchesAgree c a q) (hfile : f ∈ a.files)
    (hrequested : Requested c q f) (hkept : KeptByMode c f) :
    c.sinOnly = none ∧ f.name.mode = .lrm ∨ c.lrmOnly = none ∧ f.name.mode = .sin := by
  obtain ⟨hsar, hlrmOnly, hsinOnly⟩ := keptByMode_iff.mp hkept
  cases hmode : f.name.mode with
  | sar => exact absurd hmode hsar
  | lrm =>
      refine .inl ⟨?_, rfl⟩
      rcases honly : c.sinOnly with _ | _ | _
      · rfl
      · exact absurd hmode (h.sinOnly_off honly f hfile hrequested)
      · exact absurd (hmode.symm.trans (hsinOnly honly)) (by decide)
  | sin =>
      refine .inr ⟨?_, rfl⟩
      rcases honly : c.lrmOnly with _ | _ | _
      · rfl
      · exact absurd hmode (h.lrmOnly_off honly f hfile hrequested)
      · exact absurd (hmode.symm.trans (hlrmOnly honly)) (by decide)

theorem findersAgree_of_switchesAgree (h : SwitchesAgree c a q) : FindersAgree c a q := by
  obtain ⟨lrmFiles, hlrm⟩ : ∃ files, FindLrm.findFiles c a q = .ok files :=
    findFilesOf_returns (fun honly => h.ready (.inl honly))
      fun honly hgrn f hfile hmode hrequested => h.greenland hgrn f hfile hrequested
        (by simp [hmode]) (fun _ => hmode) (by simp [honly])
  obtain ⟨sinFiles, hsin⟩ : ∃ files, FindSin.findFiles c a q = .ok files :=
    findFilesOf_returns (fun honly => h.ready (.inr honly))
      fun honly hgrn f hfile hmode hrequested => h.greenland hgrn f hfile hrequested
        (by simp [hmode]) (by simp [honly]) (fun _ => hmode)
  refine ⟨lrmFiles, sinFiles, hlrm, hsin, ?_, nodup_both hlrm hsin⟩
  intro f
  rw [mem_both hlrm hsin]
  constructor
  · rintro ⟨hfile, hrequested, -, ⟨honly, hmode⟩ | ⟨honly, hmode⟩⟩
    · exact ⟨hfile, hrequested, keptByMode_iff.mpr (by simp [hmode, honly])⟩
    · exact ⟨hfile, hrequested, keptByMode_iff.mpr (by simp [hmode, honly])⟩
  · rintro ⟨hfile, hrequested, hkept⟩
    obtain ⟨hsar, hlrmOnly, hsinOnly⟩ := keptByMode_iff.mp hkept
    refine ⟨hfile, hrequested, fun hgrn => ?_, h.finder_on hfile hrequested hkept⟩
    exact h.greenland hgrn f hfile hrequested hsar hlrmOnly hsinOnly

/-- **When the finders and the skip rule agree.** -/
theorem findersAgree_iff (c : FinderConfig) (a : Archive) (q : FileRequest) :
    FindersAgree c a q ↔ SwitchesAgree c a q :=
  ⟨switchesAgree_of_findersAgree, findersAgree_of_switchesAgree⟩

/-! ## A switch that is there but off -/

/-- `CS_LTA__SIR_LRM_1B_20200930T235609_20200930T235758_E001.nc`. -/
def lrmName : L1bFileName where
  fileClass := "LTA_".toList
  mode := .lrm
  year := 2020
  month := 9
  span := "30T235609_20200930T235758_".toList
  baseline := 'E'
  version := "001".toList
  length_fileClass := rfl
  year_lt := by norm_num
  month_lt := by norm_num
  span_chars := by simp
  baseline_upper := rfl
  length_version := rfl

example : globMatch (searchPattern .lrm 2020 9 "D,E".toList) lrmName.text = true := by
  decide +kernel

/-- This file at its place. -/
def lrmFile : ListedFile :=
  ⟨archivePlace false lrmName, lrmName, some ⟨some 70000000, some (-40000000)⟩⟩

theorem nodup_lrmFile : ([lrmFile].map ListedFile.path).Nodup := List.nodup_singleton _

theorem baselineE_upper : ∀ c ∈ ['E'], c.isUpper = true := by simp

theorem september_mem : ∀ y ∈ [2020], 1960 ≤ y ∧ y < 10 ^ 4 := by simp

theorem september_lt : ∀ m ∈ [9], m < 10 ^ 2 := by simp

def lrmArchive : Archive := ⟨true, [lrmFile], nodup_lrmFile⟩

/-- `sin_only: False`, as `--conf_opts sin_only:false` sets it. -/
def sinOnlyOff : FinderConfig :=
  ⟨none, some false, none, some ⟨['E'], baselineE_upper⟩, some "/l1b"⟩

def september2020 : FileRequest := ⟨[2020], [9], false, september_mem, september_lt⟩

/-- The skip rule keeps the file, and no finder finds it. -/
theorem findersAgree_sinOnly_off : ¬ FindersAgree sinOnlyOff lrmArchive september2020 := by
  rintro ⟨lrmFiles, sinFiles, hlrm, hsin, hmem, -⟩
  have hrequested : Requested sinOnlyOff september2020 lrmFile :=
    ⟨rfl, List.mem_singleton.mpr rfl, List.mem_singleton.mpr rfl, _, rfl,
      List.mem_singleton.mpr rfl⟩
  have hkept : KeptByMode sinOnlyOff lrmFile :=
    keptByMode_iff.mpr ⟨by decide, fun _ => rfl, by decide⟩
  have hfile : lrmFile ∈ lrmArchive.files := List.mem_singleton.mpr rfl
  obtain ⟨-, -, -, ⟨honly, -⟩ | ⟨-, hmode⟩⟩ :=
    (mem_both hlrm hsin).mp ((hmem lrmFile).mpr ⟨hfile, hrequested, hkept⟩)
  · cases honly
  · cases hmode

end Clev2er.Cryotempo
