import Clev2er.Lib.StableSort
import Clev2er.Lib.TextLines
import Mathlib.Data.Bool.AllAny

/-!
# Sorting the multi-processing logs

The child that processes file `N` formats its messages with the text `[fN]` in
front, and the logger process writes them to the `.mp` files in the order in
which they reach it. `sort_file_by_number` then sorts the *lines* of such a file
by the number that `custom_key` finds in each of them. A message may have several
lines, and only the first is sure to carry its file's number: what the sort does
to the others decides whether the messages of a file stay together.
-/

namespace Clev2er.Logging

open Clev2er.Lib

variable {τ : Type}

/-! ## `custom_key` -/

/-- The zeros of the decimal digits of Unicode: `\d` matches each of these and
the nine characters after it. -/
def digitZeros : List Nat :=
  [0x30, 0x660, 0x6f0, 0x7c0, 0x966, 0x9e6, 0xa66, 0xae6, 0xb66, 0xbe6, 0xc66, 0xce6, 0xd66,
    0xde6, 0xe50, 0xed0, 0xf20, 0x1040, 0x1090, 0x17e0, 0x1810, 0x1946, 0x19d0, 0x1a80, 0x1a90,
    0x1b50, 0x1bb0, 0x1c40, 0x1c50, 0xa620, 0xa8d0, 0xa900, 0xa9d0, 0xa9f0, 0xaa50, 0xabf0,
    0xff10, 0x104a0, 0x10d30, 0x11066, 0x110f0, 0x11136, 0x111d0, 0x112f0, 0x11450, 0x114d0,
    0x11650, 0x116c0, 0x11730, 0x118e0, 0x11950, 0x11c50, 0x11d50, 0x11da0, 0x11f50, 0x16a60,
    0x16ac0, 0x16b50, 0x1d7ce, 0x1d7d8, 0x1d7e2, 0x1d7ec, 0x1d7f6, 0x1e140, 0x1e2f0, 0x1e4f0,
    0x1e950, 0x1fbf0]

/-- The value of a character that `\d` matches. -/
def digitValue (c : Char) : Option Nat :=
  (digitZeros.find? (fun z => z ≤ c.toNat ∧ c.toNat < z + 10)).map (c.toNat - ·)

/-- `int` of a text of digits. -/
def intOfDigits (digits : List Char) : Nat :=
  digits.foldl (fun n c => 10 * n + (digitValue c).getD 0) 0

/-- `(\d+)\]` matched here, with the number it gives. -/
def matchNumber (text : List Char) : Option Nat :=
  let digits := text.takeWhile (fun c => (digitValue c).isSome)
  if digits ≠ [] ∧ (text.drop digits.length).head? = some ']' then some (intOfDigits digits)
  else none

/-- `\[f(\d+)\]` matched here. -/
def matchMarker : List Char → Option Nat
  | '[' :: 'f' :: text => matchNumber text
  | _ => none

/-- `re.search(r"\[f(\d+)\]", line)`: the leftmost match. -/
def searchMarker : List Char → Option Nat
  | [] => none
  | c :: text =>
      match matchMarker (c :: text) with
      | some n => some n
      | none => searchMarker text

/-- `custom_key`. -/
def customKey (line : List Char) : Nat := (searchMarker line).getD 0

/-- The characters of a text. -/
def chars (text : Text τ) : List Char := text.map Prod.fst

/-- `sort_file_by_number`, for any key: the new content of the file. -/
def sortFileBy (key : List Char → Nat) (content : Text τ) : Text τ :=
  (sortBy (fun line => key (chars line)) (readlines content)).flatten

/-- `sort_file_by_number`. -/
def sortFileByNumber (content : Text τ) : Text τ := sortFileBy customKey content

/-- The lines of a sorted log are its lines, sorted. -/
theorem readlines_sortFileBy (key : List Char → Nat) {content : Text τ} (h : Closed content) :
    readlines (sortFileBy key content) =
      sortBy (fun line => key (chars line)) (readlines content) := by
  apply readlines_flatten
  · intro line hline
    exact readlines_isLine h line ((mem_sortBy _).mp hline)
  · intro line hline
    exact readlines_no_cr content line ((mem_sortBy _).mp hline)

/-! ## Records -/

/-- The levels of `logging`. -/
inductive Level where
  | debug
  | info
  | warning
  | error
  | critical
deriving DecidableEq, Repr

/-- `%(levelname)-2s`. -/
def Level.levelname : Level → String
  | .debug => "DEBUG"
  | .info => "INFO"
  | .warning => "WARNING"
  | .error => "ERROR"
  | .critical => "CRITICAL"

/-- `levelno`. -/
def Level.levelno : Level → Nat
  | .debug => 10
  | .info => 20
  | .warning => 30
  | .error => 40
  | .critical => 50

/-- A record a child logs. Its time is formatted by `%d/%m/%Y %H:%M:%S`; its
message is any text. -/
structure LogRecord where
  level : Level
  asctime : List Char
  message : List Char
  asctime_format : ∀ c ∈ asctime, c.isDigit = true ∨ c ∈ ['/', ':', ' ']

/-- The text before the message: the logger process's format, which names the
logger where a debug log is configured, and the child's `[fN] `. -/
def LogRecord.header (r : LogRecord) (debugLog : Bool) (filenum : Nat) : List Char :=
  '[' :: r.level.levelname.toList ++ "] : ".toList ++ r.asctime ++
    (if debugLog then " : mp          ".toList else []) ++ " :  ".toList ++
    ('[' :: 'f' :: Nat.toDigits 10 filenum ++ "] ".toList)

/-- What the logger process writes for a record. -/
def LogRecord.text (r : LogRecord) (debugLog : Bool) (filenum : Nat) : List Char :=
  r.header debugLog filenum ++ (r.message ++ ['\n'])

/-- A text without stamps. -/
def plain (text : List Char) : Text Unit := text.map (fun c => (c, ()))

/-- The lines of a record. -/
def LogRecord.lines (r : LogRecord) (debugLog : Bool) (filenum : Nat) : List (Text Unit) :=
  readlines (plain (r.text debugLog filenum))

theorem LogRecord.text_closed (r : LogRecord) (debugLog : Bool) (filenum : Nat) :
    Closed (plain (r.text debugLog filenum)) := by
  have hsplit : plain (r.text debugLog filenum) =
      (r.header debugLog filenum ++ r.message).map (fun c => (c, ())) ++ [('\n', ())] := by
    simp [plain, LogRecord.text]
  rw [hsplit]
  exact closed_append_newline _ rfl

/-! ## The number of a record's first line -/

theorem digitValue_of_isDigit {c : Char} (h : c.isDigit = true) :
    digitValue c = some (c.toNat - '0'.toNat) := by
  have hrange : 48 ≤ c.toNat ∧ c.toNat < 48 + 10 := by
    simp only [Char.isDigit, Bool.and_eq_true, decide_eq_true_eq] at h
    have h1 : 48 ≤ c.val.toNat := h.1
    have h2 : c.val.toNat ≤ 57 := h.2
    exact ⟨h1, Nat.lt_succ_of_le h2⟩
  unfold digitValue digitZeros
  rw [List.find?_cons_of_pos (by simpa using hrange)]
  rfl

theorem intOfDigits_toDigits (n : Nat) : intOfDigits (Nat.toDigits 10 n) = n := by
  have hfold : ∀ (ds : List Char) (m : Nat), (∀ c ∈ ds, c.isDigit = true) →
      ds.foldl (fun n c => 10 * n + (digitValue c).getD 0) m = Nat.ofDigitChars 10 ds m := by
    intro ds
    induction ds with
    | nil =>
        intro m hds
        rfl
    | cons c ds ih =>
        intro m hds
        rw [List.foldl_cons, digitValue_of_isDigit (hds c List.mem_cons_self),
          ih _ (fun d hd => hds d (List.mem_cons_of_mem _ hd))]
        rfl
  unfold intOfDigits
  rw [hfold _ 0 (fun c hc => Nat.isDigit_of_mem_toDigits (by decide) (by decide) hc)]
  exact Nat.ofDigitChars_toDigits (by decide) (by decide)

theorem matchNumber_toDigits (n : Nat) (rest : List Char) :
    matchNumber (Nat.toDigits 10 n ++ ']' :: rest) = some n := by
  have hdigits : (Nat.toDigits 10 n ++ ']' :: rest).takeWhile (fun c => (digitValue c).isSome) =
      Nat.toDigits 10 n := by
    rw [List.takeWhile_append_of_pos, List.takeWhile_cons_of_neg (by decide), List.append_nil]
    intro c hc
    rw [digitValue_of_isDigit (Nat.isDigit_of_mem_toDigits (by decide) (by decide) hc)]
    rfl
  unfold matchNumber
  simp only [hdigits, List.drop_left, List.head?_cons]
  rw [if_pos ⟨Nat.toDigits_ne_nil, trivial⟩, intOfDigits_toDigits]

theorem searchMarker_skip {c : Char} {text : List Char} (h : c ≠ '[') :
    searchMarker (c :: text) = searchMarker text := by
  have hno : matchMarker (c :: text) = none := by
    unfold matchMarker
    split
    · next heq =>
      exact absurd (List.cons.inj heq).1 h
    · rfl
  rw [searchMarker, hno]

theorem searchMarker_skip_all {pre : List Char} (h : ∀ c ∈ pre, c ≠ '[') (text : List Char) :
    searchMarker (pre ++ text) = searchMarker text := by
  induction pre with
  | nil => rfl
  | cons c pre ih =>
      rw [List.cons_append, searchMarker_skip (h c List.mem_cons_self)]
      exact ih (fun d hd => h d (List.mem_cons_of_mem _ hd))

/-- A header has one bracket before its `[fN]`: that of the level, which no `f`
follows. -/
theorem LogRecord.searchMarker_header (r : LogRecord) (debugLog : Bool) (filenum : Nat)
    (rest : List Char) : searchMarker (r.header debugLog filenum ++ rest) = some filenum := by
  have htime : ∀ c ∈ r.asctime, c ≠ '[' := by
    rintro c hc rfl
    rcases r.asctime_format _ hc with h | h
    · exact absurd h (by decide)
    · exact absurd h (by decide)
  have hname : ∀ c ∈ (if debugLog then " : mp          ".toList else []), c ≠ '[' := by
    cases debugLog
    · simp
    · simp
  have hlevel : ∀ text, searchMarker ('[' :: r.level.levelname.toList ++ text) =
      searchMarker text := by
    intro text
    have hskip : ∀ c ∈ r.level.levelname.toList, c ≠ '[' := by
      cases r.level <;> simp [Level.levelname]
    have hno : matchMarker ('[' :: r.level.levelname.toList ++ text) = none := by
      cases r.level <;> rfl
    rw [List.cons_append] at hno ⊢
    rw [searchMarker, hno]
    exact searchMarker_skip_all hskip text
  unfold LogRecord.header
  simp only [List.append_assoc]
  rw [hlevel, searchMarker_skip_all (by simp), searchMarker_skip_all htime,
    searchMarker_skip_all hname, searchMarker_skip_all (by simp), List.cons_append,
    List.cons_append, searchMarker]
  show (match matchNumber (Nat.toDigits 10 filenum ++ ']' :: _) with
    | some n => some n
    | none => _) = _
  rw [matchNumber_toDigits]

theorem LogRecord.header_no_newline (r : LogRecord) (debugLog : Bool) (filenum : Nat) :
    ∀ c ∈ r.header debugLog filenum, c ≠ '\n' ∧ c ≠ '\r' := by
  have htime : ∀ c ∈ r.asctime, c ≠ '\n' ∧ c ≠ '\r' := by
    intro c hc
    refine ⟨?_, ?_⟩
    all_goals
      rintro rfl
      rcases r.asctime_format _ hc with h | h
      · exact absurd h (by decide)
      · exact absurd h (by decide)
  have hdigits : ∀ c ∈ Nat.toDigits 10 filenum, c ≠ '\n' ∧ c ≠ '\r' := by
    intro c hc
    have h := Nat.isDigit_of_mem_toDigits (by decide) (by decide) hc
    refine ⟨?_, ?_⟩
    all_goals
      rintro rfl
      exact absurd h (by decide)
  have hlevel : ∀ c ∈ r.level.levelname.toList, c ≠ '\n' ∧ c ≠ '\r' := by
    cases r.level <;> simp [Level.levelname]
  have hname : ∀ c ∈ (if debugLog then " : mp          ".toList else []),
      c ≠ '\n' ∧ c ≠ '\r' := by
    cases debugLog <;> simp
  unfold LogRecord.header
  simp only [List.append_assoc, List.forall_mem_append, List.forall_mem_cons, List.cons_append]
  exact ⟨by decide, hlevel, by simp, htime, hname, by simp, by decide, by decide, hdigits,
    by simp⟩

/-- The first line of a record carries the number of its file. -/
theorem LogRecord.lines_cons (r : LogRecord) (debugLog : Bool) (filenum : Nat) :
    ∃ first rest, r.lines debugLog filenum = first :: rest ∧
      customKey (chars first) = filenum := by
  have hplain : plain (r.text debugLog filenum) =
      plain (r.header debugLog filenum) ++ plain (r.message ++ ['\n']) := by
    simp [plain, LogRecord.text]
  have hstart : ∀ u ∈ plain (r.header debugLog filenum), u.1 ≠ '\n' ∧ u.1 ≠ '\r' := by
    intro u hu
    obtain ⟨c, hc, rfl⟩ := List.mem_map.mp hu
    exact r.header_no_newline debugLog filenum c hc
  have hne : plain (r.message ++ ['\n']) ≠ [] := by simp [plain]
  obtain ⟨line, rest, hlines⟩ := readlines_start (fun u hu => (hstart u hu).1)
    (fun u hu => (hstart u hu).2) hne
  refine ⟨_, rest, hplain ▸ hlines, ?_⟩
  have hchars : chars (plain (r.header debugLog filenum) ++ line) =
      r.header debugLog filenum ++ chars line := by
    simp [chars, plain, Function.comp_def]
  unfold customKey
  rw [hchars, r.searchMarker_header]
  rfl

/-! ## Runs -/

/-- The records that the children log, file by file, and the order in which they
reach a `.mp` file: any order that keeps those of each file in theirs. -/
structure Run where
  logged : List (List LogRecord)
  arrivals : List (Nat × LogRecord)
  interleaved : ∀ filenum, (arrivals.filter (fun a => a.1 = filenum)).map Prod.snd =
    logged.getD filenum []

/-- The `.mp` file that the logger process leaves. -/
def Run.mpFile (run : Run) (debugLog : Bool) : Text Unit :=
  run.arrivals.flatMap (fun a => plain (a.2.text debugLog a.1))

/-- The lines of the records logged for a file, in the order they were logged. -/
def Run.fileLines (run : Run) (debugLog : Bool) (filenum : Nat) : List (Text Unit) :=
  (run.logged.getD filenum []).flatMap (fun r => r.lines debugLog filenum)

/-- All lines, file by file. -/
def Run.byFile (run : Run) (debugLog : Bool) : List (Text Unit) :=
  (List.range run.logged.length).flatMap (run.fileLines debugLog)

/-- All lines, record by record as they arrive. -/
def Run.byArrival (run : Run) (debugLog : Bool) : List (Text Unit) :=
  run.arrivals.flatMap (fun a => a.2.lines debugLog a.1)

/-- **The messages of each file are collected together in order.** -/
def Run.Collected (run : Run) (debugLog : Bool) : Prop :=
  readlines (sortFileByNumber (run.mpFile debugLog)) = run.byFile debugLog

/-- The number that `custom_key` finds in a line. -/
def lineKey (line : Text Unit) : Nat := customKey (chars line)

theorem Run.mpFile_closed (run : Run) (debugLog : Bool) : Closed (run.mpFile debugLog) := by
  unfold Run.mpFile
  rw [List.flatMap_def]
  apply closed_flatten
  intro t ht
  obtain ⟨a, -, rfl⟩ := List.mem_map.mp ht
  exact a.2.text_closed debugLog a.1

theorem Run.readlines_mpFile (run : Run) (debugLog : Bool) :
    readlines (run.mpFile debugLog) = run.byArrival debugLog :=
  readlines_flatten_map _ (fun a => a.2.text_closed debugLog a.1) run.arrivals

theorem Run.collected_iff_sortBy (run : Run) (debugLog : Bool) :
    run.Collected debugLog ↔ sortBy lineKey (run.byArrival debugLog) = run.byFile debugLog := by
  unfold Run.Collected sortFileByNumber
  rw [readlines_sortFileBy customKey (run.mpFile_closed debugLog), run.readlines_mpFile]
  exact Iff.rfl

theorem Run.filter_arrivals (run : Run) (debugLog : Bool) (filenum : Nat) :
    (run.arrivals.filter (fun a => a.1 = filenum)).flatMap (fun a => a.2.lines debugLog a.1) =
      run.fileLines debugLog filenum := by
  unfold Run.fileLines
  rw [← run.interleaved filenum, List.flatMap_map]
  apply List.flatMap_congr
  intro a ha
  have hnum : a.1 = filenum := by simpa using (List.mem_filter.mp ha).2
  rw [hnum]

theorem Run.fileLines_of_ge (run : Run) (debugLog : Bool) {filenum : Nat}
    (h : run.logged.length ≤ filenum) : run.fileLines debugLog filenum = [] := by
  unfold Run.fileLines
  rw [List.getD_eq_getElem?_getD, List.getElem?_eq_none h]
  rfl

/-- Every line carries the number of its file. -/
def Run.OwnNumbers (run : Run) (debugLog : Bool) : Prop :=
  ∀ filenum, ∀ line ∈ run.fileLines debugLog filenum, lineKey line = filenum

/-- The numbers of the lines, taken file by file, never decrease. -/
def Run.Ascending (run : Run) (debugLog : Bool) : Prop :=
  (run.byFile debugLog).Pairwise (fun a b => lineKey a ≤ lineKey b)

/-- The lines of each number arrive in the order of their files. -/
def Run.InFileOrder (run : Run) (debugLog : Bool) : Prop :=
  ∀ k, withKey lineKey k (run.byFile debugLog) = withKey lineKey k (run.byArrival debugLog)

theorem Run.ascending_of_ownNumbers (run : Run) (debugLog : Bool)
    (h : run.OwnNumbers debugLog) : run.Ascending debugLog := by
  unfold Run.Ascending Run.byFile
  rw [List.pairwise_flatMap]
  constructor
  · intro filenum _
    apply List.pairwise_of_forall_mem_list
    intro a ha b hb
    rw [h filenum a ha, h filenum b hb]
  · apply List.pairwise_lt_range.imp
    intro m n hmn a ha b hb
    rw [h m a ha, h n b hb]
    omega

theorem Run.inFileOrder_of_ownNumbers (run : Run) (debugLog : Bool)
    (h : run.OwnNumbers debugLog) : run.InFileOrder debugLog := by
  intro k
  have harrival : ∀ a ∈ run.arrivals, ∀ line ∈ a.2.lines debugLog a.1, lineKey line = a.1 := by
    intro a ha line hline
    apply h a.1
    rw [← run.filter_arrivals]
    exact List.mem_flatMap.mpr ⟨a, List.mem_filter.mpr ⟨ha, by simp⟩, hline⟩
  unfold Run.byFile Run.byArrival
  rw [withKey_flatMap lineKey id (run.fileLines debugLog) k (fun n _ => h n),
    withKey_flatMap lineKey Prod.fst _ k harrival, run.filter_arrivals]
  -- file by file, the lines of number `k` are those of file `k`
  show ((List.range run.logged.length).filter (fun n => n = k)).flatMap _ = _
  rw [List.filter_eq]
  by_cases hk : k < run.logged.length
  · rw [List.count_eq_one_of_mem List.nodup_range (List.mem_range.mpr hk)]
    simp
  · have hout : k ∉ List.range run.logged.length := fun hmem => hk (List.mem_range.mp hmem)
    rw [List.count_eq_zero_of_not_mem hout, run.fileLines_of_ge debugLog (Nat.le_of_not_lt hk)]
    rfl

/-- A file's line with a smaller number breaks the order: the record's first line
has the file's own. -/
theorem Run.not_ascending_of_lt (run : Run) (debugLog : Bool) {filenum : Nat}
    {line : Text Unit} (hline : line ∈ run.fileLines debugLog filenum)
    (hlt : lineKey line < filenum) : ¬ run.Ascending debugLog := by
  intro hasc
  have hnum : filenum < run.logged.length := by
    by_contra hge
    rw [run.fileLines_of_ge debugLog (Nat.le_of_not_lt hge)] at hline
    cases hline
  unfold Run.Ascending Run.byFile at hasc
  have hfile := (List.pairwise_flatMap.mp hasc).1 filenum (List.mem_range.mpr hnum)
  obtain ⟨r, hr, hline⟩ := List.mem_flatMap.mp hline
  have hrecord := (List.pairwise_flatMap.mp hfile).1 r hr
  obtain ⟨first, rest, hlines, hfirst⟩ := r.lines_cons debugLog filenum
  rw [hlines] at hrecord hline
  rcases List.mem_cons.mp hline with rfl | hline
  · exact absurd hfirst (Nat.ne_of_lt hlt)
  · -- a later line of the record, behind the first and so not before it
    have hle := (List.pairwise_cons.mp hrecord).1 line hline
    have hkey : lineKey first = filenum := hfirst
    omega

/-- **What sorting by number collects.** The sort leaves the lines file by file,
those of each file in the order logged, exactly where the numbers found in the
lines never decrease from file to file and from line to line, and the lines of
each number arrive in the order of their files. It is enough that every line
carries the number of its file; and one line with a smaller number, such as a
line of a traceback of any file but the first, is enough to fail. -/
theorem sortFileByNumber_collects_iff (run : Run) (debugLog : Bool) :
    (run.Collected debugLog ↔ run.Ascending debugLog ∧ run.InFileOrder debugLog) ∧
    (run.OwnNumbers debugLog → run.Collected debugLog) ∧
    (∀ filenum, ∀ line ∈ run.fileLines debugLog filenum, lineKey line < filenum →
      ¬ run.Collected debugLog) := by
  have hiff : run.Collected debugLog ↔ run.Ascending debugLog ∧ run.InFileOrder debugLog := by
    rw [run.collected_iff_sortBy debugLog, sortBy_eq_iff]
    exact Iff.rfl
  refine ⟨hiff, ?_, ?_⟩
  · intro hown
    exact hiff.mpr ⟨run.ascending_of_ownNumbers debugLog hown,
      run.inFileOrder_of_ownNumbers debugLog hown⟩
  · intro filenum line hline hlt hcollected
    exact run.not_ascending_of_lt debugLog hline hlt (hiff.mp hcollected).1

/-- A record at noon. -/
def noonRecord (level : Level) (message : String) : LogRecord where
  level := level
  asctime := "01/01/2024 12:00:00".toList
  message := message.toList
  asctime_format := List.all_iff_forall_prop.mp (by decide)

/-- Two files with one line each, the second's first to arrive. -/
def jumbledRun : Run where
  logged := [[noonRecord .info "Processing file 0: a.nc"],
    [noonRecord .info "Processing file 1: b.nc"]]
  arrivals := [(1, noonRecord .info "Processing file 1: b.nc"),
    (0, noonRecord .info "Processing file 0: a.nc")]
  interleaved := by
    intro filenum
    match filenum with
    | 0 => rfl
    | 1 => rfl
    | _ + 2 => rfl

theorem sortFileByNumber_collects_iff_jumbled :
    jumbledRun.OwnNumbers false ∧ jumbledRun.Collected false := by
  have hown : jumbledRun.OwnNumbers false := by
    intro filenum
    match filenum with
    | 0 => decide +kernel
    | 1 => decide +kernel
    | n + 2 =>
        intro line hline
        cases hline
  exact ⟨hown, (sortFileByNumber_collects_iff jumbledRun false).2.1 hown⟩

/-- Two files, the second of which cannot be read: its record has two lines. -/
def tracebackRun : Run where
  logged := [[noonRecord .info "Processing file 0: a.nc"],
    [noonRecord .error "Error processing b.nc:\nOSError: NetCDF: Unknown file format"]]
  arrivals := [(0, noonRecord .info "Processing file 0: a.nc"),
    (1, noonRecord .error "Error processing b.nc:\nOSError: NetCDF: Unknown file format")]
  interleaved := by
    intro filenum
    match filenum with
    | 0 => rfl
    | 1 => rfl
    | _ + 2 => rfl

theorem sortFileByNumber_tears_traceback : ¬ tracebackRun.Collected false := by
  intro hcollected
  rw [tracebackRun.collected_iff_sortBy, sortBy_eq_iff] at hcollected
  have hline : plain "OSError: NetCDF: Unknown file format\n".toList ∈
      tracebackRun.fileLines false 1 := by
    decide +kernel
  exact tracebackRun.not_ascending_of_lt false hline (by decide +kernel) hcollected.1

end Clev2er.Logging
