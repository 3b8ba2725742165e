import Clev2er.Cryotempo.TrackSelection

/-!
# Tides and geophysical corrections

`alg_fes2014b_tide_correction`, `alg_cats2008a_tide_correction` and
`alg_geo_corrections`. The tides are read from files that are found by the date in
the name of the L1b file; a tide file has one element type, which NetCDF can hold,
and its variables share its 20 Hz dimension.
-/

namespace Clev2er.Cryotempo

open Clev2er.Lib Clev2er.Retrack Clev2er.Breakpoints

/-! ## The date of a file -/

/-- The zeros of the decimal digits of Unicode 15. -/
def decimalZeros : List Nat :=
  [48, 1632, 1776, 1984, 2406, 2534, 2662, 2790, 2918, 3046, 3174, 3302, 3430, 3558, 3664, 3792,
    3872, 4160, 4240, 6112, 6160, 6470, 6608, 6784, 6800, 6992, 7088, 7232, 7248, 42528, 43216,
    43264, 43472, 43504, 43600, 44016, 65296, 66720, 68912, 69734, 69872, 69942, 70096, 70384,
    70736, 70864, 71248, 71360, 71472, 71904, 72016, 72784, 73040, 73120, 73552, 92768, 92864,
    93008, 120782, 120792, 120802, 120812, 120822, 123200, 123632, 124144, 125264, 130032]

/-- The value of a decimal digit. -/
def digitOf (c : Char) : Option Nat :=
  (decimalZeros.find? fun z => z ≤ c.toNat ∧ c.toNat < z + 10).map
    fun z => c.toNat - z

/-- The digits of `int(s)`, with single underscores between them. -/
def pyDigits : Nat → Bool → List Char → Option Nat
  | acc, afterDigit, [] => if afterDigit then some acc else none
  | acc, afterDigit, c :: cs =>
      match digitOf c with
      | some digit => pyDigits (10 * acc + digit) true cs
      | none => if c = '_' ∧ afterDigit then pyDigits acc false cs else none

/-- `int(s)`, which takes at most 4300 digits. -/
def pyIntOf (s : String) : Except PyExc ℤ :=
  let stripped := ((s.toList.dropWhile isSpace).reverse.dropWhile isSpace).reverse
  let parsed : Option ℤ := match stripped with
    | '-' :: cs => (pyDigits 0 false cs).map (fun n => -(n : ℤ))
    | '+' :: cs => (pyDigits 0 false cs).map (fun n => (n : ℤ))
    | cs => (pyDigits 0 false cs).map (fun n => (n : ℤ))
  match parsed with
  | some i =>
      let digits := stripped.countP fun c => (digitOf c).isSome
      if 4300 < digits then
        .error ⟨.valueError, "Exceeds the limit (4300 digits) for integer string conversion: " ++
          "value has " ++ toString digits ++
          " digits; use sys.set_int_max_str_digits() to increase the limit"⟩
      else .ok i
  | none => .error ⟨.valueError, "invalid literal for int() with base 10: '" ++ s ++ "'"⟩

/-- `s[start:-fromEnd]`. -/
def sliceToEnd (s : String) (start fromEnd : Nat) : String :=
  String.ofList (slice s.toList start (s.toList.length - fromEnd))

/-- The year and the month at the head of a time string. -/
def yearMonth (timeString : String) : Except PyExc (ℤ × ℤ) := do
  let year ← pyIntOf (String.ofList (slice timeString.toList 0 4))
  let month ← pyIntOf (String.ofList (slice timeString.toList 4 6))
  .ok (year, month)

/-- `(month < 1) or (month > 12) or (year < 2010)`. -/
def badDate (year month : ℤ) : Bool := decide (month < 1 ∨ 12 < month ∨ year < 2010)

/-- `{month:02d}`. -/
def twoDigits (month : ℤ) : String := (if month < 10 then "0" else "") ++ toString month

/-! ## `alg_fes2014b_tide_correction` -/

/-- A FES2014b file. -/
structure FesFile where
  dtype : Dtype
  oceanTide : List Sample
  oceanTideEq : List Sample
  loadTide : List Sample
  supported : dtype.supported = true
  length_oceanTideEq : oceanTideEq.length = oceanTide.length
  length_loadTide : loadTide.length = oceanTide.length

/-- `shared_dict["fes2014b_corrections"]`. -/
def FesFile.corrections (f : FesFile) : Dict :=
  .leaf "ocean_tide_20" (.array ⟨f.dtype, [f.oceanTide.length], f.oceanTide⟩) <|
  .leaf "ocean_tide_eq_20" (.array ⟨f.dtype, [f.oceanTideEq.length], f.oceanTideEq⟩) <|
  .leaf "load_tide_20" (.array ⟨f.dtype, [f.loadTide.length], f.loadTide⟩) .nil

def fes2014bTideCorrection (fes2014bBaseDir : String) (openFes : String → Option FesFile)
    (d : Dict) : Except PyExc Outcome := do
  let path ← (← item d "l1b_file_name").asText
  let name := afterLast '/' path
  let (year, month) ← yearMonth (sliceToEnd name 19 8)
  if badDate year month then
    .ok (.failure "Could not determine correct month from L1b file name")
  else
    let mode ← (← item d "instr_mode").asText
    let fesFilename := fes2014bBaseDir ++ "/" ++ mode ++ "/" ++ toString year ++ "/" ++
      twoDigits month ++ "/" ++ sliceToEnd name 0 3 ++ ".fes2014b.nc"
    match openFes fesFilename with
    | none => .ok (.failure ("Error reading FES2014b file " ++ fesFilename))
    | some f =>
        let numRecords ← (← item d "num_20hz_records").asInt
        if (f.oceanTide.length : ℤ) ≠ numRecords then .ok (.failure "FES2014b array length error")
        else .ok (.success "" [("fes2014b_corrections", .dict f.corrections)])

/-! ## `alg_cats2008a_tide_correction` -/

/-- A CATS2008a file. -/
structure CatsFile where
  dtype : Dtype
  catsTide : List Sample
  supported : dtype.supported = true

/-- `np.nan_to_num`. -/
def nanToNum (x : Sample) : Sample := if x.isNan then .num 0 else x

def cats2008aTideCorrection (cats2008aBaseDir : String) (glob : String → List String)
    (openCats : String → Option CatsFile) (d : Dict) : Except PyExc Outcome := do
  let notRequired : String × Value := ("cats_tide_required", .leaf (.pyBool false))
  let hemisphere ← item d "hemisphere"
  if hemisphere = .text "north" then
    .ok (.success "no CATS tide correction required for northern hemisphere" [notRequired])
  else
    let mode ← item d "instr_mode"
    if mode ≠ .text "SIN" then
      .ok (.success ("No CATS tide correction required for " ++ (← mode.asText) ++ " mode")
        [notRequired])
    else
      let floating ← (← item d "floating_ice_locations").indices
      let ocean ← (← item d "ocean_locations").indices
      if floating.length = 0 ∧ ocean.length = 0 then
        .ok (.success "no CATS tide correction required as not over ocean or floating ice"
          [notRequired])
      else
        let path ← (← item d "l1b_file_name").asText
        let timeString := sliceToEnd (afterLast '/' path) 19 3
        let (year, month) ← yearMonth timeString
        if badDate year month then
          .ok (.failure "Could not determine correct month from L1b file name")
        else
          match glob (cats2008aBaseDir ++ "/" ++ toString year ++ "/" ++ twoDigits month ++ "/*" ++
              timeString ++ "*.nc") with
          | [catsFile] =>
              match openCats catsFile with
              | none => .ok (.failure "Error reading Dataset")
              | some f =>
                  let numRecords ← (← item d "num_20hz_records").asInt
                  if (f.catsTide.length : ℤ) ≠ numRecords then
                    .ok (.failure "CATS2008a tide array length mismatch to L1b record size")
                  else
                    .ok (.success "" [notRequired,
                      ("cats_tide", .array f.dtype (f.catsTide.map nanToNum)),
                      ("cats_tide_required", .leaf (.pyBool true))])
          | _ => .ok (.failure "Missing CATS2008a tide correction file")

/-! ## `alg_geo_corrections` -/

/-- An index past the end of an array. -/
def indexError : PyExc := ⟨.other "IndexError", "index is out of bounds"⟩

/-- `xs[index]`, where a negative index counts from the end. -/
def elementAt (xs : List Sample) (index : ℤ) : Except PyExc Sample :=
  if 0 ≤ index ∧ index < xs.length then .ok (xs.getD index.toNat .nan)
  else if -(xs.length : ℤ) ≤ index ∧ index < 0 then
    .ok (xs.getD (index + xs.length).toNat .nan)
  else .error indexError

/-- `xs[indices]`. -/
def takeAt (xs : List Sample) (indices : List ℤ) : Except PyExc (List Sample) :=
  forEach (fun _ => elementAt xs) 0 indices

/-- `xs + ys`, with numpy's broadcasting. -/
def addArrays (xs ys : List Sample) : Except PyExc (List Sample) :=
  if xs.length = ys.length then .ok (List.zipWith (fun x y => x + y) xs ys)
  else
    match xs, ys with
    | [x], ys => .ok (ys.map (fun y => x + y))
    | xs, [y] => .ok (xs.map (fun x => x + y))
    | _, _ => .error ⟨.valueError, "operands could not be broadcast together"⟩

/-- `xs[locations] += terms[0][locations] + terms[1][locations] + ...`. -/
def addAt (terms : List (List Sample)) : List Nat → List Sample → Except PyExc (List Sample)
  | [], xs => .ok xs
  | i :: locations, xs =>
      if i < xs.length ∧ ∀ t ∈ terms, i < t.length then
        addAt terms locations
          (xs.set i (xs.getD i .nan + terms.foldl (fun s t => s + t.getD i .nan) 0))
      else .error indexError

/-- An entry of `shared_dict["fes2014b_corrections"]`. -/
def fesEntry (d : Dict) (key : String) : Option (List Sample) :=
  match get? "fes2014b_corrections" d with
  | some (.dict tides) =>
      match get? key tides with
      | some v => v.samples.toOption
      | none => none
  | _ => none

/-- The CATS2008a tide of a track that needs one. -/
def catsTideOf (d : Dict) : Except PyExc (Option (Option (List Sample))) := do
  let required ← item d "cats_tide_required"
  if required = .leaf (.pyBool true) then
    match get? "cats_tide" d with
    | none => .ok none
    | some v => .ok (some (some (← v.samples)))
  else .ok (some none)

/-- DRY + WET + GIM + OLT + SET + GPT. -/
def sumOfCorrections (p : L1bProduct) (loadTide : List Sample) : Except PyExc (List Sample) := do
  let dry ← takeAt p.modDryTropoCor p.indMeas1hz
  let wet ← takeAt p.modWetTropoCor p.indMeas1hz
  let gim ← takeAt p.ionoCorGim p.indMeas1hz
  let solid ← takeAt p.solidEarthTide p.indMeas1hz
  let pole ← takeAt p.poleTide p.indMeas1hz
  let s ← addArrays dry wet
  let s ← addArrays s gim
  let s ← addArrays s loadTide
  let s ← addArrays s solid
  addArrays s pole

/-- The ocean corrections of the hemisphere, over floating ice and over ocean. -/
def addOceanTides (p : L1bProduct) (hemisphere instrMode : Value)
    (oceanTide oceanTideEq : List Sample) (catsTide : Option (List Sample))
    (floating ocean : List Nat) (s : List Sample) : Except PyExc (List Sample) :=
  if floating.length + ocean.length = 0 then .ok s
  else do
    let hfFluct ← takeAt p.hfFluctTotalCor p.indMeas1hz
    if hemisphere = .text "north" then
      let s ← addAt [hfFluct, oceanTideEq, oceanTide] floating s
      addAt [hfFluct, oceanTideEq, oceanTide] ocean s
    else if hemisphere = .text "south" ∧ instrMode = .text "SIN" then
      match catsTide with
      | none => .error ⟨.typeError, "'NoneType' object is not subscriptable"⟩
      | some cats =>
          let s ← addAt [hfFluct, cats] floating s
          addAt [hfFluct, cats] ocean s
    else .ok s

def geoCorrections (p : L1bProduct) (d : Dict) : Except PyExc Outcome :=
  match fesEntry d "load_tide_20", fesEntry d "ocean_tide_20", fesEntry d "ocean_tide_eq_20" with
  | some loadTide, some oceanTide, some oceanTideEq => do
      match ← catsTideOf d with
      | none => .ok (.failure "cats_tide missing from shared_dict")
      | some catsTide =>
          let s ← sumOfCorrections p loadTide
          let floating ← (← item d "floating_ice_locations").indices
          let ocean ← (← item d "ocean_locations").indices
          let hemisphere ← item d "hemisphere"
          let instrMode ← item d "instr_mode"
          let s ← addOceanTides p hemisphere instrMode oceanTide oceanTideEq catsTide floating ocean s
          -- the percentage in the log
          if s.length = 0 then .error ⟨.other "ZeroDivisionError", "division by zero"⟩
          else
            .ok (.success ""
              [("invalid_corrections_locs",
                .nats .int64 ((List.range s.length).filter (fun i => (s.getD i .nan).isNan))),
                ("sum_cor_20_ku", .floats s)])
  | _, _, _ => .ok (.failure "fes2014b_corrections.load_tide_20 missing from shared_dict")

end Clev2er.Cryotempo
